import RuleDraft.Value.Shown

/-!
# Timestamps

Seconds since the start of 1970 as a date and time of day in UTC. The fraction
is rounded to microseconds, a tie to the even one.
-/

namespace RuleDraft
namespace Log

inductive TimeFault where
  | notANumber
  | outOfRange
  | yearTooLarge
  | yearOutOfRange (year : Int)
  | notNumeric (kind : String)
  deriving DecidableEq, Repr

namespace TimeFault

def name : TimeFault → String
  | notANumber => "ValueError"
  | outOfRange => "OverflowError"
  | yearTooLarge => "OSError"
  | yearOutOfRange _ => "ValueError"
  | notNumeric _ => "TypeError"

def message : TimeFault → Text
  | notANumber => "Invalid value NaN (not a number)"
  | outOfRange => "timestamp out of range for platform time_t"
  | yearTooLarge => "[Errno 75] Value too large for defined data type"
  | yearOutOfRange year => Text.join ["year ", Text.ofInt year, " is out of range"]
  | notNumeric kind => Text.join ["'", kind, "' object cannot be interpreted as an integer"]

end TimeFault

/-- Whole seconds and microseconds. -/
structure Instant where
  seconds : Int
  micros : Nat
  deriving DecidableEq, Repr

structure Date where
  year : Int
  month : Nat
  day : Nat
  deriving DecidableEq, Repr

/-- The date of a day counted from the start of 1970. -/
def Date.ofDay (day : Int) : Date :=
  let shifted := day + 719468
  let era := shifted.fdiv 146097
  let ofEra := (shifted - era * 146097).toNat
  let yearOfEra := (ofEra - ofEra / 1460 + ofEra / 36524 - ofEra / 146096) / 365
  let dayOfYear := ofEra - (365 * yearOfEra + yearOfEra / 4 - yearOfEra / 100)
  let monthIndex := (5 * dayOfYear + 2) / 153
  let month := if monthIndex < 10 then monthIndex + 3 else monthIndex - 9
  { year := yearOfEra + era * 400 + (if month ≤ 2 then 1 else 0)
    month
    day := dayOfYear - (153 * monthIndex + 2) / 5 + 1 }

namespace Instant

/-- Whole seconds are counted in 64 bits. -/
def isCountable (seconds : Int) : Bool :=
  -0x8000000000000000 ≤ seconds && seconds < 0x8000000000000000

def ofFloat (x : Binary64) : Except TimeFault Instant :=
  match x with
  | .nan => .error .notANumber
  | .infinite _ => .error .outOfRange
  | x =>
      let units := x.units?.getD 0
      let one : Int := Binary64.unitsPerOne
      let whole := units.tdiv one
      let rest := units - whole * one
      let scaled := Binary64.ofRatio false (rest.natAbs * 1000000) Binary64.unitsPerOne
      let micros := Binary64.roundHalfEven (scaled.units?.getD 0).natAbs Binary64.unitsPerOne
      let instant : Instant :=
        if rest < 0 ∧ micros ≠ 0 then ⟨whole - 1, 1000000 - micros⟩
        else if 1000000 ≤ micros then ⟨whole + 1, micros - 1000000⟩
        else ⟨whole, micros⟩
      if isCountable instant.seconds then .ok instant else .error .outOfRange

def ofValue : Value → Except TimeFault Instant
  | .float x => ofFloat x
  | .int i => if isCountable i then .ok ⟨i, 0⟩ else .error .outOfRange
  | .bool b => .ok ⟨if b then 1 else 0, 0⟩
  | v => .error (.notNumeric v.kindName)

/-- The instant as date, time of day and offset. -/
def text (t : Instant) : Except TimeFault Text :=
  let date := Date.ofDay (t.seconds.fdiv 86400)
  let clock := (t.seconds.fmod 86400).toNat
  let two (n : Nat) := Text.ofNatPadded 2 n
  if date.year - 1900 < -0x80000000 ∨ 0x80000000 ≤ date.year - 1900 then
    .error .yearTooLarge
  else if date.year < 1 ∨ 9999 < date.year then .error (.yearOutOfRange date.year)
  else
    let fraction : Text :=
      if t.micros = 0 then [] else CodePoint.ofChar '.' :: Text.ofNatPadded 6 t.micros
    .ok (Text.join
      [Text.ofNatPadded 4 date.year.toNat, "-", two date.month, "-", two date.day, "T",
       two (clock / 3600), ":", two (clock / 60 % 60), ":", two (clock % 60), fraction,
       "+00:00"])

end Instant

end Log
end RuleDraft
