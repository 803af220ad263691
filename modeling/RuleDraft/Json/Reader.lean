import RuleDraft.Number.Decimal
import RuleDraft.Value

/-!
# Reading JSON

The reader accepts the JSON grammar and, as numbers, the words `NaN`,
`Infinity` and `-Infinity`. Of a repeated key the last value counts. Lists and
objects may stand in each other up to a depth. A fault is located by the number
of code points from there to the end of the document, which a reader of the rest
of a document knows; `readDocument` turns it into a position from the start.
-/

namespace RuleDraft
namespace Json

inductive Fault where
  | byteOrderMark
  | expectedValue
  | expectedName
  | expectedColon
  | expectedComma
  | controlCharacter
  | unterminatedText
  | badEscape
  | badUnitEscape
  | extraData
  deriving DecidableEq, Repr

namespace Fault

def message : Fault → String
  | byteOrderMark => "Unexpected UTF-8 BOM (decode using utf-8-sig)"
  | expectedValue => "Expecting value"
  | expectedName => "Expecting property name enclosed in double quotes"
  | expectedColon => "Expecting ':' delimiter"
  | expectedComma => "Expecting ',' delimiter"
  | controlCharacter => "Invalid control character at"
  | unterminatedText => "Unterminated string starting at"
  | badEscape => "Invalid \\escape"
  | badUnitEscape => "Invalid \\uXXXX escape"
  | extraData => "Extra data"

end Fault

inductive Container where
  | array
  | object
  deriving DecidableEq, Repr

def Container.name : Container → String
  | array => "array"
  | object => "object"

/-- A fault with its place, an integer with too many digits, or a container too deep. -/
inductive ReadError where
  | malformed (fault : Fault) (place : Nat)
  | integerTooLong (digits : Nat)
  | tooDeep (container : Container)
  deriving DecidableEq, Repr

/-- How many containers may be open at once. -/
def maxDepth : Nat := 987

def isSpace (c : CodePoint) : Bool :=
  match c.toChar with
  | ' ' | '\t' | '\n' | '\r' => true
  | _ => false

def skipSpace (t : Text) : Text := t.dropWhile isSpace

def hex4? (a b c d : CodePoint) : Option Nat := do
  let a ← a.hexValue?
  let b ← b.hexValue?
  let c ← c.hexValue?
  let d ← d.hexValue?
  some (((a * 16 + b) * 16 + c) * 16 + d)

def shortEscaped? (c : CodePoint) : Option CodePoint :=
  match c.toChar with
  | '\x22' => some (CodePoint.ofChar '\x22')
  | '\\' => some (CodePoint.ofChar '\\')
  | '/' => some (CodePoint.ofChar '/')
  | 'b' => some (CodePoint.ofChar '\x08')
  | 'f' => some (CodePoint.ofChar '\x0C')
  | 'n' => some (CodePoint.ofChar '\n')
  | 'r' => some (CodePoint.ofChar '\r')
  | 't' => some (CodePoint.ofChar '\t')
  | _ => none

/-- What an escaped low surrogate after an escaped high one makes of the two. -/
inductive Pairing where
  | joined (c : CodePoint)
  | apart
  | broken

/--
The escape that follows an escaped high surrogate, when at least one more code
point follows it.
-/
def pairing (high : Nat) : Text → Pairing
  | s :: u :: a :: b :: c :: d :: _ :: _ =>
      if s = CodePoint.ofChar '\\' ∧ u = CodePoint.ofChar 'u' then
        match hex4? a b c d with
        | none => .broken
        | some low =>
            if 0xDC00 ≤ low ∧ low ≤ 0xDFFF then
              .joined (CodePoint.ofNat (0x10000 + (high - 0xD800) * 0x400 + (low - 0xDC00)))
            else .apart
      else .apart
  | _ => .apart

/--
The rest of a string after its opening quote: its content and what follows the
closing quote. `opening` is the place of the opening quote.
-/
def readText (opening : Nat) : Text → Except ReadError (Text × Text)
  | [] => .error (.malformed .unterminatedText opening)
  | c :: rest =>
      if c = CodePoint.ofChar '\x22' then .ok ([], rest)
      else if c = CodePoint.ofChar '\\' then
        match rest with
        | [] => .error (.malformed .unterminatedText opening)
        | [e] =>
            if e = CodePoint.ofChar 'u' then .error (.malformed .badUnitEscape rest.length)
            else if (shortEscaped? e).isSome then
              .error (.malformed .unterminatedText opening)
            else .error (.malformed .badEscape (rest.length + 1))
        | e :: a :: more =>
            if e = CodePoint.ofChar 'u' then
              match more with
              | b :: c :: d :: y :: more =>
                  match hex4? a b c d with
                  | none => .error (.malformed .badUnitEscape rest.length)
                  | some n =>
                      -- Only a high surrogate is tried as the first half of a pair.
                      let single := (readText opening (y :: more)).map fun r =>
                        (CodePoint.ofNat n :: r.1, r.2)
                      if 0xD800 ≤ n ∧ n ≤ 0xDBFF then
                        match pairing n (y :: more), more with
                        | .joined p, _ :: _ :: _ :: _ :: _ :: more =>
                            (readText opening more).map fun r => (p :: r.1, r.2)
                        | .broken, _ => .error (.malformed .badUnitEscape more.length)
                        | _, _ => single
                      else single
              | _ => .error (.malformed .badUnitEscape rest.length)
            else
              match shortEscaped? e with
              | none => .error (.malformed .badEscape (rest.length + 1))
              | some p => (readText opening (a :: more)).map fun r => (p :: r.1, r.2)
      else if c.val < 0x20 then .error (.malformed .controlCharacter (rest.length + 1))
      else (readText opening rest).map fun r => (c :: r.1, r.2)

def digits? (t : Text) : Option (Text × Text) :=
  match t.span CodePoint.isAsciiDigit with
  | ([], _) => none
  | found => some found

/-- The whole part of a number: a lone zero, or digits that start with no zero. -/
def wholePart? : Text → Option (Text × Text)
  | [] => none
  | c :: rest =>
      if c = CodePoint.ofChar '0' then some ([c], rest) else digits? (c :: rest)

def fractionPart? : Text → Option (Text × Text)
  | [] => none
  | c :: rest => if c = CodePoint.ofChar '.' then digits? rest else none

def exponentPart? : Text → Option (Int × Text)
  | [] => none
  | c :: rest =>
      if c = CodePoint.ofChar 'e' ∨ c = CodePoint.ofChar 'E' then
        let (negative, body) := Decimal.takeSign rest
        (digits? body).map fun (digits, rest) =>
          let n : Int := digits.digitsValue
          (if negative then -n else n, rest)
      else none

def readNumber (t : Text) : Except ReadError (Value × Text) :=
  let (negative, body) :=
    match t with
    | c :: rest => if c = CodePoint.ofChar '-' then (true, rest) else (false, t)
    | [] => (false, [])
  match wholePart? body with
  | none => .error (.malformed .expectedValue t.length)
  | some (whole, rest) =>
      match fractionPart? rest, exponentPart? rest with
      | none, none =>
          if digitLimit < whole.length then .error (.integerTooLong whole.length)
          else
            let n : Int := whole.digitsValue
            .ok (.int (if negative then -n else n), rest)
      | some (fraction, rest), _ =>
          let coefficient := Text.digitsValue (whole ++ fraction)
          let (e, rest) := (exponentPart? rest).getD (0, rest)
          .ok (.float (Decimal.toBinary64 ⟨negative, coefficient, e - fraction.length⟩), rest)
      | none, some (e, rest) =>
          .ok (.float (Decimal.toBinary64 ⟨negative, whole.digitsValue, e⟩), rest)

def words : List (String × Value) :=
  [("null", .null), ("true", .bool true), ("false", .bool false), ("NaN", .float .nan),
   ("Infinity", .float (.infinite false)), ("-Infinity", .float (.infinite true))]

def readWord? (t : Text) : Option (Value × Text) :=
  words.findSome? fun (word, v) => (t.dropStart? (Text.ofString word)).map fun rest => (v, rest)

mutual

/-- A value at the start of a text, with room for some more open containers, and the rest. -/
def readValue : Nat → Nat → Text → Except ReadError (Value × Text)
  | 0, _, t => .error (.malformed .expectedValue t.length)
  | _, _, [] => .error (.malformed .expectedValue 0)
  | fuel + 1, room, c :: rest =>
      match c.toChar with
      | '\x22' => (readText (rest.length + 1) rest).map fun r => (.text r.1, r.2)
      | '[' =>
          if room = 0 then .error (.tooDeep .array)
          else
            match skipSpace rest with
            | d :: more =>
                if d = CodePoint.ofChar ']' then .ok (.list [], more)
                else (readItems fuel (room - 1) (d :: more)).map fun r => (.list r.1, r.2)
            | [] => .error (.malformed .expectedValue 0)
      | '\x7b' =>
          if room = 0 then .error (.tooDeep .object)
          else
            match skipSpace rest with
            | d :: more =>
                if d = CodePoint.ofChar '\x7d' then .ok (.object [], more)
                else
                  (readFields fuel (room - 1) (d :: more)).map fun r =>
                    (.object (Keyed.ofRows r.1), r.2)
            | [] => .error (.malformed .expectedName 0)
      | _ =>
          match readWord? (c :: rest) with
          | some found => .ok found
          | none => readNumber (c :: rest)

def readItems : Nat → Nat → Text → Except ReadError (List Value × Text)
  | 0, _, t => .error (.malformed .expectedValue t.length)
  | fuel + 1, room, t => do
      let (v, rest) ← readValue fuel room t
      match skipSpace rest with
      | d :: more =>
          if d = CodePoint.ofChar ']' then .ok ([v], more)
          else if d = CodePoint.ofChar ',' then
            (readItems fuel room (skipSpace more)).map fun r => (v :: r.1, r.2)
          else .error (.malformed .expectedComma (more.length + 1))
      | [] => .error (.malformed .expectedComma 0)

def readFields : Nat → Nat → Text → Except ReadError (List (Text × Value) × Text)
  | 0, _, t => .error (.malformed .expectedValue t.length)
  | _, _, [] => .error (.malformed .expectedName 0)
  | fuel + 1, room, q :: rest => do
      if q ≠ CodePoint.ofChar '\x22' then
        throw (.malformed .expectedName (rest.length + 1))
      let (k, rest) ← readText (rest.length + 1) rest
      match skipSpace rest with
      | [] => throw (.malformed .expectedColon 0)
      | d :: more =>
          if d ≠ CodePoint.ofChar ':' then throw (.malformed .expectedColon (more.length + 1))
          let (v, rest) ← readValue fuel room (skipSpace more)
          match skipSpace rest with
          | d :: more =>
              if d = CodePoint.ofChar '\x7d' then .ok ([(k, v)], more)
              else if d = CodePoint.ofChar ',' then
                (readFields fuel room (skipSpace more)).map fun r => ((k, v) :: r.1, r.2)
              else .error (.malformed .expectedComma (more.length + 1))
          | [] => .error (.malformed .expectedComma 0)

end

/-- A whole document; the place of a fault counts from the end. -/
def readFromStart (t : Text) : Except ReadError Value := do
  if t.head? = some (CodePoint.ofNat 0xFEFF) then throw (.malformed .byteOrderMark t.length)
  let (v, rest) ← readValue (2 * t.length + 2) maxDepth (skipSpace t)
  match skipSpace rest with
  | [] => .ok v
  | rest => .error (.malformed .extraData rest.length)

/-- A whole document; the place of a fault is its position from the start. -/
def readDocument (t : Text) : Except ReadError Value :=
  match readFromStart t with
  | .ok v => .ok v
  | .error (.malformed fault left) => .error (.malformed fault (t.length - left))
  | .error e => .error e

namespace ReadError

def tooManyDigits (digits : Nat) : Text :=
  Text.join ["Exceeds the limit (", Text.ofNat digitLimit,
    " digits) for integer string conversion: value has ", Text.ofNat digits,
    " digits; use sys.set_int_max_str_digits() to increase the limit"]

def nestedTooDeeply (container : Container) : Text :=
  Text.join ["maximum recursion depth exceeded while decoding a JSON ", container.name,
    " from a unicode string"]

/-- What is wrong with a document, with line, column and position. -/
def message (t : Text) : ReadError → Text
  | malformed fault position =>
      let before := t.take position
      let line := before.count (CodePoint.ofChar '\n') + 1
      let column := (before.reverse.takeWhile (· ≠ CodePoint.ofChar '\n')).length + 1
      Text.join [fault.message, ": line ", Text.ofNat line, " column ", Text.ofNat column,
        " (char ", Text.ofNat position, ")"]
  | integerTooLong digits => tooManyDigits digits
  | tooDeep container => nestedTooDeeply container

end ReadError

end Json
end RuleDraft
