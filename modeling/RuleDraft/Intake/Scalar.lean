import RuleDraft.Intake
import RuleDraft.Number.Decimal
import RuleDraft.Text.Blank

/-!
# Lenient scalars

Single values are read leniently: a truth value may come as a number or a word,
an integer as a float without a fractional part, and a number as a numeral in a
text. Each reader says in which way a value fails to be one.
-/

namespace RuleDraft
namespace Checked

/-- A text, whatever its code points. -/
def text : Value → Checked Text
  | .text t => .ok t
  | _ => fail .notText

def encodable (t : Text) : Option Cause :=
  t.surrogateAt?.map fun n =>
    .rejected (Text.join ["text is not valid UTF-8 (lone surrogate at position ",
      Text.ofNat n, ")"])

def cleanText (v : Value) : Checked Text := guarded encodable (text v)

/-- One of the named options, spelled exactly. -/
def chosen {α : Type} (choice : Choice) (options : List (String × α)) : Value → Checked α
  | .text t =>
      if t.hasSurrogate then fail .notUnicode
      else match options.find? fun o => Text.ofString o.1 = t with
        | some o => .ok o.2
        | none => fail (.notChosen choice (options.map Prod.fst))
  | _ => fail (.notChosen choice (options.map Prod.fst))

def boolWords : List (String × Bool) :=
  [("0", false), ("1", true), ("f", false), ("t", true), ("n", false), ("y", true),
   ("no", false), ("yes", true), ("off", false), ("on", true), ("false", false),
   ("true", true)]

def isMachineSized (i : Int) : Bool := -0x8000000000000000 ≤ i && i < 0x8000000000000000

/-- A float without a fractional part as an integer of 64 bits, but for the least of them. -/
def machineInteger? (x : Binary64) : Option Int :=
  x.toInt?.bind fun i => if i.natAbs < 0x8000000000000000 then some i else none

/-- A truth value, the number 0 or 1, or a word. -/
def bool : Value → Checked Bool
  | .bool b => .ok b
  | .int i =>
      if i = 0 then .ok false
      else if i = 1 then .ok true
      else fail (if isMachineSized i then .unreadableBool else .notBool)
  | .float x =>
      match machineInteger? x with
      | some i =>
          if i = 0 then .ok false else if i = 1 then .ok true else fail .unreadableBool
      | none => fail .notBool
  | .text t =>
      if t.hasSurrogate then fail .notUnicode
      else match boolWords.find? fun w => Text.ofString w.1 = t.asciiLower with
        | some w => .ok w.2
        | none => fail .unreadableBool
  | _ => fail .notBool

/-- The text without a point that only zeros follow, at least one. -/
def dropZeroFraction (t : Text) : Text :=
  match t.cutAt (CodePoint.ofChar '.') with
  | (whole, some zeros) =>
      if ¬ zeros.isEmpty ∧ zeros.all (· = CodePoint.ofChar '0') then whole else t
  | (_, none) => t

/-- The text without its low lines, unless one is at an end or two stand together. -/
def dropLowLines? (t : Text) : Option Text :=
  let parts := t.splitAt (CodePoint.ofChar '_')
  if parts.length = 1 ∨ parts.any List.isEmpty then none else some parts.flatten

/-- What follows zeros and low lines, the last of which is `last`. -/
def skipZeros? (last : CodePoint) : Text → Option Text
  | [] => some [last]
  | c :: rest =>
      if c = CodePoint.ofChar '0' ∨ c = CodePoint.ofChar '_' then skipZeros? c rest
      else if c.isAsciiDigit ∨ c = CodePoint.ofChar '-' then some (c :: rest)
      else if c = CodePoint.ofChar '.' then some (last :: c :: rest)
      else none

/-- The text without the zeros it starts with; one stays if nothing else is left. -/
def dropZeros? : Text → Option Text
  | [] => none
  | c :: rest =>
      if ¬ c.isAsciiDigit then none
      else if c = CodePoint.ofChar '0' then skipZeros? c rest
      else some (c :: rest)

def takeMinus : Text → Bool × Text
  | [] => (false, [])
  | c :: rest => if c = CodePoint.ofChar '-' then (true, rest) else (false, c :: rest)

def startsWithZero (t : Text) : Bool := t.head? = some (CodePoint.ofChar '0')

/-- An integer in its shortest form: a minus sign or none, and ASCII digits. -/
def plainInteger? (t : Text) : Option Int :=
  let (negative, digits) := takeMinus t
  if digits.isEmpty ∨ ¬ digits.all CodePoint.isAsciiDigit then none
  else if startsWithZero digits ∧ digits.length ≠ 1 then none
  else if digitLimit < digits.length then none
  else
    let n : Int := digits.digitsValue
    some (if negative then -n else n)

/-- Whether a text starts with more digits than are read. -/
def startsTooLong (t : Text) : Bool :=
  let digits := (takeMinus t).2.takeWhile CodePoint.isAsciiDigit
  !startsWithZero digits && digitLimit < digits.length

/--
A numeral brought to its shortest form: without white space around it, a plus
sign, zeros at the start, a fraction of zeros and low lines between digits.
-/
def shortForm? (t : Text) : Option Text :=
  let (negative, body) := Decimal.takeSign (t.trimOf CodePoint.isWhiteSpace)
  (dropZeros? body).map fun body =>
    let whole := dropZeroFraction body
    let whole := (dropLowLines? whole).getD whole
    if negative then CodePoint.ofChar '-' :: whole else whole

/-- An integer numeral. Only one that needs no change can be too long. -/
def integerNumeral (t : Text) : Checked Int :=
  match plainInteger? t with
  | some i => .ok i
  | none =>
      if startsTooLong t then fail .oversizedInteger
      else match (shortForm? t).bind plainInteger? with
        | some i => .ok i
        | none => fail .unreadableInteger

/-- An integer, a float without a fractional part, or an integer numeral. -/
def integer : Value → Checked Int
  | .int i => .ok i
  | .bool b => .ok (if b then 1 else 0)
  | .float x =>
      match x.units? with
      | none => fail .notFinite
      | some _ =>
          match x.toInt?, machineInteger? x with
          | none, _ => fail .fractional
          | _, some i => .ok i
          | _, none => fail .oversizedInteger
  | .text t => if t.hasSurrogate then fail .notUnicode else integerNumeral t
  | _ => fail .notInteger

def numberWord? (negative : Bool) (t : Text) : Option Binary64 :=
  let word := t.asciiLower
  if word = Text.ofString "inf" ∨ word = Text.ofString "infinity" then some (.infinite negative)
  else if word = Text.ofString "nan" then some .nan
  else none

/-- A decimal literal of ASCII code points or a word, with an optional sign. -/
def number? (t : Text) : Option Binary64 :=
  let (negative, body) := Decimal.takeSign t
  match numberWord? negative body with
  | some x => some x
  | none => if t.all CodePoint.isAscii then (Decimal.read? t).map Decimal.toBinary64 else none

/-- A number in a text, with white space around it or with low lines in it. -/
def numberNumeral? (t : Text) : Option Binary64 :=
  match number? (t.trimOf CodePoint.isWhiteSpace) with
  | some x => some x
  | none => (dropLowLines? t).bind number?

def number : Value → Checked Binary64
  | .float x => .ok x
  | .int i => .ok (Binary64.ofInt i)
  | .bool b => .ok (Binary64.ofInt (if b then 1 else 0))
  | .text t =>
      if t.hasSurrogate then fail .notUnicode
      else match numberNumeral? t with
        | some x => .ok x
        | none => fail .unreadableNumber
  | _ => fail .notNumber

end Checked

end RuleDraft
