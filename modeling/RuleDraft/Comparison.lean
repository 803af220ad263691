import RuleDraft.Failure
import RuleDraft.Pattern.Reader
import RuleDraft.Rule.Condition
import RuleDraft.Text.LetterCase

/-!
# Comparisons

A condition holds whatever was typed as its value. Its type says what the value
should be: a scalar, a pattern, a number, one or several texts, a range of
lengths, or the name of a JSON type. Reading a comparison brings the typed value
into that shape, or says why it does not fit.
-/

namespace RuleDraft

/-- A number that kept its type. -/
inductive Quantity where
  | int (i : Int)
  | float (x : Binary64)
  deriving DecidableEq, Repr

namespace Quantity

def toValue : Quantity → Value
  | int i => .int i
  | float x => .float x

end Quantity

structure LengthRange where
  least : Nat
  greatest : Nat
  least_le_greatest : least ≤ greatest
  deriving DecidableEq, Repr

/-- A condition's type together with a value of the right shape. -/
inductive Comparison where
  | equals (s : Scalar)
  | matching (pattern : Text)
  | greaterThan (q : Quantity)
  | lessThan (q : Quantity)
  | containsText (t : Text)
  | containsAll (ts : List Text)
  | lengthRange (r : LengthRange)
  | dataType (t : JsonType)
  deriving DecidableEq, Repr

namespace Comparison

def variant : Comparison → String
  | equals _ => "Equals"
  | matching _ => "Matches"
  | greaterThan _ => "GreaterThan"
  | lessThan _ => "LessThan"
  | containsText _ => "Contains"
  | containsAll _ => "Contains"
  | lengthRange _ => "StrLenRange"
  | dataType _ => "DataType"

def toValue : Comparison → Value
  | equals s => s.toValue
  | matching p => .text p
  | greaterThan q => q.toValue
  | lessThan q => q.toValue
  | containsText t => .text t
  | containsAll ts => Value.texts ts
  | lengthRange r => .list [.int r.least, .int r.greatest]
  | dataType t => .text t.name

/-- Why no comparison is read: the value does not fit, or something broke. -/
inductive Misfit where
  | unfit (reasons : List Text)
  | broken (f : Fault)
  deriving DecidableEq, Repr

/-- A comparison, or why there is none. -/
abbrev Reading := Except Misfit

def ofChecked {α : Type} : Checked α → Reading α
  | .ok x => .ok x
  | .error issues => .error (.unfit (Checked.messages issues))

def unfit {α : Type} (causes : List Cause) : Reading α :=
  .error (.unfit (causes.map Cause.message))

def readScalar (v : Value) : Reading Scalar :=
  match Scalar.ofValue? v with
  | some s => .ok s
  | none => unfit [.notText, .notBool, .notInteger, .notNumber]

def readPattern : Value → Reading Text
  | .text t =>
      match Pattern.rejection? t with
      | none => .ok t
      | some (.malformed fault position) =>
          unfit [.rejected (Text.join ["invalid regular expression: ",
            Pattern.describe t fault position])]
      | some .clashingFlags =>
          unfit [.rejected "ASCII and UNICODE flags are incompatible"]
      | some (.countTooLong digits) =>
          unfit [.rejected (Json.ReadError.tooManyDigits digits)]
      | some .countTooLarge => .error (.broken .countTooLarge)
      | some .characterTooLarge => .error (.broken .characterTooLarge)
      | some .nestedTooDeeply => .error (.broken .patternTooDeep)
      | some .reachTooLarge => .error (.broken .reachTooLarge)
  | _ => unfit [.notText]

/-- A numeral: an integer when it has neither point nor exponent, else a float. -/
def numeral? (t : Text) : Option (Reading Quantity) :=
  let (negative, body) := Decimal.takeSign t
  if ¬ body.isEmpty ∧ body.all CodePoint.isDigit then
    if digitLimit < body.length then some (.error (.broken (.integerTooLong body.length)))
    else
      let n : Int := body.digitsValue
      some (.ok (.int (if negative then -n else n)))
  else (Decimal.read? t).map fun d => .ok (.float d.toBinary64)

/-- A value as it is compared as a number: numerals become numbers. -/
def numericForm : Value → Reading Value
  | .text t =>
      match numeral? t.trim with
      | some r => r.map Quantity.toValue
      | none => .ok (.text t)
  | .bool b => .ok (.text (Value.bool b).shown)
  | v => .ok v

/-- A number, read leniently as an integer or as a float. -/
def readQuantity (v : Value) : Reading Quantity := do
  match ← numericForm v with
  | .int i => .ok (.int i)
  | .float x => .ok (.float x)
  | v =>
      ofChecked <| Checked.firstOf
        [("int", (Checked.integer v).map .int), ("float", (Checked.number v).map .float)]

/-- The parts of a text between commas, trimmed, without the blank ones. -/
def commaParts (t : Text) : List Text :=
  ((t.splitAt (CodePoint.ofChar ',')).map Text.trim).filter fun p => ¬ p.isEmpty

/-- One text, or several in a list or between commas. -/
def readContained : Value → Reading Comparison
  | .text t =>
      if t.contains (CodePoint.ofChar ',') then .ok (.containsAll (commaParts t))
      else .ok (.containsText t)
  | v =>
      match Checked.list Checked.text v with
      | .ok ts => .ok (.containsAll ts)
      | .error issues => .error (.unfit (Cause.notText.message :: Checked.messages issues))

/-- Digits at the start of a text, at least one. -/
def takeDigits? (t : Text) : Option (Text × Text) :=
  match t.span CodePoint.isDigit with
  | ([], _) => none
  | found => some found

/-- The rest after one of the separators of a range. -/
def dropSeparator? : Text → Option Text
  | [] => none
  | c :: rest =>
      if c = CodePoint.ofChar ',' ∨ c = CodePoint.ofChar '-' then some rest
      else if c = CodePoint.ofChar '.' ∧ rest.head? = some (CodePoint.ofChar '.') then
        some rest.tail
      else none

/-- The digits of the two bounds of a range that is written as one text. -/
def rangeDigits? (t : Text) : Option (Text × Text) := do
  let skip := List.dropWhile CodePoint.isBlank
  let (low, rest) ← takeDigits? (skip t)
  let rest ← dropSeparator? (skip rest)
  let (high, rest) ← takeDigits? (skip rest)
  if (skip rest).isEmpty then some (low, high) else none

def readDigits (digits : Text) : Reading Value :=
  if digitLimit < digits.length then .error (.broken (.integerTooLong digits.length))
  else .ok (.nat digits.digitsValue)

/-- The two bounds of a range, as far as they can be told apart. -/
def rangeBounds (v : Value) : Reading (Value × Value) := do
  match v with
  | .text t =>
      match rangeDigits? t with
      | some (low, high) => return (← readDigits low, ← readDigits high)
      | none => return (v, .null)
  | .list [low, high] => return (← numericForm low, ← numericForm high)
  | _ => return (v, .null)

/-- A bound of a range: an integer that is not negative. -/
def readBound (v : Value) : Checked Nat :=
  (Checked.guarded (fun i => if i < 0 then some .negative else none) (Checked.integer v)).map
    Int.toNat

/-- A range whose least length does not exceed the greatest. -/
def readRange (v : Value) : Reading LengthRange := do
  let (low, high) ← rangeBounds v
  let bounds := Checked.apply ((readBound low).map Prod.mk) (readBound high)
  let (least, greatest) ← ofChecked bounds
  if h : least ≤ greatest then .ok ⟨least, greatest, h⟩
  else unfit [.rejected (Text.join ["range minimum ", Text.ofNat least, " exceeds maximum ",
    Text.ofNat greatest])]

/-- The name of a JSON type, in any case and with blanks around it. -/
def readJsonType (v : Value) : Reading JsonType :=
  let name :=
    match v with
    | .text t => .text t.trim.lower
    | v => v
  ofChecked (Checked.chosen .listed JsonType.options name)

/-- The comparison of a type with a typed value. -/
def read (type : ConditionType) (v : Value) : Reading Comparison :=
  match type with
  | .equals => (readScalar v).map equals
  | .matching => (readPattern v).map matching
  | .greaterThan => (readQuantity v).map greaterThan
  | .lessThan => (readQuantity v).map lessThan
  | .contains => readContained v
  | .lengthRange => (readRange v).map lengthRange
  | .dataType => (readJsonType v).map dataType

/-- The comparison of a type with a typed value, or the refusal of it. -/
def parse (type : ConditionType) (v : Value) : Except Failure Comparison :=
  match read type v with
  | .ok c => .ok c
  | .error (.unfit reasons) => .error (.refused (.unfitValue type v reasons))
  | .error (.broken f) => .error (.broken f)

def namedType? : Value → Option ConditionType
  | .text t => (ConditionType.options.find? fun o => Text.ofString o.1 = t).map Prod.snd
  | _ => none

def parseNamed (type v : Value) : Except Failure Comparison :=
  match namedType? type with
  | some t => parse t v
  | none => .error (.refused (.unknownConditionType type))

end Comparison

def Condition.comparison (c : Condition) : Except Failure Comparison :=
  Comparison.parse c.type c.value.toValue

end RuleDraft
