import RuleDraft.Number.Decimal

/-!
# Shortest decimal text of a number

A finite number is written with the fewest decimal digits that read back as the
same number. Of several decimals with that many digits the nearest is taken,
and of two equally near the one with the even last digit. Where the point goes
and how an exponent looks is the choice of a `FloatLayout`.
-/

namespace RuleDraft

namespace Binary64

/-- The power of ten of the leading decimal digit of a positive quotient. -/
def decimalExponent (num den : Nat) : Int :=
  if den ≤ num then (Text.ofNat (num / den)).length - 1
  else
    let inverse := (den + num - 1) / num
    Int.negOfNat (Text.ofNat (inverse - 1)).length

def scaleDown (num den : Nat) (e : Int) : Nat × Nat :=
  if 0 ≤ e then (num, den * Nat.pow 10 e.toNat) else (num * Nat.pow 10 (-e).toNat, den)

/--
The decimal of at most `digits` digits for the number with an ordinal, if one of
the two neighbours of the number on that grid reads back.
-/
def decimalOfDigits? (ordinal digits : Nat) : Option Decimal :=
  let num := magnitudeOf ordinal
  let e := decimalExponent num unitsPerOne + 1 - digits
  let (n, d) := scaleDown num unitsPerOne e
  let below := n / d
  let above := below + 1
  let reads (k : Nat) : Bool :=
    Decimal.toBinary64 ⟨false, k, e⟩ = ofOrdinal false ordinal
  match reads below, reads above with
  | true, true => some ⟨false, roundHalfEven n d, e⟩
  | true, false => some ⟨false, below, e⟩
  | false, true => some ⟨false, above, e⟩
  | false, false => none

/-- The shortest decimal that reads back as the number with an ordinal. -/
def shortest (ordinal : Nat) : Decimal :=
  ((List.range 17).findSome? fun n => decimalOfDigits? ordinal (n + 1)).getD ⟨false, 0, 0⟩

end Binary64

/-- How a finite number is laid out, and the words for the others. -/
structure FloatLayout where
  /-- The least decimal exponent that is written with a point only. -/
  pointFrom : Int
  /-- The greatest decimal exponent that is written with a point only. -/
  pointTo : Int
  /-- The least number of digits in an exponent. -/
  exponentWidth : Nat
  infinity : String
  minusInfinity : String
  notANumber : String

namespace FloatLayout

def dropZeros (digits : Text) : Text :=
  digits.trimEndOf fun c => c = CodePoint.ofChar '0'

/-- A digit string with a point after its first digit, if more digits follow. -/
def pointAfterFirst : Text → Text
  | [] => []
  | [d] => [d]
  | d :: rest => d :: CodePoint.ofChar '.' :: rest

def exponentText (layout : FloatLayout) (e : Int) : Text :=
  CodePoint.ofChar 'e' :: CodePoint.ofChar (if e < 0 then '-' else '+')
    :: Text.ofNatPadded layout.exponentWidth e.natAbs

/-- Digits with the point at its place, with at least one digit on both sides. -/
def positional (digits : Text) (e : Int) : Text :=
  let zero := CodePoint.ofChar '0'
  if e < 0 then
    [zero, CodePoint.ofChar '.'] ++ List.replicate (-e - 1).toNat zero ++ digits
  else
    let whole := e.toNat + 1
    let before := digits.take whole ++ List.replicate (whole - digits.length) zero
    let after := digits.drop whole
    before ++ CodePoint.ofChar '.' :: (if after.isEmpty then [zero] else after)

def decimalText (layout : FloatLayout) (d : Decimal) : Text :=
  let all := Text.ofNat d.coefficient
  let digits := dropZeros all
  if digits.isEmpty then positional [CodePoint.ofChar '0'] 0
  else
    let e : Int := d.exponent + (all.length - 1)
    if layout.pointFrom ≤ e ∧ e ≤ layout.pointTo then positional digits e
    else pointAfterFirst digits ++ layout.exponentText e

def write (layout : FloatLayout) : Binary64 → Text
  | .finite negative m =>
      let magnitude := layout.decimalText
        (if m.val = 0 then ⟨false, 0, 0⟩ else Binary64.shortest m.val)
      if negative then CodePoint.ofChar '-' :: magnitude else magnitude
  | .infinite false => layout.infinity
  | .infinite true => layout.minusInfinity
  | .nan => layout.notANumber

/--
Numbers as they are shown to people: a point alone for exponents from -4 to 15,
an exponent of at least two digits outside, and `inf` and `nan`.
-/
def plain : FloatLayout := ⟨-4, 15, 2, "inf", "-inf", "nan"⟩

/-- Numbers in documents: as `plain`, with the words that document readers know. -/
def document : FloatLayout := ⟨-4, 15, 2, "Infinity", "-Infinity", "NaN"⟩

end FloatLayout

end RuleDraft
