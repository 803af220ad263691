import RuleDraft.Number.Shortest

/-!
# Numbers to a given number of places

A number written with so many digits after the point, or with so many digits in
front of an exponent, is the nearest such decimal to its exact value, a tie going
to the even last digit.
-/

namespace RuleDraft
namespace Binary64

def magnitude? : Binary64 → Option (Nat × Nat)
  | .finite _ m => some (magnitudeOf m.val, unitsPerOne)
  | _ => none

/-- Whether a number carries a minus sign. -/
def isNegative : Binary64 → Bool
  | .finite negative _ => negative
  | .infinite negative => negative
  | .nan => false

def withPoint (places : Nat) (digits : Text) (keepPoint : Bool) : Text :=
  let zero := CodePoint.ofChar '0'
  let padded := List.replicate (places + 1 - digits.length) zero ++ digits
  let whole := padded.take (padded.length - places)
  let fraction := padded.drop (padded.length - places)
  if places = 0 ∧ ¬ keepPoint then whole else whole ++ CodePoint.ofChar '.' :: fraction

def fixedText (num den places : Nat) (keepPoint : Bool) : Text :=
  withPoint places (Text.ofNat (roundHalfEven (num * Nat.pow 10 places) den)) keepPoint

/-- The digits and the exponent of a quotient rounded to so many digits, at least one. -/
def scientificDigits (num den digits : Nat) : Text × Int :=
  if num = 0 then (List.replicate digits (CodePoint.ofChar '0'), 0)
  else
    let e := decimalExponent num den
    let (n, d) := scaleDown num den (e + 1 - digits)
    let rounded := Text.ofNat (roundHalfEven n d)
    if digits < rounded.length then (rounded.take digits, e + 1) else (rounded, e)

/-- Digits with a point after the first, and an exponent of at least two digits. -/
def exponentForm (digits : Text) (e : Int) (keepPoint : Bool) : Text :=
  let head := digits.take 1
  let tail := digits.drop 1
  let mantissa :=
    if tail.isEmpty ∧ ¬ keepPoint then head else head ++ CodePoint.ofChar '.' :: tail
  mantissa ++ FloatLayout.plain.exponentText e

def scientificText (num den places : Nat) (keepPoint : Bool) : Text :=
  let (digits, e) := scientificDigits num den (places + 1)
  exponentForm digits e keepPoint

/-- Text without the zeros at the end of its fraction, and without a bare point. -/
def dropFractionZeros (t : Text) : Text :=
  if t.contains (CodePoint.ofChar '.') then
    let t := t.trimEndOf fun c => c = CodePoint.ofChar '0'
    t.trimEndOf fun c => c = CodePoint.ofChar '.'
  else t

/--
A quotient with so many significant digits, positional unless its exponent is
below -4 or too large for the digits; zeros at the end are kept only on demand.
-/
def generalText (num den significant : Nat) (keepZeros : Bool) : Text :=
  let count := max significant 1
  let (digits, e) := scientificDigits num den count
  if -4 ≤ e ∧ e < count then
    let places := (count - 1 - e).toNat
    let t := fixedText num den places keepZeros
    if keepZeros then t else dropFractionZeros t
  else
    let mantissa := if keepZeros then digits else
      match digits with
      | [] => []
      | d :: rest => d :: FloatLayout.dropZeros rest
    exponentForm mantissa e keepZeros

end Binary64
end RuleDraft
