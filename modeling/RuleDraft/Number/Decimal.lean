import RuleDraft.Number.Binary64
import RuleDraft.Number.Numeral

/-!
# Decimal literals

A decimal literal is a coefficient times a power of ten. It stands for the
nearest binary64 number. Powers far outside the range of binary64 are decided
from the size of the literal alone, so that no huge power is ever computed.
-/

namespace RuleDraft

/-- A decimal number, `coefficient` times ten to the `exponent`. -/
structure Decimal where
  negative : Bool
  coefficient : Nat
  exponent : Int
  deriving DecidableEq, Repr

namespace Decimal

def toBinary64 (d : Decimal) : Binary64 :=
  let size : Int := (Text.ofNat d.coefficient).length + d.exponent
  if d.coefficient = 0 ∨ size < -400 then .ofOrdinal d.negative 0
  else if size > 400 then .infinite d.negative
  else if 0 ≤ d.exponent then
    .ofRatio d.negative (d.coefficient * Nat.pow 10 d.exponent.toNat) 1
  else .ofRatio d.negative d.coefficient (Nat.pow 10 (-d.exponent).toNat)

def takeSign : Text → Bool × Text
  | [] => (false, [])
  | c :: rest =>
      if c = CodePoint.ofChar '-' then (true, rest)
      else if c = CodePoint.ofChar '+' then (false, rest)
      else (false, c :: rest)

/-- The exponent part of a literal: `e`, an optional sign and digits to the end. -/
def readExponent? : Text → Option Int
  | [] => some 0
  | c :: rest =>
      if c = CodePoint.ofChar 'e' ∨ c = CodePoint.ofChar 'E' then
        let (negative, digits) := takeSign rest
        if digits.isEmpty ∨ ¬ digits.all CodePoint.isDigit then none
        else
          let n : Int := digits.digitsValue
          some (if negative then -n else n)
      else none

/--
A whole text as a literal: an optional sign, digits with at most one point among
or around them, and an optional exponent.
-/
def read? (t : Text) : Option Decimal :=
  let (negative, body) := takeSign t
  let (whole, rest) := body.span CodePoint.isDigit
  let (fraction, rest) :=
    match rest with
    | c :: more => if c = CodePoint.ofChar '.' then more.span CodePoint.isDigit else ([], rest)
    | [] => ([], [])
  if whole.isEmpty ∧ fraction.isEmpty then none
  else (readExponent? rest).map fun e =>
    { negative
      coefficient := Text.digitsValue (whole ++ fraction)
      exponent := e - fraction.length }

end Decimal

end RuleDraft
