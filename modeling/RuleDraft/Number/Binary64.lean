/-!
# Binary floating-point numbers

The non-negative finite binary64 numbers are numbered in increasing order: the
number with ordinal `m` is `m` units of 2⁻¹⁰⁷⁴ as long as `m` is below 2⁵², and
after that each further 2⁵² ordinals double the unit. A quotient of two natural
numbers rounds to the nearest of them, a tie to the even ordinal.
-/

namespace RuleDraft

/-- The first ordinal that is too large for a finite number. -/
def Binary64.ordinalBound : Nat := 0x7FF <<< 52

/-- A binary64 number; the two zeros differ, and there is one NaN. -/
inductive Binary64 where
  | finite (negative : Bool) (ordinal : Fin Binary64.ordinalBound)
  | infinite (negative : Bool)
  | nan
  deriving DecidableEq, Repr

namespace Binary64

/-- How many ordinals share one exponent. -/
def binade : Nat := Nat.pow 2 52

/-- Whole units of the number with an ordinal. -/
def significandOf (ordinal : Nat) : Nat :=
  if ordinal < binade then ordinal else binade + ordinal % binade

/-- The number with an ordinal has the unit 2 to this power less 1074. -/
def scaleOf (ordinal : Nat) : Nat :=
  if ordinal < binade then 0 else ordinal / binade - 1

/-- The magnitude of the number with an ordinal, as a numerator over 2¹⁰⁷⁴. -/
def magnitudeOf (ordinal : Nat) : Nat :=
  significandOf ordinal * Nat.pow 2 (scaleOf ordinal)

/-- The denominator of every magnitude. -/
def unitsPerOne : Nat := Nat.pow 2 1074

/-- The number with a sign and an ordinal; an ordinal out of range is infinite. -/
def ofOrdinal (negative : Bool) (ordinal : Nat) : Binary64 :=
  if h : ordinal < ordinalBound then .finite negative ⟨ordinal, h⟩ else .infinite negative

/-- The quotient rounded to a whole number, a tie to the even one. -/
def roundHalfEven (num den : Nat) : Nat :=
  let q := num / den
  let r := num % den
  if 2 * r < den then q
  else if den < 2 * r then q + 1
  else if q % 2 = 0 then q else q + 1

/-- The scale at which a quotient in units of 2⁻¹⁰⁷⁴ has at most 53 bits. -/
def roundingScale (units den : Nat) : Nat :=
  let guess := units.log2 - den.log2 - 53
  if units / (den * Nat.pow 2 guess) < 2 * binade then guess else guess + 1

def nearestOrdinal (num den : Nat) : Nat :=
  let units := num * unitsPerOne
  let scale := roundingScale units den
  roundHalfEven units (den * Nat.pow 2 scale) + scale * binade

def ofRatio (negative : Bool) (num den : Nat) : Binary64 :=
  ofOrdinal negative (nearestOrdinal num den)

def ofInt (i : Int) : Binary64 := ofRatio (i < 0) i.natAbs 1

/-- A finite number as an integer numerator over `unitsPerOne`. -/
def units? : Binary64 → Option Int
  | .finite negative m =>
      let n : Int := magnitudeOf m.val
      some (if negative then -n else n)
  | _ => none

def isFinite (x : Binary64) : Bool := x.units?.isSome

def toInt? (x : Binary64) : Option Int := do
  let n ← x.units?
  if n % unitsPerOne = 0 then some (n / unitsPerOne) else none

/-- The whole part of a finite number, towards zero. -/
def truncate? (x : Binary64) : Option Int :=
  x.units?.map fun n => n.tdiv unitsPerOne

def zero : Binary64 := .finite false ⟨0, by decide⟩

def one : Binary64 := ofRatio false 1 1

end Binary64

end RuleDraft
