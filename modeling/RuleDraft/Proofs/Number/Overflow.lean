import RuleDraft.Proofs.Number.Decimal

/-!
# Quotients too large for a number

A quotient rounds to an infinite number exactly from half a unit above the greatest
finite number on, the tie included, because the greatest finite number is odd.
-/

namespace RuleDraft
namespace Binary64

/-- Half of the unit that the greatest finite numbers have. -/
def halfUnit : Nat := Nat.pow 2 970

/-- Half a unit above the greatest finite number: 2¹⁰²⁴ less 2⁹⁷⁰. -/
def overflowBound : Nat := (4 * binade - 1) * halfUnit

theorem isFinite_ofOrdinal (negative : Bool) (ordinal : Nat) :
    (ofOrdinal negative ordinal).isFinite = true ↔ ordinal < ordinalBound := by
  unfold ofOrdinal
  by_cases hbound : ordinal < ordinalBound
  · rw [dif_pos hbound]
    exact iff_of_true rfl hbound
  · rw [dif_neg hbound]
    exact iff_of_false nofun hbound

/-- A tie goes up from an odd number, so only less than a half above it rounds down to it. -/
theorem roundHalfEven_le_iff (num : Nat) {den k : Nat} (hden : 0 < den) (hodd : k % 2 = 1) :
    roundHalfEven num den ≤ k ↔ 2 * num < (2 * k + 1) * den := by
  have hdiv := Nat.div_add_mod' num den
  have hmod := Nat.mod_lt num hden
  have hround := roundHalfEven_eq_or num den
  generalize hq : num / den = q at hdiv hround
  generalize hr : num % den = r at hdiv hmod
  have hbound : (2 * k + 1) * den = 2 * (k * den) + den := by
    ring
  rw [hbound]
  rcases Nat.lt_trichotomy q k with hless | rfl | hmore
  · have hmul : (q + 1) * den ≤ k * den := Nat.mul_le_mul_right den hless
    rw [Nat.succ_mul] at hmul
    exact iff_of_true (by omega) (by omega)
  · by_cases hhalf : 2 * r < den
    · refine iff_of_true ?_ (by omega)
      simp only [roundHalfEven, hq, hr, if_pos hhalf]
      exact Nat.le_refl _
    · refine iff_of_false ?_ (by omega)
      simp only [roundHalfEven, hq, hr, if_neg hhalf]
      by_cases hmoreHalf : den < 2 * r
      · rw [if_pos hmoreHalf]
        omega
      · rw [if_neg hmoreHalf, if_neg (by omega)]
        omega
  · have hmul : (k + 1) * den ≤ q * den := Nat.mul_le_mul_right den hmore
    rw [Nat.succ_mul] at hmul
    exact iff_of_false (by omega) (by omega)

/-!
# The last binades

The greatest finite numbers have the scale 2045: a smaller scale keeps every quotient finite,
and a larger one keeps none.
-/

theorem ordinalBound_eq : ordinalBound = 2047 * binade :=
  rfl

theorem exists_halfUnit_eq : ∃ u, u = 970 ∧ halfUnit = 2 ^ u :=
  ⟨_, rfl, rfl⟩

theorem exists_unit_eq : ∃ u, u = 2044 ∧ unitsPerOne * halfUnit = 2 ^ u := by
  rcases Decimal.exists_unitsPerOne_eq with ⟨u, hu, hunits⟩
  rcases exists_halfUnit_eq with ⟨w, hw, hhalf⟩
  exact ⟨u + w, by omega, by rw [hunits, hhalf, pow_add]⟩

section Scales

variable {num den scale : Nat}

theorem finite_of_small_scale (hscale : IsScale (num * unitsPerOne) den scale)
    (hden : 0 < den) (hsmall : scale ≤ 2044) :
    roundHalfEven (num * unitsPerOne) (den * 2 ^ scale) + scale * binade < ordinalBound ∧
      num < overflowBound * den := by
  have hunit : 0 < den * 2 ^ scale := Nat.mul_pos hden (Nat.pow_pos (by decide))
  have hquotient : num * unitsPerOne / (den * 2 ^ scale) < 2 * binade :=
    (Nat.div_lt_iff_lt_mul hunit).mpr hscale.upper
  have hround := roundHalfEven_eq_or (num * unitsPerOne) (den * 2 ^ scale)
  have hscales : scale * binade ≤ 2044 * binade := Nat.mul_le_mul_right binade hsmall
  have hpos : 0 < binade := by
    decide
  refine ⟨by rw [ordinalBound_eq]; omega, ?_⟩
  have hpow : 2 ^ scale ≤ unitsPerOne * halfUnit := by
    rcases exists_unit_eq with ⟨u, hu, hunit⟩
    rw [hunit]
    exact Nat.pow_le_pow_right (by decide) (by omega)
  have hunits : num * unitsPerOne < 2 * binade * halfUnit * den * unitsPerOne :=
    calc num * unitsPerOne < 2 * binade * (den * 2 ^ scale) := hscale.upper
      _ ≤ 2 * binade * (den * (unitsPerOne * halfUnit)) :=
          Nat.mul_le_mul_left _ (Nat.mul_le_mul_left den hpow)
      _ = 2 * binade * halfUnit * den * unitsPerOne := by ring
  have hbound : 2 * binade * halfUnit * den ≤ overflowBound * den := by
    exact Nat.mul_le_mul_right den (Nat.mul_le_mul_right halfUnit (by decide))
  exact Nat.lt_of_lt_of_le (Nat.lt_of_mul_lt_mul_right hunits) hbound

theorem finite_iff_of_last_scale (hden : 0 < den) (hlast : scale = 2045) :
    roundHalfEven (num * unitsPerOne) (den * 2 ^ scale) + scale * binade < ordinalBound ↔
      num < overflowBound * den := by
  have hunit : 0 < den * 2 ^ scale := Nat.mul_pos hden (Nat.pow_pos (by decide))
  have hodd : (2 * binade - 1) % 2 = 1 := by
    decide
  have hround := roundHalfEven_le_iff (num * unitsPerOne) hunit hodd
  have hleft : roundHalfEven (num * unitsPerOne) (den * 2 ^ scale) + scale * binade <
      ordinalBound ↔
        roundHalfEven (num * unitsPerOne) (den * 2 ^ scale) ≤ 2 * binade - 1 := by
    have hpos : 0 < binade := by
      decide
    rw [ordinalBound_eq, hlast]
    omega
  have hbound : (2 * (2 * binade - 1) + 1) * (den * 2 ^ scale) =
      2 * unitsPerOne * (overflowBound * den) := by
    have hpow : 2 ^ scale = unitsPerOne * halfUnit * 2 := by
      rcases exists_unit_eq with ⟨u, hu, hunit⟩
      have hsum : scale = u + 1 := by
        omega
      rw [hunit, ← pow_succ, hsum]
    have hcoefficient : 2 * (2 * binade - 1) + 1 = 4 * binade - 1 := by
      decide
    rw [hpow, hcoefficient, overflowBound]
    ring
  have hunits : 2 * (num * unitsPerOne) = 2 * unitsPerOne * num := by
    ring
  rw [hleft, hround, hbound, hunits,
    Nat.mul_lt_mul_left (Nat.mul_pos (by decide) unitsPerOne_pos)]

theorem infinite_of_large_scale (hscale : IsScale (num * unitsPerOne) den scale)
    (hden : 0 < den) (hlarge : 2046 ≤ scale) :
    ordinalBound ≤ roundHalfEven (num * unitsPerOne) (den * 2 ^ scale) + scale * binade ∧
      overflowBound * den ≤ num := by
  have hunit : 0 < den * 2 ^ scale := Nat.mul_pos hden (Nat.pow_pos (by decide))
  have hlower : binade * (den * 2 ^ scale) ≤ num * unitsPerOne := by
    rcases hscale.lower with hzero | hlower
    · omega
    · exact hlower
  have hquotient : binade ≤ num * unitsPerOne / (den * 2 ^ scale) :=
    (Nat.le_div_iff_mul_le hunit).mpr hlower
  have hround := roundHalfEven_eq_or (num * unitsPerOne) (den * 2 ^ scale)
  have hscales : 2046 * binade ≤ scale * binade := Nat.mul_le_mul_right binade hlarge
  refine ⟨by rw [ordinalBound_eq]; omega, ?_⟩
  have hpow : unitsPerOne * halfUnit * 2 ^ 2 ≤ 2 ^ scale := by
    rcases exists_unit_eq with ⟨u, hu, hunit⟩
    rw [hunit, ← pow_add]
    exact Nat.pow_le_pow_right (by decide) (by omega)
  have hunits : 4 * binade * halfUnit * den * unitsPerOne ≤ num * unitsPerOne :=
    calc 4 * binade * halfUnit * den * unitsPerOne
        = binade * (den * (unitsPerOne * halfUnit * 2 ^ 2)) := by ring
      _ ≤ binade * (den * 2 ^ scale) := Nat.mul_le_mul_left _ (Nat.mul_le_mul_left den hpow)
      _ ≤ num * unitsPerOne := hlower
  have hbound : overflowBound * den ≤ 4 * binade * halfUnit * den := by
    exact Nat.mul_le_mul_right den (Nat.mul_le_mul_right halfUnit (Nat.sub_le _ _))
  exact Nat.le_trans hbound (Nat.le_of_mul_le_mul_right hunits unitsPerOne_pos)

end Scales

theorem nearestOrdinal_lt_iff {num den : Nat} (hden : 0 < den) :
    nearestOrdinal num den < ordinalBound ↔ num < overflowBound * den := by
  have hscale : IsScale (num * unitsPerOne) den _ := roundingScale_isScale hden
  rw [nearestOrdinal_eq hden hscale]
  generalize roundingScale (num * unitsPerOne) den = scale at hscale ⊢
  rcases Nat.lt_trichotomy scale 2045 with hsmall | hlast | hlarge
  · have hfinite := finite_of_small_scale hscale hden (Nat.le_of_lt_succ hsmall)
    exact iff_of_true hfinite.left hfinite.right
  · exact finite_iff_of_last_scale hden hlast
  · have hinfinite := infinite_of_large_scale hscale hden hlarge
    exact iff_of_false (Nat.not_lt.mpr hinfinite.left) (Nat.not_lt.mpr hinfinite.right)

theorem isFinite_ofRatio_iff (negative : Bool) {num den : Nat} (hden : 0 < den) :
    (ofRatio negative num den).isFinite = true ↔ num < overflowBound * den :=
  (isFinite_ofOrdinal negative _).trans (nearestOrdinal_lt_iff hden)

end Binary64

/-!
# Decimals
-/

namespace Decimal

open Binary64

/-- The decimal is at least half a unit above the greatest finite number, apart from its sign. -/
def Overflows (d : Decimal) : Prop :=
  overflowBound * 10 ^ (-d.exponent).toNat ≤ d.coefficient * 10 ^ d.exponent.toNat

theorem overflowBound_lt : ∃ p, p ≤ 342 ∧ overflowBound < 10 ^ p := by
  rcases exists_halfUnit_eq with ⟨w, hw, hhalf⟩
  have hbinade : 4 * binade = 2 ^ 54 := by
    decide
  have hpos : 0 < 2 ^ w := Nat.pow_pos (by decide)
  refine ⟨342, Nat.le_refl _, ?_⟩
  generalize hp : 342 = p
  calc overflowBound < 4 * binade * halfUnit := by
        rw [overflowBound, hhalf]
        exact Nat.mul_lt_mul_of_pos_right (by decide) hpos
    _ = 2 ^ (54 + w) := by rw [hbinade, hhalf, pow_add]
    _ ≤ 2 ^ (3 * p) := Nat.pow_le_pow_right (by decide) (by omega)
    _ ≤ 10 ^ p := pow_two_le_pow_ten p

theorem overflowBound_pos : 0 < overflowBound := by
  rcases exists_halfUnit_eq with ⟨w, _, hhalf⟩
  rw [overflowBound, hhalf]
  exact Nat.mul_pos (by decide) (Nat.pow_pos (by decide))

/-- A decimal is infinite as a number exactly when it is at least half a unit too large. -/
theorem isFinite_toBinary64_iff (d : Decimal) :
    d.toBinary64.isFinite = true ↔ ¬ d.Overflows := by
  rcases d with ⟨negative, c, e⟩
  have hpow (n : Nat) : 0 < 10 ^ n := Nat.pow_pos (by decide)
  rcases Nat.eq_zero_or_pos c with rfl | hc
  · -- Zero is finite whatever its exponent.
    rw [toBinary64_zero]
    refine iff_of_true ((isFinite_ofOrdinal negative 0).mpr (by decide)) ?_
    unfold Overflows
    rw [Nat.zero_mul, Nat.not_le]
    exact Nat.mul_pos overflowBound_pos (hpow _)
  · by_cases hlow : -400 ≤ ((Text.ofNat c).length : Int) + e
    · by_cases hhigh : ((Text.ofNat c).length : Int) + e ≤ 400
      · rw [toBinary64_eq_ofRatio hc hlow hhigh, isFinite_ofRatio_iff negative (hpow _)]
        exact Nat.not_le.symm
      · -- Too long to be computed, and too large by far.
        refine iff_of_false ?_ (not_not.mpr ?_)
        · simp only [toBinary64]
          rw [if_neg (by omega), if_pos (by omega)]
          exact Bool.false_ne_true
        · rcases overflowBound_lt with ⟨p, hp, hbound⟩
          unfold Overflows
          calc overflowBound * 10 ^ (-e).toNat ≤ 10 ^ p * 10 ^ (-e).toNat :=
                Nat.mul_le_mul_right _ (Nat.le_of_lt hbound)
            _ = 10 ^ (p + (-e).toNat) := (pow_add 10 _ _).symm
            _ ≤ 10 ^ ((Text.ofNat c).length - 1 + e.toNat) :=
                Nat.pow_le_pow_right (by decide) (by omega)
            _ = 10 ^ ((Text.ofNat c).length - 1) * 10 ^ e.toNat := pow_add 10 _ _
            _ ≤ c * 10 ^ e.toNat := Nat.mul_le_mul_right _ (Text.pow_ofNat_length_le hc)
    · -- Below every number but zero.
      refine iff_of_true ?_ ?_
      · simp only [toBinary64]
        rw [if_pos (by omega)]
        exact (isFinite_ofOrdinal negative 0).mpr (by decide)
      · unfold Overflows
        rw [Nat.not_le]
        calc c * 10 ^ e.toNat < 10 ^ (Text.ofNat c).length * 10 ^ e.toNat :=
              Nat.mul_lt_mul_of_pos_right (Text.lt_pow_ofNat_length c) (hpow _)
          _ = 10 ^ ((Text.ofNat c).length + e.toNat) := (pow_add 10 _ _).symm
          _ ≤ 10 ^ (-e).toNat := Nat.pow_le_pow_right (by decide) (by omega)
          _ ≤ overflowBound * 10 ^ (-e).toNat := Nat.le_mul_of_pos_left _ overflowBound_pos

end Decimal
end RuleDraft
