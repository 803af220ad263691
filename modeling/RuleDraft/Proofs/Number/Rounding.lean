import Mathlib.Tactic.Ring
import RuleDraft.Number.Binary64

/-!
# Rounding to the nearest number

The scale at which a quotient is rounded is the one that leaves it 53 bits, and no
other scale does.  So rounding depends on the quotient alone, and a quotient that is
nearer to a number than 2⁻⁵⁴ of it rounds to that number.
-/

namespace RuleDraft
namespace Binary64

theorem binade_eq : binade = 2 ^ 52 :=
  rfl

/-!
# Ordinals
-/

theorem significandOf_add_scaleOf (m : Nat) : significandOf m + scaleOf m * binade = m := by
  unfold significandOf scaleOf
  by_cases hsmall : m < binade
  · rw [if_pos hsmall, if_pos hsmall, Nat.zero_mul, Nat.add_zero]
  · have hpos : 0 < m / binade := Nat.div_pos (Nat.le_of_not_lt hsmall) (by decide)
    rw [if_neg hsmall, if_neg hsmall, Nat.sub_mul, Nat.one_mul]
    have hle : 1 * binade ≤ m / binade * binade := Nat.mul_le_mul_right binade hpos
    have hdiv := Nat.div_add_mod' m binade
    omega

theorem significandOf_lt (m : Nat) : significandOf m < 2 * binade := by
  unfold significandOf
  by_cases hsmall : m < binade
  · rw [if_pos hsmall]
    omega
  · have hmod : m % binade < binade := Nat.mod_lt m (by decide)
    rw [if_neg hsmall]
    omega

theorem binade_le_significandOf {m : Nat} (h : 0 < scaleOf m) : binade ≤ significandOf m := by
  unfold scaleOf at h
  unfold significandOf
  by_cases hsmall : m < binade
  · rw [if_pos hsmall] at h
    exact absurd h (Nat.lt_irrefl 0)
  · rw [if_neg hsmall]
    exact Nat.le_add_right _ _

theorem magnitudeOf_eq (m : Nat) : magnitudeOf m = significandOf m * 2 ^ scaleOf m :=
  rfl

theorem magnitudeOf_pos {m : Nat} (h : 0 < m) : 0 < magnitudeOf m := by
  have hsig : 0 < significandOf m := by
    rcases Nat.eq_zero_or_pos (scaleOf m) with hzero | hpos
    · have heq := significandOf_add_scaleOf m
      rw [hzero, Nat.zero_mul, Nat.add_zero] at heq
      omega
    · exact Nat.lt_of_lt_of_le (by decide) (binade_le_significandOf hpos)
  exact Nat.mul_pos hsig (Nat.pow_pos (by decide))

theorem unitsPerOne_pos : 0 < unitsPerOne := by
  unfold unitsPerOne
  exact Nat.pow_pos (by decide)

/-!
# Half to even
-/

theorem roundHalfEven_mul (num den : Nat) {k : Nat} (hk : 0 < k) :
    roundHalfEven (num * k) (den * k) = roundHalfEven num den := by
  simp only [roundHalfEven]
  rw [Nat.mul_div_mul_right _ _ hk, Nat.mul_mod_mul_right, ← Nat.mul_assoc]
  simp only [Nat.mul_lt_mul_right hk]

/-- A quotient less than one half away from a whole number rounds to it. -/
theorem roundHalfEven_eq_of_near {num den q : Nat} (hden : 0 < den)
    (habove : 2 * num < 2 * (q * den) + den) (hbelow : 2 * (q * den) < 2 * num + den) :
    roundHalfEven num den = q := by
  have hdiv := Nat.div_add_mod' num den
  have hmod := Nat.mod_lt num hden
  have hupper : num / den < q + 1 := by
    rw [Nat.div_lt_iff_lt_mul hden, Nat.succ_mul]
    omega
  have hlower : q < num / den + 2 := by
    apply Nat.lt_of_mul_lt_mul_right (a := den)
    rw [Nat.add_mul]
    omega
  simp only [roundHalfEven]
  rcases Nat.eq_or_lt_of_le (Nat.le_of_lt_succ hupper) with heq | hless
  · rw [heq] at hdiv ⊢
    rw [if_pos (by omega)]
  · have heq : num / den + 1 = q := by
      omega
    have hq : q * den = num / den * den + den := by
      rw [← heq, Nat.succ_mul]
    rw [if_neg (by omega), if_pos (by omega)]
    exact heq

theorem roundHalfEven_eq_or (num den : Nat) :
    roundHalfEven num den = num / den ∨ roundHalfEven num den = num / den + 1 := by
  simp only [roundHalfEven]
  by_cases hless : 2 * (num % den) < den
  · exact Or.inl (if_pos hless)
  · rw [if_neg hless]
    by_cases hmore : den < 2 * (num % den)
    · exact Or.inr (if_pos hmore)
    · rw [if_neg hmore]
      by_cases heven : num / den % 2 = 0
      · exact Or.inl (if_pos heven)
      · exact Or.inr (if_neg heven)

/-!
# The scale
-/

/-- At this scale a quotient has 53 bits, or at the scale zero fewer. -/
structure IsScale (units den scale : Nat) : Prop where
  upper : units < 2 * binade * (den * 2 ^ scale)
  lower : scale = 0 ∨ binade * (den * 2 ^ scale) ≤ units

theorem IsScale.unique_le {units den s s' : Nat} (h : IsScale units den s)
    (h' : IsScale units den s') : s' ≤ s := by
  rcases h'.lower with rfl | hlower
  · exact Nat.zero_le s
  · have hless : binade * (den * 2 ^ s') < binade * (den * 2 ^ (s + 1)) := by
      calc binade * (den * 2 ^ s') ≤ units := hlower
        _ < 2 * binade * (den * 2 ^ s) := h.upper
        _ = binade * (den * 2 ^ (s + 1)) := by ring
    have hpow := Nat.lt_of_mul_lt_mul_left (Nat.lt_of_mul_lt_mul_left hless)
    have hexp := (Nat.pow_lt_pow_iff_right (by decide)).mp hpow
    omega

theorem IsScale.unique {units den s s' : Nat} (h : IsScale units den s)
    (h' : IsScale units den s') : s = s' :=
  Nat.le_antisymm (h'.unique_le h) (h.unique_le h')

theorem IsScale.mul {units den s k : Nat} (h : IsScale units den s) (hk : 0 < k) :
    IsScale (units * k) (den * k) s := by
  have hright : den * k * 2 ^ s = den * 2 ^ s * k := by
    ring
  constructor
  · rw [hright, ← Nat.mul_assoc]
    exact Nat.mul_lt_mul_of_pos_right h.upper hk
  · rcases h.lower with hzero | hlower
    · exact Or.inl hzero
    · rw [hright, ← Nat.mul_assoc]
      exact Or.inr (Nat.mul_le_mul_right k hlower)

theorem roundingScale_isScale {units den : Nat} (hden : 0 < den) :
    IsScale units den (roundingScale units den) := by
  have hden_le := Nat.log2_self_le (Nat.ne_of_gt hden)
  have hden_lt : den < 2 ^ (den.log2 + 1) := Nat.lt_log2_self
  have hunits_lt : units < 2 ^ (units.log2 + 1) := Nat.lt_log2_self
  have hbound (g : Nat) : 0 < den * 2 ^ g := Nat.mul_pos hden (Nat.pow_pos (by decide))
  simp only [roundingScale, Nat.pow_eq]
  generalize hguess : units.log2 - den.log2 - 53 = guess
  by_cases hsmall : units / (den * 2 ^ guess) < 2 * binade
  · rw [if_pos hsmall]
    refine ⟨(Nat.div_lt_iff_lt_mul (hbound guess)).mp hsmall, ?_⟩
    rcases Nat.eq_zero_or_pos guess with hzero | hpos
    · exact Or.inl hzero
    · right
      have hne : units ≠ 0 := by
        rintro rfl
        rw [Nat.log2_zero, Nat.zero_sub, Nat.zero_sub] at hguess
        omega
      calc binade * (den * 2 ^ guess)
          ≤ 2 ^ 52 * (2 ^ (den.log2 + 1) * 2 ^ guess) :=
            Nat.mul_le_mul_left _ (Nat.mul_le_mul_right _ (Nat.le_of_lt hden_lt))
        _ = 2 ^ (den.log2 + 53 + guess) := by ring
        _ = 2 ^ units.log2 := by
            congr 1
            omega
        _ ≤ units := Nat.log2_self_le hne
  · rw [if_neg hsmall]
    have hlarge : 2 * binade * (den * 2 ^ guess) ≤ units :=
      (Nat.le_div_iff_mul_le (hbound guess)).mp (Nat.le_of_not_lt hsmall)
    constructor
    · calc units < 2 ^ (units.log2 + 1) := hunits_lt
        _ ≤ 2 ^ (den.log2 + 54 + guess) := Nat.pow_le_pow_right (by decide) (by omega)
        _ = 2 * 2 ^ 52 * (2 ^ den.log2 * 2 ^ (guess + 1)) := by ring
        _ ≤ 2 * binade * (den * 2 ^ (guess + 1)) :=
            Nat.mul_le_mul_left _ (Nat.mul_le_mul_right _ hden_le)
    · right
      calc binade * (den * 2 ^ (guess + 1)) = 2 * binade * (den * 2 ^ guess) := by ring
        _ ≤ units := hlarge

theorem roundingScale_eq {units den s : Nat} (hden : 0 < den) (h : IsScale units den s) :
    roundingScale units den = s :=
  (roundingScale_isScale hden).unique h

/-!
# Nearest ordinals
-/

theorem nearestOrdinal_eq {num den s : Nat} (hden : 0 < den)
    (h : IsScale (num * unitsPerOne) den s) :
    nearestOrdinal num den =
      roundHalfEven (num * unitsPerOne) (den * 2 ^ s) + s * binade := by
  simp only [nearestOrdinal, roundingScale_eq hden h, Nat.pow_eq]

/-- Rounding depends on the quotient alone. -/
theorem nearestOrdinal_mul (num : Nat) {den k : Nat} (hden : 0 < den) (hk : 0 < k) :
    nearestOrdinal (num * k) (den * k) = nearestOrdinal num den := by
  have hscale : IsScale (num * unitsPerOne) den _ := roundingScale_isScale hden
  have hscaled := hscale.mul hk
  have hunits : num * unitsPerOne * k = num * k * unitsPerOne := by
    ring
  rw [hunits] at hscaled
  rw [nearestOrdinal_eq hden hscale, nearestOrdinal_eq (Nat.mul_pos hden hk) hscaled, ← hunits,
    Nat.mul_right_comm den k, roundHalfEven_mul _ _ hk]

/-- A quotient nearer to a number than 2⁻⁵⁴ of it rounds to that number. -/
theorem nearestOrdinal_of_near {num den m : Nat} (hden : 0 < den)
    (habove : 2 ^ 54 * (num * unitsPerOne) < (2 ^ 54 + 1) * (magnitudeOf m * den))
    (hbelow : (2 ^ 54 - 1) * (magnitudeOf m * den) < 2 ^ 54 * (num * unitsPerOne)) :
    nearestOrdinal num den = m := by
  generalize hunits : num * unitsPerOne = units at habove hbelow
  have hsum := significandOf_add_scaleOf m
  have hlt := significandOf_lt m
  have hmagnitude : magnitudeOf m * den = significandOf m * (den * 2 ^ scaleOf m) := by
    rw [magnitudeOf_eq]
    ring
  rw [hmagnitude] at habove hbelow
  have hlow := @binade_le_significandOf m
  generalize significandOf m = sig at hsum hlt habove hbelow hlow
  generalize scaleOf m = s at hsum habove hbelow hlow
  rw [binade_eq] at hlt
  have hpos : 0 < den * 2 ^ s := Nat.mul_pos hden (Nat.pow_pos (by decide))
  have hsig : sig * (den * 2 ^ s) ≤ (2 ^ 53 - 1) * (den * 2 ^ s) :=
    Nat.mul_le_mul_right _ (by omega)
  by_cases hsame : s = 0 ∨ binade * (den * 2 ^ s) ≤ units
  · have hscale : IsScale (num * unitsPerOne) den s := by
      rw [hunits]
      refine ⟨?_, hsame⟩
      rw [binade_eq]
      omega
    rw [nearestOrdinal_eq hden hscale, hunits, roundHalfEven_eq_of_near hpos (q := sig) (by omega)
      (by omega)]
    exact hsum
  · -- Below the first number of a binade the unit is half as large.
    rcases not_or.mp hsame with ⟨hs, hless⟩
    rcases Nat.exists_eq_succ_of_ne_zero hs with ⟨p, rfl⟩
    have hfirst : binade ≤ sig := hlow (Nat.succ_pos p)
    rw [binade_eq] at hfirst hless
    have hunit : den * 2 ^ (p + 1) = 2 * (den * 2 ^ p) := by
      ring
    have hhalf : 0 < den * 2 ^ p := Nat.mul_pos hden (Nat.pow_pos (by decide))
    rw [Nat.succ_eq_add_one, hunit] at habove hbelow hless hsig
    have hsigEq : sig = 2 ^ 52 := by
      by_contra hne
      have hmore : (2 ^ 52 + 1) * (2 * (den * 2 ^ p)) ≤ sig * (2 * (den * 2 ^ p)) :=
        Nat.mul_le_mul_right _ (by omega)
      omega
    rw [hsigEq] at habove hbelow
    have hscale : IsScale (num * unitsPerOne) den p := by
      rw [hunits]
      constructor
      · rw [binade_eq]
        omega
      · rw [binade_eq]
        right
        omega
    rw [nearestOrdinal_eq hden hscale, hunits,
      roundHalfEven_eq_of_near hhalf (q := 2 ^ 53) (by omega) (by omega), ← hsum, hsigEq,
      binade_eq, Nat.succ_mul]
    omega

end Binary64
end RuleDraft
