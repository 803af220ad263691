import RuleDraft.Number.Shortest
import RuleDraft.Proofs.Number.Decimal

/-!
# The shortest decimal reads back

Seventeen digits always suffice: the nearest decimal of seventeen digits is nearer
to a number than 2⁻⁵⁴ of it.  So the search for the shortest decimal ends, and what
it finds stands for the number.
-/

namespace RuleDraft
namespace Binary64

/-!
# The leading digit
-/

theorem scaleDown_eq (num den : Nat) (e : Int) :
    scaleDown num den e = (num * 10 ^ (-e).toNat, den * 10 ^ e.toNat) := by
  unfold scaleDown
  by_cases he : 0 ≤ e
  · have hzero : (-e).toNat = 0 := by
      omega
    rw [if_pos he, hzero, pow_zero, Nat.mul_one, Nat.pow_eq]
  · have hzero : e.toNat = 0 := by
      omega
    rw [if_neg he, hzero, pow_zero, Nat.mul_one, Nat.pow_eq]

/-- Ten to the power of the leading digit does not exceed the quotient. -/
theorem decimalExponent_le {num den : Nat} (hnum : 0 < num) (hden : 0 < den) :
    den * 10 ^ (decimalExponent num den).toNat ≤
      num * 10 ^ (-decimalExponent num den).toNat := by
  unfold decimalExponent
  by_cases hle : den ≤ num
  · have hquotient : 0 < num / den := Nat.div_pos hle hden
    have hlength := Text.ofNat_length_pos (num / den)
    have hpos : ((Text.ofNat (num / den)).length - 1 : Int).toNat =
        (Text.ofNat (num / den)).length - 1 := by
      omega
    have hneg : (-((Text.ofNat (num / den)).length - 1 : Int)).toNat = 0 := by
      omega
    rw [if_pos hle, hpos, hneg, pow_zero, Nat.mul_one]
    calc den * 10 ^ ((Text.ofNat (num / den)).length - 1)
        ≤ den * (num / den) := Nat.mul_le_mul_left _ (Text.pow_ofNat_length_le hquotient)
      _ ≤ num := Nat.mul_div_le num den
  -- Below one, the exponent is found from the reciprocal, which is rounded up.
  · simp only [if_neg hle]
    generalize hinverse : (den + num - 1) / num = inverse
    have hlength := Text.lt_pow_ofNat_length (inverse - 1)
    have hlengthPos := Text.ofNat_length_pos (inverse - 1)
    generalize (Text.ofNat (inverse - 1)).length = count at hlength hlengthPos
    have hpos : (Int.negOfNat count).toNat = 0 := by
      rw [Int.negOfNat_eq, Int.ofNat_eq_natCast]
      omega
    have hneg : (-Int.negOfNat count).toNat = count := by
      rw [Int.negOfNat_eq, Int.ofNat_eq_natCast]
      omega
    have hceil : den + num - 1 < num * (10 ^ count + 1) := by
      calc den + num - 1 < (inverse + 1) * num := by
            rw [← Nat.div_lt_iff_lt_mul hnum, hinverse]
            exact Nat.lt_succ_self inverse
        _ ≤ num * (10 ^ count + 1) := by
            rw [Nat.mul_comm]
            exact Nat.mul_le_mul_left num (by omega)
    rw [hpos, hneg, pow_zero, Nat.mul_one]
    rw [Nat.mul_succ] at hceil
    omega

/-- On the grid of seventeen digits a number has at least 10¹⁶ steps. -/
theorem grid_is_fine {num den : Nat} {e : Int} (hnum : 0 < num) (hden : 0 < den)
    (he : decimalExponent num den = e + 16) :
    10 ^ 16 * (den * 10 ^ e.toNat) ≤ num * 10 ^ (-e).toNat := by
  have hleading := decimalExponent_le hnum hden
  rw [he] at hleading
  have hbalance : 16 + e.toNat + (-(e + 16)).toNat = (e + 16).toNat + (-e).toNat := by
    omega
  apply Nat.le_of_mul_le_mul_right (c := 10 ^ (-(e + 16)).toNat) _ (Nat.pow_pos (by decide))
  calc 10 ^ 16 * (den * 10 ^ e.toNat) * 10 ^ (-(e + 16)).toNat
      = den * 10 ^ (16 + e.toNat + (-(e + 16)).toNat) := by ring
    _ = den * 10 ^ (e + 16).toNat * 10 ^ (-e).toNat := by
        rw [hbalance]
        ring
    _ ≤ num * 10 ^ (-(e + 16)).toNat * 10 ^ (-e).toNat := Nat.mul_le_mul_right _ hleading
    _ = num * 10 ^ (-e).toNat * 10 ^ (-(e + 16)).toNat := by ring

/-!
# The search
-/

def readsBack (ordinal : Nat) (e : Int) (k : Nat) : Bool :=
  Decimal.toBinary64 ⟨false, k, e⟩ = ofOrdinal false ordinal

theorem readsBack_iff {m k : Nat} {e : Int} :
    readsBack m e k = true ↔ Decimal.toBinary64 ⟨false, k, e⟩ = ofOrdinal false m := by
  rw [readsBack, decide_eq_true_eq]

theorem decimalOfDigits?_eq {m digits n d : Nat} {e : Int}
    (he : decimalExponent (magnitudeOf m) unitsPerOne + 1 - digits = e)
    (hn : magnitudeOf m * 10 ^ (-e).toNat = n) (hd : unitsPerOne * 10 ^ e.toNat = d) :
    decimalOfDigits? m digits =
      match readsBack m e (n / d), readsBack m e (n / d + 1) with
      | true, true => some ⟨false, roundHalfEven n d, e⟩
      | true, false => some ⟨false, n / d, e⟩
      | false, true => some ⟨false, n / d + 1, e⟩
      | false, false => none := by
  unfold decimalOfDigits?
  dsimp only
  rw [he, scaleDown_eq, hn, hd]
  rfl

theorem toBinary64_of_decimalOfDigits? {m digits : Nat} {d : Decimal}
    (h : decimalOfDigits? m digits = some d) : d.toBinary64 = ofOrdinal false m ∧
      d.negative = false := by
  generalize he : decimalExponent (magnitudeOf m) unitsPerOne + 1 - digits = e
  generalize hn : magnitudeOf m * 10 ^ (-e).toNat = num
  generalize hd : unitsPerOne * 10 ^ e.toNat = den
  rw [decimalOfDigits?_eq he hn hd] at h
  cases hbelow : readsBack m e (num / den) with
  | true =>
      cases habove : readsBack m e (num / den + 1) with
      | true =>
          rw [hbelow, habove] at h
          cases h
          refine ⟨?_, rfl⟩
          rcases roundHalfEven_eq_or num den with heq | heq
          · rw [heq]
            exact readsBack_iff.mp hbelow
          · rw [heq]
            exact readsBack_iff.mp habove
      | false =>
          rw [hbelow, habove] at h
          cases h
          exact ⟨readsBack_iff.mp hbelow, rfl⟩
  | false =>
      cases habove : readsBack m e (num / den + 1) with
      | true =>
          rw [hbelow, habove] at h
          cases h
          exact ⟨readsBack_iff.mp habove, rfl⟩
      | false =>
          rw [hbelow, habove] at h
          cases h

theorem decimalOfDigits?_seventeen {m : Nat} (hm : 0 < m) (hbound : m < ordinalBound) :
    ∃ d, decimalOfDigits? m 17 = some d := by
  have hunits := unitsPerOne_pos
  generalize he : decimalExponent (magnitudeOf m) unitsPerOne + 1 - (17 : Nat) = e
  have hfine := grid_is_fine (e := e) (magnitudeOf_pos hm) hunits (by omega)
  have hden : 0 < unitsPerOne * 10 ^ e.toNat := Nat.mul_pos hunits (Nat.pow_pos (by decide))
  have hnear (k : Nat) := @Decimal.toBinary64_of_near k m e hm hbound
  generalize hn : magnitudeOf m * 10 ^ (-e).toNat = num at hfine hnear
  generalize hd : unitsPerOne * 10 ^ e.toNat = den at hfine hden hnear
  rw [decimalOfDigits?_eq he hn hd]
  have hdiv := Nat.div_add_mod' num den
  have hmod := Nat.mod_lt num hden
  have hsucc : (num / den + 1) * den = num / den * den + den := Nat.succ_mul _ _
  by_cases hhalf : 2 * (num % den) ≤ den
  · have hbelow : readsBack m e (num / den) = true :=
      readsBack_iff.mpr (hnear _ (by omega) (by omega))
    rw [hbelow]
    cases readsBack m e (num / den + 1) with
    | true => exact ⟨_, rfl⟩
    | false => exact ⟨_, rfl⟩
  · have habove : readsBack m e (num / den + 1) = true :=
      readsBack_iff.mpr (hnear _ (by omega) (by omega))
    rw [habove]
    cases readsBack m e (num / den) with
    | true => exact ⟨_, rfl⟩
    | false => exact ⟨_, rfl⟩

theorem toBinary64_shortest {m : Nat} (hm : 0 < m) (hbound : m < ordinalBound) :
    (shortest m).toBinary64 = ofOrdinal false m ∧ (shortest m).negative = false := by
  rcases decimalOfDigits?_seventeen hm hbound with ⟨d, hd⟩
  unfold shortest
  cases hfound : (List.range 17).findSome? fun n => decimalOfDigits? m (n + 1) with
  | some found =>
      rcases List.exists_of_findSome?_eq_some hfound with ⟨n, _, hn⟩
      exact toBinary64_of_decimalOfDigits? hn
  | none =>
      have hnone := List.findSome?_eq_none_iff.mp hfound 16 (by decide)
      rw [hd] at hnone
      cases hnone

theorem shortest_coefficient_pos {m : Nat} (hm : 0 < m) (hbound : m < ordinalBound) :
    0 < (shortest m).coefficient := by
  rcases Nat.eq_zero_or_pos (shortest m).coefficient with hzero | hpos
  · have hreads := (toBinary64_shortest hm hbound).left
    have hshortest : shortest m = ⟨(shortest m).negative, 0, (shortest m).exponent⟩ := by
      rw [← hzero]
    rw [hshortest, Decimal.toBinary64_zero, (toBinary64_shortest hm hbound).right, ofOrdinal,
      ofOrdinal, dif_pos hbound, dif_pos (by decide)] at hreads
    have hordinal := congrArg Fin.val (Binary64.finite.inj hreads).right
    change 0 = m at hordinal
    omega
  · exact hpos

/-- The shortest decimal with a sign stands for the number with that sign. -/
theorem toBinary64_shortest_signed {m : Nat} (hm : 0 < m) (hbound : m < ordinalBound)
    (negative : Bool) :
    Decimal.toBinary64 ⟨negative, (shortest m).coefficient, (shortest m).exponent⟩ =
      .finite negative ⟨m, hbound⟩ := by
  apply Decimal.toBinary64_eq_finite
  have hreads := toBinary64_shortest hm hbound
  rw [ofOrdinal, dif_pos hbound] at hreads
  rw [← hreads.left, ← hreads.right]

end Binary64
end RuleDraft
