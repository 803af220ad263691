import RuleDraft.Number.Decimal
import RuleDraft.Proofs.Number.Digits
import RuleDraft.Proofs.Number.Rounding

/-!
# Decimal literals by value

A literal stands for the number nearest to its value, however the value is split
into a coefficient and a power of ten, and a literal that is near enough to a number
stands for that number.
-/

namespace RuleDraft
namespace Decimal

open Binary64

/-!
# The sign
-/

theorem toBinary64_eq_finite {c : Nat} {e : Int} {m : Fin ordinalBound}
    (h : toBinary64 ⟨false, c, e⟩ = .finite false m) (negative : Bool) :
    toBinary64 ⟨negative, c, e⟩ = .finite negative m := by
  have hordinal {k : Nat} (hk : ofOrdinal false k = .finite false m) :
      ofOrdinal negative k = .finite negative m := by
    unfold ofOrdinal at hk ⊢
    by_cases hbound : k < ordinalBound
    · rw [dif_pos hbound] at hk ⊢
      cases hk
      rfl
    · rw [dif_neg hbound] at hk
      cases hk
  simp only [toBinary64] at h ⊢
  by_cases hsmall : c = 0 ∨ (Text.ofNat c).length + e < -400
  · rw [if_pos hsmall] at h ⊢
    exact hordinal h
  · rw [if_neg hsmall] at h ⊢
    by_cases hlarge : (Text.ofNat c).length + e > 400
    · rw [if_pos hlarge] at h
      cases h
    · rw [if_neg hlarge] at h ⊢
      by_cases he : 0 ≤ e
      · rw [if_pos he] at h ⊢
        exact hordinal h
      · rw [if_neg he] at h ⊢
        exact hordinal h

theorem toBinary64_zero (negative : Bool) (e : Int) :
    toBinary64 ⟨negative, 0, e⟩ = ofOrdinal negative 0 := by
  simp only [toBinary64]
  rw [if_pos (Or.inl trivial)]

/-!
# The power of ten
-/

theorem toBinary64_eq_ofRatio {negative : Bool} {c : Nat} {e : Int} (hc : 0 < c)
    (hlow : -400 ≤ (Text.ofNat c).length + e) (hhigh : (Text.ofNat c).length + e ≤ 400) :
    toBinary64 ⟨negative, c, e⟩ =
      ofRatio negative (c * 10 ^ e.toNat) (10 ^ (-e).toNat) := by
  simp only [toBinary64, Nat.pow_eq]
  rw [if_neg (by omega), if_neg (by omega)]
  by_cases he : 0 ≤ e
  · have hzero : (-e).toNat = 0 := by
      omega
    rw [if_pos he, hzero, pow_zero]
  · have hzero : e.toNat = 0 := by
      omega
    rw [if_neg he, hzero, pow_zero, Nat.mul_one]

theorem toBinary64_mul_ten (negative : Bool) (c : Nat) (e : Int) :
    toBinary64 ⟨negative, c * 10, e⟩ = toBinary64 ⟨negative, c, e + 1⟩ := by
  rcases Nat.eq_zero_or_pos c with rfl | hc
  · rw [Nat.zero_mul, toBinary64_zero, toBinary64_zero]
  · have hsize : ((Text.ofNat (c * 10)).length : Int) + e = (Text.ofNat c).length + (e + 1) := by
      rw [Text.ofNat_mul_ten hc, List.length_append, List.length_singleton]
      omega
    -- Moving the zero into the exponent leaves the number of digits in front of the point as it is,
    -- so both literals are on the same side of the bounds.
    by_cases hlow : -400 ≤ ((Text.ofNat c).length : Int) + (e + 1)
    · by_cases hhigh : ((Text.ofNat c).length : Int) + (e + 1) ≤ 400
      · rw [toBinary64_eq_ofRatio (by omega) (by omega) (by omega),
          toBinary64_eq_ofRatio hc hlow hhigh]
        by_cases he : 0 ≤ e
        · have hexp : (e + 1).toNat = e.toNat + 1 := by
            omega
          have hzero : (-e).toNat = 0 := by
            omega
          have hzero' : (-(e + 1)).toNat = 0 := by
            omega
          rw [hexp, hzero, hzero', pow_succ, Nat.mul_assoc, Nat.mul_comm 10]
        · have hexp : (-e).toNat = (-(e + 1)).toNat + 1 := by
            omega
          have hzero : e.toNat = 0 := by
            omega
          have hzero' : (e + 1).toNat = 0 := by
            omega
          rw [hexp, hzero, hzero', pow_zero, Nat.mul_one, Nat.mul_one, pow_succ, ofRatio, ofRatio,
            nearestOrdinal_mul c (Nat.pow_pos (by decide)) (by decide)]
      · simp only [toBinary64]
        rw [if_neg (by omega), if_pos (by omega), if_neg (by omega), if_pos (by omega)]
    · simp only [toBinary64]
      rw [if_pos (by omega), if_pos (by omega)]

/-- Zeros at the end of a coefficient count as powers of ten. -/
theorem toBinary64_mul_pow (negative : Bool) (c k : Nat) (e : Int) :
    toBinary64 ⟨negative, c * 10 ^ k, e⟩ = toBinary64 ⟨negative, c, e + k⟩ := by
  induction k generalizing e with
  | zero => rw [pow_zero, Nat.mul_one, Int.natCast_zero, Int.add_zero]
  | succ k ih =>
      rw [pow_succ, ← Nat.mul_assoc, toBinary64_mul_ten, ih]
      congr 2
      omega

/-!
# Literals near a number
-/

theorem pow_two_le_pow_ten (n : Nat) : 2 ^ (3 * n) ≤ 10 ^ n := by
  rw [pow_mul]
  exact Nat.pow_le_pow_left (by decide) n

theorem exists_unitsPerOne_eq : ∃ u, u = 1074 ∧ unitsPerOne = 2 ^ u :=
  ⟨_, rfl, rfl⟩

theorem unitsPerOne_le : ∃ p, p ≤ 358 ∧ unitsPerOne ≤ 10 ^ p := by
  rcases exists_unitsPerOne_eq with ⟨u, hu, hunits⟩
  refine ⟨u / 3, by omega, ?_⟩
  have hthree : u = 3 * (u / 3) := by
    omega
  rw [hunits]
  calc 2 ^ u = 2 ^ (3 * (u / 3)) := congrArg (2 ^ ·) hthree
    _ ≤ 10 ^ (u / 3) := pow_two_le_pow_ten _

theorem magnitudeOf_lt {m : Nat} (h : m < ordinalBound) :
    ∃ p, p ≤ 342 ∧ magnitudeOf m < unitsPerOne * 10 ^ p := by
  rcases exists_unitsPerOne_eq with ⟨u, hu, hunits⟩
  have hscale : scaleOf m ≤ 2045 := by
    have hsum := significandOf_add_scaleOf m
    have hlow := @binade_le_significandOf m
    rw [binade_eq] at hsum hlow
    change m < 0x7FF <<< 52 at h
    rw [Nat.shiftLeft_eq] at h
    omega
  generalize hp : (scaleOf m + 55 - u) / 3 = p
  refine ⟨p, by omega, ?_⟩
  calc magnitudeOf m = significandOf m * 2 ^ scaleOf m := magnitudeOf_eq m
    _ < 2 * 2 ^ 52 * 2 ^ scaleOf m :=
        Nat.mul_lt_mul_of_pos_right (significandOf_lt m) (Nat.pow_pos (by decide))
    _ = 2 ^ (53 + scaleOf m) := by rw [← pow_succ', ← pow_add]
    _ ≤ 2 ^ (u + 3 * p) := Nat.pow_le_pow_right (by decide) (by omega)
    _ = unitsPerOne * 2 ^ (3 * p) := by rw [pow_add, hunits]
    _ ≤ unitsPerOne * 10 ^ p := Nat.mul_le_mul_left _ (pow_two_le_pow_ten p)

/-- A literal nearer to a number than 2⁻⁵⁴ of it stands for that number. -/
theorem toBinary64_of_near {k m : Nat} {e : Int} (hm : 0 < m) (hbound : m < ordinalBound)
    (habove : 2 ^ 54 * (k * (unitsPerOne * 10 ^ e.toNat)) <
      (2 ^ 54 + 1) * (magnitudeOf m * 10 ^ (-e).toNat))
    (hbelow : (2 ^ 54 - 1) * (magnitudeOf m * 10 ^ (-e).toNat) <
      2 ^ 54 * (k * (unitsPerOne * 10 ^ e.toNat))) :
    toBinary64 ⟨false, k, e⟩ = ofOrdinal false m := by
  have hpow (n : Nat) : 0 < 10 ^ n := Nat.pow_pos (by decide)
  have hk : 0 < k := by
    rcases Nat.eq_zero_or_pos k with rfl | hk
    · rw [Nat.zero_mul] at hbelow
      omega
    · exact hk
  -- Out of these bounds the size of a literal alone decides, so both have to be met first.
  have hupper : (Text.ofNat k).length + e ≤ 400 := by
    rcases magnitudeOf_lt hbound with ⟨p, hp, hmagnitude⟩
    have hless : 10 ^ ((Text.ofNat k).length - 1 + e.toNat) < 10 ^ (p + 1 + (-e).toNat) := by
      apply Nat.lt_of_mul_lt_mul_left (a := unitsPerOne)
      calc unitsPerOne * 10 ^ ((Text.ofNat k).length - 1 + e.toNat)
          = 10 ^ ((Text.ofNat k).length - 1) * (unitsPerOne * 10 ^ e.toNat) := by ring
        _ ≤ k * (unitsPerOne * 10 ^ e.toNat) :=
            Nat.mul_le_mul_right _ (Text.pow_ofNat_length_le hk)
        _ ≤ 10 * (magnitudeOf m * 10 ^ (-e).toNat) := by omega
        _ < 10 * (unitsPerOne * 10 ^ p * 10 ^ (-e).toNat) :=
            Nat.mul_lt_mul_of_pos_left
              (Nat.mul_lt_mul_of_pos_right hmagnitude (hpow _)) (by decide)
        _ = unitsPerOne * 10 ^ (p + 1 + (-e).toNat) := by ring
    have hexp := (Nat.pow_lt_pow_iff_right (by decide)).mp hless
    omega
  have hlower : -400 ≤ (Text.ofNat k).length + e := by
    rcases unitsPerOne_le with ⟨p, hp, hunits⟩
    have hless : 10 ^ (-e).toNat < 10 ^ ((Text.ofNat k).length + (p + 1) + e.toNat) := by
      calc 10 ^ (-e).toNat ≤ magnitudeOf m * 10 ^ (-e).toNat :=
            Nat.le_mul_of_pos_left _ (magnitudeOf_pos hm)
        _ < 10 * (k * (unitsPerOne * 10 ^ e.toNat)) := by omega
        _ ≤ 10 * (10 ^ (Text.ofNat k).length * (10 ^ p * 10 ^ e.toNat)) :=
            Nat.mul_le_mul_left _
              (Nat.mul_le_mul (Nat.le_of_lt (Text.lt_pow_ofNat_length k))
                (Nat.mul_le_mul_right _ hunits))
        _ = 10 ^ ((Text.ofNat k).length + (p + 1) + e.toNat) := by ring
    have hexp := (Nat.pow_lt_pow_iff_right (by decide)).mp hless
    omega
  have hnum : k * 10 ^ e.toNat * unitsPerOne = k * (unitsPerOne * 10 ^ e.toNat) := by
    ring
  rw [toBinary64_eq_ofRatio hk hlower hupper, ofRatio,
    nearestOrdinal_of_near (hpow _) (by rw [hnum]; exact habove) (by rw [hnum]; exact hbelow)]

end Decimal
end RuleDraft
