import Mathlib.Data.List.Induction
import Mathlib.Tactic.Ring
import RuleDraft.Number.Numeral

/-!
# Decimal digits of natural numbers

The digits of a number give the number back, and their count bounds it by powers
of ten from both sides.
-/

namespace RuleDraft
namespace CodePoint

theorem hexDigit_val {d : Nat} (h : d < 10) : (hexDigit d).val = 48 + d := by
  have hbound : 48 + d < 0x110000 := by
    omega
  rw [hexDigit, if_pos h, ofNat, dif_pos hbound]

theorem isAsciiDigit_hexDigit {d : Nat} (h : d < 10) : (hexDigit d).isAsciiDigit = true := by
  rw [isAsciiDigit, hexDigit_val h, Bool.and_eq_true, decide_eq_true_eq, decide_eq_true_eq]
  omega

theorem isAsciiDigit_iff {c : CodePoint} :
    c.isAsciiDigit = true ↔ 48 ≤ c.val ∧ c.val ≤ 57 := by
  rw [isAsciiDigit, Bool.and_eq_true, decide_eq_true_eq, decide_eq_true_eq]

theorem isDigit_of_isAsciiDigit {c : CodePoint} (h : c.isAsciiDigit = true) :
    c.isDigit = true := by
  rw [isDigit, digitValue?, if_pos h]
  rfl

theorem digitValue?_hexDigit {d : Nat} (h : d < 10) : (hexDigit d).digitValue? = some d := by
  rw [digitValue?, if_pos (isAsciiDigit_hexDigit h), hexDigit_val h, Nat.add_sub_cancel_left]

end CodePoint

namespace Text

/-!
# The value of digits
-/

theorem digitsValue_append_one (t : Text) (c : CodePoint) :
    digitsValue (t ++ [c]) = 10 * digitsValue t + c.digitValue?.getD 0 := by
  unfold digitsValue
  rw [List.foldl_append]
  rfl

theorem digitsValue_append (s t : Text) :
    digitsValue (s ++ t) = digitsValue s * 10 ^ t.length + digitsValue t := by
  induction t using List.reverseRecOn with
  | nil => rw [List.append_nil, List.length_nil, pow_zero, Nat.mul_one]; rfl
  | append_singleton t c ih =>
      rw [← List.append_assoc, digitsValue_append_one, digitsValue_append_one, ih,
        List.length_append, List.length_singleton]
      ring

theorem digitsValue_zeros (k : Nat) :
    digitsValue (List.replicate k (CodePoint.ofChar '0')) = 0 := by
  induction k with
  | zero => rfl
  | succ k ih =>
      rw [List.replicate_succ', digitsValue_append_one, ih]
      rfl

theorem digitsValue_zeros_append (k : Nat) (t : Text) :
    digitsValue (List.replicate k (CodePoint.ofChar '0') ++ t) = digitsValue t := by
  rw [digitsValue_append, digitsValue_zeros, Nat.zero_mul, Nat.zero_add]

theorem digitsValue_append_zeros (t : Text) (k : Nat) :
    digitsValue (t ++ List.replicate k (CodePoint.ofChar '0')) = digitsValue t * 10 ^ k := by
  rw [digitsValue_append, digitsValue_zeros, List.length_replicate, Nat.add_zero]

/-!
# Digits one by one
-/

theorem natThen_eq (n : Nat) (tail : Text) : natThen n tail = ofNat n ++ tail := by
  induction n using Nat.strong_induction_on generalizing tail with
  | _ n ih =>
      by_cases hone : n < 10
      · unfold ofNat
        rw [natThen.eq_1 n tail, natThen.eq_1 n [], dif_pos hone, dif_pos hone]
        rfl
      · have hless : n / 10 < n := by
          omega
        unfold ofNat
        rw [natThen.eq_1 n tail, natThen.eq_1 n [], dif_neg hone, dif_neg hone, ih _ hless,
          ih _ hless, List.append_assoc]
        rfl

theorem ofNat_of_lt {n : Nat} (h : n < 10) : ofNat n = [CodePoint.hexDigit n] := by
  rw [ofNat, natThen, dif_pos h]

theorem ofNat_of_le {n : Nat} (h : 10 ≤ n) :
    ofNat n = ofNat (n / 10) ++ [CodePoint.hexDigit (n % 10)] := by
  rw [ofNat, natThen, dif_neg (by omega), natThen_eq]

/-- A property of one-digit numbers that a further digit keeps holds of every number. -/
theorem digit_induction {P : Nat → Prop} (one : ∀ n, n < 10 → P n)
    (more : ∀ n, 10 ≤ n → P (n / 10) → P n) (n : Nat) : P n := by
  induction n using Nat.strong_induction_on with
  | _ n ih =>
      by_cases h : n < 10
      · exact one n h
      · exact more n (by omega) (ih (n / 10) (by omega))

theorem digitsValue_ofNat (n : Nat) : digitsValue (ofNat n) = n := by
  induction n using digit_induction with
  | one n h =>
      rw [ofNat_of_lt h]
      change 10 * 0 + (CodePoint.hexDigit n).digitValue?.getD 0 = n
      rw [CodePoint.digitValue?_hexDigit h, Option.getD_some]
      omega
  | more n h ih =>
      have hdigit : n % 10 < 10 := Nat.mod_lt n (by decide)
      rw [ofNat_of_le h, digitsValue_append_one, ih, CodePoint.digitValue?_hexDigit hdigit,
        Option.getD_some]
      omega

theorem ofNat_injective {m n : Nat} (h : ofNat m = ofNat n) : m = n := by
  rw [← digitsValue_ofNat m, h, digitsValue_ofNat]

theorem isAsciiDigit_of_mem_ofNat {n : Nat} :
    ∀ c ∈ ofNat n, c.isAsciiDigit = true := by
  induction n using digit_induction with
  | one n h =>
      intro c hc
      rw [ofNat_of_lt h, List.mem_singleton] at hc
      rw [hc]
      exact CodePoint.isAsciiDigit_hexDigit h
  | more n h ih =>
      intro c hc
      rw [ofNat_of_le h, List.mem_append, List.mem_singleton] at hc
      rcases hc with hc | hc
      · exact ih c hc
      · rw [hc]
        exact CodePoint.isAsciiDigit_hexDigit (Nat.mod_lt n (by decide))

theorem ofNat_ne_nil (n : Nat) : ofNat n ≠ [] := by
  induction n using digit_induction with
  | one n h =>
      rw [ofNat_of_lt h]
      exact List.cons_ne_nil _ _
  | more n h ih =>
      rw [ofNat_of_le h]
      exact List.append_ne_nil_of_right_ne_nil _ (List.cons_ne_nil _ _)

/-- No digits of a positive number start with a zero. -/
theorem ofNat_head_ne_zero {n : Nat} (hpos : 0 < n) :
    (ofNat n).head? ≠ some (CodePoint.ofChar '0') := by
  induction n using digit_induction with
  | one n h =>
      rw [ofNat_of_lt h, List.head?_cons]
      intro heq
      have hval := congrArg Fin.val (Option.some.inj heq)
      rw [CodePoint.hexDigit_val h] at hval
      change 48 + n = 48 at hval
      omega
  | more n h ih =>
      have hrest := ih (by omega)
      rw [ofNat_of_le h]
      cases hdigits : ofNat (n / 10) with
      | nil => exact absurd hdigits (ofNat_ne_nil _)
      | cons c digits =>
          rw [hdigits] at hrest
          exact hrest

/-!
# The count of digits
-/

theorem ofNat_mul_ten {n : Nat} (hpos : 0 < n) :
    ofNat (n * 10) = ofNat n ++ [CodePoint.ofChar '0'] := by
  have hle : 10 ≤ n * 10 := by
    omega
  rw [ofNat_of_le hle, Nat.mul_div_cancel n (by decide), Nat.mul_mod_left]
  rfl

theorem ofNat_length_pos (n : Nat) : 0 < (ofNat n).length :=
  List.length_pos_iff.mpr (ofNat_ne_nil n)

theorem lt_pow_ofNat_length (n : Nat) : n < 10 ^ (ofNat n).length := by
  induction n using digit_induction with
  | one n h =>
      rw [ofNat_of_lt h]
      exact h
  | more n h ih =>
      rw [ofNat_of_le h, List.length_append, List.length_singleton, pow_succ]
      omega

theorem pow_ofNat_length_le {n : Nat} (hpos : 0 < n) : 10 ^ ((ofNat n).length - 1) ≤ n := by
  induction n using digit_induction with
  | one n h =>
      rw [ofNat_of_lt h]
      exact hpos
  | more n h ih =>
      have hlength := ofNat_length_pos (n / 10)
      have hrest := ih (by omega)
      rw [ofNat_of_le h, List.length_append, List.length_singleton, Nat.add_sub_cancel]
      calc 10 ^ (ofNat (n / 10)).length
          = 10 ^ ((ofNat (n / 10)).length - 1) * 10 := by
            rw [← pow_succ, Nat.sub_add_cancel hlength]
        _ ≤ n / 10 * 10 := Nat.mul_le_mul_right 10 hrest
        _ ≤ n := Nat.div_mul_le_self n 10

theorem ofNat_length_le {n k : Nat} (hk : 0 < k) (h : n < 10 ^ k) : (ofNat n).length ≤ k := by
  rcases Nat.eq_zero_or_pos n with rfl | hpos
  · rw [ofNat_of_lt (by decide)]
    exact hk
  · have hpow : 10 ^ ((ofNat n).length - 1) < 10 ^ k :=
      Nat.lt_of_le_of_lt (pow_ofNat_length_le hpos) h
    have hexp := (Nat.pow_lt_pow_iff_right (by decide)).mp hpow
    omega

end Text
end RuleDraft
