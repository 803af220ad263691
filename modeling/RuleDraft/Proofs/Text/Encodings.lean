import Mathlib.Tactic.SplitIfs
import RuleDraft.Proofs.Intake.Settled
import RuleDraft.Proofs.Outcome
import RuleDraft.Proofs.Text.Characters
import RuleDraft.Proofs.Text.Octets

/-!
# Octets read back strictly

The strict reader takes one encoding after the other.  A code point that is no
surrogate is what its octets are read as, whatever follows them, and no octets at all
are read as a surrogate.  So a text is read back from its octets exactly when no code
point of it is a surrogate.  A reader that admits surrogates reads such a text back too.
-/

namespace RuleDraft

theorem CodePoint.isSurrogate_eq_false_iff {c : CodePoint} :
    c.isSurrogate = false ↔ c.val < 0xD800 ∨ 0xDFFF < c.val := by
  rw [isSurrogate, Bool.and_eq_false_iff, decide_eq_false_iff_not, decide_eq_false_iff_not]
  omega

namespace Utf8

/-!
# One encoding

The lead octet tells the width, and the range of the second octet keeps overlong forms
and surrogates out.
-/

section Step

variable {surrogates : Bool} {a b c d : UInt8}

def Continues (b : UInt8) : Prop := 0x80 ≤ b ∧ b ≤ 0xBF

def Follows (a b : UInt8) : Prop := (secondRange false a).1 ≤ b ∧ b ≤ (secondRange false a).2

theorem continues_of_toNat (h : 0x80 ≤ b.toNat ∧ b.toNat ≤ 0xBF) : Continues b :=
  ⟨UInt8.le_iff_toNat_le.mpr h.left, UInt8.le_iff_toNat_le.mpr h.right⟩

theorem follows_of_toNat (h : 0x80 ≤ b.toNat ∧ b.toNat ≤ 0xBF)
    (hE0 : a.toNat = 0xE0 → 0xA0 ≤ b.toNat) (hED : a.toNat = 0xED → b.toNat ≤ 0x9F)
    (hF0 : a.toNat = 0xF0 → 0x90 ≤ b.toNat) (hF4 : a.toNat = 0xF4 → b.toNat ≤ 0x8F) :
    Follows a b := by
  rcases continues_of_toNat h with ⟨hlow, hhigh⟩
  unfold Follows secondRange
  split_ifs with h₀ h₁ h₂ h₃ h₄
  · exact ⟨UInt8.le_iff_toNat_le.mpr (hE0 (congrArg UInt8.toNat h₀)), hhigh⟩
  · contradiction
  · exact ⟨hlow, UInt8.le_iff_toNat_le.mpr (hED (congrArg UInt8.toNat h₁))⟩
  · exact ⟨UInt8.le_iff_toNat_le.mpr (hF0 (congrArg UInt8.toNat h₃)), hhigh⟩
  · exact ⟨hlow, UInt8.le_iff_toNat_le.mpr (hF4 (congrArg UInt8.toNat h₄))⟩
  · exact ⟨hlow, hhigh⟩

theorem step?_one (ha : a.toNat < 0x80) (rest : List UInt8) :
    step? surrogates (a :: rest) = some (.found (CodePoint.ofNat a.toNat) 1) := by
  have hlead : a < 0x80 := UInt8.lt_iff_toNat_lt.mpr ha
  grind [step?]

theorem step?_two (ha : 0xC2 ≤ a.toNat ∧ a.toNat < 0xE0) (hb : Continues b)
    (rest : List UInt8) :
    step? surrogates (a :: b :: rest) =
      some (.found (CodePoint.ofNat (a.toNat % 32 * 64 + low6 b)) 2) := by
  have hlow : 0xC2 ≤ a := UInt8.le_iff_toNat_le.mpr ha.left
  have hhigh : a < 0xE0 := UInt8.lt_iff_toNat_lt.mpr ha.right
  grind [step?, secondRange, Continues]

theorem step?_three (ha : 0xE0 ≤ a.toNat ∧ a.toNat < 0xF0) (hb : Follows a b)
    (hc : Continues c) (rest : List UInt8) :
    step? surrogates (a :: b :: c :: rest) =
      some (.found (CodePoint.ofNat ((a.toNat % 16 * 64 + low6 b) * 64 + low6 c)) 3) := by
  have hlow : 0xE0 ≤ a := UInt8.le_iff_toNat_le.mpr ha.left
  have hhigh : a < 0xF0 := UInt8.lt_iff_toNat_lt.mpr ha.right
  grind [step?, isContinuation, secondRange, Continues, Follows]

theorem step?_four (ha : 0xF0 ≤ a.toNat ∧ a.toNat < 0xF5) (hb : Follows a b)
    (hc : Continues c) (hd : Continues d) (rest : List UInt8) :
    step? surrogates (a :: b :: c :: d :: rest) =
      some (.found
        (CodePoint.ofNat (((a.toNat % 8 * 64 + low6 b) * 64 + low6 c) * 64 + low6 d)) 4) := by
  have hlow : 0xF0 ≤ a := UInt8.le_iff_toNat_le.mpr ha.left
  have hhigh : a < 0xF5 := UInt8.lt_iff_toNat_lt.mpr ha.right
  grind [step?, isContinuation, secondRange, Continues, Follows]

end Step

/-!
# The octets of a code point

Every octet behind the lead octet goes on with the encoding and holds six bits.
-/

theorem tail_octet (n : Nat) :
    (UInt8.ofNat (0x80 + n % 64)).toNat = 0x80 + n % 64 :=
  CodePoint.toNat_ofNat_octet (by omega)

theorem low6_tail (n : Nat) : low6 (UInt8.ofNat (0x80 + n % 64)) = n % 64 := by
  rw [low6, tail_octet]
  omega

theorem continues_tail (n : Nat) : Continues (UInt8.ofNat (0x80 + n % 64)) := by
  apply continues_of_toNat
  rw [tail_octet]
  omega

/-- The octets of a code point that is no surrogate are read as the code point. -/
theorem step?_toOctets {surrogates : Bool} {c : CodePoint} (h : c.isSurrogate = false)
    (rest : List UInt8) :
    step? surrogates (c.toOctets ++ rest) = some (.found c c.toOctets.length) := by
  have hbound := c.isLt
  have hplain := CodePoint.isSurrogate_eq_false_iff.mp h
  have hlead (n : Nat) (hn : n < 256) := CodePoint.toNat_ofNat_octet hn
  have hback {n : Nat} (hn : n = c.val) : CodePoint.ofNat n = c := by
    rw [hn, CodePoint.ofNat_val]
  unfold CodePoint.toOctets
  simp only [Nat.div_one]
  -- One case for each number of octets.
  split_ifs with h₁ h₂ h₃
  · refine (step?_one ?lead rest).trans ?_
    case lead =>
      rw [hlead _ (by omega)]
      exact h₁
    rw [hlead _ (by omega), CodePoint.ofNat_val]
    rfl
  · refine (step?_two ?lead (continues_tail _) rest).trans ?_
    case lead =>
      rw [hlead _ (by omega)]
      omega
    rw [hlead _ (by omega), low6_tail, hback (by omega)]
    rfl
  · refine (step?_three ?lead ?second (continues_tail _) rest).trans ?_
    case lead =>
      rw [hlead _ (by omega)]
      omega
    case second =>
      have hfirst := hlead (0xE0 + c.val / 4096) (by omega)
      have hnext := tail_octet (c.val / 64)
      apply follows_of_toNat <;> omega
    rw [hlead _ (by omega), low6_tail, low6_tail, hback (by omega)]
    rfl
  · refine (step?_four ?lead ?second (continues_tail _) (continues_tail _) rest).trans ?_
    case lead =>
      rw [hlead _ (by omega)]
      omega
    case second =>
      have hfirst := hlead (0xF0 + c.val / 262144) (by omega)
      have hnext := tail_octet (c.val / 4096)
      apply follows_of_toNat <;> omega
    rw [hlead _ (by omega), low6_tail, low6_tail, low6_tail, hback (by omega)]
    rfl

/-- The octets of a surrogate are refused at the second one. -/
theorem step?_surrogate {c : CodePoint} (h : c.isSurrogate = true) (rest : List UInt8) :
    step? false (c.toOctets ++ rest) = some (.faulty .invalidContinuation 1) := by
  have hrange : 0xD800 ≤ c.val ∧ c.val ≤ 0xDFFF := by
    rw [CodePoint.isSurrogate, Bool.and_eq_true, decide_eq_true_eq, decide_eq_true_eq] at h
    exact h
  have hlead : UInt8.ofNat (0xE0 + c.val / 4096) = 0xED := by
    have hthirteen : c.val / 4096 = 13 := by omega
    rw [hthirteen]
    rfl
  have hsecond : 0x9F < UInt8.ofNat (0x80 + c.val / 64 % 64) := by
    apply UInt8.lt_iff_toNat_lt.mpr
    rw [tail_octet]
    change 0x9F < _
    omega
  unfold CodePoint.toOctets
  rw [if_neg (by omega), if_neg (by omega), if_pos (by omega), hlead]
  grind [step?, secondRange]

/-!
# All encodings
-/

theorem readFrom_toUtf8 {surrogates : Bool} {t : Text} (h : t.Encodable) {fuel : Nat}
    (hfuel : t.toUtf8.length ≤ fuel) (position : Nat) :
    readFrom surrogates fuel position t.toUtf8 = .ok t := by
  induction t generalizing fuel position with
  | nil => cases fuel <;> rfl
  | cons c t ih =>
      have hwidth : 0 < c.toOctets.length := List.length_pos_iff.mpr c.toOctets_ne_nil
      rw [Text.toUtf8_cons] at hfuel ⊢
      rw [List.length_append] at hfuel
      cases fuel with
      | zero => omega
      | succ fuel =>
          rw [readFrom, step?_toOctets (h c List.mem_cons_self)]
          dsimp only
          rw [List.drop_left, ih (fun d hd => h d (List.mem_cons_of_mem c hd)) (by omega)]
          rfl

theorem encodable_of_readFrom {t u : Text} {fuel position : Nat}
    (hfuel : t.toUtf8.length ≤ fuel) (h : readFrom false fuel position t.toUtf8 = .ok u) :
    t.Encodable := by
  induction t generalizing u fuel position with
  | nil =>
      intro c hc
      cases hc
  | cons c t ih =>
      have hwidth : 0 < c.toOctets.length := List.length_pos_iff.mpr c.toOctets_ne_nil
      rw [Text.toUtf8_cons] at hfuel h
      rw [List.length_append] at hfuel
      cases fuel with
      | zero => omega
      | succ fuel =>
          cases hc : c.isSurrogate with
          | true =>
              rw [readFrom, step?_surrogate hc] at h
              cases h
          | false =>
              rw [readFrom, step?_toOctets hc] at h
              dsimp only at h
              rw [List.drop_left] at h
              rcases map_eq_ok.mp h with ⟨rest, hrest, _⟩
              intro d hd
              rcases List.mem_cons.mp hd with rfl | hmem
              · exact hc
              · exact ih (by omega) hrest d hmem

theorem read_toUtf8_iff {t : Text} : read t.toUtf8 = .ok t ↔ t.Encodable :=
  ⟨encodable_of_readFrom (Nat.le_refl _), fun h => readFrom_toUtf8 h (Nat.le_refl _) 0⟩

theorem readWithSurrogates_toUtf8 {t : Text} (h : t.Encodable) :
    readWithSurrogates t.toUtf8 = .ok t :=
  readFrom_toUtf8 h (Nat.le_refl _) 0

end Utf8
end RuleDraft
