import Mathlib.Tactic.SplitIfs
import RuleDraft.Text.Utf8

/-!
# The octets of a text determine the text

The first octet of a code point tells how many octets it has, so no encoding is the
start of another one.  Surrogates have encodings of their own.
-/

namespace RuleDraft
namespace CodePoint

def octetNumbers (n : Nat) : List Nat :=
  if n < 0x80 then [n]
  else if n < 0x800 then [0xC0 + n / 64, 0x80 + n % 64]
  else if n < 0x10000 then [0xE0 + n / 4096, 0x80 + n / 64 % 64, 0x80 + n % 64]
  else [0xF0 + n / 262144, 0x80 + n / 4096 % 64, 0x80 + n / 64 % 64, 0x80 + n % 64]

theorem toNat_ofNat_octet {n : Nat} (h : n < 256) : (UInt8.ofNat n).toNat = n := by
  rw [UInt8.toNat_ofNat']
  exact Nat.mod_eq_of_lt h

theorem toOctets_toNat (c : CodePoint) : c.toOctets.map UInt8.toNat = octetNumbers c.val := by
  have hbound := c.isLt
  have htail (n : Nat) : (UInt8.ofNat (0x80 + n % 64)).toNat = 0x80 + n % 64 :=
    toNat_ofNat_octet (by omega)
  unfold toOctets octetNumbers
  simp only [Nat.div_one]
  split_ifs with h₁ h₂ h₃
  · rw [List.map_singleton, toNat_ofNat_octet (by omega)]
  · simp only [List.map_cons, List.map_nil, htail]
    rw [toNat_ofNat_octet (by omega)]
  · simp only [List.map_cons, List.map_nil, htail]
    rw [toNat_ofNat_octet (by omega)]
  · simp only [List.map_cons, List.map_nil, htail]
    rw [toNat_ofNat_octet (by omega)]

/-- The first octet tells the number of octets. -/
theorem octetNumbers_length {m n : Nat} (hm : m < 0x110000) (hn : n < 0x110000)
    (h : (octetNumbers m).head? = (octetNumbers n).head?) :
    (octetNumbers m).length = (octetNumbers n).length := by
  unfold octetNumbers at h ⊢
  split_ifs at h ⊢ <;> first | rfl | (injection h; omega)

theorem octetNumbers_inj {m n : Nat} (h : octetNumbers m = octetNumbers n) : m = n := by
  unfold octetNumbers at h
  split_ifs at h <;> simp only [List.cons.injEq, and_true, reduceCtorEq, and_false] at h <;> omega

theorem octetNumbers_ne_nil (n : Nat) : octetNumbers n ≠ [] := by
  unfold octetNumbers
  split_ifs <;> exact List.cons_ne_nil _ _

/-- No encoding is the start of another one. -/
theorem octetNumbers_append_inj {m n : Nat} {s t : List Nat} (hm : m < 0x110000)
    (hn : n < 0x110000) (h : octetNumbers m ++ s = octetNumbers n ++ t) : m = n ∧ s = t := by
  have hhead : (octetNumbers m).head? = (octetNumbers n).head? := by
    have hfirst := congrArg List.head? h
    cases hm' : octetNumbers m with
    | nil => exact absurd hm' (octetNumbers_ne_nil m)
    | cons a as =>
        cases hn' : octetNumbers n with
        | nil => exact absurd hn' (octetNumbers_ne_nil n)
        | cons b bs =>
            rw [hm', hn'] at hfirst
            exact hfirst
  rcases List.append_inj h (octetNumbers_length hm hn hhead) with ⟨hnumbers, hrest⟩
  exact ⟨octetNumbers_inj hnumbers, hrest⟩

theorem toOctets_append_inj {c d : CodePoint} {s t : List UInt8}
    (h : c.toOctets ++ s = d.toOctets ++ t) : c = d ∧ s = t := by
  have hnumbers := congrArg (List.map UInt8.toNat) h
  rw [List.map_append, List.map_append, toOctets_toNat, toOctets_toNat] at hnumbers
  rcases octetNumbers_append_inj c.isLt d.isLt hnumbers with ⟨hval, _⟩
  have hcd : c = d := Fin.ext hval
  rw [hcd] at h
  exact ⟨hcd, List.append_cancel_left h⟩

theorem toOctets_ne_nil (c : CodePoint) : c.toOctets ≠ [] := by
  intro hnil
  have hnumbers := toOctets_toNat c
  rw [hnil] at hnumbers
  exact octetNumbers_ne_nil c.val hnumbers.symm

end CodePoint

namespace Text

theorem toUtf8_cons (c : CodePoint) (t : Text) :
    toUtf8 (c :: t) = c.toOctets ++ toUtf8 t :=
  List.flatMap_cons

theorem toUtf8_inj {s t : Text} (h : s.toUtf8 = t.toUtf8) : s = t := by
  induction s generalizing t with
  | nil =>
      cases t with
      | nil => rfl
      | cons d t =>
          rw [toUtf8_cons] at h
          exact absurd h.symm (List.append_ne_nil_of_left_ne_nil (CodePoint.toOctets_ne_nil d) _)
  | cons c s ih =>
      cases t with
      | nil =>
          rw [toUtf8_cons] at h
          exact absurd h (List.append_ne_nil_of_left_ne_nil (CodePoint.toOctets_ne_nil c) _)
      | cons d t =>
          rw [toUtf8_cons, toUtf8_cons] at h
          rcases CodePoint.toOctets_append_inj h with ⟨hcd, hrest⟩
          rw [hcd, ih hrest]

end Text
end RuleDraft
