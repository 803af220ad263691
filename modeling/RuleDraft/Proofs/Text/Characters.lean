import RuleDraft.Text.CodePoint

/-!
# Characters of code points

A code point that shows as a character other than U+FFFD is the code point of that
character, and the code points of a string determine the string.
-/

namespace RuleDraft
namespace CodePoint

theorem toNat_ofNatAux (n : Nat) (h : n.isValidChar) : (Char.ofNatAux n h).toNat = n := by
  rfl

theorem toChar_ofChar (ch : Char) : (ofChar ch).toChar = ch := by
  have hvalid : (ofChar ch).val.isValidChar := ch.valid
  rw [toChar, dif_pos hvalid]
  apply Char.ext
  apply UInt32.toNat_inj.mp
  rfl

theorem eq_ofChar_of_toChar {c : CodePoint} {ch : Char} (hch : ch ≠ '\uFFFD')
    (h : c.toChar = ch) : c = ofChar ch := by
  by_cases hvalid : c.val.isValidChar
  · rw [toChar, dif_pos hvalid] at h
    apply Fin.ext
    change c.val = ch.toNat
    rw [← h, toNat_ofNatAux]
  · rw [toChar, dif_neg hvalid] at h
    exact absurd h.symm hch

theorem ofNat_val (c : CodePoint) : ofNat c.val = c := by
  rw [ofNat, dif_pos c.isLt]

end CodePoint

theorem Text.ofString_inj {s t : String} (h : Text.ofString s = Text.ofString t) : s = t := by
  have hchars (a b : Char) (hab : CodePoint.ofChar a = CodePoint.ofChar b) : a = b := by
    rw [← CodePoint.toChar_ofChar a, hab, CodePoint.toChar_ofChar]
  exact String.toList_inj.mp ((List.map_inj_right hchars).mp h)

/-- A text that shows as a string without U+FFFD is the text of that string. -/
theorem Text.eq_ofString_of_toString {t : Text} {s : String} (hs : '\uFFFD' ∉ s.toList)
    (h : t.toString = s) : t = Text.ofString s := by
  rw [← h, Text.toString, String.toList_ofList] at hs
  have hshown : ∀ c ∈ t, c = CodePoint.ofChar c.toChar := by
    intro c hc
    refine CodePoint.eq_ofChar_of_toChar ?_ rfl
    intro hch
    rw [← hch] at hs
    exact hs (List.mem_map_of_mem hc)
  calc t = t.map id := (List.map_id t).symm
    _ = t.map fun c => CodePoint.ofChar c.toChar := List.map_congr_left hshown
    _ = Text.ofString s := by
      rw [← h, Text.ofString, Text.toString, String.toList_ofList, List.map_map]
      rfl

end RuleDraft
