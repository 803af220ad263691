import Mathlib.Data.List.Chain
import RuleDraft.Proofs.Json.Documents

/-!
# Strings in ASCII

A writer of ASCII escapes every code point outside of it, one above U+FFFF as a pair of
units.  A reader takes an escaped high unit and an escaped low one right behind it for such a
pair, whatever they were written for.  So a string is read back from ASCII when none of its own
high surrogates has a low one right behind it.
-/

namespace RuleDraft

/-- No high surrogate is directly followed by a low one. -/
def Text.Unpaired (t : Text) : Prop :=
  List.IsChain (fun c d => ¬ (c.isHighSurrogate = true ∧ d.isLowSurrogate = true)) t

instance (t : Text) : Decidable t.Unpaired :=
  inferInstanceAs (Decidable (List.IsChain _ t))

namespace Json

variable {opening high n : Nat} {c : CodePoint} {rest : Text}

/-!
# What stands behind a high unit
-/

theorem pairing_escapedUnit (hn : n < 0x10000) (hlow : ¬ (0xDC00 ≤ n ∧ n ≤ 0xDFFF)) :
    pairing high (escapedUnit n ++ rest) = .apart := by
  rcases hex4?_hexPadded hn with ⟨a, b, d, e, hpadded, hvalue⟩
  rw [escapedUnit, hpadded]
  cases rest with
  | nil => rfl
  | cons y more =>
      simp only [List.cons_append, List.nil_append, pairing, and_self, if_true, hvalue,
        if_neg hlow]

/-- What is written for a code point completes no pair, unless it is a low surrogate. -/
theorem pairing_escape (hc : c.isLowSurrogate = false) :
    pairing high (escape true c ++ rest) = .apart := by
  have hlow : ¬ (0xDC00 ≤ c.val ∧ c.val ≤ 0xDFFF) := by
    simpa [CodePoint.isLowSurrogate] using hc
  unfold escape
  cases hshort : shortEscape? c with
  | some letter =>
      refine pairing_apart ?_ high
      rintro ⟨a, b, d, e, y, more, heq⟩
      exact (shortEscaped?_of_shortEscape? hshort).left
        (List.cons.inj (List.cons.inj heq).right).left
  | none =>
      by_cases hcontrol : c.val < 0x20
      · simp only [if_pos hcontrol]
        exact pairing_escapedUnit (by omega) hlow
      · by_cases hascii : 0x7F ≤ c.val
        · simp only [if_neg hcontrol, Bool.true_and, decide_eq_true hascii, if_true]
          by_cases hunit : c.val < 0x10000
          · rw [escapedCodePoint, if_pos hunit]
            exact pairing_escapedUnit hunit hlow
          · -- The first unit of a pair is a high one.
            have hless := c.isLt
            rw [escapedCodePoint, if_neg hunit, List.append_assoc]
            exact pairing_escapedUnit (by omega) (by omega)
        · simp only [if_neg hcontrol, Bool.true_and, decide_eq_false hascii, Bool.false_eq_true,
            if_false]
          refine pairing_apart ?_ high
          rintro ⟨a, b, d, e, y, more, heq⟩
          rw [(List.cons.inj heq).left] at hshort
          cases hshort

theorem pairing_insideAs {t : Text} (h : ∀ d ∈ t.head?, d.isLowSurrogate = false) (tail : Text) :
    pairing high (insideAs true t tail) = .apart := by
  cases t with
  | nil =>
      refine pairing_apart ?_ high
      rintro ⟨a, b, d, e, y, more, heq⟩
      exact absurd (List.cons.inj heq).left (by decide)
  | cons d t => exact pairing_escape (h d rfl)

/-!
# Escaped code points read back
-/

/-- The pair of units for a code point above U+FFFF is read as that code point. -/
theorem readText_escapedPair (h : ¬ c.val < 0x10000) (hrest : rest ≠ []) :
    readText opening (escapedCodePoint c ++ rest) = (readText opening rest).map (inFront c) := by
  have hless := c.isLt
  rcases hex4?_hexPadded (n := 0xD800 + (c.val - 0x10000) / 0x400) (by omega)
    with ⟨a, b, d, e, hhigh, hhighValue⟩
  rcases hex4?_hexPadded (n := 0xDC00 + (c.val - 0x10000) % 0x400) (by omega)
    with ⟨f, g, i, j, hlow, hlowValue⟩
  rcases List.exists_cons_of_ne_nil hrest with ⟨y, more, rfl⟩
  rw [escapedCodePoint, if_neg h, escapedUnit, escapedUnit, hhigh, hlow]
  refine readText_pair hhighValue (by omega) ?_
  have hjoined : 0x10000 + (0xD800 + (c.val - 0x10000) / 0x400 - 0xD800) * 0x400 +
      (0xDC00 + (c.val - 0x10000) % 0x400 - 0xDC00) = c.val := by
    omega
  change pairing _
    (CodePoint.ofChar '\\' :: CodePoint.ofChar 'u' :: f :: g :: i :: j :: y :: more) = _
  simp only [pairing, and_self, if_true, hlowValue]
  rw [if_pos (by omega), hjoined, CodePoint.ofNat_val]

theorem readText_escapedCodePoint (hrest : rest ≠ [])
    (halone : c.isHighSurrogate = true → pairing c.val rest = .apart) :
    readText opening (escapedCodePoint c ++ rest) = (readText opening rest).map (inFront c) := by
  by_cases hunit : c.val < 0x10000
  · rw [escapedCodePoint, if_pos hunit]
    rw [readText_escapedUnit hunit (fun hge hle => halone ?_) hrest, CodePoint.ofNat_val]
    rw [CodePoint.isHighSurrogate, decide_eq_true hge, decide_eq_true hle]
    rfl
  · exact readText_escapedPair hunit hrest

theorem readText_escape_ascii (hrest : rest ≠ [])
    (halone : c.isHighSurrogate = true → pairing c.val rest = .apart) :
    readText opening (escape true c ++ rest) = (readText opening rest).map (inFront c) := by
  unfold escape
  cases hshort : shortEscape? c with
  | some letter => exact readText_shortEscape hshort hrest
  | none =>
      by_cases hcontrol : c.val < 0x20
      · simp only [if_pos hcontrol]
        exact readText_control hcontrol hrest
      · by_cases hascii : 0x7F ≤ c.val
        · simp only [if_neg hcontrol, Bool.true_and, decide_eq_true hascii, if_true]
          exact readText_escapedCodePoint hrest halone
        · simp only [if_neg hcontrol, Bool.true_and, decide_eq_false hascii, Bool.false_eq_true,
            if_false]
          exact readText_plain hshort hcontrol

/-- A string in ASCII is read back, and what follows it is left. -/
theorem readText_insideAs {t : Text} (ht : t.Unpaired) (opening : Nat) (tail : Text) :
    readText opening (insideAs true t tail) = .ok (t, tail) := by
  induction t with
  | nil => exact readText_quote tail
  | cons c t ih =>
      -- A high surrogate needs to know what is written behind it, any other code point does not.
      rcases List.isChain_cons.mp ht with ⟨hnext, hchain⟩
      have halone (hhigh : c.isHighSurrogate = true) :
          pairing c.val (insideAs true t tail) = .apart := by
        refine pairing_insideAs (fun d hd => ?_) tail
        exact Bool.eq_false_iff.mpr fun hlow => hnext d hd ⟨hhigh, hlow⟩
      change readText opening (escape true c ++ insideAs true t tail) = _
      rw [readText_escape_ascii (insideAs_ne_nil true t tail) halone, ih hchain]
      rfl

theorem Style.asciiLine_restores : Style.asciiLine.Restores Text.Unpaired where
  toAiry := Style.asciiLine_airy
  readText ht opening tail := readText_insideAs ht opening tail

end Json
end RuleDraft
