import RuleDraft.Proofs.Json.Numbers
import RuleDraft.Proofs.Json.Texts

/-!
# Tokens read back

A word, a number or a string is read as the value that it was written for.  What a
reader skips between tokens is what the layouts put there.
-/

namespace RuleDraft
namespace Json

open Text

variable {fuel room : Nat} {tail : Text}

/-!
# Numbers
-/

/-- A readable number is digits, behind a sign or not. -/
theorem head_of_readNumber {t : Text} {r : Value × Text} (h : readNumber t = .ok r) :
    ∃ negative c rest, t = signed negative (c :: rest) ∧ c.isAsciiDigit = true := by
  rcases readNumber_cases t with hnone | ⟨negative, body, whole, more, ht, hwhole⟩
  · rw [hnone] at h
    cases h
  · rcases head_of_wholePart? hwhole with ⟨c, rest, rfl, hdigit⟩
    exact ⟨negative, c, rest, ht, hdigit⟩

theorem ne_ofChar_of_isAsciiDigit {c : CodePoint} {ch : Char} (hdigit : c.isAsciiDigit = true)
    (hch : (CodePoint.ofChar ch).isAsciiDigit = false) : c ≠ CodePoint.ofChar ch := by
  rintro rfl
  rw [hch] at hdigit
  cases hdigit

/-- No word starts with a digit, behind a sign or not. -/
theorem word_head {word : String} {v : Value} (h : (word, v) ∈ words) :
    ∃ d e more, ofString word = d :: e :: more ∧ d.isAsciiDigit = false ∧
      (d = CodePoint.ofChar '-' → e.isAsciiDigit = false) := by
  simp only [words, List.mem_cons, Prod.mk.injEq, List.not_mem_nil, or_false] at h
  rcases h with ⟨rfl, _⟩ | ⟨rfl, _⟩ | ⟨rfl, _⟩ | ⟨rfl, _⟩ | ⟨rfl, _⟩ | ⟨rfl, _⟩
  all_goals exact ⟨_, _, _, rfl, by decide, by decide⟩

theorem not_word_prefix {word : String} {v : Value} {c : CodePoint} {rest : Text}
    (h : (word, v) ∈ words) (negative : Bool) (hdigit : c.isAsciiDigit = true) :
    ¬ ofString word <+: signed negative (c :: rest) := by
  rcases word_head h with ⟨d, e, more, hword, hd, he⟩
  rw [hword]
  intro hprefix
  cases negative with
  | true =>
      rcases List.cons_prefix_cons.mp hprefix with ⟨hminus, hmore⟩
      rcases List.cons_prefix_cons.mp hmore with ⟨hec, _⟩
      rw [← hec, he hminus] at hdigit
      cases hdigit
  | false =>
      rcases List.cons_prefix_cons.mp hprefix with ⟨hdc, _⟩
      rw [← hdc, hd] at hdigit
      cases hdigit

theorem readWord?_eq_none {c : CodePoint} (rest : Text) (negative : Bool)
    (hdigit : c.isAsciiDigit = true) : readWord? (signed negative (c :: rest)) = none := by
  unfold readWord?
  rw [List.findSome?_eq_none_iff]
  rintro ⟨word, v⟩ hmem
  have hprefix : ¬ (ofString word).isPrefixOf (signed negative (c :: rest)) = true := by
    rw [List.isPrefixOf_iff_prefix]
    exact not_word_prefix hmem negative hdigit
  have hnone : dropStart? (signed negative (c :: rest)) (ofString word) = none :=
    if_neg hprefix
  dsimp only
  rw [hnone]
  rfl

/-- What is read when a value is none of a string, a list and an object. -/
theorem readValue_scalar {c : CodePoint} {rest : Text} (hquote : c ≠ CodePoint.ofChar '\x22')
    (hbracket : c ≠ CodePoint.ofChar '[') (hbrace : c ≠ CodePoint.ofChar '\x7b') :
    readValue (fuel + 1) room (c :: rest) =
      match readWord? (c :: rest) with
      | some found => .ok found
      | none => readNumber (c :: rest) := by
  rw [readValue]
  split
  · rename_i hchar
    exact absurd (CodePoint.eq_ofChar_of_toChar (by decide) hchar) hquote
  · rename_i hchar
    exact absurd (CodePoint.eq_ofChar_of_toChar (by decide) hchar) hbracket
  · rename_i hchar
    exact absurd (CodePoint.eq_ofChar_of_toChar (by decide) hchar) hbrace
  · rfl

theorem readValue_signed {c : CodePoint} {rest : Text} (negative : Bool)
    (hdigit : c.isAsciiDigit = true) :
    readValue (fuel + 1) room (signed negative (c :: rest)) =
      readNumber (signed negative (c :: rest)) := by
  have hword := readWord?_eq_none rest negative hdigit
  cases negative with
  | true =>
      change readValue (fuel + 1) room (CodePoint.ofChar '-' :: c :: rest) = _
      rw [readValue_scalar (by decide) (by decide) (by decide)]
      change (match readWord? (signed true (c :: rest)) with
        | some found => Except.ok found
        | none => readNumber (signed true (c :: rest))) = _
      rw [hword]
  | false =>
      change readValue (fuel + 1) room (c :: rest) = _
      rw [readValue_scalar (ne_ofChar_of_isAsciiDigit hdigit (by decide))
        (ne_ofChar_of_isAsciiDigit hdigit (by decide))
        (ne_ofChar_of_isAsciiDigit hdigit (by decide))]
      change (match readWord? (signed false (c :: rest)) with
        | some found => Except.ok found
        | none => readNumber (signed false (c :: rest))) = _
      rw [hword]

theorem readValue_number {t : Text} {r : Value × Text} (h : readNumber t = .ok r) :
    readValue (fuel + 1) room t = .ok r := by
  rcases head_of_readNumber h with ⟨negative, c, rest, rfl, hdigit⟩
  rw [readValue_signed negative hdigit, h]

/-!
# Words
-/

theorem readValue_word (word : String) {v : Value} (h : (word, v) ∈ words) :
    readValue (fuel + 1) room (ofString word ++ tail) = .ok (v, tail) := by
  simp only [words, List.mem_cons, Prod.mk.injEq, List.not_mem_nil, or_false] at h
  rcases h with ⟨rfl, rfl⟩ | ⟨rfl, rfl⟩ | ⟨rfl, rfl⟩ | ⟨rfl, rfl⟩ | ⟨rfl, rfl⟩ | ⟨rfl, rfl⟩
  all_goals rfl

theorem readValue_float (x : Binary64) (htail : Stops continuesNumber tail) :
    readValue (fuel + 1) room (FloatLayout.document.write x ++ tail) = .ok (.float x, tail) := by
  cases x with
  | finite negative m =>
      exact readValue_number (readNumber_finite FloatLayout.document negative m htail)
  | infinite negative =>
      cases negative with
      | true => exact readValue_word "-Infinity" (by decide)
      | false => exact readValue_word "Infinity" (by decide)
  | nan => exact readValue_word "NaN" (by decide)

/-!
# Strings
-/

theorem readValue_text {asciiOnly : Bool} {t : Text}
    (h : ∀ opening tail, readText opening (insideAs asciiOnly t tail) = .ok (t, tail)) :
    readValue (fuel + 1) room (writeText asciiOnly t tail) = .ok (.text t, tail) := by
  change (readText _ (insideAs asciiOnly t tail)).map _ = _
  rw [h]
  rfl

/-!
# Spaces
-/

theorem skipSpace_append {spaces rest : Text} (h : ∀ c ∈ spaces, isSpace c = true) :
    skipSpace (spaces ++ rest) = skipSpace rest :=
  List.dropWhile_append_of_pos h

theorem skipSpace_cons {c : CodePoint} {rest : Text} (h : isSpace c = false) :
    skipSpace (c :: rest) = c :: rest := by
  rw [skipSpace, List.dropWhile_cons, if_neg (by rw [h]; exact Bool.false_ne_true)]

theorem isSpace_eq_false {c : CodePoint} (h : 0x20 < c.val) : isSpace c = false := by
  unfold isSpace
  split
  case h_5 => rfl
  all_goals
    rename_i hchar
    rw [CodePoint.eq_ofChar_of_toChar (by decide) hchar] at h
    exact absurd h (by decide)

theorem edge_eq (s : Style) (depth : Nat) :
    ∃ spaces, (∀ c ∈ spaces, isSpace c = true) ∧ ∀ rest, s.edge depth rest = spaces ++ rest := by
  cases hindent : s.indent with
  | none =>
      refine ⟨[], ?_, ?_⟩
      · intro c hc
        cases hc
      · intro rest
        simp only [Style.edge, hindent, List.nil_append]
  | some n =>
      refine ⟨CodePoint.ofChar '\n' :: List.replicate (n * depth) (CodePoint.ofChar ' '), ?_, ?_⟩
      · intro c hc
        rcases List.mem_cons.mp hc with rfl | hspace
        · decide
        · rw [List.eq_of_mem_replicate hspace]
          decide
      · intro rest
        simp only [Style.edge, hindent]
        rfl

theorem skipSpace_edge (s : Style) (depth : Nat) (rest : Text) :
    skipSpace (s.edge depth rest) = skipSpace rest := by
  rcases edge_eq s depth with ⟨spaces, hspaces, heq⟩
  rw [heq, skipSpace_append hspaces]

end Json
end RuleDraft
