import RuleDraft.CommandLine.Folder
import RuleDraft.Json.Reader
import RuleDraft.Proofs.Json.NumberParts
import RuleDraft.Proofs.Json.Tokens

/-!
# Line breaks and the tokens of a document

A file is read with its line breaks unified.  A carriage return is a blank between the tokens of
a document and stands in none of them, so a reader of tokens takes the same from a text and from
the text with its breaks unified, and leaves the same behind.
-/

namespace RuleDraft

open Text

namespace CommandLine.Folder

variable {c : CodePoint} {t rest : Text} {p : CodePoint → Bool}

theorem unifyBreaks_cons (hc : c.val ≠ 13) (rest : Text) :
    unifyBreaks (c :: rest) = c :: unifyBreaks rest := by
  cases rest with
  | nil => exact if_neg hc
  | cons d rest => rw [unifyBreaks, if_neg hc]

/-- A carriage return becomes a line feed, together with the one behind it if there is one. -/
theorem unifyBreaks_return (hc : c.val = 13) (rest : Text) :
    ∃ more, unifyBreaks (c :: rest) = CodePoint.ofChar '\n' :: more ∧
      (more = unifyBreaks rest ∨ unifyBreaks rest = CodePoint.ofChar '\n' :: more) := by
  cases rest with
  | nil => exact ⟨[], by rw [unifyBreaks, if_pos hc], Or.inl rfl⟩
  | cons d rest =>
      rw [unifyBreaks, if_pos hc]
      by_cases hd : d.val = 10
      · have hfeed : d = CodePoint.ofChar '\n' := Fin.ext hd
        rw [if_pos hd, hfeed, unifyBreaks_cons (by decide)]
        exact ⟨_, rfl, Or.inr rfl⟩
      · rw [if_neg hd]
        exact ⟨_, rfl, Or.inl rfl⟩

/-- What starts a text with unified breaks: the start of the text, or a line feed. -/
theorem unifyBreaks_head (c : CodePoint) (rest : Text) :
    ∃ d more, unifyBreaks (c :: rest) = d :: more ∧ (d = c ∨ c.val = 13 ∧ d.val = 10) := by
  by_cases hc : c.val = 13
  · rcases unifyBreaks_return hc rest with ⟨more, heq, _⟩
    exact ⟨_, more, heq, Or.inr ⟨hc, rfl⟩⟩
  · exact ⟨c, _, unifyBreaks_cons hc rest, Or.inl rfl⟩

theorem unifyBreaks_head_ne {mark : CodePoint} (hmark : mark.val ≠ 10) (hc : c ≠ mark)
    (rest : Text) : ∃ d more, unifyBreaks (c :: rest) = d :: more ∧ d ≠ mark := by
  rcases unifyBreaks_head c rest with ⟨d, more, heq, hd⟩
  refine ⟨d, more, heq, ?_⟩
  rintro rfl
  rcases hd with rfl | ⟨_, hfeed⟩
  · exact hc rfl
  · exact hmark hfeed

/-- A mark in front of a text with its breaks unified was in front before. -/
theorem eq_cons_of_unifyBreaks {mark : CodePoint} (hfeed : mark.val ≠ 10) (hreturn : mark.val ≠ 13)
    {t more : Text} (h : unifyBreaks t = mark :: more) :
    ∃ rest, t = mark :: rest ∧ unifyBreaks rest = more := by
  cases t with
  | nil => cases h
  | cons c rest =>
      have hc : c = mark := by
        by_contra hne
        rcases unifyBreaks_head_ne hfeed hne rest with ⟨d, others, heq, hd⟩
        exact hd (List.cons.inj (heq.symm.trans h)).left
      rw [hc, unifyBreaks_cons hreturn] at h
      exact ⟨rest, by rw [hc], (List.cons.inj h).right⟩

theorem length_unifyBreaks_le (t : Text) : (unifyBreaks t).length ≤ t.length := by
  induction t with
  | nil => exact Nat.le_refl 0
  | cons c rest ih =>
      by_cases hc : c.val = 13
      · rcases unifyBreaks_return hc rest with ⟨more, heq, hmore | hmore⟩
        · rw [heq, hmore]
          exact Nat.succ_le_succ ih
        · rw [hmore] at ih
          rw [heq]
          exact Nat.le_succ_of_le ih
      · rw [unifyBreaks_cons hc]
        exact Nat.succ_le_succ ih

theorem unifyBreaks_append {run : Text} (hrun : ∀ c ∈ run, c.val ≠ 13) (rest : Text) :
    unifyBreaks (run ++ rest) = run ++ unifyBreaks rest := by
  induction run with
  | nil => rfl
  | cons c run ih =>
      rw [List.forall_mem_cons] at hrun
      rw [List.cons_append, unifyBreaks_cons hrun.left, ih hrun.right, List.cons_append]

theorem stops_unifyBreaks (hfeed : p (CodePoint.ofChar '\n') = false) (h : Stops p t) :
    Stops p (unifyBreaks t) := by
  cases t with
  | nil => exact stops_nil
  | cons c rest =>
      rcases unifyBreaks_head c rest with ⟨d, more, heq, rfl | ⟨_, hd⟩⟩
      · rw [heq, stops_cons]
        exact stops_cons.mp h
      · have hdfeed : d = CodePoint.ofChar '\n' := Fin.ext hd
        rw [heq, stops_cons, hdfeed]
        exact hfeed

end CommandLine.Folder

namespace Json

open CommandLine.Folder

variable {t rest : Text}

/-!
# Blanks
-/

theorem isSpace_of_val {c : CodePoint} (h : c.val = 13) : isSpace c = true := by
  have hreturn : c = CodePoint.ofChar '\r' := Fin.ext h
  rw [hreturn]
  decide

theorem skipSpace_unifyBreaks (t : Text) :
    skipSpace (unifyBreaks t) = unifyBreaks (skipSpace t) := by
  induction t with
  | nil => rfl
  | cons c rest ih =>
      by_cases hc : c.val = 13
      · have hskip : skipSpace (c :: rest) = skipSpace rest :=
          List.dropWhile_cons_of_pos (isSpace_of_val hc)
        rcases unifyBreaks_return hc rest with ⟨more, heq, hmore | hmore⟩
        · rw [hskip, heq, hmore, ← ih]
          exact List.dropWhile_cons_of_pos (by decide)
        · rw [hskip, heq, ← ih, hmore]
      · rw [unifyBreaks_cons hc]
        by_cases hspace : isSpace c = true
        · have hskip (u : Text) : skipSpace (c :: u) = skipSpace u :=
            List.dropWhile_cons_of_pos hspace
          rw [hskip, hskip, ih]
        · rw [Bool.not_eq_true] at hspace
          rw [skipSpace_cons hspace, skipSpace_cons hspace, unifyBreaks_cons hc]

/-!
# Numbers
-/

theorem isAsciiDigit_ne_return {c : CodePoint} (h : c.isAsciiDigit = true) : c.val ≠ 13 := by
  have hrange := CodePoint.isAsciiDigit_iff.mp h
  omega

theorem digits?_unifyBreaks (t : Text) :
    digits? (unifyBreaks t) = (digits? t).map (Prod.map id unifyBreaks) := by
  cases hspan : t.span CodePoint.isAsciiDigit with
  | mk run rest =>
      rcases span_eq_iff.mp hspan with ⟨ht, hrun, hrest⟩
      have hunified : (unifyBreaks t).span CodePoint.isAsciiDigit = (run, unifyBreaks rest) := by
        rw [ht, unifyBreaks_append fun c hc => isAsciiDigit_ne_return (hrun c hc)]
        exact span_append hrun (stops_unifyBreaks (by decide) hrest)
      rw [digits?, digits?, hspan, hunified]
      cases run <;> rfl

theorem wholePart?_unifyBreaks (t : Text) :
    wholePart? (unifyBreaks t) = (wholePart? t).map (Prod.map id unifyBreaks) := by
  cases t with
  | nil => rfl
  | cons c rest =>
      by_cases hzero : c = CodePoint.ofChar '0'
      · rw [hzero, unifyBreaks_cons (by decide), wholePart?_zero, wholePart?_zero]
        rfl
      · rcases unifyBreaks_head_ne (by decide) hzero rest with ⟨d, more, heq, hdzero⟩
        rw [heq, wholePart?, if_neg hdzero, ← heq, digits?_unifyBreaks, wholePart?, if_neg hzero]

theorem fractionPart?_unifyBreaks (t : Text) :
    fractionPart? (unifyBreaks t) = (fractionPart? t).map (Prod.map id unifyBreaks) := by
  cases t with
  | nil => rfl
  | cons c rest =>
      by_cases hpoint : c = CodePoint.ofChar '.'
      · rw [hpoint, unifyBreaks_cons (by decide), fractionPart?, if_pos rfl, fractionPart?,
          if_pos rfl, digits?_unifyBreaks]
      · rcases unifyBreaks_head_ne (by decide) hpoint rest with ⟨d, more, heq, hdpoint⟩
        rw [heq, fractionPart?, if_neg hdpoint, fractionPart?, if_neg hpoint]
        rfl

theorem takeSign_unifyBreaks (t : Text) :
    Decimal.takeSign (unifyBreaks t) = Prod.map id unifyBreaks (Decimal.takeSign t) := by
  cases t with
  | nil => rfl
  | cons c rest =>
      by_cases hminus : c = CodePoint.ofChar '-'
      · rw [hminus, unifyBreaks_cons (by decide), Decimal.takeSign, if_pos rfl, Decimal.takeSign,
          if_pos rfl]
        rfl
      · by_cases hplus : c = CodePoint.ofChar '+'
        · rw [hplus, unifyBreaks_cons (by decide), Decimal.takeSign, if_neg (by decide), if_pos rfl,
            Decimal.takeSign, if_neg (by decide), if_pos rfl]
          rfl
        · rcases unifyBreaks_head c rest with ⟨d, more, heq, hd⟩
          have hdsign (mark : CodePoint) (hmark : mark.val ≠ 10) (hc : c ≠ mark) : d ≠ mark := by
            rintro rfl
            exact hd.elim (fun h => hc h.symm) fun h => hmark h.right
          rw [heq, Decimal.takeSign, if_neg (hdsign _ (by decide) hminus),
            if_neg (hdsign _ (by decide) hplus), Decimal.takeSign, if_neg hminus, if_neg hplus]
          exact congrArg (Prod.mk false) heq.symm

theorem exponentPart?_unifyBreaks (t : Text) :
    exponentPart? (unifyBreaks t) = (exponentPart? t).map (Prod.map id unifyBreaks) := by
  cases t with
  | nil => rfl
  | cons c rest =>
      by_cases hletter : c = CodePoint.ofChar 'e' ∨ c = CodePoint.ofChar 'E'
      · have hc : c.val ≠ 13 := by
          rcases hletter with rfl | rfl <;> decide
        simp only [unifyBreaks_cons hc, exponentPart?, if_pos hletter, takeSign_unifyBreaks]
        simp only [Prod.map_fst, Prod.map_snd, id_eq, digits?_unifyBreaks, Option.map_map]
        rfl
      · rcases unifyBreaks_head c rest with ⟨d, more, heq, hd⟩
        have hdletter : ¬ (d = CodePoint.ofChar 'e' ∨ d = CodePoint.ofChar 'E') := by
          rcases hd with rfl | ⟨_, hfeed⟩
          · exact hletter
          · rintro (rfl | rfl) <;> exact absurd hfeed (by decide)
        rw [heq, exponentPart?, if_neg hdletter, exponentPart?, if_neg hletter]
        rfl

/-!
# Words
-/

theorem prefix_unifyBreaks_iff {word : Text} (hword : ∀ c ∈ word, 13 < c.val) :
    word <+: unifyBreaks t ↔ word <+: t := by
  induction word generalizing t with
  | nil => exact iff_of_true List.nil_prefix List.nil_prefix
  | cons c word ih =>
      rw [List.forall_mem_cons] at hword
      cases t with
      | nil => exact Iff.rfl
      | cons d rest =>
          by_cases hdc : d = c
          · rw [hdc, unifyBreaks_cons (Nat.ne_of_gt hword.left), List.cons_prefix_cons,
              List.cons_prefix_cons,
              ih hword.right]
          · rcases unifyBreaks_head_ne (by omega) hdc rest with ⟨e, more, heq, hec⟩
            rw [heq, List.cons_prefix_cons, List.cons_prefix_cons]
            exact iff_of_false (fun h => hec h.left.symm) fun h => hdc h.left.symm

theorem dropStart?_unifyBreaks {word : Text} (hword : ∀ c ∈ word, 13 < c.val)
    (t : Text) : (unifyBreaks t).dropStart? word = (t.dropStart? word).map unifyBreaks := by
  unfold Text.dropStart?
  by_cases hstart : word <+: t
  · have hunified : word <+: unifyBreaks t := (prefix_unifyBreaks_iff hword).mpr hstart
    rw [if_pos (List.isPrefixOf_iff_prefix.mpr hunified),
      if_pos (List.isPrefixOf_iff_prefix.mpr hstart)]
    rcases hstart with ⟨rest, rfl⟩
    rw [unifyBreaks_append fun c hc => Nat.ne_of_gt (hword c hc), List.drop_left, List.drop_left]
    rfl
  · have hunified : ¬ word <+: unifyBreaks t := fun h =>
      hstart ((prefix_unifyBreaks_iff hword).mp h)
    rw [if_neg fun h => hunified (List.isPrefixOf_iff_prefix.mp h),
      if_neg fun h => hstart (List.isPrefixOf_iff_prefix.mp h)]
    rfl

theorem word_printable {word : String} {v : Value} (h : (word, v) ∈ words) :
    ∀ c ∈ ofString word, 0x20 < c.val := by
  have hall : (ofString word).all (fun c => 0x20 < c.val) = true := by
    simp only [words, List.mem_cons, Prod.mk.injEq, List.not_mem_nil, or_false] at h
    rcases h with ⟨rfl, _⟩ | ⟨rfl, _⟩ | ⟨rfl, _⟩ | ⟨rfl, _⟩ | ⟨rfl, _⟩ | ⟨rfl, _⟩
    all_goals rfl
  simpa using hall

theorem eq_of_readWord? {v : Value} (h : readWord? t = some (v, rest)) :
    ∃ word, (word, v) ∈ words ∧ t = ofString word ++ rest := by
  rcases List.exists_of_findSome?_eq_some h with ⟨⟨word, w⟩, hmem, hfound⟩
  rcases Option.map_eq_some_iff.mp hfound with ⟨more, hdrop, heq⟩
  cases heq
  unfold Text.dropStart? at hdrop
  split_ifs at hdrop with hstart
  rcases List.isPrefixOf_iff_prefix.mp hstart with ⟨behind, rfl⟩
  rw [List.drop_left] at hdrop
  cases hdrop
  exact ⟨word, hmem, rfl⟩

/-- A word starts with two code points that show. -/
theorem head_of_readWord? {found : Value × Text} (h : readWord? t = some found) :
    ∃ a b more, t = a :: b :: more ∧ 0x20 < a.val ∧ 0x20 < b.val := by
  rcases eq_of_readWord? h with ⟨word, hmem, rfl⟩
  rcases word_head hmem with ⟨a, b, tail, hword, _, _⟩
  have hprintable := word_printable hmem
  rw [hword, List.forall_mem_cons, List.forall_mem_cons] at hprintable
  exact ⟨a, b, tail ++ found.2, by rw [hword]; rfl, hprintable.left, hprintable.right.left⟩

theorem readWord?_unifyBreaks (t : Text) :
    readWord? (unifyBreaks t) = (readWord? t).map (Prod.map id unifyBreaks) := by
  have hwords : ∀ w ∈ words, ∀ c ∈ ofString w.1, 13 < c.val :=
    fun w hw c hc => Nat.lt_trans (by decide) (word_printable hw c hc)
  unfold readWord?
  revert hwords
  induction words with
  | nil => exact fun _ => rfl
  | cons w ws ih =>
      intro hwords
      rw [List.forall_mem_cons] at hwords
      simp only [List.findSome?_cons, dropStart?_unifyBreaks hwords.left, ih hwords.right]
      cases t.dropStart? (ofString w.1) <;> rfl

end Json
end RuleDraft
