import Mathlib.Data.List.TakeDrop
import Mathlib.Data.List.TakeWhile
import RuleDraft.Proofs.Text.Characters
import RuleDraft.Text.Blank
import RuleDraft.Text.Digit

/-!
# Runs of code points

A reader takes the longest run of a class of code points.  Where the rest of a
text does not start with the class, the run that was written is the run that is
read.
-/

namespace RuleDraft
namespace Text

/-- The text does not start with a code point of the class. -/
def Stops (p : CodePoint → Bool) (t : Text) : Prop := ∀ c ∈ t.head?, p c = false

variable {p : CodePoint → Bool}

theorem stops_nil : Stops p [] := by
  intro c hc
  cases hc

theorem stops_cons {c : CodePoint} {rest : Text} : Stops p (c :: rest) ↔ p c = false := by
  simp [Stops]

theorem stops_dropWhile (t : Text) : Stops p (t.dropWhile p) := by
  intro c hc
  have hhead := List.head?_dropWhile_not p t
  rw [hc] at hhead
  exact hhead

theorem dropWhile_of_stops {t : Text} (h : Stops p t) : t.dropWhile p = t := by
  cases t with
  | nil => rfl
  | cons c t => rw [List.dropWhile_cons, stops_cons.mp h, if_neg Bool.false_ne_true]

theorem dropWhile_append {run rest : Text} (hrun : ∀ c ∈ run, p c = true)
    (hrest : Stops p rest) : (run ++ rest).dropWhile p = rest := by
  rw [List.dropWhile_append_of_pos hrun, dropWhile_of_stops hrest]

theorem span_append {run rest : Text} (hrun : ∀ c ∈ run, p c = true) (hrest : Stops p rest) :
    (run ++ rest).span p = (run, rest) := by
  have htake : rest.takeWhile p = [] := by
    cases rest with
    | nil => rfl
    | cons c rest => rw [List.takeWhile_cons, stops_cons.mp hrest, if_neg Bool.false_ne_true]
  rw [List.span_eq_takeWhile_dropWhile, List.takeWhile_append_of_pos hrun, htake,
    dropWhile_append hrun hrest, List.append_nil]

theorem span_eq_iff {t run rest : Text} :
    t.span p = (run, rest) ↔
      t = run ++ rest ∧ (∀ c ∈ run, p c = true) ∧ Stops p rest := by
  constructor
  · intro h
    rw [List.span_eq_takeWhile_dropWhile] at h
    cases h
    refine ⟨List.takeWhile_append_dropWhile.symm, ?_, stops_dropWhile t⟩
    intro c hc
    exact List.mem_takeWhile_imp hc
  · rintro ⟨ht, hrun, hrest⟩
    rw [ht]
    exact span_append hrun hrest

theorem trimOf_of_forall {t : Text} (h : ∀ c ∈ t, p c = false) : t.trimOf p = t := by
  have hstops {u : Text} (hu : ∀ c ∈ u, p c = false) : Stops p u :=
    fun c hc => hu c (List.mem_of_mem_head? hc)
  unfold trimOf trimEndOf trimStartOf
  rw [dropWhile_of_stops (hstops h),
    dropWhile_of_stops (hstops fun c hc => h c (List.mem_reverse.mp hc)), List.reverse_reverse]

theorem length_trimOf_le (p : CodePoint → Bool) (t : Text) : (t.trimOf p).length ≤ t.length :=
  calc ((t.dropWhile p).reverse.dropWhile p).reverse.length
      = ((t.dropWhile p).reverse.dropWhile p).length := List.length_reverse
    _ ≤ (t.dropWhile p).reverse.length := List.length_dropWhile_le p _
    _ = (t.dropWhile p).length := List.length_reverse
    _ ≤ t.length := List.length_dropWhile_le p t

/-- What stands in front of the first mark, and what stands behind it, are determined. -/
theorem append_mark_inj {mark : CodePoint} {before before' rest rest' : Text}
    (hbefore : mark ∉ before) (hbefore' : mark ∉ before')
    (h : before ++ mark :: rest = before' ++ mark :: rest') : before = before' ∧ rest = rest' := by
  have hspan {run : Text} (tail : Text) (hrun : mark ∉ run) :
      (run ++ mark :: tail).span (fun c => decide (c ≠ mark)) = (run, mark :: tail) := by
    refine span_append ?_ (stops_cons.mpr (by simp))
    intro c hc
    exact decide_eq_true fun hmark => hrun (hmark ▸ hc)
  have hsame := hspan rest hbefore
  rw [h, hspan rest' hbefore'] at hsame
  cases hsame
  exact ⟨rfl, rfl⟩

/-- A text is a run of a class and a rest that does not start with the class. -/
theorem exists_run (p : CodePoint → Bool) (t : Text) :
    ∃ run, t = run ++ t.dropWhile p ∧ ∀ c ∈ run, p c = true :=
  ⟨t.takeWhile p, List.takeWhile_append_dropWhile.symm, fun _ => List.mem_takeWhile_imp⟩

end Text

/-!
# Blanks, digits and marks

No code point is in two of these classes.
-/

namespace CodePoint

def numbersIn (ranges : List (Nat × Nat)) : List Nat :=
  ranges.flatMap fun r => List.range' r.1 (r.2 + 1 - r.1)

theorem mem_numbersIn {ranges : List (Nat × Nat)} {c : CodePoint}
    (h : c.within ranges = true) : c.val ∈ numbersIn ranges := by
  rw [within, List.any_eq_true] at h
  rcases h with ⟨r, hr, hc⟩
  rw [Bool.and_eq_true, decide_eq_true_eq, decide_eq_true_eq] at hc
  have hmem : c.val ∈ List.range' r.1 (r.2 + 1 - r.1) := by
    rw [List.mem_range'_1]
    omega
  exact List.mem_flatMap.mpr ⟨r, hr, hmem⟩

theorem isBlank_eq_within (c : CodePoint) :
    c.isBlank = c.within (whiteSpaceRanges ++ [(28, 31)]) := by
  rw [isBlank, isWhiteSpace, within, within, List.any_append, List.any_cons, List.any_nil,
    Bool.or_false]

theorem isDigit_of_isBlank {c : CodePoint} (h : c.isBlank = true) : c.isDigit = false := by
  -- The blanks are few, and none of them is in the table of digits.
  have hblanks : ∀ n ∈ numbersIn (whiteSpaceRanges ++ [(28, 31)]), (ofNat n).isDigit = false := by
    decide
  rw [isBlank_eq_within] at h
  rw [← ofNat_val c]
  exact hblanks c.val (mem_numbersIn h)

theorem isBlank_of_isDigit {c : CodePoint} (h : c.isDigit = true) : c.isBlank = false := by
  cases hblank : c.isBlank with
  | false => rfl
  | true =>
      rw [isDigit_of_isBlank hblank] at h
      cases h

end CodePoint
end RuleDraft
