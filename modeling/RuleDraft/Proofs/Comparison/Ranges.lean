import RuleDraft.Comparison
import RuleDraft.Proofs.Text.Runs

/-!
# Ranges as they are written

A range of lengths is written as two runs of digits with a comma, a hyphen or two
points between them, and with blanks anywhere around the three.  The reader takes
exactly these texts, and takes the runs that were written.
-/

namespace RuleDraft
namespace Comparison

open Text

def Blank (t : Text) : Prop := ∀ c ∈ t, c.isBlank = true

/-- Decimal digits of any script, at least one. -/
def Digits (t : Text) : Prop := t ≠ [] ∧ ∀ c ∈ t, c.isDigit = true

def separators : List Text := [",", "-", ".."]

/-- The text is a range, and these are the digits of its two bounds. -/
def WrittenRange (t low high : Text) : Prop :=
  Digits low ∧ Digits high ∧
    ∃ before afterLow separator beforeHigh after,
      Blank before ∧ Blank afterLow ∧ separator ∈ separators ∧ Blank beforeHigh ∧
        Blank after ∧
          t = before ++ (low ++ (afterLow ++ (separator ++ (beforeHigh ++ (high ++ after)))))

/-!
# Where runs stop
-/

theorem Digits.stops_isBlank {digits rest : Text} (h : Digits digits) :
    Stops CodePoint.isBlank (digits ++ rest) := by
  cases digits with
  | nil => exact absurd rfl h.left
  | cons c digits =>
      exact stops_cons.mpr (CodePoint.isBlank_of_isDigit (h.right c List.mem_cons_self))

theorem Blank.stops_isDigit {blanks rest : Text} (h : Blank blanks)
    (hrest : Stops CodePoint.isDigit rest) : Stops CodePoint.isDigit (blanks ++ rest) := by
  cases blanks with
  | nil => exact hrest
  | cons c blanks =>
      exact stops_cons.mpr (CodePoint.isDigit_of_isBlank (h c List.mem_cons_self))

theorem separator_stops {separator rest : Text} (h : separator ∈ separators) :
    Stops CodePoint.isDigit (separator ++ rest) ∧
      Stops CodePoint.isBlank (separator ++ rest) := by
  have hall : ∀ s ∈ separators,
      s ≠ [] ∧ s.head?.any CodePoint.isDigit = false ∧ s.head?.any CodePoint.isBlank = false := by
    decide
  rcases hall separator h with ⟨hne, hdigit, hblank⟩
  cases separator with
  | nil => exact absurd rfl hne
  | cons c separator => exact ⟨stops_cons.mpr hdigit, stops_cons.mpr hblank⟩

/-!
# The parts of the reader
-/

theorem takeDigits?_eq_some_iff {t digits rest : Text} :
    takeDigits? t = some (digits, rest) ↔
      Digits digits ∧ t = digits ++ rest ∧ Stops CodePoint.isDigit rest := by
  unfold takeDigits?
  cases hspan : t.span CodePoint.isDigit with
  | mk run rest' =>
      have hsplit := span_eq_iff.mp hspan
      cases run with
      | nil =>
          constructor
          · intro h
            cases h
          · rintro ⟨⟨hne, hdigits⟩, ht, hstops⟩
            have hspan' := span_eq_iff.mpr ⟨ht, hdigits, hstops⟩
            rw [hspan] at hspan'
            cases hspan'
            exact absurd rfl hne
      | cons c run =>
          constructor
          · intro h
            cases h
            exact ⟨⟨List.cons_ne_nil c run, hsplit.right.left⟩, hsplit.left, hsplit.right.right⟩
          · rintro ⟨⟨_, hdigits⟩, ht, hstops⟩
            have hspan' := span_eq_iff.mpr ⟨ht, hdigits, hstops⟩
            rw [hspan] at hspan'
            cases hspan'
            rfl

theorem dropSeparator?_eq_some_iff {t rest : Text} :
    dropSeparator? t = some rest ↔ ∃ separator ∈ separators, t = separator ++ rest := by
  constructor
  · intro h
    cases t with
    | nil => cases h
    | cons c t =>
        simp only [dropSeparator?] at h
        split at h
        · rename_i hc
          cases h
          rcases hc with hc | hc
          · exact ⟨",", by decide, by rw [hc]; rfl⟩
          · exact ⟨"-", by decide, by rw [hc]; rfl⟩
        · split at h
          · rename_i hc
            rcases hc with ⟨hc, hhead⟩
            cases t with
            | nil => cases hhead
            | cons d t =>
                cases hhead
                cases h
                exact ⟨"..", by decide, by rw [hc]; rfl⟩
          · cases h
  · rintro ⟨separator, hmem, ht⟩
    simp only [separators, List.mem_cons, List.not_mem_nil, or_false] at hmem
    rcases hmem with rfl | rfl | rfl
    · rw [ht]
      rfl
    · rw [ht]
      rfl
    · rw [ht]
      rfl

theorem writtenRange_of_rangeDigits? {t low high : Text} (h : rangeDigits? t = some (low, high)) :
    WrittenRange t low high := by
  simp only [rangeDigits?, Option.bind_eq_bind, Option.bind_eq_some_iff] at h
  rcases h with ⟨⟨low', rest₁⟩, hlow, rest₂, hseparator, ⟨high', rest₃⟩, hhigh, hend⟩
  rcases takeDigits?_eq_some_iff.mp hlow with ⟨hlowDigits, ht, _⟩
  rcases dropSeparator?_eq_some_iff.mp hseparator with ⟨separator, hmem, hrest₁⟩
  rcases takeDigits?_eq_some_iff.mp hhigh with ⟨hhighDigits, hrest₂, _⟩
  dsimp only at hend hrest₁ hrest₂
  split at hend
  · rename_i hempty
    cases hend
    rcases exists_run CodePoint.isBlank t with ⟨before, hbefore, hblank⟩
    rcases exists_run CodePoint.isBlank rest₁ with ⟨afterLow, hafterLow, hblank₁⟩
    rcases exists_run CodePoint.isBlank rest₂ with ⟨beforeHigh, hbeforeHigh, hblank₂⟩
    rcases exists_run CodePoint.isBlank rest₃ with ⟨after, hafter, hblank₃⟩
    rw [List.isEmpty_iff.mp hempty, List.append_nil] at hafter
    refine ⟨hlowDigits, hhighDigits, before, afterLow, separator, beforeHigh, after, hblank,
      hblank₁, hmem, hblank₂, hafter ▸ hblank₃, ?_⟩
    rw [← hafter, ← hrest₂, ← hbeforeHigh, ← hrest₁, ← hafterLow, ← ht, ← hbefore]
  · cases hend

theorem rangeDigits?_of_writtenRange {t low high : Text} (h : WrittenRange t low high) :
    rangeDigits? t = some (low, high) := by
  rcases h with ⟨hlow, hhigh, before, afterLow, separator, beforeHigh, after, hblank, hblank₁, hmem,
    hblank₂, hblank₃, ht⟩
  have hskip : t.dropWhile CodePoint.isBlank =
      low ++ (afterLow ++ (separator ++ (beforeHigh ++ (high ++ after)))) := by
    rw [ht]
    exact dropWhile_append hblank hlow.stops_isBlank
  have hskip₁ : (afterLow ++ (separator ++ (beforeHigh ++ (high ++ after)))).dropWhile
      CodePoint.isBlank = separator ++ (beforeHigh ++ (high ++ after)) :=
    dropWhile_append hblank₁ (separator_stops hmem).right
  have hskip₂ : (beforeHigh ++ (high ++ after)).dropWhile CodePoint.isBlank = high ++ after :=
    dropWhile_append hblank₂ hhigh.stops_isBlank
  have hskip₃ : after.dropWhile CodePoint.isBlank = [] := by
    have h := dropWhile_append hblank₃ stops_nil
    rw [List.append_nil] at h
    exact h
  have htakeLow : takeDigits? (low ++ (afterLow ++ (separator ++ (beforeHigh ++
      (high ++ after))))) =
      some (low, afterLow ++ (separator ++ (beforeHigh ++ (high ++ after)))) :=
    takeDigits?_eq_some_iff.mpr
      ⟨hlow, rfl, hblank₁.stops_isDigit (separator_stops hmem).left⟩
  have hdrop : dropSeparator? (separator ++ (beforeHigh ++ (high ++ after))) =
      some (beforeHigh ++ (high ++ after)) :=
    dropSeparator?_eq_some_iff.mpr ⟨separator, hmem, rfl⟩
  have htakeHigh : takeDigits? (high ++ after) = some (high, after) := by
    refine takeDigits?_eq_some_iff.mpr ⟨hhigh, rfl, ?_⟩
    simpa using hblank₃.stops_isDigit stops_nil
  simp only [rangeDigits?, Option.bind_eq_bind, hskip, htakeLow, Option.bind_some, hskip₁, hdrop,
    hskip₂, htakeHigh, hskip₃, List.isEmpty_nil, if_true]

theorem rangeDigits?_eq_some_iff {t low high : Text} :
    rangeDigits? t = some (low, high) ↔ WrittenRange t low high :=
  ⟨writtenRange_of_rangeDigits?, rangeDigits?_of_writtenRange⟩

end Comparison
end RuleDraft
