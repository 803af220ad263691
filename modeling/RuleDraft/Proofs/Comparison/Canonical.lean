import RuleDraft.Proofs.Comparison.Lengths
import RuleDraft.Proofs.Document.Data
import RuleDraft.Proofs.Intake.Scalars

/-!
# Values in their shape

A comparison gives its value in a shape of its own: a number for a numeral, a list for a
text with commas or for a range, a name in lower case.  Read again for the same type, the
value in its shape gives the same comparison.
-/

namespace RuleDraft
namespace Comparison

open Text

/-!
# The readers one by one
-/

theorem readScalar_toValue (s : Scalar) : readScalar s.toValue = .ok s := by
  rw [readScalar, s.ofValue?_toValue]

/-- A pattern is the text that was typed. -/
theorem eq_text_of_readPattern {v : Value} {p : Text} (h : readPattern v = .ok p) :
    v = .text p := by
  unfold readPattern at h
  split at h
  · split at h
    · cases h
      rfl
    all_goals cases h
  · cases h

theorem readQuantity_toValue (q : Quantity) : readQuantity q.toValue = .ok q := by
  cases q with
  | int i => rfl
  | float x => rfl

/-- Parts between commas are read again as a list, and not as a text. -/
theorem readContained_texts (ts : List Text) :
    readContained (Value.texts ts) = .ok (.containsAll ts) := by
  have hread (t : Text) : Checked.text (Value.text t) = .ok t :=
    rfl
  have hlist : Checked.list Checked.text (.list (ts.map Value.text)) = .ok ts :=
    Checked.list_map hread ts
  simp only [readContained, Value.texts, hlist]

theorem readContained_toValue {v : Value} {c : Comparison} (h : readContained v = .ok c) :
    readContained c.toValue = .ok c := by
  cases v with
  | text t =>
      unfold readContained at h
      dsimp only at h
      by_cases hcomma : t.contains (CodePoint.ofChar ',') = true
      · rw [if_pos hcomma] at h
        cases h
        exact readContained_texts (commaParts t)
      · rw [if_neg hcomma] at h
        cases h
        exact if_neg hcomma
  | _ =>
      unfold readContained at h
      dsimp only at h
      split at h
      · cases h
        exact readContained_texts _
      · cases h

theorem readRange_toValue (r : LengthRange) :
    readRange (.list [.int r.least, .int r.greatest]) = .ok r :=
  readRange_of_le (by rfl) r.least_le_greatest

theorem readJsonType_name (t : JsonType) : readJsonType (.text t.name) = .ok t := by
  have htrim : Text.lower (Text.trim t.name) = t.name := by
    cases t <;> decide
  have hchosen : Checked.chosen .listed JsonType.options (.text t.name) = .ok t := by
    apply Checked.chosen_name
    cases t <;> rfl
  simp only [readJsonType, htrim, hchosen]
  rfl

/-!
# All types
-/

theorem read_toValue {type : ConditionType} {v : Value} {c : Comparison}
    (h : read type v = .ok c) : read type c.toValue = .ok c := by
  cases type with
  | equals =>
      rcases map_eq_ok.mp h with ⟨s, _, rfl⟩
      exact map_eq_ok.mpr ⟨s, readScalar_toValue s, rfl⟩
  | matching =>
      rcases map_eq_ok.mp h with ⟨p, hp, rfl⟩
      rw [eq_text_of_readPattern hp] at hp
      exact map_eq_ok.mpr ⟨p, hp, rfl⟩
  | greaterThan =>
      rcases map_eq_ok.mp h with ⟨q, _, rfl⟩
      exact map_eq_ok.mpr ⟨q, readQuantity_toValue q, rfl⟩
  | lessThan =>
      rcases map_eq_ok.mp h with ⟨q, _, rfl⟩
      exact map_eq_ok.mpr ⟨q, readQuantity_toValue q, rfl⟩
  | contains => exact readContained_toValue h
  | lengthRange =>
      rcases map_eq_ok.mp h with ⟨r, _, rfl⟩
      exact map_eq_ok.mpr ⟨r, readRange_toValue r, rfl⟩
  | dataType =>
      rcases map_eq_ok.mp h with ⟨t, _, rfl⟩
      exact map_eq_ok.mpr ⟨t, readJsonType_name t, rfl⟩

/-- The value of a comparison in its shape is read as the same comparison. -/
theorem parseNamed_toValue {name v : Value} {c : Comparison}
    (h : parseNamed name v = .ok c) : parseNamed name c.toValue = .ok c := by
  unfold parseNamed at h ⊢
  cases htype : namedType? name with
  | none =>
      rw [htype] at h
      cases h
  | some type =>
      rw [htype] at h
      exact parse_eq_ok_iff.mpr (read_toValue (parse_eq_ok_iff.mp h))

/-- A text with commas comes back as a list. -/
theorem parseNamed_toValue_parts :
    parseNamed (.text "contains") (.text " a, b,,c") = .ok (.containsAll ["a", "b", "c"]) ∧
      parseNamed (.text "contains") (Value.texts ["a", "b", "c"]) =
        .ok (.containsAll ["a", "b", "c"]) := by
  have hparts : parseNamed (.text "contains") (.text " a, b,,c") =
      .ok (.containsAll ["a", "b", "c"]) := by
    rfl
  exact ⟨hparts, parseNamed_toValue hparts⟩

end Comparison
end RuleDraft
