import RuleDraft.Proofs.Document.StrictOutcomes
import RuleDraft.Proofs.Intake.Accepted
import RuleDraft.Proofs.Json.Standard
import RuleDraft.Proofs.Number.Overflow

/-!
# Numbers to compare with

A comparison with a number takes every numeral and gives the number that it stands for.
It takes more than that: what is no numeral goes to lenient readers, which also know low
lines and words, and a numeral or a number can be too large to be finite.
-/

namespace RuleDraft
namespace Comparison

open Text

/-- The text is no numeral, but a reader of integers, or else of floats, takes it. -/
inductive Stray (t : Text) : Quantity → Prop
  | integer {i : Int} :
      (¬ ∃ d, Literal t.trim d) → Checked.integer (.text t) = .ok i → Stray t (.int i)
  | float {x : Binary64} {issues : List Issue} :
      (¬ ∃ d, Literal t.trim d) → Checked.integer (.text t) = .error issues →
        Checked.number (.text t) = .ok x → Stray t (.float x)

/-- What is read from the value is infinite or not a number. -/
inductive Boundless : Value → Prop
  | float {x : Binary64} : x.isFinite = false → Boundless (.float x)
  | overflow {t : Text} {d : Decimal} :
      Literal t.trim d → (¬ ∃ i, IntegerLiteral t.trim i) → d.Overflows → Boundless (.text t)
  | stray {t : Text} {x : Binary64} :
      Stray t (.float x) → x.isFinite = false → Boundless (.text t)

/-!
# Lenient readers
-/

theorem readQuantity_numeral {t : Text} {q : Quantity} (h : numeral? t.trim = some (.ok q)) :
    readQuantity (.text t) = .ok q := by
  rw [readQuantity, numericForm_numeral h]
  cases q with
  | int i => rfl
  | float x => rfl

theorem readQuantity_stray_iff {t : Text} {q : Quantity} (h : numeral? t.trim = none) :
    readQuantity (.text t) = .ok q ↔ Stray t q := by
  have hread : readQuantity (.text t) = ofChecked (Checked.firstOf
      [("int", (Checked.integer (.text t)).map .int),
        ("float", (Checked.number (.text t)).map .float)]) := by
    simp only [readQuantity, numericForm, h]
    rfl
  have hliteral := numeral?_eq_none_iff.mp h
  rw [hread, ofChecked_eq_ok, Checked.firstOf_pair_eq_ok, map_eq_ok, map_eq_ok]
  constructor
  · rintro (⟨i, hi, rfl⟩ | ⟨⟨issues, hissues⟩, x, hx, rfl⟩)
    · exact Stray.integer hliteral hi
    · exact Stray.float hliteral (map_eq_error.mp hissues) hx
  · rintro (⟨_, hi⟩ | ⟨_, hissues, hx⟩)
    · exact Or.inl ⟨_, hi, rfl⟩
    · exact Or.inr ⟨⟨_, map_eq_error.mpr hissues⟩, _, hx, rfl⟩

theorem Stray.not_literal {t : Text} {q : Quantity} (h : Stray t q) :
    ¬ ∃ d, Literal t.trim d := by
  cases h with
  | integer hliteral _ => exact hliteral
  | float hliteral _ _ => exact hliteral

/-- What is read from a text is what its numeral stands for, or else what lenient readers find. -/
theorem cases_of_readQuantity {t : Text} {q : Quantity} (h : readQuantity (.text t) = .ok q) :
    Numeral t.trim q ∨ Stray t q := by
  cases hnumeral : numeral? t.trim with
  | none => exact Or.inr ((readQuantity_stray_iff hnumeral).mp h)
  | some r =>
      cases r with
      | error m =>
          simp only [readQuantity, numericForm, hnumeral] at h
          cases h
      | ok q' =>
          rw [readQuantity_numeral hnumeral] at h
          cases h
          exact Or.inl (numeral_of_numeral? hnumeral)

theorem readQuantity_of_stray {t : Text} {q : Quantity} (h : Stray t q) :
    readQuantity (.text t) = .ok q :=
  (readQuantity_stray_iff (numeral?_eq_none_iff.mpr h.not_literal)).mpr h

theorem readQuantity_of_numeral {t : Text} {q : Quantity} (hlength : t.length ≤ digitLimit)
    (h : Numeral t.trim q) : readQuantity (.text t) = .ok q :=
  readQuantity_numeral (numeral?_of_numeral h (Nat.le_trans (length_trimOf_le _ _) hlength))

theorem exists_readQuantity_iff {t : Text} (hlength : t.length ≤ digitLimit) :
    (∃ q, readQuantity (.text t) = .ok q) ↔ (∃ d, Literal t.trim d) ∨ ∃ q, Stray t q := by
  rw [← exists_numeral_iff]
  constructor
  · rintro ⟨q, hq⟩
    exact (cases_of_readQuantity hq).imp (⟨q, ·⟩) (⟨q, ·⟩)
  · rintro (⟨q, hq⟩ | ⟨q, hq⟩)
    · exact ⟨q, readQuantity_of_numeral hlength hq⟩
    · exact ⟨q, readQuantity_of_stray hq⟩

/-!
# Finite numbers
-/

theorem isFinite_float {x : Binary64} : (Value.float x).IsFinite ↔ ¬ x.isFinite = false := by
  rw [Bool.not_eq_false]
  rfl

theorem Literal.unique {t : Text} {d d' : Decimal} (h : Literal t d) (h' : Literal t d') :
    d = d' := by
  have hread := read?_of_literal h
  rw [read?_of_literal h'] at hread
  exact (Option.some.inj hread).symm

theorem Stray.unique {t : Text} {q q' : Quantity} (h : Stray t q) (h' : Stray t q') : q = q' := by
  have hread := readQuantity_of_stray h
  rw [readQuantity_of_stray h'] at hread
  exact (Except.ok.inj hread).symm

theorem isFinite_iff_of_numeral {t : Text} {q : Quantity} (h : Numeral t.trim q) :
    q.toValue.IsFinite ↔ ¬ Boundless (.text t) := by
  have hstray {x : Binary64} : ¬ Stray t (.float x) :=
    fun hx => hx.not_literal (exists_numeral_iff.mp ⟨q, h⟩)
  cases h with
  | integer hinteger =>
      refine iff_of_true trivial ?_
      rintro (_ | ⟨_, hnone, _⟩ | ⟨hx, _⟩)
      · exact hnone ⟨_, hinteger⟩
      · exact hstray hx
  | @decimal d hliteral hnone =>
      refine d.isFinite_toBinary64_iff.trans (not_congr ?_)
      constructor
      · exact Boundless.overflow hliteral hnone
      · rintro (_ | ⟨hliteral', _, hoverflow⟩ | ⟨hx, _⟩)
        · rw [hliteral.unique hliteral']
          exact hoverflow
        · exact absurd hx hstray

theorem isFinite_iff_of_stray {t : Text} {q : Quantity} (h : Stray t q) :
    q.toValue.IsFinite ↔ ¬ Boundless (.text t) := by
  cases q with
  | int i =>
      refine iff_of_true trivial ?_
      rintro (_ | ⟨hliteral, _, _⟩ | ⟨hx, _⟩)
      · exact h.not_literal ⟨_, hliteral⟩
      · cases h.unique hx
  | float x =>
      refine isFinite_float.trans (not_congr ?_)
      constructor
      · exact Boundless.stray h
      · rintro (_ | ⟨hliteral, _, _⟩ | ⟨hx, hinfinite⟩)
        · exact absurd ⟨_, hliteral⟩ h.not_literal
        · cases h.unique hx
          exact hinfinite

theorem isFinite_iff_not_boundless {v : Value} {q : Quantity} (h : readQuantity v = .ok q) :
    q.toValue.IsFinite ↔ ¬ Boundless v := by
  cases v with
  | text t =>
      rcases cases_of_readQuantity h with hnumeral | hstray
      · exact isFinite_iff_of_numeral hnumeral
      · exact isFinite_iff_of_stray hstray
  | int i =>
      cases h
      exact iff_of_true trivial nofun
  | float x =>
      cases h
      refine isFinite_float.trans (not_congr ⟨Boundless.float, ?_⟩)
      rintro ⟨hinfinite⟩
      exact hinfinite
  | bool b =>
      cases b with
      | false => cases h
      | true => cases h
  | null => cases h
  | list vs => cases h
  | object fs => cases h

/-!
# Comparisons with a number
-/

/-- The types that compare with a number, and the comparisons that they make. -/
def numberTypes : List (ConditionType × (Quantity → Comparison)) :=
  [(.greaterThan, greaterThan), (.lessThan, lessThan)]

section NumberTypes

variable {type : ConditionType} {make : Quantity → Comparison}

theorem number_cases (h : (type, make) ∈ numberTypes) :
    type = .greaterThan ∧ make = greaterThan ∨ type = .lessThan ∧ make = lessThan := by
  simpa [numberTypes] using h

theorem toValue_number (h : (type, make) ∈ numberTypes) (q : Quantity) :
    (make q).toValue = q.toValue := by
  rcases number_cases h with ⟨_, rfl⟩ | ⟨_, rfl⟩
  · rfl
  · rfl

theorem parseNamed_number_iff (h : (type, make) ∈ numberTypes) {v : Value} {c : Comparison} :
    parseNamed (.text type.name) v = .ok c ↔ ∃ q, readQuantity v = .ok q ∧ make q = c := by
  rw [parseNamed_name, parse_eq_ok_iff]
  rcases number_cases h with ⟨rfl, rfl⟩ | ⟨rfl, rfl⟩
  · exact map_eq_ok
  · exact map_eq_ok

theorem parseNamed_number_isOk_iff (h : (type, make) ∈ numberTypes) {t : Text}
    (hlength : t.length ≤ digitLimit) :
    (∃ c, parseNamed (.text type.name) (.text t) = .ok c) ↔
      (∃ d, Literal t.trim d) ∨ ∃ q, Stray t q := by
  rw [← exists_readQuantity_iff hlength]
  constructor
  · rintro ⟨c, hc⟩
    rcases (parseNamed_number_iff h).mp hc with ⟨q, hq, _⟩
    exact ⟨q, hq⟩
  · rintro ⟨q, hq⟩
    exact ⟨make q, (parseNamed_number_iff h).mpr ⟨q, hq, rfl⟩⟩

/--
A comparison with a number takes the numerals and nothing else, exactly but for texts that
are no numerals and that a lenient reader takes.  A numeral gives its number.  What is
taken is a finite number, exactly but for what is too large or no number to begin with.
-/
theorem takes_numbers_iff (h : (type, make) ∈ numberTypes) :
    (∀ t : Text, t.length ≤ digitLimit →
      (((∃ c, parseNamed (.text type.name) (.text t) = .ok c) ↔ ∃ d, Literal t.trim d) ↔
        ¬ ∃ q, Stray t q) ∧
      ∀ q, Numeral t.trim q → parseNamed (.text type.name) (.text t) = .ok (make q)) ∧
    ∀ v c, parseNamed (.text type.name) v = .ok c →
      ∃ q, c = make q ∧ c.toValue = q.toValue ∧ (c.toValue.IsFinite ↔ ¬ Boundless v) := by
  refine ⟨?_, ?_⟩
  · intro t hlength
    refine ⟨?_, ?_⟩
    · rw [parseNamed_number_isOk_iff h hlength]
      constructor
      · rintro hiff ⟨q, hstray⟩
        exact hstray.not_literal (hiff.mp (Or.inr ⟨q, hstray⟩))
      · intro hnone
        exact or_iff_left hnone
    · intro q hq
      exact (parseNamed_number_iff h).mpr ⟨q, readQuantity_of_numeral hlength hq, rfl⟩
  · intro v c hc
    rcases (parseNamed_number_iff h).mp hc with ⟨q, hq, rfl⟩
    refine ⟨q, rfl, toValue_number h q, ?_⟩
    rw [toValue_number h]
    exact isFinite_iff_not_boundless hq

end NumberTypes

/-- The word for no number is taken, is no numeral and is not finite as a value. -/
theorem nan_is_compared :
    parseNamed (.text "greater_than") (.text "nan") = .ok (.greaterThan (.float .nan)) ∧
      (¬ ∃ d, Literal (trim "nan") d) ∧
      ¬ (greaterThan (.float .nan)).toValue.IsFinite := by
  have hnumeral : numeral? (trim "nan") = none := by
    rfl
  refine ⟨?_, numeral?_eq_none_iff.mp hnumeral, nofun⟩
  rfl

theorem takes_numbers_iff_thousand :
    ((.lessThan, lessThan) ∈ numberTypes ∧ Stray "1_000" (.int 1000)) ∧
      ¬ ((∃ c, parseNamed (.text "less_than") (.text "1_000") = .ok c) ↔
        ∃ d, Literal (trim "1_000") d) ∧
      parseNamed (.text "less_than") (.text " -12 ") = .ok (.lessThan (.int (-12))) := by
  have hmem : (ConditionType.lessThan, lessThan) ∈ numberTypes :=
    List.mem_cons_of_mem _ List.mem_cons_self
  have hnumeral : numeral? (trim "1_000") = none := by
    rfl
  have hstray : Stray "1_000" (.int 1000) :=
    Stray.integer (numeral?_eq_none_iff.mp hnumeral) (by rfl)
  have hminus : Numeral (trim " -12 ") (.int (-12)) :=
    numeral_of_numeral? (by rfl)
  have htakes := (takes_numbers_iff hmem).left
  refine ⟨⟨hmem, hstray⟩, ?_, (htakes " -12 " (by decide)).right _ hminus⟩
  intro hiff
  exact (htakes "1_000" (by decide)).left.mp hiff ⟨_, hstray⟩

end Comparison
end RuleDraft
