import RuleDraft.Proofs.KeyedRows
import RuleDraft.Proofs.Outcome
import RuleDraft.Proofs.Rule.Stable

/-!
# Revised conditions

To replace a field, an editor puts the new value into the data of the condition and reads
them again.  The reading goes through all fields, but those that were not replaced settle
on what they are, so the condition changes in the one field alone, and the value is
refused exactly where the field refuses it.
-/

namespace RuleDraft

open Intake

variable {α β : Type}

/-- The reading has one answer, issues or a result, and draws no id. -/
def Intake.Answers (r : Intake α) (answer : Checked α) : Prop := ∀ ids, r.run ids = (answer, ids)

def Value.putField (data : Value) (name : Text) (v : Value) : Value :=
  match data with
  | .object fields => .object (Keyed.put name v fields)
  | other => other

namespace Intake

/-!
# Readings with one answer
-/

theorem Settles.answers {r : Intake α} {x : α} (h : r.Settles x) : r.Answers (.ok x) := h

theorem answers_seq {f : Intake (α → β)} {r : Intake α} {F : Checked (α → β)} {R : Checked α}
    (hf : f.Answers F) (hr : r.Answers R) : (f <*> r).Answers (Checked.apply F R) := by
  intro ids
  change (Checked.apply (f.run ids).1 (r.run (f.run ids).2).1, (r.run (f.run ids).2).2) = _
  rw [hf ids, hr ids]

theorem answers_map {g : α → β} {r : Intake α} {R : Checked α} (hr : r.Answers R) :
    (g <$> r).Answers (R.map g) := by
  have hseq := answers_seq (settles_pure g).answers hr
  cases R <;> exact hseq

theorem answers_field {read : Value → Checked α} {absent : Intake α} {name : String}
    {fields : List (Text × Value)} {v : Value}
    (h : Keyed.get? (Text.ofString name) fields = some v) :
    (optional fields name absent (lift read)).Answers ((read v).under (.field name)) := by
  intro ids
  unfold optional
  rw [h]
  rfl

end Intake

theorem Value.putField_record (named : List (String × Value)) (name : String) (v : Value) :
    (Value.record named).putField (Text.ofString name) v =
      Value.record (Keyed.put name v named) := by
  have hrows : Keyed.put (Text.ofString name) v (Value.recordFields named) =
      Value.recordFields (Keyed.put name v named) := by
    induction named with
    | nil => rfl
    | cons row named ih =>
        rw [Value.recordFields, List.map_cons, Keyed.put, Keyed.put]
        by_cases hname : row.1 = name
        · rw [if_pos (congrArg Text.ofString hname), if_pos hname]
          rfl
        · rw [if_neg fun heq => hname (Text.ofString_inj heq), if_neg hname]
          exact congrArg (List.cons _) ih
  exact congrArg Value.object hrows

/-!
# One field of a condition
-/

namespace Condition

def named (c : Condition) : List (String × Value) :=
  [("id", c.id), ("key", c.key), ("type", .text c.type.name), ("value", c.value.toValue),
    ("negate", flagValue c.negate), ("mandatory", flagValue c.mandatory)]

/-- The fields of the condition with a value in the place of one of them. -/
def rowsWith (c : Condition) (field : Field) (v : Value) : List (Text × Value) :=
  Keyed.put (Text.ofString field.name) v (Value.recordFields c.named)

theorem Field.name_inj {field other : Field} (h : field.name = other.name) : field = other := by
  revert h
  cases field <;> cases other <;> decide

theorem Field.name_ne_id (field : Field) : field.name ≠ "id" := by
  cases field <;> decide

section Rows

variable (c : Condition) (field : Field) (v : Value) (absent : Intake α)
  {read : Value → Checked α}

theorem settles_rowsWith {name : String} {data : Value} {x : α} (hname : field.name ≠ name)
    (h : (c.named.find? fun f => f.1 = name).map Prod.snd = some data)
    (hr : read data = .ok x) :
    (optional (c.rowsWith field v) name absent (lift read)).Settles x := by
  have hkept : Keyed.get? (Text.ofString name) (c.rowsWith field v) = some data := by
    rw [rowsWith, Keyed.get?_put, if_neg fun heq => hname (Text.ofString_inj heq)]
    exact Value.get?_recordFields h
  exact settles_optional hkept (settles_lift hr)

/-- A field answers what the new value reads to, if it is replaced, and what it is if not. -/
theorem answers_rowsWith (other : Field) {data : Value} {x : α}
    (h : (c.named.find? fun f => f.1 = other.name).map Prod.snd = some data)
    (hr : read data = .ok x) :
    (optional (c.rowsWith field v) other.name absent (lift read)).Answers
      (if field = other then (read v).under (.field other.name) else .ok x) := by
  by_cases hfield : field = other
  · rw [if_pos hfield]
    apply answers_field
    rw [rowsWith, Keyed.get?_put, hfield, if_pos rfl]
  · rw [if_neg hfield]
    exact settles_rowsWith c field v absent (fun hname => hfield (Field.name_inj hname)) h hr

end Rows

/-- Replacing a field is reading the data of the condition with the value in its place. -/
theorem answers_putField {c : Condition} (h : c.Sound) (field : Field) (v : Value) :
    (intake (c.toValue.putField (Text.ofString field.name) v)).Answers
      ((c.withField field v).under (.field field.name)) := by
  have hid := settles_rowsWith c field v fresh field.name_ne_id rfl (Checked.cleanText_text h.id)
  have hkey := answers_rowsWith c field v (pure []) .key rfl (Checked.cleanText_text h.key)
  have htype := answers_rowsWith c field v (pure .equals) .type rfl (readType_name c.type)
  have hvalue := answers_rowsWith c field v (pure .empty) .value rfl
    (Operand.readClean_toValue h.value)
  have hnegate := answers_rowsWith c field v (pure none) .negate rfl (readFlag_flagValue c.negate)
  have hmandatory := answers_rowsWith c field v (pure none) .mandatory rfl
    (readFlag_flagValue c.mandatory)
  have hall := answers_seq (answers_seq (answers_seq (answers_seq (answers_seq (answers_map
    (g := mk) hid.answers) hkey) htype) hvalue) hnegate) hmandatory
  intro ids
  refine (hall ids).trans (congrArg (fun answer => (answer, ids)) ?_)
  cases field with
  | key => cases hread : Checked.cleanText v <;> simp only [withField, hread] <;> rfl
  | type => cases hread : readType v <;> simp only [withField, hread] <;> rfl
  | value => cases hread : Operand.readClean v <;> simp only [withField, hread] <;> rfl
  | negate => cases hread : readFlag v <;> simp only [withField, hread] <;> rfl
  | mandatory => cases hread : readFlag v <;> simp only [withField, hread] <;> rfl

/-- One field of the condition has what a value reads to, and the others are as they were. -/
structure Revised (field : Field) (v : Value) (c d : Condition) : Prop where
  read : c.withField field v = .ok d
  others : ∀ name, name ≠ Text.ofString field.name →
    d.toValue.field? name = c.toValue.field? name
  reread : c.Sound → (intake (c.toValue.putField (Text.ofString field.name) v)).Settles d

theorem toValue_of_withField {c d : Condition} {field : Field} {v : Value}
    (h : c.withField field v = .ok d) :
    ∃ data, d.toValue = c.toValue.putField (Text.ofString field.name) data := by
  have hput : ∀ data, c.toValue.putField (Text.ofString field.name) data =
      Value.record (Keyed.put field.name data c.named) := Value.putField_record c.named field.name
  simp only [hput]
  cases field with
  | key =>
      rcases map_eq_ok.mp h with ⟨key, _, rfl⟩
      exact ⟨.text key, rfl⟩
  | type =>
      rcases map_eq_ok.mp h with ⟨type, _, rfl⟩
      exact ⟨.text type.name, rfl⟩
  | value =>
      rcases map_eq_ok.mp h with ⟨value, _, rfl⟩
      exact ⟨value.toValue, rfl⟩
  | negate =>
      rcases map_eq_ok.mp h with ⟨flag, _, rfl⟩
      exact ⟨flagValue flag, rfl⟩
  | mandatory =>
      rcases map_eq_ok.mp h with ⟨flag, _, rfl⟩
      exact ⟨flagValue flag, rfl⟩

theorem revised_of_withField {c d : Condition} {field : Field} {v : Value}
    (h : c.withField field v = .ok d) : c.Revised field v d where
  read := h
  others := by
    intro name hname
    rcases toValue_of_withField h with ⟨data, hdata⟩
    rw [hdata]
    exact (Keyed.get?_put _ _ _ _).trans (if_neg fun heq => hname heq.symm)
  reread := by
    intro hsound ids
    rw [answers_putField hsound field v ids, h]
    rfl

end Condition

end RuleDraft
