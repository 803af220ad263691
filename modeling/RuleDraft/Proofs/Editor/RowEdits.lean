import Mathlib.Data.List.Induction
import RuleDraft.Editor.Rows
import RuleDraft.Proofs.Outcome
import RuleDraft.Proofs.Rule.Encodable

/-!
# Editing rows without surrogates

A run of row edits draws ids of its own at each step, and an edit that fails leaves the
rows as they are.  Rows without surrogates stay so, and so does the mapping that they
are folded into.
-/

namespace RuleDraft
namespace Editor

open List

/-- One edit of rows; arguments that name something are data. -/
inductive RowEdit where
  | add
  | remove (row : Text)
  | update (row : Text) (field value : Value)

structure RowTurn where
  ids : IdSupply
  edit : RowEdit

def performRows (rows : List Row) (t : RowTurn) : Except Failure (List Row) :=
  match t.edit with
  | .add => .ok (addRow rows t.ids).1
  | .remove row => .ok (removeRow row rows)
  | .update row field value => updateRowNamed row field value rows

/-- The rows after an edit; an edit that fails changes nothing. -/
def turnRows (rows : List Row) (t : RowTurn) : List Row :=
  match performRows rows t with
  | .ok rows => rows
  | .error _ => rows

def playRows (rows : List Row) (turns : List RowTurn) : List Row := turns.foldl turnRows rows

def EncodableRows (rows : List Row) : Prop := ∀ r ∈ rows, r.toValue.Encodable

/-!
# One edit
-/

variable {rows result : List Row}

theorem updateRow_cons (id : Text) (field : Row.Field) (v : Value) (r : Row) (rest : List Row) :
    updateRow id field v (r :: rest) =
      (if r.id = id then replaceRowField id field v r else .ok r) >>= fun r' =>
        updateRow id field v rest >>= fun rest' => .ok (r' :: rest') := by
  by_cases hid : r.id = id
  · rw [updateRow, if_pos hid, if_pos hid]
    rfl
  · rw [updateRow, if_neg hid, if_neg hid]
    rfl

theorem sound_rowWithField {field : Row.Field} {v : Value} {r r' : Row}
    (h : r.withField field v = .ok r') : v.Encodable ∧ (r.Sound → r'.Sound) := by
  cases field
  all_goals
    rcases map_eq_ok.mp h with ⟨x, hx, rfl⟩
  case key =>
    exact ⟨Checked.encodable_data_of_cleanText hx,
      fun hr => ⟨hr.id, Checked.encodable_of_cleanText hx, hr.value⟩⟩
  case value =>
    exact ⟨Checked.encodable_data_of_cleanText hx,
      fun hr => ⟨hr.id, hr.key, Checked.encodable_of_cleanText hx⟩⟩

theorem sound_replaceRowField {id : Text} {field : Row.Field} {v : Value} {r r' : Row}
    (h : replaceRowField id field v r = .ok r') (hr : r.Sound) : r'.Sound := by
  unfold replaceRowField at h
  cases hfield : r.withField field v with
  | error issues =>
      rw [hfield] at h
      cases h
  | ok r'' =>
      rw [hfield] at h
      cases h
      exact (sound_rowWithField hfield).right hr

theorem EncodableRows.addRow (h : EncodableRows rows) {ids : IdSupply} (hids : ids.Encodable) :
    EncodableRows (Editor.addRow rows ids).1 := by
  refine forall_mem_append.mpr ⟨h, forall_mem_singleton.mpr (Row.encodable_toValue.mpr ?_)⟩
  exact ⟨hids _, Text.encodable_nil, Text.encodable_nil⟩

theorem EncodableRows.updateRow (h : EncodableRows rows) {id : Text} {field : Row.Field}
    {v : Value} (hresult : Editor.updateRow id field v rows = .ok result) :
    EncodableRows result := by
  induction rows generalizing result with
  | nil =>
      cases hresult
      exact h
  | cons r rest ih =>
      rw [updateRow_cons] at hresult
      rcases bind_eq_ok.mp hresult with ⟨r', hr', hrest⟩
      rcases bind_eq_ok.mp hrest with ⟨rest', hrest', hcons⟩
      cases hcons
      rcases forall_mem_cons.mp h with ⟨hr, hothers⟩
      refine forall_mem_cons.mpr ⟨?_, ih hothers hrest'⟩
      by_cases hid : r.id = id
      · rw [if_pos hid] at hr'
        exact Row.encodable_toValue.mpr
          (sound_replaceRowField hr' (Row.encodable_toValue.mp hr))
      · rw [if_neg hid] at hr'
        cases hr'
        exact hr

theorem EncodableRows.perform (h : EncodableRows rows) {t : RowTurn} (hids : t.ids.Encodable)
    (hresult : performRows rows t = .ok result) : EncodableRows result := by
  unfold performRows at hresult
  cases hedit : t.edit with
  | add =>
      rw [hedit] at hresult
      cases hresult
      exact h.addRow hids
  | remove row =>
      rw [hedit] at hresult
      cases hresult
      intro r hr
      exact h r (mem_of_mem_filter hr)
  | update row field value =>
      rw [hedit] at hresult
      dsimp only at hresult
      unfold updateRowNamed at hresult
      cases hnamed : named? Row.Field.options field with
      | none =>
          rw [hnamed] at hresult
          cases hresult
      | some known =>
          rw [hnamed] at hresult
          exact h.updateRow hresult

/-!
# Runs
-/

theorem EncodableRows.turn (h : EncodableRows rows) {t : RowTurn} (hids : t.ids.Encodable) :
    EncodableRows (turnRows rows t) := by
  unfold turnRows
  cases hperform : performRows rows t with
  | error e => exact h
  | ok result => exact h.perform hids hperform

theorem EncodableRows.play (h : EncodableRows rows) {turns : List RowTurn}
    (hturns : ∀ t ∈ turns, t.ids.Encodable) : EncodableRows (playRows rows turns) := by
  induction turns using List.reverseRecOn with
  | nil => exact h
  | append_singleton past t ih =>
      have hpast := ih fun u hu => hturns u (mem_append_left [t] hu)
      rw [playRows, foldl_append]
      exact hpast.turn (hturns t (mem_append_right past mem_cons_self))

end Editor
end RuleDraft
