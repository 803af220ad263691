import Mathlib.Data.List.Forall2
import RuleDraft.Proofs.Json.Encodings

/-!
# What acceptance requires

A reading *requires* a condition on the data if it accepts nothing without it, from any
supply of ids.  Requirements are put together along the combinators of readings, from
the requirement of each lenient reader: it accepts no data with a surrogate.
-/

namespace RuleDraft

/-!
# Readings
-/

namespace Intake

variable {α β : Type} {P Q : Prop}

/-- The reading accepts nothing without the condition. -/
def Requires (r : Intake α) (P : Prop) : Prop := ∀ x, r.Accepts x → P

theorem requires_map {g : α → β} {r : Intake α} (hr : r.Requires P) : (g <$> r).Requires P := by
  intro y hy
  rcases accepts_map hy with ⟨x, hx, _⟩
  exact hr x hx

theorem requires_seq {f : Intake (α → β)} {r : Intake α} (hf : f.Requires P)
    (hr : r.Requires Q) : (f <*> r).Requires (P ∧ Q) := by
  intro y hy
  rcases accepts_seq hy with ⟨g, x, hg, hx, _⟩
  exact ⟨hf g hg, hr x hx⟩

theorem requires_lift {read : Value → Checked α} {v : Value} (h : ∀ x, read v = .ok x → P) :
    (lift read v).Requires P := by
  intro x hx
  exact h x (accepts_ofChecked hx)

theorem Requires.error {r : Intake α} (h : r.Requires P) (hP : ¬ P) (ids : IdSupply) :
    ∃ issues, (r.run ids).1 = .error issues := by
  cases hresult : (r.run ids).1 with
  | error issues => exact ⟨issues, rfl⟩
  | ok x => exact absurd (h x ⟨ids, hresult⟩) hP

section Fields

variable {fields : List (Text × Value)} {name : String} {read : Value → Intake α}
  {P : Value → Prop}

theorem requires_optional {absent : Intake α} (h : ∀ v, (read v).Requires (P v)) :
    (optional fields name absent read).Requires
      (∀ v, Keyed.get? (Text.ofString name) fields = some v → P v) := by
  intro x hx v hv
  unfold optional at hx
  rw [hv] at hx
  exact h v x (accepts_under hx)

theorem requires_required (h : ∀ v, (read v).Requires (P v)) :
    (required fields name read).Requires
      (∀ v, Keyed.get? (Text.ofString name) fields = some v → P v) :=
  requires_optional h

theorem requires_items (h : ∀ v, (read v).Requires (P v)) (n : Nat) (vs : List Value) :
    (items read n vs).Requires (∀ v ∈ vs, P v) := by
  induction vs generalizing n with
  | nil =>
      intro xs _ v hv
      cases hv
  | cons v vs ih =>
      intro xs hxs
      rw [List.forall_mem_cons]
      refine requires_seq (requires_map ?_) (ih (n + 1)) xs hxs
      intro x hx
      exact h v x (accepts_under hx)

theorem requires_list (h : ∀ v, (read v).Requires (P v)) (v : Value) :
    (list read v).Requires (∀ vs, v = .list vs → ∀ w ∈ vs, P w) := by
  rintro xs hxs vs rfl
  exact requires_items h 0 vs xs hxs

end Fields

end Intake

/-!
# Lenient readers
-/

theorem Text.encodable_of_hasSurrogate {t : Text} (h : ¬ t.hasSurrogate = true) :
    t.Encodable := by
  rw [Bool.not_eq_true, Text.hasSurrogate, List.any_eq_false] at h
  intro c hc
  exact Bool.eq_false_iff.mpr (h c hc)

namespace Checked

variable {α : Type} {v : Value}

theorem encodable_data_of_cleanText {t : Text} (h : cleanText v = .ok t) : v.Encodable := by
  have hclean := encodable_of_cleanText h
  have htext := (guarded_eq_ok.mp h).left
  cases v with
  | text u =>
      cases htext
      exact hclean
  | _ => cases htext

theorem encodable_data_of_chosen {choice : Choice} {options : List (String × α)} {a : α}
    (h : chosen choice options v = .ok a) : v.Encodable := by
  cases v with
  | text t =>
      by_cases hsurrogate : t.hasSurrogate = true
      · rw [chosen, if_pos hsurrogate] at h
        cases h
      · exact Text.encodable_of_hasSurrogate hsurrogate
  | _ => cases h

theorem encodable_data_of_bool {b : Bool} (h : bool v = .ok b) : v.Encodable := by
  cases v with
  | text t =>
      by_cases hsurrogate : t.hasSurrogate = true
      · rw [bool, if_pos hsurrogate] at h
        cases h
      · exact Text.encodable_of_hasSurrogate hsurrogate
  | list vs => cases h
  | object fs => cases h
  | null => trivial
  | bool b => trivial
  | int i => trivial
  | float x => trivial

theorem list_eq_ok {read : Value → Checked α} {P : Value → α → Prop} {xs : List α}
    (hread : ∀ v x, read v = .ok x → P v x) (h : list read v = .ok xs) :
    ∃ vs, v = .list vs ∧ List.Forall₂ P vs xs := by
  have hitems : ∀ (vs : List Value) (n : Nat) (xs : List α), items read n vs = .ok xs →
      List.Forall₂ P vs xs := by
    intro vs
    induction vs with
    | nil =>
        intro n xs hxs
        cases hxs
        exact .nil
    | cons v vs ih =>
        intro n xs hxs
        rw [items] at hxs
        rcases apply_eq_ok.mp hxs with ⟨g, rest, hg, hrest, hcons⟩
        rcases map_eq_ok.mp hg with ⟨x, hx, hgx⟩
        subst hgx hcons
        exact .cons (hread v x (under_eq_ok.mp hx)) (ih (n + 1) rest hrest)
  cases v with
  | list vs => exact ⟨vs, rfl, hitems vs 0 xs h⟩
  | _ => cases h

theorem encodable_data_of_list {read : Value → Checked α} {xs : List α}
    (hread : ∀ v x, read v = .ok x → v.Encodable) (h : list read v = .ok xs) :
    v.Encodable := by
  rcases list_eq_ok (P := fun v _ => v.Encodable) hread h with ⟨vs, rfl, hvs⟩
  clear h
  rw [Value.encodable_list]
  induction hvs with
  | nil => exact List.forall_mem_nil _
  | cons hfirst _ ih => exact List.forall_mem_cons.mpr ⟨hfirst, ih⟩

end Checked

/-!
# Operands
-/

theorem Scalar.encodable_toValue {s : Scalar} :
    s.toValue.Encodable ↔ Operand.Encodable (.one s) := by
  cases s with
  | text t => exact (List.forall_mem_singleton (p := Text.Encodable)).symm
  | int i => exact iff_of_true trivial (List.forall_mem_nil _)
  | float x => exact iff_of_true trivial (List.forall_mem_nil _)
  | bool b => exact iff_of_true trivial (List.forall_mem_nil _)

theorem Operand.encodable_many {ss : List Scalar} :
    Operand.Encodable (.many ss) ↔ ∀ s ∈ ss, Operand.Encodable (.one s) := by
  unfold Operand.Encodable textsOf
  rw [List.forall_mem_filterMap]
  refine forall₂_congr fun s _ => ?_
  cases s <;> simp

theorem Operand.encodable_toValue {o : Operand} : o.toValue.Encodable ↔ o.Encodable := by
  cases o with
  | one s => exact Scalar.encodable_toValue
  | many ss =>
      rw [toValue, Value.encodable_list_map, encodable_many]
      exact forall₂_congr fun s _ => Scalar.encodable_toValue

theorem Scalar.eq_toValue_of_read {v : Value} {s : Scalar} (h : read v = .ok s) :
    v = s.toValue := by
  cases v with
  | text t =>
      cases h
      rfl
  | int i =>
      cases h
      rfl
  | float x =>
      cases h
      rfl
  | bool b =>
      cases h
      rfl
  | _ => cases h

theorem Operand.eq_toValue_of_read {v : Value} {o : Operand} (h : read v = .ok o) :
    v = o.toValue := by
  unfold read at h
  cases hscalar : Scalar.ofValue? v with
  | some s =>
      rw [hscalar] at h
      cases h
      apply Scalar.eq_toValue_of_read
      rw [Scalar.read, hscalar]
  | none =>
      rw [hscalar] at h
      dsimp only at h
      cases hlist : Checked.list Scalar.read v with
      | error found =>
          rw [hlist] at h
          cases h
      | ok ss =>
          rw [hlist] at h
          cases h
          rcases Checked.list_eq_ok (P := fun v s => v = s.toValue)
            (fun _ _ => Scalar.eq_toValue_of_read) hlist with ⟨vs, rfl, hvs⟩
          rw [← List.forall₂_map_right_iff, List.forall₂_eq_eq_eq] at hvs
          rw [hvs]
          rfl

theorem Operand.encodable_data_of_readClean {v : Value} {o : Operand}
    (h : readClean v = .ok o) : v.Encodable := by
  rw [eq_toValue_of_read (Checked.guarded_eq_ok.mp h).left, encodable_toValue]
  exact encodable_of_readClean h

theorem Condition.encodable_data_of_readFlag {v : Value} {b : Option Bool}
    (h : readFlag v = .ok b) : v.Encodable := by
  have hflag : v = .null ∨ (Checked.bool v).map some = .ok b := by
    cases v with
    | null => exact Or.inl rfl
    | _ => exact Or.inr h
  rcases hflag with rfl | hflag
  · trivial
  · rcases map_eq_ok.mp hflag with ⟨flag, hread, _⟩
    exact Checked.encodable_data_of_bool hread

theorem VendorForm.encodable_data_of_readMethod {v : Value} {m : Option CallMethod}
    (h : readMethod v = .ok m) : v.Encodable := by
  rcases Checked.firstOf_pair_eq_ok.mp h with hnamed | ⟨_, hempty⟩
  · rcases map_eq_ok.mp hnamed with ⟨method, hmethod, _⟩
    exact Checked.encodable_data_of_chosen hmethod
  · exact Checked.encodable_data_of_chosen hempty

end RuleDraft
