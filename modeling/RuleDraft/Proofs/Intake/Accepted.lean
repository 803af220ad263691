import RuleDraft.Intake

/-!
# Accepted readings

A reading is taken apart along the combinators that it is built with: where the
whole is accepted every part is, and the result is put together from the results
of the parts.  Fresh ids only decide which ids a result holds, so acceptance is
stated for some supply of ids.
-/

namespace RuleDraft

/-!
# Readings without fresh ids
-/

namespace Checked

variable {α β : Type}

theorem under_eq_ok {r : Checked α} {step : Step} {x : α} :
    r.under step = .ok x ↔ r = .ok x := by
  cases r with
  | ok y => exact Iff.rfl
  | error issues =>
      constructor <;>
        · intro h
          cases h

theorem apply_eq_ok {f : Checked (α → β)} {r : Checked α} {y : β} :
    apply f r = .ok y ↔ ∃ g x, f = .ok g ∧ r = .ok x ∧ g x = y := by
  cases f with
  | error a =>
      cases r <;> simp [apply]
  | ok g =>
      cases r with
      | error b => simp [apply]
      | ok x => simp [apply]

/-- The second of two readings counts only where the first fails. -/
theorem firstOf_pair_eq_ok {l m : Text} {r s : Checked α} {x : α} :
    firstOf [(l, r), (m, s)] = .ok x ↔
      r = .ok x ∨ (∃ issues, r = .error issues) ∧ s = .ok x := by
  cases r with
  | ok y => simp [firstOf]
  | error issues =>
      cases s with
      | ok y => simp [firstOf]
      | error issues' => simp [firstOf]

theorem guarded_eq_ok {check : α → Option Cause} {r : Checked α} {x : α} :
    guarded check r = .ok x ↔ r = .ok x ∧ check x = none := by
  cases r with
  | error issues => simp [guarded]
  | ok y =>
      cases hcheck : check y with
      | none =>
          constructor
          · intro h
            have hyx : y = x := by simpa [guarded, hcheck] using h
            exact ⟨congrArg Except.ok hyx, hyx ▸ hcheck⟩
          · intro h
            simpa [guarded, hcheck] using h.left
      | some cause =>
          constructor
          · intro h
            simp [guarded, hcheck, fail] at h
          · rintro ⟨hyx, hnone⟩
            cases hyx
            rw [hcheck] at hnone
            cases hnone

end Checked

/-!
# Readings with fresh ids
-/

namespace Intake

variable {α β : Type}

/-- Some supply of ids makes the reading give the result. -/
def Accepts (r : Intake α) (x : α) : Prop := ∃ ids, (r.run ids).1 = .ok x

theorem accepts_pure {x y : α} : (pure x : Intake α).Accepts y → x = y := by
  rintro ⟨ids, h⟩
  exact Except.ok.inj h

theorem accepts_seq {f : Intake (α → β)} {r : Intake α} {y : β} :
    (f <*> r).Accepts y → ∃ g x, f.Accepts g ∧ r.Accepts x ∧ g x = y := by
  rintro ⟨ids, h⟩
  rcases Checked.apply_eq_ok.mp h with ⟨g, x, hf, hr, hy⟩
  exact ⟨g, x, ⟨ids, hf⟩, ⟨(f ids).2, hr⟩, hy⟩

theorem accepts_map {g : α → β} {r : Intake α} {y : β} :
    (g <$> r).Accepts y → ∃ x, r.Accepts x ∧ g x = y := by
  intro h
  rcases accepts_seq (f := pure g) h with ⟨g', x, hg, hx, hy⟩
  cases accepts_pure hg
  exact ⟨x, hx, hy⟩

theorem accepts_ofChecked {r : Checked α} {x : α} :
    (ofChecked r).Accepts x → r = .ok x := by
  rintro ⟨ids, h⟩
  exact h

theorem accepts_under {step : Step} {r : Intake α} {x : α} :
    (r.under step).Accepts x → r.Accepts x := by
  rintro ⟨ids, h⟩
  exact ⟨ids, Checked.under_eq_ok.mp h⟩

theorem accepts_guarded {check : α → Option Cause} {r : Intake α} {x : α} :
    (guarded check r).Accepts x → r.Accepts x ∧ check x = none := by
  rintro ⟨ids, h⟩
  rcases Checked.guarded_eq_ok.mp h with ⟨hr, hcheck⟩
  exact ⟨⟨ids, hr⟩, hcheck⟩

theorem accepts_record {model : String} {read : List (Text × Value) → Intake α} {v : Value}
    {x : α} :
    (record model read v).Accepts x → ∃ fields, v = .object fields ∧ (read fields).Accepts x := by
  intro h
  cases v with
  | object fields => exact ⟨fields, rfl, h⟩
  | _ => cases accepts_ofChecked h

theorem accepts_required {fields : List (Text × Value)} {name : String}
    {read : Value → Intake α} {x : α} :
    (required fields name read).Accepts x →
      ∃ v, Keyed.get? (Text.ofString name) fields = some v ∧ (read v).Accepts x := by
  intro h
  unfold required optional at h
  cases hget : Keyed.get? (Text.ofString name) fields with
  | none =>
      rw [hget] at h
      cases accepts_ofChecked (accepts_under h)
  | some v =>
      rw [hget] at h
      exact ⟨v, rfl, accepts_under h⟩

end Intake

end RuleDraft
