import RuleDraft.Proofs.Intake.Accepted

/-!
# Readings that give and readings that ensure

Two statements about a reading that may draw fresh ids.  It *settles* on a result if
it gives this result from every supply of ids and draws none.  It *ensures* a property
if all that it gives from a supply of encodable ids has the property, and it leaves
such a supply.  Both are taken apart along the combinators of readings.
-/

namespace RuleDraft

/-- No code point of the text is a surrogate, so the text has an encoding. -/
def Text.Encodable (t : Text) : Prop := ∀ c ∈ t, c.isSurrogate = false

def IdSupply.Encodable (s : IdSupply) : Prop := ∀ n, (s.label n).Encodable

namespace Intake

variable {α β : Type}

/-- The reading gives the result from every supply and draws no id. -/
def Settles (r : Intake α) (x : α) : Prop := ∀ ids, r.run ids = (.ok x, ids)

/-- What the reading gives from encodable ids has a property, and the ids stay encodable. -/
def Ensures (r : Intake α) (P : α → Prop) : Prop :=
  ∀ ids, ids.Encodable →
    (∀ x, (r.run ids).1 = .ok x → P x) ∧ (r.run ids).2.Encodable

/-!
# Readings that settle
-/

theorem settles_pure (x : α) : (pure x : Intake α).Settles x := by
  intro ids
  rfl

theorem settles_lift {read : Value → Checked α} {v : Value} {x : α} (h : read v = .ok x) :
    (lift read v).Settles x := by
  intro ids
  change (read v, ids) = (.ok x, ids)
  rw [h]

theorem settles_seq {f : Intake (α → β)} {g : α → β} {r : Intake α} {x : α}
    (hf : f.Settles g) (hr : r.Settles x) : (f <*> r).Settles (g x) := by
  intro ids
  change (Checked.apply (f.run ids).1 (r.run (f.run ids).2).1, (r.run (f.run ids).2).2) = _
  rw [hf ids, hr ids]
  rfl

theorem settles_map {g : α → β} {r : Intake α} {x : α} (hr : r.Settles x) :
    (g <$> r).Settles (g x) :=
  settles_seq (settles_pure g) hr

theorem settles_under {step : Step} {r : Intake α} {x : α} (hr : r.Settles x) :
    (r.under step).Settles x := by
  intro ids
  change ((r.run ids).1.under step, (r.run ids).2) = _
  rw [hr ids]
  rfl

theorem settles_guarded {check : α → Option Cause} {r : Intake α} {x : α}
    (hr : r.Settles x) (hcheck : check x = none) : (guarded check r).Settles x := by
  intro ids
  change (Checked.guarded check (r.run ids).1, (r.run ids).2) = _
  rw [hr ids]
  have hkept : Checked.guarded check (.ok x) = .ok x :=
    Checked.guarded_eq_ok.mpr ⟨rfl, hcheck⟩
  rw [hkept]

theorem settles_optional {fields : List (Text × Value)} {name : String} {absent : Intake α}
    {read : Value → Intake α} {v : Value} {x : α}
    (hfield : Keyed.get? (Text.ofString name) fields = some v) (hr : (read v).Settles x) :
    (optional fields name absent read).Settles x := by
  unfold optional
  rw [hfield]
  exact settles_under hr

theorem settles_items {read : Value → Intake α} {write : α → Value} {xs : List α}
    (h : ∀ x ∈ xs, (read (write x)).Settles x) (n : Nat) :
    (items read n (xs.map write)).Settles xs := by
  induction xs generalizing n with
  | nil => exact settles_pure []
  | cons x xs ih =>
      have hfirst := h x List.mem_cons_self
      have hothers := ih (fun y hy => h y (List.mem_cons_of_mem x hy)) (n + 1)
      exact settles_seq (settles_map (settles_under hfirst)) hothers

theorem settles_list {read : Value → Intake α} {write : α → Value} {xs : List α}
    (h : ∀ x ∈ xs, (read (write x)).Settles x) :
    (list read (.list (xs.map write))).Settles xs :=
  settles_items h 0

/-!
# Readings that ensure
-/

theorem Ensures.mono {r : Intake α} {P Q : α → Prop} (h : r.Ensures P)
    (hPQ : ∀ x, P x → Q x) : r.Ensures Q := by
  intro ids hids
  rcases h ids hids with ⟨hresult, hrest⟩
  exact ⟨fun x hx => hPQ x (hresult x hx), hrest⟩

theorem ensures_ofChecked {r : Checked α} {P : α → Prop} (h : ∀ x, r = .ok x → P x) :
    (ofChecked r).Ensures P := by
  intro ids hids
  exact ⟨h, hids⟩

theorem ensures_pure {x : α} {P : α → Prop} (h : P x) : (pure x : Intake α).Ensures P := by
  apply ensures_ofChecked
  intro y hy
  cases hy
  exact h

theorem ensures_lift {read : Value → Checked α} {P : α → Prop} {v : Value}
    (h : ∀ x, read v = .ok x → P x) : (lift read v).Ensures P :=
  ensures_ofChecked h

theorem ensures_seq {f : Intake (α → β)} {r : Intake α} {P : (α → β) → Prop} {Q : α → Prop}
    (hf : f.Ensures P) (hr : r.Ensures Q) :
    (f <*> r).Ensures fun y => ∃ g x, P g ∧ Q x ∧ g x = y := by
  intro ids hids
  rcases hf ids hids with ⟨hfunction, hmiddle⟩
  rcases hr _ hmiddle with ⟨hargument, hrest⟩
  refine ⟨?_, hrest⟩
  intro y hy
  rcases Checked.apply_eq_ok.mp hy with ⟨g, x, hg, hx, hgx⟩
  exact ⟨g, x, hfunction g hg, hargument x hx, hgx⟩

theorem ensures_map {g : α → β} {r : Intake α} {Q : α → Prop} (hr : r.Ensures Q) :
    (g <$> r).Ensures fun y => ∃ x, Q x ∧ g x = y := by
  apply (ensures_seq (ensures_pure (P := fun f => f = g) rfl) hr).mono
  rintro y ⟨f, x, rfl, hx, hy⟩
  exact ⟨x, hx, hy⟩

theorem ensures_under {step : Step} {r : Intake α} {P : α → Prop} (hr : r.Ensures P) :
    (r.under step).Ensures P := by
  intro ids hids
  rcases hr ids hids with ⟨hresult, hrest⟩
  exact ⟨fun x hx => hresult x (Checked.under_eq_ok.mp hx), hrest⟩

theorem ensures_guarded {check : α → Option Cause} {r : Intake α} {P : α → Prop}
    (hr : r.Ensures P) : (guarded check r).Ensures fun x => P x ∧ check x = none := by
  intro ids hids
  rcases hr ids hids with ⟨hresult, hrest⟩
  refine ⟨?_, hrest⟩
  intro x hx
  rcases Checked.guarded_eq_ok.mp hx with ⟨hgiven, hcheck⟩
  exact ⟨hresult x hgiven, hcheck⟩

theorem ensures_record {model : String} {read : List (Text × Value) → Intake α}
    {P : α → Prop} (h : ∀ fields, (read fields).Ensures P) (v : Value) :
    (record model read v).Ensures P := by
  cases v with
  | object fields => exact h fields
  | _ =>
      apply ensures_ofChecked
      intro x hx
      cases hx

theorem ensures_optional {fields : List (Text × Value)} {name : String} {absent : Intake α}
    {read : Value → Intake α} {P : α → Prop} (habsent : absent.Ensures P)
    (hread : ∀ v, (read v).Ensures P) : (optional fields name absent read).Ensures P := by
  unfold optional
  cases Keyed.get? (Text.ofString name) fields with
  | none => exact habsent
  | some v => exact ensures_under (hread v)

theorem ensures_required {fields : List (Text × Value)} {name : String}
    {read : Value → Intake α} {P : α → Prop} (hread : ∀ v, (read v).Ensures P) :
    (required fields name read).Ensures P := by
  refine ensures_optional (ensures_under ?_) hread
  apply ensures_ofChecked
  intro x hx
  cases hx

theorem ensures_items {read : Value → Intake α} {P : α → Prop}
    (hread : ∀ v, (read v).Ensures P) (n : Nat) (vs : List Value) :
    (items read n vs).Ensures fun xs => ∀ x ∈ xs, P x := by
  induction vs generalizing n with
  | nil =>
      apply ensures_pure
      intro x hx
      cases hx
  | cons v vs ih =>
      apply (ensures_seq (ensures_map (ensures_under (hread v))) (ih (n + 1))).mono
      rintro xs ⟨_, others, ⟨x, hx, rfl⟩, hothers, rfl⟩ y hy
      rcases List.mem_cons.mp hy with rfl | hmem
      · exact hx
      · exact hothers y hmem

theorem ensures_list {read : Value → Intake α} {P : α → Prop}
    (hread : ∀ v, (read v).Ensures P) (v : Value) :
    (list read v).Ensures fun xs => ∀ x ∈ xs, P x := by
  cases v with
  | list vs => exact ensures_items hread 0 vs
  | _ =>
      apply ensures_ofChecked
      intro x hx
      cases hx

end Intake

end RuleDraft
