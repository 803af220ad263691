import Mathlib.Data.List.Forall2
import Mathlib.Logic.Relator
import RuleDraft.Intake

/-!
# Readings from different supplies

A reading is steady up to a relation if any two supplies of ids make it give related results or
the same issues.  The ids that it draws may differ, and nothing else does.  The relation follows
the combinators that a reading is built with: a reading of functions relates the results of
related arguments.
-/

namespace RuleDraft

open Relator

/-- Two readings give related results, or the same issues. -/
inductive Checked.Agree {α : Type} (R : α → α → Prop) : Checked α → Checked α → Prop
  | ok {x y : α} (h : R x y) : Checked.Agree R (.ok x) (.ok y)
  | error (issues : List Issue) : Checked.Agree R (.error issues) (.error issues)

theorem Checked.Agree.map {α β : Type} {R : α → α → Prop} {S : β → β → Prop} {g : α → β}
    {first second : Checked α} (h : Checked.Agree R first second) (hg : LiftFun R S g g) :
    Checked.Agree S (first.map g) (second.map g) := by
  cases h with
  | ok hxy => exact .ok (hg hxy)
  | error issues => exact .error issues

namespace Intake

variable {α β : Type} {R : α → α → Prop} {S : β → β → Prop}

/-- What the reading gives from one supply agrees with what it gives from any other. -/
def Steady (R : α → α → Prop) (r : Intake α) : Prop :=
  ∀ ids ids', Checked.Agree R (r.run ids).1 (r.run ids').1

theorem Steady.mono {R' : α → α → Prop} {r : Intake α} (h : r.Steady R)
    (hR : ∀ x y, R x y → R' x y) : r.Steady R' := by
  intro ids ids'
  generalize (r.run ids).1 = first, (r.run ids').1 = second, h ids ids' = hagree
  cases hagree with
  | ok hxy => exact .ok (hR _ _ hxy)
  | error issues => exact .error issues

theorem steady_ofChecked (r : Checked α) : (ofChecked r).Steady Eq := by
  intro ids ids'
  change Checked.Agree Eq r r
  cases r with
  | ok x => exact .ok rfl
  | error issues => exact .error issues

theorem steady_lift (read : Value → Checked α) (v : Value) : (lift read v).Steady Eq :=
  steady_ofChecked (read v)

theorem steady_pure {x : α} (h : R x x) : (pure x : Intake α).Steady R := by
  intro ids ids'
  exact .ok h

/-- Fresh ids are where the supplies show. -/
theorem steady_fresh : fresh.Steady fun _ _ => True := by
  intro ids ids'
  exact .ok trivial

theorem steady_seq {f : Intake (α → β)} {r : Intake α} (hf : f.Steady (LiftFun R S))
    (hr : r.Steady R) : (f <*> r).Steady S := by
  intro ids ids'
  change Checked.Agree S (Checked.apply (f.run ids).1 (r.run (f.run ids).2).1)
    (Checked.apply (f.run ids').1 (r.run (f.run ids').2).1)
  have hfunction := hf ids ids'
  have hargument := hr (f.run ids).2 (f.run ids').2
  generalize (f.run ids).1 = g, (f.run ids').1 = g' at hfunction ⊢
  generalize (r.run (f.run ids).2).1 = x, (r.run (f.run ids').2).1 = x' at hargument ⊢
  cases hfunction with
  | ok hg =>
      cases hargument with
      | ok hx => exact .ok (hg hx)
      | error issues => exact .error issues
  | error issues =>
      cases hargument with
      | ok hx => exact .error issues
      | error more => exact .error (issues ++ more)

theorem steady_map {g : α → β} {r : Intake α} (hg : LiftFun R S g g) (hr : r.Steady R) :
    (g <$> r).Steady S :=
  steady_seq (steady_pure hg) hr

theorem steady_under {step : Step} {r : Intake α} (hr : r.Steady R) : (r.under step).Steady R := by
  intro ids ids'
  change Checked.Agree R ((r.run ids).1.under step) ((r.run ids').1.under step)
  generalize (r.run ids).1 = first, (r.run ids').1 = second, hr ids ids' = hagree
  cases hagree with
  | ok hxy => exact .ok hxy
  | error issues => exact .error _

theorem steady_guarded {check : α → Option Cause} {r : Intake α} (hr : r.Steady R)
    (hcheck : ∀ x y, R x y → check x = check y) : (guarded check r).Steady R := by
  intro ids ids'
  change Checked.Agree R (Checked.guarded check (r.run ids).1)
    (Checked.guarded check (r.run ids').1)
  generalize (r.run ids).1 = first, (r.run ids').1 = second, hr ids ids' = hagree
  cases hagree with
  | error issues => exact .error issues
  | @ok x y hxy =>
      rw [Checked.guarded, Checked.guarded, ← hcheck x y hxy]
      cases check x with
      | none => exact .ok hxy
      | some cause => exact .error _

theorem steady_record {model : String} {read : List (Text × Value) → Intake α}
    (h : ∀ fields, (read fields).Steady R) (v : Value) : (record model read v).Steady R := by
  cases v with
  | object fields => exact h fields
  | _ => exact fun _ _ => .error _

theorem steady_optional {fields : List (Text × Value)} {name : String} {absent : Intake α}
    {read : Value → Intake α} (habsent : absent.Steady R) (hread : ∀ v, (read v).Steady R) :
    (optional fields name absent read).Steady R := by
  unfold optional
  cases Keyed.get? (Text.ofString name) fields with
  | none => exact habsent
  | some v => exact steady_under (hread v)

theorem steady_required {fields : List (Text × Value)} {name : String}
    {read : Value → Intake α} (hread : ∀ v, (read v).Steady R) :
    (required fields name read).Steady R :=
  steady_optional (fun _ _ => .error _) hread

theorem steady_items {read : Value → Intake α} (hread : ∀ v, (read v).Steady R) (n : Nat)
    (vs : List Value) : (items read n vs).Steady (List.Forall₂ R) := by
  induction vs generalizing n with
  | nil => exact steady_pure .nil
  | cons v vs ih =>
      have hcons : LiftFun R (LiftFun (List.Forall₂ R) (List.Forall₂ R)) List.cons List.cons := by
        intro x y hxy xs ys hrest
        exact .cons hxy hrest
      exact steady_seq (steady_map hcons (steady_under (hread v))) (ih (n + 1))

theorem steady_list {read : Value → Intake α} (hread : ∀ v, (read v).Steady R) (v : Value) :
    (list read v).Steady (List.Forall₂ R) := by
  cases v with
  | list vs => exact steady_items hread 0 vs
  | _ => exact fun _ _ => .error _

end Intake

end RuleDraft
