import RuleDraft.Proofs.Editor.Independent
import RuleDraft.Proofs.Rule.Places

/-!
# Laws of updates

An update puts a value into one field.  Of two values for one field the last counts, values
for two fields do not get in each other's way, and the value that is there already changes
nothing.  Updates that only read a value and put it into a place obey these laws.  They hand
them on to updates of one item if it has an id, from there to updates that go through a list,
and from fields to their names.
-/

namespace RuleDraft
namespace Editor

open List

/-- Updates of the fields of an item obey the laws, and make of it what they should. -/
structure UpdateLaws {F α : Type} (update : F → Value → α → Except Failure α)
    (Holds : F → Value → α → Prop) (Revises : F → Value → α → α → Prop) (x : α) : Prop where
  revises : ∀ f v y, update f v x = .ok y → Revises f v x y
  again : ∀ f v w y, update f v x = .ok y → update f w y = update f w x
  apart : ∀ f g v w, f ≠ g → Independent (update f v) (update g w) x
  same : ∀ f v, Holds f v x → update f v x = .ok x

/--
Updates of fields that are given by their names obey the laws: they succeed for names only,
the last of two values for one field counts, values for two fields may be put in in either
order, and a value that is there already changes nothing.
-/
structure NamedUpdateLaws {F α : Type} (name : F → String)
    (update : Value → Value → α → Except Failure α) (Holds : F → Value → α → Prop)
    (Revises : F → Value → α → α → Prop) (x : α) : Prop where
  revises : ∀ field v y, update field v x = .ok y →
    ∃ f, field = .text (Text.ofString (name f)) ∧ Revises f v x y
  again : ∀ field v w y, update field v x = .ok y → update field w y = update field w x
  apart : ∀ field other v w y, field ≠ other →
    (update field v x >>= update other w = .ok y ↔ update other w x >>= update field v = .ok y)
  same : ∀ f v, Holds f v x → update (.text (Text.ofString (name f))) v x = .ok x

/-- Items with the id are related, and items without it are equal. -/
def RelatedAt {α : Type} (idOf : α → Text) (id : Text) (R : α → α → Prop) (x y : α) : Prop :=
  (idOf x = id → R x y) ∧ (idOf x ≠ id → y = x)

section Laws

variable {F α ν : Type} {update : F → Value → α → Except Failure α}
  {Holds : F → Value → α → Prop} {Revises : F → Value → α → α → Prop} {x : α}

/-!
# Updates of one item
-/

/-- Updates that never succeed obey the laws, if nothing holds a value. -/
theorem UpdateLaws.of_never (hfails : ∀ f v, ∃ e, update f v x = .error e)
    (hholds : ∀ f v, ¬ Holds f v x) : UpdateLaws update Holds Revises x := by
  have hnever {f : F} {v : Value} {y : α} (hy : update f v x = .ok y) : False := by
    rcases hfails f v with ⟨e, he⟩
    rw [he] at hy
    cases hy
  constructor
  case revises => exact fun f v y hy => (hnever hy).elim
  case again => exact fun f v w y hy => (hnever hy).elim
  case apart =>
    intro f g v w _
    exact ⟨fun y hy => (hnever hy).elim, fun y hy => (hnever hy).elim,
      fun y z hy => (hnever hy).elim⟩
  case same => exact fun f v hv => (hholds f v hv).elim

section Places

variable {P : Places F α} {blame : F → List Issue → Failure}

theorem mapError_put_eq_ok {f : F} {v : Value} {y : α} :
    (P.put f v x).mapError (blame f) = .ok y ↔ ∃ a, P.read f v = .ok a ∧ y = P.set f a x := by
  rw [Places.put]
  cases P.read f v with
  | error issues => exact iff_of_false nofun nofun
  | ok a =>
      constructor
      · intro h
        cases h
        exact ⟨a, rfl, rfl⟩
      · intro h
        rcases h with ⟨b, hb, rfl⟩
        cases hb
        rfl

theorem mapError_put_eq_error {f : F} {v : Value} {e : Failure} :
    (P.put f v x).mapError (blame f) = .error e ↔
      ∃ issues, P.read f v = .error issues ∧ e = blame f issues := by
  rw [Places.put]
  cases P.read f v with
  | error issues =>
      constructor
      · intro h
        cases h
        exact ⟨issues, rfl, rfl⟩
      · intro h
        rcases h with ⟨issues', hissues, rfl⟩
        cases hissues
        rfl
  | ok a => exact iff_of_false nofun nofun

theorem independent_put {update : F → Value → α → Except Failure α}
    (hset : ∀ f v h a, update f v (P.set h a x) = (P.put f v (P.set h a x)).mapError (blame f))
    (hput : ∀ f v, update f v x = (P.put f v x).mapError (blame f)) {f g : F} (hfg : f ≠ g)
    (v w : Value) : Independent (update f v) (update g w) x where
  left y hy e := by
    rw [hput] at hy
    rcases mapError_put_eq_ok.mp hy with ⟨a, _, rfl⟩
    rw [hset, hput, mapError_put_eq_error, mapError_put_eq_error]
  right y hy e := by
    rw [hput] at hy
    rcases mapError_put_eq_ok.mp hy with ⟨a, _, rfl⟩
    rw [hset, hput, mapError_put_eq_error, mapError_put_eq_error]
  both y z hy hz := by
    rw [hput] at hy hz
    rcases mapError_put_eq_ok.mp hy with ⟨a, ha, rfl⟩
    rcases mapError_put_eq_ok.mp hz with ⟨b, hb, rfl⟩
    refine ⟨P.set g b (P.set f a x), ?_, ?_⟩
    · rw [hset]
      exact mapError_put_eq_ok.mpr ⟨b, hb, rfl⟩
    · rw [hset]
      exact mapError_put_eq_ok.mpr ⟨a, ha, P.set_comm f g a b x hfg⟩

/-- An update that reads a value and puts it into a place obeys the laws. -/
theorem UpdateLaws.of_put
    (hset : ∀ f v h a, update f v (P.set h a x) = (P.put f v (P.set h a x)).mapError (blame f))
    (hput : ∀ f v, update f v x = (P.put f v x).mapError (blame f))
    (hrevises : ∀ f v y, P.put f v x = .ok y → Revises f v x y)
    (hholds : ∀ f v, Holds f v x → P.put f v x = .ok x) :
    UpdateLaws update Holds Revises x where
  revises f v y hy := by
    rw [hput] at hy
    rcases mapError_put_eq_ok.mp hy with ⟨a, ha, rfl⟩
    exact hrevises f v _ (map_eq_ok.mpr ⟨a, ha, rfl⟩)
  again f v w y hy := by
    rw [hput] at hy
    rcases mapError_put_eq_ok.mp hy with ⟨a, _, rfl⟩
    rw [hset, hput, Places.put, Places.put]
    -- What was put into the place is replaced.
    cases P.read f w with
    | error issues => rfl
    | ok b => exact congrArg Except.ok (P.set_set f a b x)
  apart f g v w hfg := independent_put hset hput hfg v w
  same f v hv := by
    rw [hput, hholds f v hv]
    rfl

end Places

/-!
# Updates of items with an id
-/

/-- Updates of an item, if it has an id, obey the laws that the updates of the item obey. -/
theorem UpdateLaws.at {idOf : α → Text} {id : Text}
    (hid : ∀ f v x y, update f v x = .ok y → idOf y = idOf x)
    (h : idOf x = id → UpdateLaws update Holds Revises x) :
    UpdateLaws (fun f v => changeAt idOf id (update f v)) (fun f v x => idOf x = id → Holds f v x)
      (fun f v => RelatedAt idOf id (Revises f v)) x := by
  by_cases hx : idOf x = id
  · have hlaws := h hx
    constructor
    case revises =>
      intro f v y hy
      rw [changeAt_of_eq hx] at hy
      exact ⟨fun _ => hlaws.revises f v y hy, fun hne => absurd hx hne⟩
    case again =>
      intro f v w y hy
      rw [changeAt_of_eq hx] at hy
      rw [changeAt_of_eq hx, changeAt_of_eq ((hid f v x y hy).trans hx)]
      exact hlaws.again f v w y hy
    case apart =>
      intro f g v w hfg
      exact independent_changeAt (hid f v) (hid g w) (hlaws.apart f g v w hfg)
    case same =>
      intro f v hv
      rw [changeAt_of_eq hx]
      exact hlaws.same f v (hv hx)
  · have hkept (f : F) (v : Value) : changeAt idOf id (update f v) x = .ok x := changeAt_of_ne hx
    constructor
    case revises =>
      intro f v y hy
      rw [hkept] at hy
      cases hy
      exact ⟨fun heq => absurd heq hx, fun _ => rfl⟩
    case again =>
      intro f v w y hy
      rw [hkept] at hy
      cases hy
      rfl
    case apart =>
      intro f g v w _
      refine Independent.of_same (hkept g w) fun y hy => ?_
      rw [hkept] at hy
      cases hy
      exact hkept g w
    case same => exact fun f v _ => hkept f v

/-- Updates that go through a list obey the laws if they do so at every item. -/
theorem UpdateLaws.items {all : F → Value → List α → Except Failure (List α)}
    (hitems : ∀ f v, ItemByItem (update f v) (all f v)) {xs : List α}
    (h : ∀ x ∈ xs, UpdateLaws update Holds Revises x) :
    UpdateLaws all (fun f v xs => ∀ x ∈ xs, Holds f v x) (fun f v => Forall₂ (Revises f v))
      xs where
  revises f v ys hys := by
    induction xs generalizing ys with
    | nil =>
        rw [(hitems f v).left] at hys
        cases hys
        exact Forall₂.nil
    | cons x xs ih =>
        rcases forall_mem_cons.mp h with ⟨hx, hxs⟩
        rcases (hitems f v).cons_eq_ok.mp hys with ⟨y, rest, hy, hrest, rfl⟩
        exact Forall₂.cons (hx.revises f v y hy) (ih hxs rest hrest)
  again f v w ys hys := by
    induction xs generalizing ys with
    | nil =>
        rw [(hitems f v).left] at hys
        cases hys
        rfl
    | cons x xs ih =>
        rcases forall_mem_cons.mp h with ⟨hx, hxs⟩
        rcases (hitems f v).cons_eq_ok.mp hys with ⟨y, rest, hy, hrest, rfl⟩
        rw [(hitems f w).right, (hitems f w).right, hx.again f v w y hy, ih hxs rest hrest]
  apart f g v w hfg :=
    (hitems f v).independent (hitems g w) fun x hx => (h x hx).apart f g v w hfg
  same f v hv := (hitems f v).eq_self fun x hx => (h x hx).same f v (hv x hx)

/-- Updates of the conditions of a group obey the laws that they obey in their list. -/
theorem UpdateLaws.conditions {condition : Text}
    {change : F → Value → Condition → Except Failure Condition}
    {Holds : F → Value → List Condition → Prop}
    {Revises : F → Value → List Condition → List Condition → Prop} {g : Group ν}
    (h : UpdateLaws (fun f v => tryConditions condition (change f v)) Holds Revises
      g.conditions) :
    UpdateLaws (fun f v => changeConditions condition (change f v))
      (fun f v g => Holds f v g.conditions)
      (fun f v g g' => ∃ cs, Revises f v g.conditions cs ∧ g' = { g with conditions := cs }) g where
  revises f v g' hg' := by
    rcases changeConditions_eq_ok.mp hg' with ⟨cs, hcs, rfl⟩
    exact ⟨cs, h.revises f v cs hcs, rfl⟩
  again f v w g' hg' := by
    rcases changeConditions_eq_ok.mp hg' with ⟨cs, hcs, rfl⟩
    exact congrArg (· >>= fun conditions => Except.ok { g with conditions })
      (h.again f v w cs hcs)
  apart f f' v w hff := independent_changeConditions (h.apart f f' v w hff)
  same f v hv := changeConditions_eq_ok.mpr ⟨g.conditions, h.same f v hv, rfl⟩

/-!
# Fields by their names
-/

/-- Updates that find a field by its name obey the laws that the updates of the fields obey. -/
theorem UpdateLaws.named {name : F → String} {byName : Value → Value → α → Except Failure α}
    (hcases : ∀ field, (∃ e, ∀ v x, byName field v x = .error e) ∨
      ∃ f, field = .text (Text.ofString (name f)) ∧ byName field = update f)
    (hname : ∀ f, byName (.text (Text.ofString (name f))) = update f)
    (h : UpdateLaws update Holds Revises x) : NamedUpdateLaws name byName Holds Revises x := by
  constructor
  case revises =>
    intro field v y hy
    rcases hcases field with ⟨e, he⟩ | ⟨f, hf, hupdate⟩
    · rw [he] at hy
      cases hy
    · rw [hupdate] at hy
      exact ⟨f, hf, h.revises f v y hy⟩
  case again =>
    intro field v w y hy
    rcases hcases field with ⟨e, he⟩ | ⟨f, _, hupdate⟩
    · rw [he] at hy
      cases hy
    · rw [hupdate] at hy ⊢
      exact h.again f v w y hy
  case apart =>
    intro field other v w y hne
    rcases hcases field with ⟨e, he⟩ | ⟨f, hf, hupdate⟩
    · exact (Independent.of_never (he v)).bind_eq_ok_iff
    · rcases hcases other with ⟨e, he⟩ | ⟨g, hg, hupdate'⟩
      · exact (Independent.symm (.of_never (he w))).bind_eq_ok_iff
      · have hfg : f ≠ g := by
          intro heq
          rw [heq, ← hg] at hf
          exact hne hf
        rw [hupdate, hupdate']
        exact (h.apart f g v w hfg).bind_eq_ok_iff
  case same =>
    intro f v hv
    rw [hname]
    exact h.same f v hv

end Laws

end Editor
end RuleDraft
