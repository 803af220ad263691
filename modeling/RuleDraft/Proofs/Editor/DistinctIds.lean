import Mathlib.Data.List.Nodup
import RuleDraft.Proofs.Editor.Plain

/-!
# Conditions with distinct ids

Whatever a generic edit does to a group, the ids of its conditions are some of those
of a group before, or these and one that was drawn, or a drawn one alone.  So a run
whose drawn ids are new keeps the ids of the conditions of each group distinct, and
groups with distinct ids never lose their last condition.
-/

namespace RuleDraft

def Group.conditionIds {ν : Type} (g : Group ν) : List Text := g.conditions.map Condition.id

namespace Editor

open List

variable {ν : Type}

def DistinctIds (groups : List (Group ν)) : Prop := ∀ g ∈ groups, g.conditionIds.Nodup

instance (groups : List (Group ν)) : Decidable (DistinctIds groups) :=
  inferInstanceAs (Decidable (∀ g ∈ groups, g.conditionIds.Nodup))

/-- The id is one of those drawn on the way from one supply to a later one. -/
def DrawnBetween (ids later : IdSupply) (id : Text) : Prop :=
  ∃ n, ids.drawn < n ∧ n ≤ later.drawn ∧ id = ids.label n

/-- No id that the step draws is that of a group or condition under edit. -/
def Session.DrawsNew (s : Session) (t : Turn) : Prop :=
  ∀ id, DrawnBetween t.ids (s.turn t).ids id →
    ∀ g ∈ s.groups, g.id ≠ id ∧ id ∉ g.conditionIds

/-!
A statement about all steps of a run is one about its first step and about the others.
-/

theorem forall_steps_nil {P : List Turn → Turn → Prop} (past : List Turn) (t : Turn)
    (h : past ++ [t] <+: []) : P past t :=
  absurd (prefix_nil.mp h) (append_ne_nil_of_right_ne_nil past (cons_ne_nil t []))

theorem forall_steps_cons {P : List Turn → Turn → Prop} {first : Turn} {rest : List Turn}
    (hfirst : P [] first) (hrest : ∀ past t, past ++ [t] <+: rest → P (first :: past) t)
    (past : List Turn) (t : Turn) (h : past ++ [t] <+: first :: rest) : P past t := by
  cases past with
  | nil =>
      rw [nil_append, cons_prefix_cons] at h
      rw [h.left]
      exact hfirst
  | cons a past =>
      rw [cons_append, cons_prefix_cons] at h
      rw [h.left]
      exact hrest past t h.right

/-- Ids of a supply are new where no id starts with the code point that they start with. -/
theorem drawsNew_of_head {s : Session} {t : Turn} {c : CodePoint}
    (hhead : ∀ n, (t.ids.label n).head? = some c)
    (hgroups : ∀ g ∈ s.groups, g.id.head? ≠ some c ∧ ∀ id ∈ g.conditionIds, id.head? ≠ some c) :
    s.DrawsNew t := by
  rintro id ⟨n, _, _, rfl⟩ g hg
  constructor
  · intro hid
    apply (hgroups g hg).left
    rw [hid, hhead]
  · intro hmem
    exact (hgroups g hg).right _ hmem (hhead n)

/-- Where the ids of the conditions of a group come from. -/
inductive IdsFrom (groups : List (Group ν)) (drawn : Text → Prop) (g' : Group ν) : Prop
  | kept (g : Group ν) (hg : g ∈ groups) (h : g'.conditionIds <+ g.conditionIds)
  | grown (g : Group ν) (hg : g ∈ groups) (id : Text) (hid : drawn id)
      (h : g'.conditionIds = g.conditionIds ++ [id])
  | added (id : Text) (hid : drawn id) (h : g'.conditionIds = [id])

theorem IdsFrom.nodup {groups : List (Group ν)} {drawn : Text → Prop} {g' : Group ν}
    (h : IdsFrom groups drawn g') (hdistinct : DistinctIds groups)
    (hnew : ∀ id, drawn id → ∀ g ∈ groups, id ∉ g.conditionIds) : g'.conditionIds.Nodup := by
  cases h with
  | kept g hg h => exact (hdistinct g hg).sublist h
  | grown g hg id hid h =>
      rw [h, nodup_append]
      refine ⟨hdistinct g hg, nodup_singleton id, ?_⟩
      intro a ha b hb hab
      rw [hab, mem_singleton.mp hb] at ha
      exact hnew id hid g hg ha
  | added id hid h =>
      rw [h]
      exact nodup_singleton id

/-!
# One edit
-/

section Edits

variable {groups result : List (Group ν)} {drawn : Text → Prop} {g' : Group ν}

theorem IdsFrom.of_mem (hg' : g' ∈ groups) : IdsFrom groups drawn g' :=
  .kept g' hg' (Sublist.refl _)

theorem IdsFrom.addGroup {notice : ν} {withFlags : Bool} {ids : IdSupply}
    (hg' : g' ∈ (Editor.addGroup notice withFlags groups ids).1) :
    IdsFrom groups (DrawnBetween ids (Editor.addGroup notice withFlags groups ids).2) g' := by
  rcases mem_append.mp hg' with hold | hnew
  · exact .of_mem hold
  · rw [mem_singleton.mp hnew]
    exact .added _ ⟨ids.drawn + 1, Nat.lt_succ_self _, Nat.le_succ _, rfl⟩ rfl

theorem IdsFrom.setOperatorNamed {id : Text} {operator : Value}
    (h : Editor.setOperatorNamed id operator groups = .ok result) (hg' : g' ∈ result) :
    IdsFrom groups drawn g' := by
  rcases mem_setOperatorNamed h hg' with ⟨g, hg, hsame⟩
  refine .kept g hg ?_
  rw [Group.conditionIds, hsame]
  exact Sublist.refl _

theorem IdsFrom.addCondition {id : Text} {withFlags : Bool} {ids : IdSupply}
    (hg' : g' ∈ (Editor.addCondition id withFlags groups ids).1) :
    IdsFrom groups (DrawnBetween ids (Editor.addCondition id withFlags groups ids).2) g' := by
  rcases mem_addCondition hg' with hold | ⟨g, hg, n, hlt, hle, hc⟩
  · exact .of_mem hold
  · refine .grown g hg (ids.label n) ⟨n, hlt, hle, rfl⟩ ?_
    rw [Group.conditionIds, hc, map_append]
    rfl

theorem IdsFrom.tryGroups {id : Text} {f : Group ν → Except Failure (Group ν)}
    (hf : ∀ g h, f g = .ok h → h.conditionIds <+ g.conditionIds)
    (h : Editor.tryGroups id f groups = .ok result) (hg' : g' ∈ result) :
    IdsFrom groups drawn g' := by
  rcases mem_of_tryGroups h hg' with ⟨g, hg, htry⟩
  unfold tryGroup at htry
  by_cases hid : g.id = id
  · rw [if_pos hid] at htry
    exact .kept g hg (hf g g' htry)
  · rw [if_neg hid] at htry
    cases htry
    exact .of_mem hg

theorem IdsFrom.removeCondition {group condition : Text}
    (h : Editor.removeCondition group condition groups = .ok result) (hg' : g' ∈ result) :
    IdsFrom groups drawn g' := by
  refine IdsFrom.tryGroups ?_ h hg'
  intro g g₁ hdrop
  rw [Group.conditionIds, conditions_of_dropCondition hdrop]
  exact filter_sublist.map Condition.id

theorem id_of_withField {field : Condition.Field} {v : Value} {c d : Condition}
    (h : c.withField field v = .ok d) : d.id = c.id := by
  cases field with
  | key | type | value | negate | mandatory =>
      rcases map_eq_ok.mp h with ⟨_, _, rfl⟩
      rfl

theorem id_of_replaceField {group condition : Text} {field : Condition.Field} {v : Value}
    {c d : Condition} (h : replaceField group condition field v c = .ok d) : d.id = c.id :=
  id_of_withField (replaceField_eq_ok.mp h)

theorem IdsFrom.updateConditionNamed {group condition : Text} {field v : Value}
    (h : Editor.updateConditionNamed group condition field v groups = .ok result)
    (hg' : g' ∈ result) : IdsFrom groups drawn g' := by
  rcases updateConditionNamed_eq_ok h with ⟨known, hupdate⟩
  refine IdsFrom.tryGroups ?_ hupdate hg'
  intro g g₁ hg₁
  rcases bind_eq_ok.mp hg₁ with ⟨cs, hcs, hmk⟩
  cases hmk
  rw [Group.conditionIds, ids_of_tryConditions (fun c d => id_of_replaceField) hcs]
  exact Sublist.refl _

end Edits

/-!
# Steps and runs
-/

theorem idsFrom_perform {s s' : Session} {e : Edit} (he : e.IsGeneric)
    (h : s.perform e = .ok s') {g' : MixedGroup} (hg' : g' ∈ s'.groups) :
    IdsFrom s.groups (DrawnBetween s.ids s'.ids) g' := by
  cases e with
  | addGroup withFlags =>
      cases h
      exact .addGroup hg'
  | removeGroup group =>
      cases h
      exact .of_mem (mem_of_mem_filter hg')
  | setOperator group operator => exact .setOperatorNamed (withGroups_eq_ok h) hg'
  | addCondition group withFlags =>
      cases h
      exact .addCondition hg'
  | removeCondition group condition => exact .removeCondition (withGroups_eq_ok h) hg'
  | updateCondition group condition field value =>
      exact .updateConditionNamed (withGroups_eq_ok h) hg'
  | updateNotice group field value => exact absurd he id
  | save => exact absurd he id
  | reconcile => exact absurd he id

theorem idsFrom_turn {s : Session} {t : Turn} (ht : t.edit.IsGeneric) {g' : MixedGroup}
    (hg' : g' ∈ (s.turn t).groups) :
    IdsFrom s.groups (DrawnBetween t.ids (s.turn t).ids) g' := by
  rw [Session.turn, Session.step] at hg' ⊢
  cases hperform : Session.perform { s with saved := t.saved, ids := t.ids } t.edit with
  | error e =>
      rw [hperform] at hg'
      exact .of_mem hg'
  | ok s' =>
      rw [hperform] at hg'
      exact idsFrom_perform ht hperform hg'

-- Filled groups alone need not stay filled: distinct ids rule out the removal that empties one.
theorem filled_distinct_turn {s : Session} {t : Turn} (ht : t.edit.IsGeneric)
    (hnew : s.DrawsNew t) (hfilled : Filled s.groups) (hdistinct : DistinctIds s.groups) :
    Filled (s.turn t).groups ∧ DistinctIds (s.turn t).groups := by
  constructor
  · exact (filled_turn_iff t hfilled).mpr (not_empties_of_nodup hfilled hdistinct t.edit)
  · intro g' hg'
    exact (idsFrom_turn ht hg').nodup hdistinct fun id hid g hg => (hnew id hid g hg).right

theorem filled_distinct_play {s : Session} (hfilled : Filled s.groups)
    (hdistinct : DistinctIds s.groups) {turns : List Turn}
    (hgeneric : ∀ t ∈ turns, t.edit.IsGeneric)
    (hnew : ∀ past t, past ++ [t] <+: turns → (s.play past).DrawsNew t) :
    Filled (s.play turns).groups ∧ DistinctIds (s.play turns).groups := by
  induction turns using List.reverseRecOn with
  | nil => exact ⟨hfilled, hdistinct⟩
  | append_singleton past t ih =>
      have hbefore := ih (fun u hu => hgeneric u (mem_append_left [t] hu))
        fun earlier u hbegins => hnew earlier u (hbegins.trans (prefix_append past [t]))
      rw [play_append]
      exact filled_distinct_turn (hgeneric t (mem_append_right past mem_cons_self))
        (hnew past t (prefix_refl _)) hbefore.left hbefore.right

end Editor
end RuleDraft
