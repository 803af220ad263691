import RuleDraft.Proofs.Editor.Filled
import RuleDraft.Proofs.Rule.Stable

/-!
# Editing groups without their notices

No generic edit looks at the notice of a group, so a run on groups without notices
takes the steps of the run on the groups themselves, failures included, and the two
states differ in the notices alone.  Reconciling takes every notice from the previous
validations, so it makes the same of both states.
-/

namespace RuleDraft

def Group.mapNotice {ν μ : Type} (f : ν → μ) (g : Group ν) : Group μ := g.withNotice (f g.notice)

def Group.mixed (g : ValidationGroup) : MixedGroup := g.withNotice (some g.notice)

/-- The group without its notice, among groups that may have one. -/
def Group.plain {ν : Type} (g : Group ν) : MixedGroup := g.forget.withNotice none

namespace Editor

open List

variable {ν μ : Type}

/-- The edits of groups that carry any notice or none. -/
def Edit.IsGeneric : Edit → Prop
  | .updateNotice _ _ _ => False
  | .save => False
  | .reconcile => False
  | _ => True

def Session.plain (s : Session) : Session := { s with groups := s.groups.map Group.plain }

/-- What a step gives, whatever has been saved and whichever ids are drawn. -/
def Session.attempt (s : Session) (t : Turn) : Except Failure Session :=
  { s with saved := t.saved, ids := t.ids }.perform t.edit

/-!
# Edits of groups

Every edit is the same for all kinds of notices.
-/

section Edits

variable (f : ν → μ) (groups : List (Group ν))

theorem addGroup_mapNotice (n : ν) (withFlags : Bool) (ids : IdSupply) :
    addGroup (f n) withFlags (groups.map (Group.mapNotice f)) ids =
      ((addGroup n withFlags groups ids).1.map (Group.mapNotice f),
        (addGroup n withFlags groups ids).2) := by
  simp only [addGroup, map_append, map_cons, map_nil]
  rfl

theorem removeGroup_mapNotice (id : Text) :
    removeGroup id (groups.map (Group.mapNotice f)) =
      (removeGroup id groups).map (Group.mapNotice f) := by
  rw [removeGroup, filter_map]
  rfl

theorem setOperatorNamed_mapNotice (id : Text) (operator : Value) :
    setOperatorNamed id operator (groups.map (Group.mapNotice f)) =
      (setOperatorNamed id operator groups).map (List.map (Group.mapNotice f)) := by
  unfold setOperatorNamed
  cases named? LogicalOperator.options operator with
  | none => rfl
  | some o =>
      change Except.ok _ = Except.ok _
      rw [setOperator, setOperator, mapGroups, mapGroups, map_map, map_map]
      congr 1
      apply map_congr_left
      intro g _
      have hsame : (g.mapNotice f).id = g.id := rfl
      rw [Function.comp_apply, Function.comp_apply, hsame]
      by_cases hid : g.id = id
      · rw [if_pos hid, if_pos hid]
        rfl
      · rw [if_neg hid, if_neg hid]

theorem addCondition_mapNotice (id : Text) (withFlags : Bool) (ids : IdSupply) :
    addCondition id withFlags (groups.map (Group.mapNotice f)) ids =
      ((addCondition id withFlags groups ids).1.map (Group.mapNotice f),
        (addCondition id withFlags groups ids).2) := by
  induction groups generalizing ids with
  | nil => rfl
  | cons g rest ih =>
      by_cases hid : g.id = id
      · have hid' : (g.mapNotice f).id = id := hid
        simp only [map_cons, addCondition, if_pos hid, if_pos hid', ih]
        rfl
      · have hid' : ¬ (g.mapNotice f).id = id := hid
        simp only [map_cons, addCondition, if_neg hid, if_neg hid', ih]

theorem tryGroups_mapNotice {id : Text} {change : Group ν → Except Failure (Group ν)}
    {change' : Group μ → Except Failure (Group μ)}
    (h : ∀ g, change' (g.mapNotice f) = (change g).map (Group.mapNotice f)) :
    tryGroups id change' (groups.map (Group.mapNotice f)) =
      (tryGroups id change groups).map (List.map (Group.mapNotice f)) := by
  induction groups with
  | nil => rfl
  | cons g rest ih =>
      have hfirst : tryGroup id change' (g.mapNotice f) =
          (tryGroup id change g).map (Group.mapNotice f) := by
        unfold tryGroup
        by_cases hid : g.id = id
        · rw [if_pos hid, if_pos (show (g.mapNotice f).id = id from hid), h g]
        · rw [if_neg hid, if_neg (show ¬ (g.mapNotice f).id = id from hid)]
          rfl
      rw [map_cons, tryGroups_cons, tryGroups_cons, hfirst, ih]
      cases tryGroup id change g with
      | error e => rfl
      | ok g' =>
          cases tryGroups id change rest with
          | error e => rfl
          | ok rest' => rfl

theorem removeCondition_mapNotice (group condition : Text) :
    removeCondition group condition (groups.map (Group.mapNotice f)) =
      (removeCondition group condition groups).map (List.map (Group.mapNotice f)) := by
  apply tryGroups_mapNotice
  intro g
  have hfind : (g.mapNotice f).findCondition condition = g.findCondition condition := rfl
  have hlength : (g.mapNotice f).conditions.length = g.conditions.length := rfl
  rw [dropCondition, dropCondition, hfind, hlength]
  by_cases hnone : (g.findCondition condition).isNone = true
  · rw [if_pos hnone, if_pos hnone]
    rfl
  · rw [if_neg hnone, if_neg hnone]
    by_cases hone : g.conditions.length = 1
    · rw [if_pos hone, if_pos hone]
      rfl
    · rw [if_neg hone, if_neg hone]
      rfl

theorem updateConditionNamed_mapNotice (group condition : Text) (field v : Value) :
    updateConditionNamed group condition field v (groups.map (Group.mapNotice f)) =
      (updateConditionNamed group condition field v groups).map
        (List.map (Group.mapNotice f)) := by
  unfold updateConditionNamed
  cases named? Condition.Field.options field with
  | none => rfl
  | some known =>
      apply tryGroups_mapNotice
      intro g
      simp only [Group.mapNotice, Group.withNotice]
      cases tryConditions condition (replaceField group condition known v) g.conditions with
      | error e => rfl
      | ok conditions => rfl

end Edits

/-!
# Steps and runs
-/

theorem plain_eq_mapNotice :
    (Group.plain : MixedGroup → MixedGroup) = Group.mapNotice fun _ => none :=
  rfl

theorem withGroups_plain (s : Session) (r : Except Failure (List MixedGroup)) :
    s.plain.withGroups (r.map (List.map Group.plain)) = (s.withGroups r).map Session.plain := by
  cases r with
  | error e => rfl
  | ok groups => rfl

-- A simulation: an edit that does not ask for notices makes the same step where they are left out.
theorem perform_plain {e : Edit} (he : e.IsGeneric) (s : Session) :
    s.plain.perform e = (s.perform e).map Session.plain := by
  cases e with
  | addGroup withFlags =>
      have hadd := addGroup_mapNotice (fun _ => (none : Option Notice)) s.groups none withFlags
        s.ids
      simp only [Session.perform, Session.plain, plain_eq_mapNotice, hadd]
      rfl
  | removeGroup group =>
      have hremove := removeGroup_mapNotice (fun _ => (none : Option Notice)) s.groups group
      simp only [Session.perform, Session.plain, plain_eq_mapNotice, hremove]
      rfl
  | setOperator group operator =>
      have hset := setOperatorNamed_mapNotice (fun _ => (none : Option Notice)) s.groups group
        operator
      exact (congrArg s.plain.withGroups hset).trans (withGroups_plain s _)
  | addCondition group withFlags =>
      have hadd := addCondition_mapNotice (fun _ => (none : Option Notice)) s.groups group
        withFlags s.ids
      simp only [Session.perform, Session.plain, plain_eq_mapNotice, hadd]
      rfl
  | removeCondition group condition =>
      have hremove := removeCondition_mapNotice (fun _ => (none : Option Notice)) s.groups group
        condition
      exact (congrArg s.plain.withGroups hremove).trans (withGroups_plain s _)
  | updateCondition group condition field value =>
      have hupdate := updateConditionNamed_mapNotice (fun _ => (none : Option Notice)) s.groups
        group condition field value
      exact (congrArg s.plain.withGroups hupdate).trans (withGroups_plain s _)
  | updateNotice group field value => exact absurd he id
  | save => exact absurd he id
  | reconcile => exact absurd he id

theorem groups_turn (s : Session) (t : Turn) :
    (s.turn t).groups =
      match s.attempt t with
      | .ok s' => s'.groups
      | .error _ => s.groups := by
  rw [Session.turn, Session.step, Session.attempt]
  cases Session.perform { s with saved := t.saved, ids := t.ids } t.edit with
  | error e => rfl
  | ok s' => rfl

section Runs

variable {s plain : Session}

theorem attempt_plain (hgroups : plain.groups = s.groups.map Group.plain) {t : Turn}
    (ht : t.edit.IsGeneric) : plain.attempt t = (s.attempt t).map Session.plain := by
  have hstart : { plain with saved := t.saved, ids := t.ids } =
      Session.plain { s with saved := t.saved, ids := t.ids } := by
    rw [Session.plain, hgroups]
  rw [Session.attempt, hstart, perform_plain ht]
  rfl

theorem turn_plain (hgroups : plain.groups = s.groups.map Group.plain) {t : Turn}
    (ht : t.edit.IsGeneric) : (plain.turn t).groups = (s.turn t).groups.map Group.plain := by
  rw [groups_turn, groups_turn, attempt_plain hgroups ht]
  cases s.attempt t with
  | error e => exact hgroups
  | ok s' => rfl

theorem play_plain (hgroups : plain.groups = s.groups.map Group.plain) {turns : List Turn}
    (hturns : ∀ t ∈ turns, t.edit.IsGeneric) :
    (plain.play turns).groups = (s.play turns).groups.map Group.plain := by
  induction turns using List.reverseRecOn with
  | nil => exact hgroups
  | append_singleton past t ih =>
      have hpast := ih fun u hu => hturns u (mem_append_left [t] hu)
      rw [play_append, play_append]
      exact turn_plain hpast (hturns t (mem_append_right past mem_cons_self))

end Runs

/-!
# Reconciling

A filled group takes the notice that its previous group hands on, whether it is kept
as it is or built anew.
-/

section Reconciling

variable {κ : Type} [HasNotice κ] [HasNotice ν] [HasNotice μ]

theorem reconcileOne_eq (previous : List (Group κ)) {g : Group ν} (hg : g.conditions ≠ []) :
    reconcileOne previous g =
      (inheritedNotice (lastWithId g.id previous)).map fun n => g.withNotice n := by
  unfold reconcileOne
  cases inheritedNotice (lastWithId g.id previous) with
  | error e => rfl
  | ok n =>
      have hfilled : ¬ g.conditions.isEmpty = true := by simpa using hg
      have hrebuild : rebuild n g = .ok (g.withNotice n) := by
        rw [rebuild, if_neg hfilled]
      by_cases hsame : g.notice? = some n
      · exact if_pos hsame
      · exact (if_neg hsame).trans hrebuild

theorem reconcile_mapNotice (previous : List (Group κ)) (f : ν → μ) {groups : List (Group ν)}
    (hfilled : Filled groups) :
    reconcile previous (groups.map (Group.mapNotice f)) = reconcile previous groups := by
  unfold reconcile
  induction groups with
  | nil => rfl
  | cons g rest ih =>
      have hg := hfilled g mem_cons_self
      have hhead : reconcileOne previous (g.mapNotice f) = reconcileOne previous g := by
        rw [reconcileOne_eq previous hg, reconcileOne_eq previous (g := g.mapNotice f) hg]
        rfl
      rw [map_cons, List.mapM_cons, List.mapM_cons, hhead,
        ih fun g' hg' => hfilled g' (mem_cons_of_mem g hg')]

end Reconciling

/-!
# Nothing is lost

The groups that a client sends back have lost their notices on the way.  Their run
fails where the full run fails and otherwise keeps up with it, and any previous
validations make the same of what both runs reach.
-/

theorem plain_editing_loses_nothing (validations : List ValidationGroup) (ids : IdSupply)
    (turns : List Turn) (hgeneric : ∀ t ∈ turns, t.edit.IsGeneric) :
    let full := Session.start (validations.map Group.mixed) ids
    let plain := Session.start (validations.map Group.plain) ids
    (∀ v supply (g : ValidationGroup), supply.Encodable →
        ((Group.validationIntake v).run supply).1 = .ok g →
          (Group.plainIntake g.toValue).Settles g.forget) ∧
      (∀ past t, past ++ [t] <+: turns →
        (plain.play past).attempt t = ((full.play past).attempt t).map Session.plain) ∧
      ∀ past, past <+: turns →
        (plain.play past).groups = (full.play past).groups.map Group.plain ∧
          (Filled (full.play past).groups →
            ∀ (κ : Type) [HasNotice κ] (previous : List (Group κ)),
              reconcile previous (plain.play past).groups =
                  reconcile previous (full.play past).groups ∧
                reconcile previous ((full.play past).groups.map Group.forget) =
                  reconcile previous (full.play past).groups) := by
  intro full plain
  have hstart : plain.groups = full.groups.map Group.plain := by
    change validations.map Group.plain = (validations.map Group.mixed).map Group.plain
    rw [map_map]
    rfl
  have hpast : ∀ past, past <+: turns →
      (plain.play past).groups = (full.play past).groups.map Group.plain := by
    intro past hbegins
    exact play_plain hstart fun t ht => hgeneric t (hbegins.mem ht)
  refine ⟨?read, ?steps, ?states⟩
  case read =>
    intro v supply g hsupply hg
    exact Group.settles_plainIntake ((Group.ensures_validationIntake v supply hsupply).left g hg)
  case steps =>
    intro past t hbegins
    have hbefore := hpast past ((prefix_append past [t]).trans hbegins)
    exact attempt_plain hbefore
      (hgeneric t (hbegins.mem (mem_append_right past mem_cons_self)))
  case states =>
    intro past hbegins
    refine ⟨hpast past hbegins, ?_⟩
    intro hfilled κ _ previous
    rw [hpast past hbegins]
    exact ⟨reconcile_mapNotice previous (fun _ => none) hfilled,
      reconcile_mapNotice previous (fun _ => ()) hfilled⟩

def noticed : ValidationGroup :=
  ⟨"g", .any, [Condition.blank "c" true, Condition.blank "d" false], ⟨"AGE", "Too young."⟩⟩

/-- Removals of both conditions, of which the second is refused, and an added group. -/
def noticedTurns : List Turn :=
  [⟨[], .numbered "n", .removeCondition "g" "c"⟩, ⟨[], .numbered "n", .removeCondition "g" "d"⟩,
    ⟨[], .numbered "n", .addGroup false⟩]

theorem plain_editing_loses_nothing_noticed :
    (∀ t ∈ noticedTurns, t.edit.IsGeneric) ∧
      let full := Session.start [noticed.mixed] (.numbered "n")
      let plain := Session.start [noticed.plain] (.numbered "n")
      (plain.play (noticedTurns.take 1)).attempt ⟨[], .numbered "n", .removeCondition "g" "d"⟩ =
          .error (.refused (.lastCondition "g" "d")) ∧
        (plain.play noticedTurns).groups = (full.play noticedTurns).groups.map Group.plain ∧
          reconcile [noticed] (plain.play noticedTurns).groups =
            reconcile [noticed] (full.play noticedTurns).groups := by
  have hgeneric : ∀ t ∈ noticedTurns, t.edit.IsGeneric := by
    simp [noticedTurns, Edit.IsGeneric]
  have hlost := plain_editing_loses_nothing [noticed] (.numbered "n") noticedTurns hgeneric
  have hfilled :
      Filled ((Session.start [noticed.mixed] (.numbered "n")).play noticedTurns).groups := by
    intro g hg
    rcases mem_cons.mp hg with rfl | hnew
    · exact cons_ne_nil _ _
    · rw [mem_singleton.mp hnew]
      exact cons_ne_nil _ _
  have hrefused := hlost.right.left (noticedTurns.take 1)
    ⟨[], .numbered "n", .removeCondition "g" "d"⟩ (prefix_append _ [_])
  have hreached := hlost.right.right noticedTurns (prefix_refl _)
  exact ⟨hgeneric, hrefused.trans rfl, hreached.left,
    (hreached.right hfilled Notice [noticed]).left⟩

end Editor
end RuleDraft
