import RuleDraft.Proofs.Editor.DistinctIds

/-!
# Validations generated after editing

Validations are edited, take their notices back, and make a config document.  The
groups that a run reaches are filled, so every one of them can be built again as a
validation group, and none of these is refused as a part of a form.  The notice of an
entry comes from the previous validation with the id of the group; a text that is
missing there, or empty, is the default one.
-/

namespace RuleDraft
namespace Editor

open List

/--
The entry of a document that a group makes: its operator and its conditions in order,
and the notice of the previous validation with its id, as far as there is one.
-/
structure EntryOf (previous : List ValidationGroup) (g : MixedGroup) (v : Validation) : Prop where
  operator : v.operator = g.operator
  clauses : v.clauses = g.conditions.map fun c =>
    { key := c.key, type := c.type, value := c.value,
      negate := c.negate.getD false, mandatory := c.mandatory.getD true }
  code_ne : v.notice.code ≠ []
  message_ne : v.notice.message ≠ []
  known : ∀ p ∈ previous, p.id = g.id →
    v.notice.code = (if p.notice.code = [] then Notice.defaultCode else p.notice.code) ∧
      v.notice.message =
        if p.notice.message = [] then Notice.defaultMessage else p.notice.message
  unknown : (∀ p ∈ previous, p.id ≠ g.id) → v.notice = .standard

/-!
# Notices that validations hand on
-/

theorem orElse_eq (t other : Text) : orElse t other = if t = [] then other else t := by
  cases t with
  | nil => rfl
  | cons c t => rfl

theorem orElse_ne_nil {t other : Text} (h : other ≠ []) : orElse t other ≠ [] := by
  rw [orElse_eq]
  by_cases ht : t = []
  · rw [if_pos ht]
    exact h
  · rw [if_neg ht]
    exact ht

def handedOn (previous : List ValidationGroup) (id : Text) : Notice :=
  match lastWithId id previous with
  | none => .standard
  | some p => ⟨orElse p.notice.code Notice.defaultCode, orElse p.notice.message
      Notice.defaultMessage⟩

section Notices

variable {previous : List ValidationGroup} {id : Text}

theorem inheritedNotice_eq_handedOn (previous : List ValidationGroup) (id : Text) :
    inheritedNotice (lastWithId id previous) = .ok (handedOn previous id) := by
  unfold handedOn
  cases lastWithId id previous with
  | none => rfl
  | some p => rfl

theorem handedOn_ne_nil (previous : List ValidationGroup) (id : Text) :
    (handedOn previous id).code ≠ [] ∧ (handedOn previous id).message ≠ [] := by
  have hcode : Notice.defaultCode ≠ [] := by decide
  have hmessage : Notice.defaultMessage ≠ [] := by decide
  unfold handedOn
  cases lastWithId id previous with
  | none => exact ⟨hcode, hmessage⟩
  | some p => exact ⟨orElse_ne_nil hcode, orElse_ne_nil hmessage⟩

theorem lastWithId_of_nodup (hids : (previous.map Group.id).Nodup) {p : ValidationGroup}
    (hp : p ∈ previous) : lastWithId p.id previous = some p := by
  unfold lastWithId
  cases hfound : previous.reverse.find? fun g => g.id = p.id with
  | none =>
      have habsent := List.find?_eq_none.mp hfound p (mem_reverse.mpr hp)
      exact absurd (decide_eq_true rfl) habsent
  | some q =>
      have hq : q ∈ previous := mem_reverse.mp (mem_of_find?_eq_some hfound)
      have hid : q.id = p.id := by simpa using List.find?_some hfound
      rw [inj_on_of_nodup_map hids hq hp hid]

theorem lastWithId_eq_none (h : ∀ p ∈ previous, p.id ≠ id) : lastWithId id previous = none := by
  unfold lastWithId
  rw [List.find?_eq_none]
  intro p hp
  simpa using h p (mem_reverse.mp hp)

end Notices

/-!
# Reconciled groups as a form
-/

theorem reconcile_eq_map {ν : Type} [HasNotice ν] (previous : List ValidationGroup)
    {groups : List (Group ν)} (hfilled : Filled groups) :
    reconcile previous groups =
      .ok (groups.map fun g => g.withNotice (handedOn previous g.id)) := by
  unfold reconcile
  induction groups with
  | nil => rfl
  | cons g rest ih =>
      have hhead : reconcileOne previous g = .ok (g.withNotice (handedOn previous g.id)) := by
        rw [reconcileOne_eq previous (hfilled g mem_cons_self), inheritedNotice_eq_handedOn]
        rfl
      rw [List.mapM_cons, hhead, ih fun g' hg' => hfilled g' (mem_cons_of_mem g hg')]
      rfl

theorem collect_mixed (n : Nat) (groups : List ValidationGroup) :
    ConfigForm.ofGroups.collect n (groups.map Group.mixed) = .ok groups := by
  induction groups generalizing n with
  | nil => rfl
  | cons g rest ih =>
      rw [map_cons, ConfigForm.ofGroups.collect, ih (n + 1)]
      rfl

theorem ofGroups_mixed (groups : List ValidationGroup) :
    ConfigForm.ofGroups (groups.map Group.mixed) = .ok ⟨groups, false, []⟩ := by
  unfold ConfigForm.ofGroups
  rw [collect_mixed]
  rfl

theorem entryOf_toValidation {previous : List ValidationGroup}
    (hids : (previous.map Group.id).Nodup) (g : MixedGroup) :
    EntryOf previous g (g.withNotice (handedOn previous g.id)).toValidation where
  operator := rfl
  clauses := rfl
  code_ne := (handedOn_ne_nil previous g.id).left
  message_ne := (handedOn_ne_nil previous g.id).right
  known := by
    intro p hp hid
    have hlast := lastWithId_of_nodup hids hp
    rw [hid] at hlast
    change (handedOn previous g.id).code = _ ∧ (handedOn previous g.id).message = _
    rw [handedOn, hlast, ← orElse_eq, ← orElse_eq]
    exact ⟨rfl, rfl⟩
  unknown := by
    intro hnone
    change handedOn previous g.id = .standard
    rw [handedOn, lastWithId_eq_none hnone]

theorem generate_reconciled {previous : List ValidationGroup}
    (hids : (previous.map Group.id).Nodup) {groups : List MixedGroup} (hfilled : Filled groups)
    (hne : groups ≠ []) :
    ∃ merged form d, reconcile previous groups = .ok merged ∧
      ConfigForm.ofGroups (merged.map Group.mixed) = .ok form ∧
        form.generate false = .ok d ∧ Forall₂ (EntryOf previous) groups d.validations := by
  let merged := groups.map fun g => g.withNotice (handedOn previous g.id)
  let form : ConfigForm := ⟨merged, false, []⟩
  refine ⟨merged, form, .ofForm form, reconcile_eq_map previous hfilled, ofGroups_mixed merged,
    ?generated, ?entries⟩
  case generated =>
    have hsome : ¬ form.validations.isEmpty = true := by
      change ¬ (groups.map _).isEmpty = true
      simpa using hne
    rw [ConfigForm.generate_eq, if_neg hsome]
    rfl
  case entries =>
    change Forall₂ (EntryOf previous) groups ((groups.map _).map Group.toValidation)
    rw [map_map, forall₂_map_right_iff, forall₂_same]
    intro g _
    exact entryOf_toValidation hids g

/-!
# Editing, reconciling, generating
-/

theorem edited_validations_generate {validations : List ValidationGroup}
    (hread : ∀ g ∈ validations, ∃ v, (Group.validationIntake v).Accepts g)
    (hgroups : (validations.map Group.id).Nodup) (hconditions : DistinctIds validations)
    (ids : IdSupply) (turns : List Turn) (hgeneric : ∀ t ∈ turns, t.edit.IsGeneric) :
    let start := Session.start (validations.map Group.mixed) ids
    let reached := (start.play turns).groups
    (∀ past t, past ++ [t] <+: turns → (start.play past).DrawsNew t) → reached ≠ [] →
      ∃ merged form d, reconcile validations reached = .ok merged ∧
        ConfigForm.ofGroups (merged.map Group.mixed) = .ok form ∧
          form.generate false = .ok d ∧
            Forall₂ (EntryOf validations) reached d.validations := by
  intro start reached hnew hne
  have hfilled : Filled start.groups := by
    apply filled_of_wasRead
    intro g hg
    rcases mem_map.mp hg with ⟨p, hp, rfl⟩
    rcases hread p hp with ⟨v, hv⟩
    exact Or.inr ⟨v, p, hv, rfl⟩
  have hdistinct : DistinctIds start.groups := by
    intro g hg
    rcases mem_map.mp hg with ⟨p, hp, rfl⟩
    exact hconditions p hp
  have hreached := filled_distinct_play hfilled hdistinct hgeneric hnew
  exact generate_reconciled hgroups hreached.left hne

def uncoded : ValidationGroup := ⟨"h", .all, [Condition.blank "e" false], ⟨[], "Refused."⟩⟩

def growingTurns : List Turn :=
  [⟨[], .numbered "k", .removeCondition "g" "c"⟩, ⟨[], .numbered "m", .addGroup true⟩,
    ⟨[], .numbered "n", .addCondition "h" true⟩]

theorem drawsNew_growingTurns (past : List Turn) (t : Turn)
    (h : past ++ [t] <+: growingTurns) :
    ((Session.start ([noticed, uncoded].map Group.mixed) (.numbered [])).play past).DrawsNew t := by
  revert past t
  refine forall_steps_cons ?dropped (forall_steps_cons ?added (forall_steps_cons ?grown
    forall_steps_nil))
  case dropped => exact drawsNew_of_head (fun _ => rfl) (by decide)
  case added => exact drawsNew_of_head (fun _ => rfl) (by decide)
  case grown => exact drawsNew_of_head (fun _ => rfl) (by decide)

theorem edited_validations_generate_growing :
    let start := Session.start ([noticed, uncoded].map Group.mixed) (.numbered [])
    let reached := (start.play growingTurns).groups
    ∃ merged form d, reconcile [noticed, uncoded] reached = .ok merged ∧
      ConfigForm.ofGroups (merged.map Group.mixed) = .ok form ∧
        form.generate false = .ok d ∧
          Forall₂ (EntryOf [noticed, uncoded]) reached d.validations :=
  edited_validations_generate
    (by
      intro g hg
      rcases mem_pair.mp hg with rfl | rfl
      · exact ⟨noticed.toValue, .numbered [], rfl⟩
      · exact ⟨uncoded.toValue, .numbered [], rfl⟩)
    (by decide) (by decide) (.numbered []) growingTurns (by simp [growingTurns, Edit.IsGeneric])
    drawsNew_growingTurns (cons_ne_nil _ _)

end Editor
end RuleDraft
