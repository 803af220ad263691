import Mathlib.Data.List.Induction
import RuleDraft.Proofs.Document.Generated
import RuleDraft.Proofs.Editor.Edits
import RuleDraft.Proofs.Intake.Accepted

/-!
# Groups that keep a condition

A group that is read has a condition.  Editing takes the last condition of a
group away in one way only: several conditions of the group share an id, and a
removal by this id takes all of them.  Every other step, and every other removal,
leaves each group with a condition, and a document made from such groups has a
clause in every match and in every validation.
-/

namespace RuleDraft
namespace Editor

open List

variable {ν : Type}

/-- Every group holds a condition. -/
def Filled (groups : List (Group ν)) : Prop := ∀ g ∈ groups, g.conditions ≠ []

/-- The group was read from data, plain or with a notice. -/
def WasRead (g : MixedGroup) : Prop :=
  (∃ v p, (Group.plainIntake v).Accepts p ∧ g = p.withNotice none) ∨
    ∃ v p, (Group.validationIntake v).Accepts p ∧ g = p.withNotice (some p.notice)

/--
The edit removes all conditions of some group: they share the id that is aimed
at, and no group with the same id stops the removal by holding one condition.
-/
def Edit.Empties (groups : List MixedGroup) : Edit → Prop
  | .removeCondition group condition =>
      (∀ g ∈ groups, g.id = group → ∀ c, g.conditions = [c] → c.id ≠ condition) ∧
        ∃ g ∈ groups, g.id = group ∧ ∀ c ∈ g.conditions, c.id = condition
  | _ => False

/-- One step, with the saved groups and the ids that it finds. -/
structure Turn where
  saved : List MixedGroup
  ids : IdSupply
  edit : Edit

/-- The session after a step, whatever has been saved and whichever ids are drawn. -/
def Session.turn (s : Session) (t : Turn) : Session :=
  { s with saved := t.saved, ids := t.ids }.step t.edit

def Session.play (s : Session) (turns : List Turn) : Session := turns.foldl Session.turn s

def Session.NeverEmpties (s : Session) (turns : List Turn) : Prop :=
  ∀ past t, past ++ [t] <+: turns → ¬ t.edit.Empties (s.play past).groups

/-- Documents made from some of the groups have a clause everywhere. -/
def DocumentsFilled (groups : List MixedGroup) : Prop :=
  (∀ strict (f : VendorForm) d,
    (∀ g ∈ f.preconditions ++ f.responseMappings, g ∈ groups.map Group.forget) →
      f.generate strict = .ok d →
        ∀ m ∈ d.preconditions ++ d.responseMappings, m.clauses ≠ []) ∧
    ∀ strict (f : ConfigForm) d,
      (∀ g ∈ f.validations, g.withNotice (some g.notice) ∈ groups) →
        f.generate strict = .ok d → ∀ v ∈ d.validations, v.clauses ≠ []

/-!
# Reading groups
-/

theorem conditions_ne_nil_of_accepts {model : String}
    {notice : List (Text × Value) → Intake ν} {v : Value} {g : Group ν}
    (h : (Group.intakeWith model notice v).Accepts g) : g.conditions ≠ [] := by
  rcases Intake.accepts_record h with ⟨fields, _, hfields⟩
  rcases Intake.accepts_seq hfields with ⟨withNotice, n, hconditions, _, hg⟩
  rcases Intake.accepts_seq hconditions with ⟨withConditions, cs, hoperator, hcs, hwith⟩
  rcases Intake.accepts_seq hoperator with ⟨withOperator, o, hid, _, ho⟩
  rcases Intake.accepts_map hid with ⟨id, _, hmk⟩
  rcases Intake.accepts_required hcs with ⟨list, _, hlist⟩
  have hnonempty := (Intake.accepts_guarded hlist).right
  cases hmk
  cases ho
  cases hwith
  cases hg
  intro hnil
  change cs = [] at hnil
  rw [hnil] at hnonempty
  cases hnonempty

theorem filled_of_wasRead {groups : List MixedGroup} (h : ∀ g ∈ groups, WasRead g) :
    Filled groups := by
  intro g hg
  rcases h g hg with ⟨v, p, hp, hgp⟩ | ⟨v, p, hp, hgp⟩
  · rw [hgp]
    exact conditions_ne_nil_of_accepts (g := p) hp
  · rw [hgp]
    exact conditions_ne_nil_of_accepts (g := p) hp

/-!
# Edits that remove no condition

Each group of a result is as long as a group of the list that was edited, or it
was added together with a condition.
-/

theorem Filled.of_length_le {groups result : List (Group ν)} (hfilled : Filled groups)
    (h : ∀ g' ∈ result, ∃ g ∈ groups, g.conditions.length ≤ g'.conditions.length) :
    Filled result := by
  intro g' hg' hnil
  rcases h g' hg' with ⟨g, hg, hle⟩
  have hlength : g.conditions.length = 0 := by
    rw [hnil] at hle
    exact Nat.le_zero.mp hle
  exact hfilled g hg (List.length_eq_zero_iff.mp hlength)

theorem Filled.addGroup {groups : List (Group ν)} (hfilled : Filled groups) (notice : ν)
    (withFlags : Bool) (ids : IdSupply) :
    Filled (Editor.addGroup notice withFlags groups ids).1 := by
  intro g hg
  rcases mem_append.mp hg with hold | hnew
  · exact hfilled g hold
  · rw [mem_singleton.mp hnew]
    simp

theorem Filled.removeGroup {groups : List (Group ν)} (hfilled : Filled groups) (id : Text) :
    Filled (Editor.removeGroup id groups) := by
  intro g hg
  exact hfilled g (mem_of_mem_filter hg)

theorem Filled.setOperatorNamed {groups result : List (Group ν)} (hfilled : Filled groups)
    {id : Text} {operator : Value}
    (h : Editor.setOperatorNamed id operator groups = .ok result) : Filled result := by
  intro g' hg'
  rcases mem_setOperatorNamed h hg' with ⟨g, hg, hsame⟩
  rw [hsame]
  exact hfilled g hg

theorem Filled.addCondition {groups : List (Group ν)} (hfilled : Filled groups) (id : Text)
    (withFlags : Bool) (ids : IdSupply) :
    Filled (Editor.addCondition id withFlags groups ids).1 := by
  apply hfilled.of_length_le
  intro g' hg'
  rcases mem_addCondition hg' with hold | ⟨g, hg, n, _, _, hc⟩
  · exact ⟨g', hold, Nat.le_refl _⟩
  · refine ⟨g, hg, ?_⟩
    rw [hc, List.length_append]
    exact Nat.le_add_right _ _

theorem Filled.tryGroups {groups result : List (Group ν)} (hfilled : Filled groups)
    {id : Text} {f : Group ν → Except Failure (Group ν)}
    (hlength : ∀ g h, f g = .ok h → h.conditions.length = g.conditions.length)
    (h : Editor.tryGroups id f groups = .ok result) : Filled result := by
  apply hfilled.of_length_le
  intro g' hg'
  rcases mem_of_tryGroups h hg' with ⟨g, hg, htry⟩
  refine ⟨g, hg, Nat.le_of_eq ?_⟩
  unfold tryGroup at htry
  by_cases hid : g.id = id
  · rw [if_pos hid] at htry
    exact (hlength g g' htry).symm
  · rw [if_neg hid] at htry
    cases htry
    rfl

theorem Filled.updateConditionNamed {groups result : List (Group ν)}
    (hfilled : Filled groups) {group condition : Text} {field v : Value}
    (h : Editor.updateConditionNamed group condition field v groups = .ok result) :
    Filled result := by
  rcases updateConditionNamed_eq_ok h with ⟨known, hupdate⟩
  refine hfilled.tryGroups ?_ hupdate
  intro g g' hg'
  rcases bind_eq_ok.mp hg' with ⟨cs, hcs, hmk⟩
  cases hmk
  exact tryConditions_length hcs

theorem Filled.updateNoticeNamed [CarriesNotice ν] {groups result : List (Group ν)}
    (hfilled : Filled groups) {group : Text} {field v : Value}
    (h : Editor.updateNoticeNamed group field v groups = .ok result) : Filled result := by
  unfold Editor.updateNoticeNamed at h
  cases hnamed : named? Notice.Field.options field with
  | none =>
      rw [hnamed] at h
      cases h
  | some f =>
      rw [hnamed] at h
      refine hfilled.tryGroups ?_ h
      intro g g' hg'
      rcases replaceNotice_eq_ok hg' with ⟨_, _, _, _, rfl⟩
      rfl

theorem Filled.reconcile {μ : Type} [HasNotice ν] [HasNotice μ] {previous : List (Group ν)}
    {groups : List (Group μ)} {result : List ValidationGroup} (hfilled : Filled groups)
    (h : Editor.reconcile previous groups = .ok result) : Filled result := by
  intro g' hg'
  rcases mem_of_reconcile h hg' with ⟨g, hg, n, _, rfl⟩
  exact hfilled g hg

/-!
# One step

A removal keeps every group filled unless all conditions of a group share the id
that it is aimed at.
-/

theorem filled_removeCondition_iff {group condition : Text} {groups result : List (Group ν)}
    (hfilled : Filled groups) (h : removeCondition group condition groups = .ok result) :
    Filled result ↔ ∀ g ∈ groups, g.id = group → ∃ c ∈ g.conditions, c.id ≠ condition := by
  constructor
  · intro hresult g hg hid
    rcases exists_mem_of_tryGroups h hg with ⟨g', hg', htry⟩
    rw [tryGroup, if_pos hid] at htry
    have hne := hresult g' hg'
    rw [conditions_of_dropCondition htry] at hne
    rcases exists_mem_of_ne_nil _ hne with ⟨c, hc⟩
    rcases mem_filter.mp hc with ⟨hmem, hdiffer⟩
    exact ⟨c, hmem, by simpa using hdiffer⟩
  · intro hother g' hg'
    rcases mem_of_tryGroups h hg' with ⟨g, hg, htry⟩
    unfold tryGroup at htry
    by_cases hid : g.id = group
    · rw [if_pos hid] at htry
      rcases hother g hg hid with ⟨c, hc, hdiffer⟩
      rw [conditions_of_dropCondition htry]
      exact ne_nil_of_mem (mem_filter.mpr ⟨hc, by simpa using hdiffer⟩)
    · rw [if_neg hid] at htry
      cases htry
      exact hfilled _ hg

theorem withGroups_eq_ok {s s' : Session} {r : Except Failure (List MixedGroup)}
    (h : s.withGroups r = .ok s') : r = .ok s'.groups := by
  cases r with
  | error e => cases h
  | ok groups =>
      cases h
      rfl

theorem filled_perform_iff {s s' : Session} {e : Edit} (hfilled : Filled s.groups)
    (h : s.perform e = .ok s') : Filled s'.groups ↔ ¬ e.Empties s.groups := by
  cases e with
  -- Only this edit can leave a group without a condition.
  | removeCondition group condition =>
      have hremove := withGroups_eq_ok h
      rw [filled_removeCondition_iff hfilled hremove]
      have hsuccess := removeCondition_isOk_iff.mp ⟨_, hremove⟩
      constructor
      · rintro hother ⟨_, g, hg, hid, hall⟩
        rcases hother g hg hid with ⟨c, hc, hdiffer⟩
        exact hdiffer (hall c hc)
      · intro hsafe g hg hid
        by_contra hnone
        apply hsafe
        refine ⟨hsuccess, g, hg, hid, ?_⟩
        intro c hc
        by_contra hdiffer
        exact hnone ⟨c, hc, hdiffer⟩
  | addGroup withFlags =>
      cases h
      exact iff_of_true (hfilled.addGroup none withFlags s.ids) id
  | removeGroup group =>
      cases h
      exact iff_of_true (hfilled.removeGroup group) id
  | setOperator group operator =>
      exact iff_of_true (hfilled.setOperatorNamed (withGroups_eq_ok h)) id
  | addCondition group withFlags =>
      cases h
      exact iff_of_true (hfilled.addCondition group withFlags s.ids) id
  | updateCondition group condition field value =>
      exact iff_of_true (hfilled.updateConditionNamed (withGroups_eq_ok h)) id
  | updateNotice group field value =>
      exact iff_of_true (hfilled.updateNoticeNamed (withGroups_eq_ok h)) id
  | save =>
      cases h
      exact iff_of_true hfilled id
  | reconcile =>
      have hreconcile := withGroups_eq_ok h
      cases hmerged : Editor.reconcile s.saved s.groups with
      | error f =>
          rw [hmerged] at hreconcile
          cases hreconcile
      | ok merged =>
          rw [hmerged] at hreconcile
          refine iff_of_true ?_ id
          rw [← Except.ok.inj hreconcile]
          intro g hg
          rcases mem_map.mp hg with ⟨g₀, hg₀, hsame⟩
          rw [← hsame]
          exact hfilled.reconcile hmerged g₀ hg₀

theorem filled_step_iff {s : Session} (e : Edit) (hfilled : Filled s.groups) :
    Filled (s.step e).groups ↔ ¬ e.Empties s.groups := by
  unfold Session.step
  cases hperform : s.perform e with
  | ok s' => exact filled_perform_iff hfilled hperform
  | error f =>
      refine iff_of_true hfilled ?_
      -- A step that fails empties no group: an emptying removal would have succeeded.
      intro hempties
      cases e with
      | removeCondition group condition =>
          rcases removeCondition_isOk_iff.mpr hempties.left with ⟨result, hresult⟩
          simp [Session.perform, hresult, Session.withGroups, Except.map] at hperform
      | _ => exact hempties

/-!
# A whole run
-/

theorem play_append (s : Session) (past : List Turn) (t : Turn) :
    s.play (past ++ [t]) = (s.play past).turn t := by
  simp [Session.play]

theorem filled_turn_iff {s : Session} (t : Turn) (hfilled : Filled s.groups) :
    Filled (s.turn t).groups ↔ ¬ t.edit.Empties s.groups :=
  filled_step_iff (s := { s with saved := t.saved, ids := t.ids }) t.edit hfilled

theorem filled_play_iff {s : Session} (hfilled : Filled s.groups) (turns : List Turn) :
    (∀ past, past <+: turns → Filled (s.play past).groups) ↔ s.NeverEmpties turns := by
  constructor
  · intro hall past t hpast hempties
    have hbefore := hall past ((prefix_append past [t]).trans hpast)
    have hafter := hall (past ++ [t]) hpast
    rw [play_append] at hafter
    exact (filled_turn_iff t hbefore).mp hafter hempties
  · intro hnever past hpast
    induction past using List.reverseRecOn with
    | nil => exact hfilled
    | append_singleton past t ih =>
        have hbefore := ih ((prefix_append past [t]).trans hpast)
        rw [play_append]
        exact (filled_turn_iff t hbefore).mpr (hnever past t hpast)

/-!
# Documents
-/

theorem clauses_toMatch (g : Group ν) : g.toMatch.clauses = [] ↔ g.conditions = [] := by
  simp [Group.toMatch]

theorem clauses_toValidation (g : ValidationGroup) :
    g.toValidation.clauses = [] ↔ g.conditions = [] := by
  simp [Group.toValidation]

theorem documentsFilled_iff {groups : List MixedGroup} :
    DocumentsFilled groups ↔ Filled groups := by
  constructor
  · rintro ⟨hvendor, _⟩ g hg hnil
    -- The vendor form of all groups shows an empty match for an empty group.
    have hclauses := hvendor false (VendorForm.ofGroups groups) (.ofForm _)
      (by
        intro g' hg'
        simpa [VendorForm.ofGroups] using hg')
      rfl g.forget.toMatch
      (by
        apply mem_append_left
        exact mem_map_of_mem (mem_map_of_mem hg))
    exact hclauses ((clauses_toMatch g.forget).mpr hnil)
  · intro hfilled
    constructor
    · intro strict f d hgroups hd m hm
      rw [VendorForm.eq_of_generate hd] at hm
      have hm' : m ∈ (f.preconditions ++ f.responseMappings).map Group.toMatch := by
        rw [map_append]
        exact hm
      rcases mem_map.mp hm' with ⟨g, hg, hgm⟩
      rcases mem_map.mp (hgroups g hg) with ⟨g₀, hg₀, hforget⟩
      rw [← hgm, ← hforget]
      exact fun h => hfilled g₀ hg₀ ((clauses_toMatch g₀.forget).mp h)
    · intro strict f d hgroups hd v hv
      rw [ConfigForm.eq_of_generate hd] at hv
      rcases mem_map.mp hv with ⟨g, hg, hgv⟩
      rw [← hgv]
      exact fun h => hfilled _ (hgroups g hg) ((clauses_toValidation g).mp h)

/-!
# The exact condition

A run that starts from groups as they were read keeps all groups filled, and all
documents with them, exactly when none of its steps takes several conditions with
one id that are all a group has.  Distinct ids rule such a step out.
-/

theorem not_empties_of_nodup {groups : List MixedGroup} (hfilled : Filled groups)
    (hids : ∀ g ∈ groups, (g.conditions.map Condition.id).Nodup) (e : Edit) :
    ¬ e.Empties groups := by
  intro hempties
  cases e with
  | removeCondition group condition =>
      rcases hempties with ⟨hsingle, g, hg, hid, hall⟩
      have hnodup := hids g hg
      cases hconditions : g.conditions with
      | nil => exact hfilled g hg hconditions
      | cons c rest =>
          rw [hconditions] at hall hnodup
          cases rest with
          | nil => exact hsingle g hg hid c hconditions (hall c mem_cons_self)
          | cons d rest =>
              have hc := hall c mem_cons_self
              have hd := hall d (mem_cons_of_mem c mem_cons_self)
              have hdiffer := (List.nodup_cons.mp hnodup).left
              rw [hc, ← hd] at hdiffer
              exact hdiffer mem_cons_self
  | _ => exact hempties

theorem groups_stay_filled_iff {groups : List MixedGroup} (hread : ∀ g ∈ groups, WasRead g)
    (saved : List MixedGroup) (ids : IdSupply) (turns : List Turn) :
    let s : Session := ⟨groups, saved, ids⟩
    ((∀ past, past <+: turns → Filled (s.play past).groups) ↔ s.NeverEmpties turns) ∧
      ((∀ past, past <+: turns → DocumentsFilled (s.play past).groups) ↔
        s.NeverEmpties turns) := by
  intro s
  have hrun := filled_play_iff (s := s) (filled_of_wasRead hread) turns
  constructor
  · exact hrun
  · rw [← hrun]
    constructor
    · intro h past hpast
      exact documentsFilled_iff.mp (h past hpast)
    · intro h past hpast
      exact documentsFilled_iff.mpr (h past hpast)

def twinsData : Value :=
  Value.record
    [("id", .text "g"),
     ("conditions", .list [Value.record [("id", .text "c")], Value.record [("id", .text "c")]])]

/-- The group with two conditions that share an id. -/
def twins : MixedGroup :=
  ⟨"g", .all, [Condition.blank "c" false, Condition.blank "c" false], none⟩

theorem wasRead_twins : WasRead twins :=
  Or.inl ⟨twinsData, twins.forget, ⟨.numbered [], rfl⟩, rfl⟩

/-- Two conditions that share an id are the exact case that empties a group. -/
theorem groups_stay_filled_iff_twins :
    WasRead twins ∧
      let s : Session := ⟨[twins], [], .numbered []⟩
      let turns : List Turn := [⟨[], .numbered [], .removeCondition "g" "c"⟩]
      ((∀ past, past <+: turns → Filled (s.play past).groups) ↔ s.NeverEmpties turns) ∧
        ((∀ past, past <+: turns → DocumentsFilled (s.play past).groups) ↔
          s.NeverEmpties turns) :=
  ⟨wasRead_twins,
    groups_stay_filled_iff
      (by
        intro g hg
        rw [mem_singleton.mp hg]
        exact wasRead_twins)
      [] (.numbered []) [⟨[], .numbered [], .removeCondition "g" "c"⟩]⟩

/-- Removing by a shared id leaves a group that was read without a condition. -/
theorem removal_by_shared_id_empties :
    ¬ ∀ groups : List MixedGroup, (∀ g ∈ groups, WasRead g) →
        ∀ saved ids turns, Filled ((Session.mk groups saved ids).play turns).groups := by
  intro hall
  have hfilled := hall [twins]
    (by
      intro g hg
      rw [mem_singleton.mp hg]
      exact wasRead_twins)
    [] (.numbered []) [⟨[], .numbered [], .removeCondition "g" "c"⟩]
  exact hfilled { twins with conditions := [] } (by decide) rfl

end Editor
end RuleDraft
