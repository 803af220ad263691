import RuleDraft.Proofs.Editor.Regenerated
import RuleDraft.Proofs.LastItem

/-!
# Reconciled groups

The previous validations and the id of a group settle the notice that it takes: each of its
two texts is that of the last validation with the id, or the default one.  The notice that the
group brings along only decides whether the group is kept or built anew, and building fails
where there is no condition.

The notices that groups have taken hold no empty text, and groups with one id have taken the
same one.  So they hand on what they were given, and reconciling in steps is reconciling once.
-/

namespace RuleDraft
namespace Editor

open List

variable {ν μ : Type}

/--
The text is that of the last previous validation with the id, if there is one and its text
is not empty, and the default one if not.
-/
def Inherits (part : Notice → Text) (default : Text) (previous : List ValidationGroup)
    (id t : Text) : Prop :=
  (∃ p, IsLast (fun q => q.id = id) previous p ∧ part p.notice ≠ [] ∧ t = part p.notice) ∨
    (∀ p, IsLast (fun q => q.id = id) previous p → part p.notice = []) ∧ t = default

/-- The validation is the group with the two texts that it inherits. -/
structure Reconciles (previous : List ValidationGroup) (g : Group ν) (v : ValidationGroup) :
    Prop where
  id : v.id = g.id
  operator : v.operator = g.operator
  conditions : v.conditions = g.conditions
  code : Inherits Notice.code Notice.defaultCode previous g.id v.notice.code
  message : Inherits Notice.message Notice.defaultMessage previous g.id v.notice.message

/-- The group carries the notice that it inherits, and need not be built anew. -/
def Reusable [HasNotice ν] (previous : List ValidationGroup) (g : Group ν) : Prop :=
  ∃ n, g.notice? = some n ∧ Reconciles previous g (g.withNotice n)

def noConditions : Failure :=
  .unreadable "ValidationGroup" [⟨[.field "conditions"], .tooFew 1⟩]

/-!
# The notice that a group takes
-/

section Notices

variable {previous : List ValidationGroup} {id : Text}

theorem lastWithId_eq_some_iff {groups : List (Group ν)} {g : Group ν} :
    lastWithId id groups = some g ↔ IsLast (fun h => h.id = id) groups g :=
  find?_reverse_eq_some_iff

theorem inherits_of_none {part : Notice → Text} {default t : Text}
    (h : lastWithId id previous = none) : Inherits part default previous id t ↔ t = default := by
  have hnever : ∀ p, ¬ IsLast (fun q => q.id = id) previous p := by
    intro p hp
    rw [← lastWithId_eq_some_iff, h] at hp
    cases hp
  unfold Inherits
  simp [hnever]

theorem inherits_of_some {part : Notice → Text} {default t : Text} {p : ValidationGroup}
    (h : lastWithId id previous = some p) :
    Inherits part default previous id t ↔ t = orElse (part p.notice) default := by
  have hlast := lastWithId_eq_some_iff.mp h
  have honly : ∀ q, IsLast (fun q => q.id = id) previous q ↔ q = p := by
    intro q
    constructor
    · intro hq
      exact hq.unique hlast
    · intro hqp
      rw [hqp]
      exact hlast
  unfold Inherits
  rw [orElse_eq]
  by_cases hempty : part p.notice = []
  · simp [honly, hempty]
  · simp [honly, hempty]

theorem notice_eq_iff {n m : Notice} : n = m ↔ n.code = m.code ∧ n.message = m.message := by
  cases n
  cases m
  simp

/-- The inherited texts are those that the groups hand on. -/
theorem inherits_iff {n : Notice} :
    Inherits Notice.code Notice.defaultCode previous id n.code ∧
        Inherits Notice.message Notice.defaultMessage previous id n.message ↔
      n = handedOn previous id := by
  rw [notice_eq_iff, handedOn]
  cases hlast : lastWithId id previous with
  | none =>
      rw [inherits_of_none hlast, inherits_of_none hlast]
      rfl
  | some p => rw [inherits_of_some hlast, inherits_of_some hlast]

theorem reconciles_iff {g : Group ν} {v : ValidationGroup} :
    Reconciles previous g v ↔ v = g.withNotice (handedOn previous g.id) := by
  constructor
  · intro h
    have hnotice := inherits_iff.mp ⟨h.code, h.message⟩
    cases v with
    | mk id operator conditions notice =>
        cases h.id
        cases h.operator
        cases h.conditions
        cases hnotice
        rfl
  · intro h
    rw [h]
    have hnotice := inherits_iff.mpr (Eq.refl (handedOn previous g.id))
    exact ⟨rfl, rfl, rfl, hnotice.left, hnotice.right⟩

theorem reusable_iff [HasNotice ν] {g : Group ν} :
    Reusable previous g ↔ g.notice? = some (handedOn previous g.id) := by
  unfold Reusable
  constructor
  · intro h
    rcases h with ⟨n, hn, hsame⟩
    have hnotice : n = handedOn previous g.id := congrArg Group.notice (reconciles_iff.mp hsame)
    rw [hn, hnotice]
  · intro h
    exact ⟨_, h, reconciles_iff.mpr rfl⟩

end Notices

/-!
# All groups
-/

section Groups

variable [HasNotice ν] {previous : List ValidationGroup} {groups : List (Group ν)}

theorem reconcileOne_eq_error_iff {g : Group ν} {e : Failure} :
    reconcileOne previous g = .error e ↔
      e = noConditions ∧ g.conditions = [] ∧ ¬ Reusable previous g := by
  unfold reconcileOne
  rw [inheritedNotice_eq_handedOn, ok_bind, reusable_iff]
  by_cases hsame : g.notice? = some (handedOn previous g.id)
  · rw [if_pos hsame]
    refine iff_of_false ?_ fun h => h.right.right hsame
    intro h
    cases h
  · rw [if_neg hsame, rebuild]
    by_cases hnone : g.conditions = []
    · rw [if_pos (List.isEmpty_iff.mpr hnone)]
      simp [hnone, hsame, noConditions, eq_comm]
    · rw [if_neg (mt List.isEmpty_iff.mp hnone)]
      refine iff_of_false ?_ fun h => hnone h.right.left
      intro h
      cases h

theorem reconcile_eq_error_iff {e : Failure} :
    reconcile previous groups = .error e ↔
      e = noConditions ∧ ∃ g ∈ groups, g.conditions = [] ∧ ¬ Reusable previous g := by
  constructor
  · intro h
    rcases mapM_eq_error h with ⟨g, hg, he⟩
    rcases reconcileOne_eq_error_iff.mp he with ⟨hfailure, hrebuilt⟩
    exact ⟨hfailure, g, hg, hrebuilt⟩
  · intro h
    rcases h with ⟨hfailure, g, hg, hrebuilt⟩
    cases hresult : reconcile previous groups with
    | ok result =>
        rcases mapM_isOk_iff.mp ⟨result, hresult⟩ g hg with ⟨v, hv⟩
        rw [reconcileOne_eq_error_iff.mpr ⟨rfl, hrebuilt⟩] at hv
        cases hv
    | error e' =>
        rcases mapM_eq_error hresult with ⟨g', _, he'⟩
        rw [hfailure, (reconcileOne_eq_error_iff.mp he').left]

theorem reconciles_of_reconcile {result : List ValidationGroup}
    (h : reconcile previous groups = .ok result) :
    Forall₂ (Reconciles previous) groups result := by
  refine (reconcile_eq_ok h).imp ?_
  intro g v hv
  rcases hv with ⟨n, hn, hgroup⟩
  rw [inheritedNotice_eq_handedOn] at hn
  rw [reconciles_iff, hgroup, Except.ok.inj hn]

end Groups

/-- Groups with the same conditions under the same ids are reconciled to the same validations. -/
theorem reconciled_eq_of_forget_eq {previous : List ValidationGroup} {groups : List (Group ν)}
    {others : List (Group μ)} {result result' : List ValidationGroup}
    (hsame : others.map Group.forget = groups.map Group.forget)
    (h : Forall₂ (Reconciles previous) groups result)
    (h' : Forall₂ (Reconciles previous) others result') : result' = result := by
  have hmade {κ : Type} {gs : List (Group κ)} {vs : List ValidationGroup}
      (hvs : Forall₂ (Reconciles previous) gs vs) :
      vs = (gs.map Group.forget).map fun g => g.withNotice (handedOn previous g.id) := by
    induction hvs with
    | nil => rfl
    | cons hv _ ih =>
        rw [map_cons, map_cons, ← ih, reconciles_iff.mp hv]
        rfl
  rw [hmade h, hmade h', hsame]

/--
Reconciling fails only for a group without conditions that has to be built anew.  Otherwise
it gives one validation for each group, in order, with the texts of the last previous
validation with its id, whatever notices the groups bring along.
-/
theorem reconcile_by_last_with_id [HasNotice ν] (previous : List ValidationGroup)
    (groups : List (Group ν)) :
    (∀ e, reconcile previous groups = .error e ↔
        e = noConditions ∧ ∃ g ∈ groups, g.conditions = [] ∧ ¬ Reusable previous g) ∧
      ∀ result, reconcile previous groups = .ok result →
        Forall₂ (Reconciles previous) groups result ∧
          ∀ (μ : Type) [HasNotice μ] (others : List (Group μ)) result',
            others.map Group.forget = groups.map Group.forget →
              reconcile previous others = .ok result' → result' = result := by
  constructor
  · intro e
    exact reconcile_eq_error_iff
  · intro result hresult
    have hreconciles := reconciles_of_reconcile hresult
    refine ⟨hreconciles, ?_⟩
    intro μ _ others result' hsame hresult'
    exact reconciled_eq_of_forget_eq hsame hreconciles (reconciles_of_reconcile hresult')

/-- Of two previous validations with one id the last one counts, and its code is empty. -/
theorem reconcile_by_last_with_id_twice :
    let previous : List ValidationGroup := [noticed, { uncoded with id := "g" }]
    let groups : List MixedGroup := [noticed.mixed, uncoded.plain]
    let others : List MixedGroup := [noticed.plain, uncoded.mixed]
    let result : List ValidationGroup :=
      [noticed.withNotice ⟨Notice.defaultCode, "Refused."⟩, uncoded.withNotice .standard]
    reconcile previous groups = .ok result ∧ others.map Group.forget = groups.map Group.forget ∧
      Forall₂ (Reconciles previous) groups result ∧
        ∀ result', reconcile previous others = .ok result' → result' = result := by
  intro previous groups others result
  have hresult : reconcile previous groups = .ok result := rfl
  have hreconciled := (reconcile_by_last_with_id previous groups).right result hresult
  refine ⟨hresult, rfl, hreconciled.left, ?_⟩
  intro result'
  exact hreconciled.right _ others result' rfl

/-!
# Reconciling in steps
-/

theorem lastWithId_eq_none_iff {id : Text} {groups : List (Group ν)} :
    lastWithId id groups = none ↔ ∀ g ∈ groups, g.id ≠ id :=
  find?_reverse_eq_none_iff

/-- Groups that have taken notices hand them on. -/
theorem handedOn_reconciled (previous : List ValidationGroup) {groups : List (Group ν)}
    {id : Text} (hid : ∃ g ∈ groups, g.id = id) :
    handedOn (groups.map fun g => g.withNotice (handedOn previous g.id)) id =
      handedOn previous id := by
  let merged := groups.map fun g => g.withNotice (handedOn previous g.id)
  cases hlast : lastWithId id merged with
  | none =>
      rcases hid with ⟨g, hg, hgid⟩
      have hnever := lastWithId_eq_none_iff.mp hlast _ (mem_map_of_mem hg)
      exact absurd hgid hnever
  | some p =>
      have hp := lastWithId_eq_some_iff.mp hlast
      rcases mem_map.mp hp.mem with ⟨g, _, hgp⟩
      have hgid : g.id = id := by
        have hpid : p.id = id := hp.holds
        rw [← hgp] at hpid
        exact hpid
      have hnotice : p.notice = handedOn previous id := by
        rw [← hgp, hgid]
        rfl
      rcases handedOn_ne_nil previous id with ⟨hcode, hmessage⟩
      -- No text that was handed on is empty, so it counts when it is handed on again.
      rw [notice_eq_iff, handedOn, hlast]
      simp [hnotice, orElse_eq, hcode, hmessage]

theorem reconcile_reconciled [HasNotice μ] {previous merged : List ValidationGroup}
    {groups : List (Group ν)} [HasNotice ν] {later : List (Group μ)} (hfilled : Filled groups)
    (hlater : Filled later) (hmerged : reconcile previous groups = .ok merged)
    (hids : ∀ h ∈ later, ∃ g ∈ groups, g.id = h.id) :
    reconcile merged later = reconcile previous later := by
  rw [reconcile_eq_map previous hfilled] at hmerged
  rw [← Except.ok.inj hmerged, reconcile_eq_map _ hlater, reconcile_eq_map _ hlater]
  congr 1
  apply map_congr_left
  intro h hh
  rw [handedOn_reconciled previous (hids h hh)]

/--
Reconciling with what was reconciled before is reconciling with what there was first, as far
as the ids were there in between.  So a second time changes nothing.
-/
theorem reconcile_in_steps [HasNotice ν] (previous : List ValidationGroup)
    {groups : List (Group ν)} (hfilled : Filled groups) :
    ∃ merged, reconcile previous groups = .ok merged ∧
      reconcile previous merged = .ok merged ∧ reconcile merged merged = .ok merged ∧
        ∀ (μ : Type) [HasNotice μ] (later : List (Group μ)), Filled later →
          (∀ h ∈ later, ∃ g ∈ groups, g.id = h.id) →
            ∃ result, reconcile previous later = .ok result ∧
              reconcile merged later = .ok result := by
  let merged := groups.map fun g => g.withNotice (handedOn previous g.id)
  have hmerged : reconcile previous groups = .ok merged := reconcile_eq_map previous hfilled
  have hmergedFilled : Filled merged := hfilled.reconcile hmerged
  have hagain : reconcile previous merged = .ok merged := by
    rw [reconcile_eq_map previous hmergedFilled, map_map]
    rfl
  have hsteps (μ : Type) [HasNotice μ] (later : List (Group μ)) (hlater : Filled later)
      (hids : ∀ h ∈ later, ∃ g ∈ groups, g.id = h.id) :
      reconcile merged later = reconcile previous later :=
    reconcile_reconciled hfilled hlater hmerged hids
  refine ⟨merged, hmerged, hagain, ?_, ?_⟩
  · rw [hsteps Notice merged hmergedFilled ?_, hagain]
    intro h hh
    rcases mem_map.mp hh with ⟨g, hg, hgh⟩
    exact ⟨g, hg, congrArg Group.id hgh⟩
  · intro μ _ later hlater hids
    refine ⟨_, reconcile_eq_map previous hlater, ?_⟩
    rw [hsteps μ later hlater hids]
    exact reconcile_eq_map previous hlater

theorem reconcile_in_steps_uncoded :
    let previous : List ValidationGroup := [noticed, { uncoded with id := "g" }]
    let groups : List MixedGroup := [noticed.mixed, uncoded.plain, noticed.plain]
    let later : List ConditionGroup := [uncoded.forget, noticed.forget, uncoded.forget]
    Filled groups ∧ Filled later ∧ (∀ h ∈ later, ∃ g ∈ groups, g.id = h.id) ∧
      ∃ merged, reconcile previous groups = .ok merged ∧
        reconcile previous merged = .ok merged ∧ reconcile merged merged = .ok merged ∧
          ∃ result, reconcile previous later = .ok result ∧
            reconcile merged later = .ok result := by
  intro previous groups later
  have hfilled : Filled groups := by
    intro g hg
    simp only [groups, mem_cons, not_mem_nil, or_false] at hg
    rcases hg with rfl | rfl | rfl <;> exact cons_ne_nil _ _
  have hlater : Filled later := by
    intro g hg
    simp only [later, mem_cons, not_mem_nil, or_false] at hg
    rcases hg with rfl | rfl | rfl <;> exact cons_ne_nil _ _
  have hids : ∀ h ∈ later, ∃ g ∈ groups, g.id = h.id := by decide
  rcases reconcile_in_steps previous hfilled with ⟨merged, hmerged, hagain, htwice, hsteps⟩
  exact ⟨hfilled, hlater, hids, merged, hmerged, hagain, htwice,
    hsteps Unit later hlater hids⟩

end Editor
end RuleDraft
