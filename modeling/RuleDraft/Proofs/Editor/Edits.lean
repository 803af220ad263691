import Mathlib.Data.List.Forall2
import RuleDraft.Editor.Session
import RuleDraft.Proofs.Intake.Accepted
import RuleDraft.Proofs.Outcome

/-!
# What an edit gives

One statement for each edit says which list it gives, group by group, and when
it gives none.  Later arguments about editing use these statements and leave the
edits closed.
-/

namespace RuleDraft
namespace Editor

open List

variable {ν : Type}

/-!
# Changes that may fail

A change that may fail gives a list exactly when it gives every member.
-/

/-- What a change of the groups with an id makes of one group. -/
def tryGroup (id : Text) (f : Group ν → Except Failure (Group ν)) (g : Group ν) :
    Except Failure (Group ν) :=
  if g.id = id then f g else .ok g

theorem tryGroups_cons (id : Text) (f : Group ν → Except Failure (Group ν)) (g : Group ν)
    (rest : List (Group ν)) :
    tryGroups id f (g :: rest) =
      tryGroup id f g >>= fun h => tryGroups id f rest >>= fun hs => .ok (h :: hs) := by
  by_cases hid : g.id = id
  · rw [tryGroups, tryGroup, if_pos hid, if_pos hid]
    rfl
  · rw [tryGroups, tryGroup, if_neg hid, if_neg hid]
    rfl

theorem tryGroups_eq_ok {id : Text} {f : Group ν → Except Failure (Group ν)}
    {groups result : List (Group ν)} :
    tryGroups id f groups = .ok result ↔
      Forall₂ (fun g h => tryGroup id f g = .ok h) groups result := by
  induction groups generalizing result with
  | nil =>
      constructor
      · intro h
        cases h
        exact Forall₂.nil
      · intro h
        cases h
        rfl
  | cons g rest ih =>
      rw [tryGroups_cons, bind_eq_ok]
      constructor
      · rintro ⟨h, hg, hrest⟩
        rcases bind_eq_ok.mp hrest with ⟨hs, hhs, hresult⟩
        cases hresult
        exact Forall₂.cons hg (ih.mp hhs)
      · intro h
        cases h with
        | cons hg hrest =>
            exact ⟨_, hg, bind_eq_ok.mpr ⟨_, ih.mpr hrest, rfl⟩⟩

theorem tryGroups_isOk_iff {id : Text} {f : Group ν → Except Failure (Group ν)}
    {groups : List (Group ν)} :
    (∃ result, tryGroups id f groups = .ok result) ↔
      ∀ g ∈ groups, g.id = id → ∃ h, f g = .ok h := by
  induction groups with
  | nil =>
      constructor
      · intro _ g hg
        cases hg
      · intro _
        exact ⟨[], rfl⟩
  | cons g rest ih =>
      constructor
      · rintro ⟨result, hresult⟩
        rw [tryGroups_eq_ok] at hresult
        cases hresult with
        | cons hg hrest =>
            intro g' hg' hid
            rcases mem_cons.mp hg' with rfl | hmem
            · exact ⟨_, by simpa [tryGroup, hid] using hg⟩
            · exact ih.mp ⟨_, tryGroups_eq_ok.mpr hrest⟩ g' hmem hid
      · intro hall
        have hhead : ∃ h, tryGroup id f g = .ok h := by
          by_cases hid : g.id = id
          · rcases hall g mem_cons_self hid with ⟨h, hh⟩
            exact ⟨h, by rw [tryGroup, if_pos hid, hh]⟩
          · exact ⟨g, by rw [tryGroup, if_neg hid]⟩
        rcases hhead with ⟨h, hh⟩
        rcases ih.mpr (fun g' hg' => hall g' (mem_cons_of_mem g hg')) with ⟨hs, hhs⟩
        exact ⟨h :: hs, tryGroups_eq_ok.mpr (Forall₂.cons hh (tryGroups_eq_ok.mp hhs))⟩

theorem tryConditions_cons (id : Text) (f : Condition → Except Failure Condition)
    (c : Condition) (rest : List Condition) :
    tryConditions id f (c :: rest) =
      (if c.id = id then f c else .ok c) >>= fun d =>
        tryConditions id f rest >>= fun ds => .ok (d :: ds) := by
  by_cases hid : c.id = id
  · rw [tryConditions, if_pos hid, if_pos hid]
    rfl
  · rw [tryConditions, if_neg hid, if_neg hid]
    rfl

theorem tryConditions_length {id : Text} {f : Condition → Except Failure Condition}
    {conditions result : List Condition} (h : tryConditions id f conditions = .ok result) :
    result.length = conditions.length := by
  induction conditions generalizing result with
  | nil =>
      cases h
      rfl
  | cons c rest ih =>
      rw [tryConditions_cons] at h
      rcases bind_eq_ok.mp h with ⟨d, _, hrest⟩
      rcases bind_eq_ok.mp hrest with ⟨ds, hds, hresult⟩
      cases hresult
      simp [ih hds]

theorem ids_of_tryConditions {id : Text} {f : Condition → Except Failure Condition}
    {conditions result : List Condition} (hf : ∀ c d, f c = .ok d → d.id = c.id)
    (h : tryConditions id f conditions = .ok result) :
    result.map Condition.id = conditions.map Condition.id := by
  induction conditions generalizing result with
  | nil =>
      cases h
      rfl
  | cons c rest ih =>
      rw [tryConditions_cons] at h
      rcases bind_eq_ok.mp h with ⟨d, hd, hrest⟩
      rcases bind_eq_ok.mp hrest with ⟨ds, hds, hresult⟩
      cases hresult
      have hhead : d.id = c.id := by
        by_cases hid : c.id = id
        · rw [if_pos hid] at hd
          exact hf c d hd
        · rw [if_neg hid] at hd
          cases hd
          rfl
      rw [map_cons, map_cons, hhead, ih hds]

/-!
# Groups of a result

Every group of a result comes from a group of the list that was edited.
-/

theorem mem_of_tryGroups {id : Text} {f : Group ν → Except Failure (Group ν)}
    {groups result : List (Group ν)} (h : tryGroups id f groups = .ok result)
    {g' : Group ν} (hg' : g' ∈ result) :
    ∃ g ∈ groups, tryGroup id f g = .ok g' :=
  exists_of_mem_right (tryGroups_eq_ok.mp h) hg'

theorem exists_mem_of_tryGroups {id : Text} {f : Group ν → Except Failure (Group ν)}
    {groups result : List (Group ν)} (h : tryGroups id f groups = .ok result)
    {g : Group ν} (hg : g ∈ groups) :
    ∃ g' ∈ result, tryGroup id f g = .ok g' :=
  exists_of_mem_right (tryGroups_eq_ok.mp h).flip hg

theorem mem_setOperatorNamed {id : Text} {operator : Value} {groups result : List (Group ν)}
    (h : setOperatorNamed id operator groups = .ok result) {g' : Group ν} (hg' : g' ∈ result) :
    ∃ g ∈ groups, g'.conditions = g.conditions := by
  unfold setOperatorNamed at h
  cases hnamed : named? LogicalOperator.options operator with
  | none =>
      rw [hnamed] at h
      cases h
  | some o =>
      rw [hnamed] at h
      cases h
      rcases mem_map.mp hg' with ⟨g, hg, rfl⟩
      refine ⟨g, hg, ?_⟩
      by_cases hid : g.id = id
      · rw [if_pos hid]
      · rw [if_neg hid]

theorem updateConditionNamed_eq_ok {group condition : Text} {field v : Value}
    {groups result : List (Group ν)}
    (h : updateConditionNamed group condition field v groups = .ok result) :
    ∃ known, updateCondition group condition known v groups = .ok result := by
  unfold updateConditionNamed at h
  cases hnamed : named? Condition.Field.options field with
  | none =>
      rw [hnamed] at h
      cases h
  | some known =>
      rw [hnamed] at h
      exact ⟨known, h⟩

theorem drawn_le_addCondition (id : Text) (withFlags : Bool) (groups : List (Group ν))
    (ids : IdSupply) : ids.drawn ≤ (addCondition id withFlags groups ids).2.drawn := by
  induction groups generalizing ids with
  | nil => exact Nat.le_refl _
  | cons g rest ih =>
      by_cases hid : g.id = id
      · simp only [addCondition, if_pos hid]
        exact Nat.le_of_succ_le (ih ids.draw.2)
      · simp only [addCondition, if_neg hid]
        exact ih ids

theorem drawn_lt_addCondition {id : Text} {withFlags : Bool} {groups : List (Group ν)}
    {ids : IdSupply} {g : Group ν} (hg : g ∈ groups) (hid : g.id = id) :
    ids.drawn < (addCondition id withFlags groups ids).2.drawn := by
  induction groups with
  | nil => cases hg
  | cons first rest ih =>
      by_cases hfirst : first.id = id
      · simp only [addCondition, if_pos hfirst]
        exact drawn_le_addCondition id withFlags rest ids.draw.2
      · simp only [addCondition, if_neg hfirst]
        rcases mem_cons.mp hg with rfl | hmem
        · exact absurd hid hfirst
        · exact ih hmem

theorem mem_addCondition {id : Text} {withFlags : Bool} {groups : List (Group ν)}
    {ids : IdSupply} {g' : Group ν} (h : g' ∈ (addCondition id withFlags groups ids).1) :
    g' ∈ groups ∨
      ∃ g ∈ groups, ∃ n, ids.drawn < n ∧ n ≤ (addCondition id withFlags groups ids).2.drawn ∧
        g'.conditions = g.conditions ++ [Condition.blank (ids.label n) withFlags] := by
  induction groups generalizing ids with
  | nil => cases h
  | cons g rest ih =>
      by_cases hid : g.id = id
      · simp only [addCondition, if_pos hid] at h ⊢
        rcases mem_cons.mp h with rfl | hmem
        · exact Or.inr ⟨g, mem_cons_self, ids.drawn + 1, Nat.lt_succ_self _,
            drawn_le_addCondition id withFlags rest ids.draw.2, rfl⟩
        · rcases ih hmem with hold | ⟨g₀, hg₀, n, hlt, hle, hc⟩
          · exact Or.inl (mem_cons_of_mem g hold)
          · exact Or.inr ⟨g₀, mem_cons_of_mem g hg₀, n, Nat.lt_of_succ_lt hlt, hle, hc⟩
      · simp only [addCondition, if_neg hid] at h ⊢
        rcases mem_cons.mp h with rfl | hmem
        · exact Or.inl mem_cons_self
        · rcases ih hmem with hold | ⟨g₀, hg₀, hadded⟩
          · exact Or.inl (mem_cons_of_mem g hold)
          · exact Or.inr ⟨g₀, mem_cons_of_mem g hg₀, hadded⟩

/-!
# Dropping conditions

The length of a group decides whether a condition may be dropped, and the id
decides which conditions go.
-/

theorem findCondition_isNone_iff {g : Group ν} {condition : Text} :
    (g.findCondition condition).isNone = true ↔ ∀ c ∈ g.conditions, c.id ≠ condition := by
  simp [Group.findCondition, List.find?_eq_none]

theorem dropCondition_isOk_iff {group condition : Text} {g : Group ν} :
    (∃ h, dropCondition group condition g = .ok h) ↔
      ∀ c, g.conditions = [c] → c.id ≠ condition := by
  unfold dropCondition
  by_cases hnone : (g.findCondition condition).isNone = true
  · rw [if_pos hnone]
    have habsent := findCondition_isNone_iff.mp hnone
    constructor
    · intro _ c hc
      exact habsent c (by rw [hc]; exact mem_cons_self)
    · intro _
      exact ⟨g, rfl⟩
  · rw [if_neg hnone]
    by_cases hlength : g.conditions.length = 1
    · rw [if_pos hlength]
      rcases List.length_eq_one_iff.mp hlength with ⟨c, hc⟩
      constructor
      · rintro ⟨h, hh⟩
        cases hh
      · intro hdiffer
        exfalso
        apply hnone
        rw [findCondition_isNone_iff, hc]
        intro c' hc'
        rw [mem_singleton.mp hc']
        exact hdiffer c hc
    · rw [if_neg hlength]
      constructor
      · intro _ c hc
        rw [hc] at hlength
        exact absurd rfl hlength
      · intro _
        exact ⟨_, rfl⟩

theorem conditions_of_dropCondition {group condition : Text} {g h : Group ν}
    (hdrop : dropCondition group condition g = .ok h) :
    h.conditions = g.conditions.filter fun c => ¬ c.id = condition := by
  unfold dropCondition at hdrop
  by_cases hnone : (g.findCondition condition).isNone = true
  · rw [if_pos hnone] at hdrop
    cases hdrop
    symm
    rw [List.filter_eq_self]
    intro c hc
    simpa using findCondition_isNone_iff.mp hnone c hc
  · rw [if_neg hnone] at hdrop
    by_cases hlength : g.conditions.length = 1
    · rw [if_pos hlength] at hdrop
      cases hdrop
    · rw [if_neg hlength] at hdrop
      cases hdrop
      rfl

theorem removeCondition_isOk_iff {group condition : Text} {groups : List (Group ν)} :
    (∃ result, removeCondition group condition groups = .ok result) ↔
      ∀ g ∈ groups, g.id = group → ∀ c, g.conditions = [c] → c.id ≠ condition := by
  unfold removeCondition
  rw [tryGroups_isOk_iff]
  constructor
  · intro h g hg hid
    exact dropCondition_isOk_iff.mp (h g hg hid)
  · intro h g hg hid
    exact dropCondition_isOk_iff.mpr (h g hg hid)

/-!
# One node

What a change makes of one group or one condition, where it succeeds.
-/

theorem dropCondition_eq_ok {group condition : Text} {g h : Group ν}
    (hdrop : dropCondition group condition g = .ok h) :
    h = { g with conditions := g.conditions.filter fun c => ¬ c.id = condition } := by
  have hconditions := conditions_of_dropCondition hdrop
  unfold dropCondition at hdrop
  split at hdrop
  · cases hdrop
    rw [← hconditions]
  · split at hdrop
    · cases hdrop
    · cases hdrop
      rfl

theorem replaceField_eq_ok {group condition : Text} {field : Condition.Field} {v : Value}
    {c d : Condition} :
    replaceField group condition field v c = .ok d ↔ c.withField field v = .ok d := by
  unfold replaceField
  cases c.withField field v with
  | ok d' =>
      constructor
      · intro h
        cases h
        rfl
      · intro h
        cases h
        rfl
  | error issues => exact iff_of_false nofun nofun

def changeConditions (condition : Text) (f : Condition → Except Failure Condition)
    (g : Group ν) : Except Failure (Group ν) :=
  tryConditions condition f g.conditions >>= fun conditions => .ok { g with conditions }

theorem updateCondition_eq (group condition : Text) (field : Condition.Field) (v : Value)
    (groups : List (Group ν)) :
    updateCondition group condition field v groups =
      tryGroups group (changeConditions condition (replaceField group condition field v))
        groups :=
  rfl

theorem changeConditions_eq_ok {condition : Text} {f : Condition → Except Failure Condition}
    {g h : Group ν} :
    changeConditions condition f g = .ok h ↔
      ∃ conditions, tryConditions condition f g.conditions = .ok conditions ∧
        h = { g with conditions } := by
  rw [changeConditions, bind_eq_ok]
  constructor
  · rintro ⟨conditions, hconditions, hh⟩
    cases hh
    exact ⟨conditions, hconditions, rfl⟩
  · rintro ⟨conditions, hconditions, rfl⟩
    exact ⟨conditions, hconditions, rfl⟩

/-- In a group with a condition, only the new text can be at fault. -/
theorem noticeIssues_of_filled {g : Group ν} (h : g.conditions ≠ []) (field : Notice.Field)
    (v : Value) : noticeIssues g field v = (Checked.cleanText v).under (.field field.name) := by
  rw [noticeIssues, if_neg (by simpa using h)]
  cases Checked.cleanText v <;> rfl

theorem replaceNotice_eq_ok [CarriesNotice ν] {group : Text} {field : Notice.Field} {v : Value}
    {g h : Group ν} (hreplace : replaceNotice group field v g = .ok h) :
    ∃ n t, g.notice? = some n ∧ Checked.cleanText v = .ok t ∧
      h = { g with notice := CarriesNotice.ofNotice (n.set field t) } := by
  unfold replaceNotice at hreplace
  cases hn : g.notice? with
  | none =>
      rw [hn] at hreplace
      cases hreplace
  | some n =>
      rw [hn] at hreplace
      dsimp only at hreplace
      cases hissues : noticeIssues g field v with
      | error issues =>
          rw [hissues] at hreplace
          cases hreplace
      | ok t =>
          rw [hissues] at hreplace
          cases hreplace
          rcases Checked.apply_eq_ok.mp hissues with ⟨_, u, hconditions, hu, hut⟩
          rcases map_eq_ok.mp hconditions with ⟨_, _, rfl⟩
          subst hut
          exact ⟨n, u, rfl, Checked.under_eq_ok.mp hu, rfl⟩

theorem reconcileOne_eq_ok {μ : Type} [HasNotice ν] [HasNotice μ] {previous : List (Group ν)}
    {g : Group μ} {g' : ValidationGroup} (h : reconcileOne previous g = .ok g') :
    ∃ n, inheritedNotice (lastWithId g.id previous) = .ok n ∧ g' = g.withNotice n := by
  rcases bind_eq_ok.mp h with ⟨n, hn, hbuilt⟩
  refine ⟨n, hn, ?_⟩
  by_cases hsame : g.notice? = some n
  · rw [if_pos hsame] at hbuilt
    cases hbuilt
    rfl
  · rw [if_neg hsame] at hbuilt
    unfold rebuild at hbuilt
    split at hbuilt
    · cases hbuilt
    · cases hbuilt
      rfl

theorem reconcile_eq_ok {μ : Type} [HasNotice ν] [HasNotice μ] {previous : List (Group ν)}
    {groups : List (Group μ)} {result : List ValidationGroup}
    (h : reconcile previous groups = .ok result) :
    Forall₂ (fun g g' => ∃ n, inheritedNotice (lastWithId g.id previous) = .ok n ∧
      g' = g.withNotice n) groups result :=
  (mapM_eq_ok.mp h).imp fun _ _ => reconcileOne_eq_ok

theorem mem_of_reconcile {μ : Type} [HasNotice ν] [HasNotice μ] {previous : List (Group ν)}
    {groups : List (Group μ)} {result : List ValidationGroup}
    (h : reconcile previous groups = .ok result) {g' : ValidationGroup} (hg' : g' ∈ result) :
    ∃ g ∈ groups, ∃ n, inheritedNotice (lastWithId g.id previous) = .ok n ∧
      g' = g.withNotice n :=
  exists_of_mem_right (reconcile_eq_ok h) hg'

end Editor
end RuleDraft
