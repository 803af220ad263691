import RuleDraft.Proofs.Editor.DistinctIds
import RuleDraft.Proofs.Editor.Rewriting

/-!
# Independent edits

An edit that is aimed at a group goes through the list of groups, rewrites the groups with
that id, and passes over all others.  So two edits that are aimed at different groups do not
notice each other: each fails or succeeds as it would alone, and after both the groups are
the same in either order.  In one group, the same holds of updates of different conditions.
-/

namespace RuleDraft
namespace Editor

open List

def Edit.target? : Edit → Option Text
  | .removeGroup group => some group
  | .setOperator group _ => some group
  | .addCondition group _ => some group
  | .removeCondition group _ => some group
  | .updateCondition group _ _ _ => some group
  | .updateNotice group _ _ => some group
  | _ => none

/-- The groups that an edit with a supply of ids of its own makes of groups. -/
def Edit.apply (e : Edit) (ids : IdSupply) (groups : List MixedGroup) :
    Except Failure (List MixedGroup) :=
  (Session.perform ⟨groups, [], ids⟩ e).map Session.groups

/-!
# Edits that are aimed at a group
-/

section Edits

variable {ν : Type} {id : Text}

theorem actsAt_removeGroup (id : Text) :
    ActsAt Group.id id fun groups : List (Group ν) => .ok (removeGroup id groups) :=
  .rewrites dropping () (keepsId_dropping id) (filter_eq_rewriteAt Group.id id)

theorem itemByItem_tryGroups (id : Text) (f : Group ν → Except Failure (Group ν)) :
    ItemByItem (changeAt Group.id id f) (tryGroups id f) :=
  ⟨rfl, tryGroups_cons id f⟩

theorem actsAt_tryGroups {f : Group ν → Except Failure (Group ν)}
    (hf : ∀ g h, f g = .ok h → h.id = g.id) : ActsAt Group.id id (tryGroups id f) :=
  .rewrites (replacing f) () (keepsId_replacing hf) (itemByItem_tryGroups id f).eq_rewriteAt

theorem setOperator_eq_tryGroups (id : Text) (o : LogicalOperator) (groups : List (Group ν)) :
    .ok (setOperator id o groups) =
      tryGroups id (fun g => .ok { g with operator := o }) groups := by
  induction groups with
  | nil => rfl
  | cons g rest ih =>
      rw [tryGroups_cons, ← ih, tryGroup]
      by_cases hid : g.id = id
      · rw [if_pos hid, setOperator, mapGroups, map_cons, if_pos hid]
        rfl
      · rw [if_neg hid, setOperator, mapGroups, map_cons, if_neg hid]
        rfl

theorem actsAt_setOperatorNamed (id : Text) (operator : Value) :
    ActsAt Group.id id (setOperatorNamed (ν := ν) id operator) := by
  cases hnamed : named? LogicalOperator.options operator with
  | none =>
      refine .never (.refused (.unknownOperator operator)) fun groups => ?_
      rw [setOperatorNamed, hnamed]
  | some o =>
      have htry : setOperatorNamed (ν := ν) id operator =
          tryGroups id fun g => .ok { g with operator := o } := by
        funext groups
        rw [setOperatorNamed, hnamed, ← setOperator_eq_tryGroups]
      rw [htry]
      refine actsAt_tryGroups fun g h hh => ?_
      cases hh
      rfl

def growing (withFlags : Bool) (ids : IdSupply) (g : Group ν) :
    Except Failure (List (Group ν) × IdSupply) :=
  .ok ([{ g with conditions := g.conditions ++ [Condition.blank ids.draw.1 withFlags] }],
    ids.draw.2)

theorem addCondition_eq_rewriteAt (id : Text) (withFlags : Bool) (ids : IdSupply)
    (groups : List (Group ν)) :
    .ok (addCondition id withFlags groups ids).1 =
      rewriteAt Group.id id (growing withFlags) ids groups := by
  induction groups generalizing ids with
  | nil => rfl
  | cons g rest ih =>
      rw [rewriteAt]
      by_cases hid : g.id = id
      · simp only [addCondition, if_pos hid, growing, ok_bind, ← ih]
        rfl
      · simp only [addCondition, if_neg hid, ok_bind, ← ih]

theorem actsAt_addCondition (id : Text) (withFlags : Bool) (ids : IdSupply) :
    ActsAt Group.id id fun groups : List (Group ν) =>
      .ok (addCondition id withFlags groups ids).1 := by
  refine .rewrites (growing withFlags) ids ?keeps (addCondition_eq_rewriteAt id withFlags ids)
  case keeps =>
    intro s g made hid hmade
    cases hmade
    exact forall_mem_singleton.mpr hid

/-- A named field is that of a condition or is refused whatever the groups are. -/
theorem updateConditionNamed_cases (id condition : Text) (field v : Value) :
    (∃ e, ∀ groups, updateConditionNamed (ν := ν) id condition field v groups = .error e) ∨
      ∃ known, updateConditionNamed (ν := ν) id condition field v =
        tryGroups id (changeConditions condition (replaceField id condition known v)) := by
  cases hnamed : named? Condition.Field.options field with
  | none =>
      refine Or.inl ⟨.refused (.fixedConditionField field), fun groups => ?_⟩
      rw [updateConditionNamed, hnamed]
  | some known =>
      refine Or.inr ⟨known, funext fun groups => ?_⟩
      rw [updateConditionNamed, hnamed, ← updateCondition_eq]

theorem id_of_changeConditions {condition : Text} {f : Condition → Except Failure Condition}
    {g h : Group ν} (hh : changeConditions condition f g = .ok h) : h.id = g.id := by
  rcases changeConditions_eq_ok.mp hh with ⟨_, _, rfl⟩
  rfl

theorem actsAt_updateConditionNamed (id condition : Text) (field v : Value) :
    ActsAt Group.id id (updateConditionNamed (ν := ν) id condition field v) := by
  rcases updateConditionNamed_cases (ν := ν) id condition field v with ⟨e, he⟩ | ⟨known, htry⟩
  · exact .never e he
  · rw [htry]
    exact actsAt_tryGroups fun g h => id_of_changeConditions

theorem actsAt_updateNoticeNamed [CarriesNotice ν] (id : Text) (field v : Value) :
    ActsAt Group.id id (updateNoticeNamed (ν := ν) id field v) := by
  cases hnamed : named? Notice.Field.options field with
  | none =>
      refine .never (.refused (.fixedNoticeField field)) fun groups => ?_
      rw [updateNoticeNamed, hnamed]
  | some known =>
      have htry : updateNoticeNamed (ν := ν) id field v =
          tryGroups id (replaceNotice id known v) := by
        funext groups
        rw [updateNoticeNamed, hnamed]
        rfl
      rw [htry]
      refine actsAt_tryGroups fun g h hh => ?_
      rcases replaceNotice_eq_ok hh with ⟨_, _, _, _, rfl⟩
      rfl

theorem actsAt_removeCondition (id condition : Text) :
    ActsAt Group.id id (removeCondition (ν := ν) id condition) := by
  refine actsAt_tryGroups fun g h hh => ?_
  rw [dropCondition_eq_ok hh]

theorem groups_withGroups (s : Session) (r : Except Failure (List MixedGroup)) :
    (s.withGroups r).map Session.groups = r := by
  cases r <;> rfl

/-- An edit that goes through the groups with one operation makes of them what this makes. -/
theorem apply_eq_of_perform {e : Edit} {ids : IdSupply}
    {A : List MixedGroup → Except Failure (List MixedGroup)}
    (h : ∀ groups, Session.perform ⟨groups, [], ids⟩ e =
      Session.withGroups ⟨groups, [], ids⟩ (A groups)) : e.apply ids = A := by
  funext groups
  rw [Edit.apply, h, groups_withGroups]

theorem actsAt_apply {e : Edit} (h : e.target? = some id) (ids : IdSupply) :
    ActsAt Group.id id (e.apply ids) := by
  cases e with
  | removeGroup group =>
      cases h
      exact actsAt_removeGroup id
  | setOperator group operator =>
      cases h
      rw [apply_eq_of_perform fun groups => rfl]
      exact actsAt_setOperatorNamed id operator
  | addCondition group withFlags =>
      cases h
      exact actsAt_addCondition id withFlags ids
  | removeCondition group condition =>
      cases h
      rw [apply_eq_of_perform fun groups => rfl]
      exact actsAt_removeCondition id condition
  | updateCondition group condition field value =>
      cases h
      rw [apply_eq_of_perform fun groups => rfl]
      exact actsAt_updateConditionNamed id condition field value
  | updateNotice group field value =>
      cases h
      rw [apply_eq_of_perform fun groups => rfl]
      exact actsAt_updateNoticeNamed id field value
  | addGroup withFlags => cases h
  | save => cases h
  | reconcile => cases h

end Edits

/-!
# Updates of conditions of one group
-/

section Conditions

variable {ν : Type}

theorem itemByItem_tryConditions (id : Text) (f : Condition → Except Failure Condition) :
    ItemByItem (changeAt Condition.id id f) (tryConditions id f) :=
  ⟨rfl, tryConditions_cons id f⟩

theorem changeConditions_eq_error {c : Text} {f : Condition → Except Failure Condition}
    {g : Group ν} {e : Failure} :
    changeConditions c f g = .error e ↔ tryConditions c f g.conditions = .error e := by
  rw [changeConditions, bind_eq_error]
  refine or_iff_left ?_
  rintro ⟨conditions, _, hgroup⟩
  cases hgroup

theorem independent_changeConditions {c c' : Text} {f h : Condition → Except Failure Condition}
    {g : Group ν} (hg : Independent (tryConditions c f) (tryConditions c' h) g.conditions) :
    Independent (changeConditions c f) (changeConditions c' h) g where
  left y hy e := by
    rcases changeConditions_eq_ok.mp hy with ⟨conditions, hconditions, rfl⟩
    rw [changeConditions_eq_error, changeConditions_eq_error]
    exact hg.left conditions hconditions e
  right y hy e := by
    rcases changeConditions_eq_ok.mp hy with ⟨conditions, hconditions, rfl⟩
    rw [changeConditions_eq_error, changeConditions_eq_error]
    exact hg.right conditions hconditions e
  both y z hy hz := by
    rcases changeConditions_eq_ok.mp hy with ⟨ys, hys, rfl⟩
    rcases changeConditions_eq_ok.mp hz with ⟨zs, hzs, rfl⟩
    rcases hg.both ys zs hys hzs with ⟨ws, hB, hA⟩
    exact ⟨{ g with conditions := ws }, changeConditions_eq_ok.mpr ⟨ws, hB, rfl⟩,
      changeConditions_eq_ok.mpr ⟨ws, hA, rfl⟩⟩

theorem independent_updateConditionNamed (group : Text) {c c' : Text} (hcc : c ≠ c')
    (field v field' v' : Value) (groups : List (Group ν)) :
    Independent (updateConditionNamed group c field v) (updateConditionNamed group c' field' v')
      groups := by
  rcases updateConditionNamed_cases (ν := ν) group c field v with ⟨e, he⟩ | ⟨known, htry⟩
  · exact .of_never he
  rcases updateConditionNamed_cases (ν := ν) group c' field' v' with ⟨e, he⟩ | ⟨known', htry'⟩
  · exact .symm (.of_never he)
  rw [htry, htry']
  refine (itemByItem_tryGroups group _).independent (itemByItem_tryGroups group _) fun g _ => ?_
  refine independent_changeAt (fun g h => id_of_changeConditions)
    (fun g h => id_of_changeConditions) (independent_changeConditions ?_)
  refine (itemByItem_tryConditions c _).independent (itemByItem_tryConditions c' _) fun x _ => ?_
  exact independent_changeAt_of_ne hcc (fun x y => id_of_replaceField)
    (fun x y => id_of_replaceField) x

end Conditions

/-!
# Two edits
-/

/-- The edits are aimed at different groups, or update different conditions of a group. -/
inductive Edit.Apart : Edit → Edit → Prop
  | groups {e e' : Edit} {a b : Text} (ha : e.target? = some a) (hb : e'.target? = some b)
      (hab : a ≠ b) : Edit.Apart e e'
  | conditions {group c c' : Text} {field v field' v' : Value} (hcc : c ≠ c') :
      Edit.Apart (.updateCondition group c field v) (.updateCondition group c' field' v')

theorem apply_updateCondition (group condition : Text) (field v : Value) (ids : IdSupply) :
    (Edit.updateCondition group condition field v).apply ids =
      updateConditionNamed group condition field v :=
  apply_eq_of_perform fun _ => rfl

theorem Edit.Apart.independent {e e' : Edit} (h : e.Apart e') (ids ids' : IdSupply)
    (groups : List MixedGroup) : Independent (e.apply ids) (e'.apply ids') groups := by
  cases h with
  | groups ha hb hab => exact (actsAt_apply ha ids).independent (actsAt_apply hb ids') hab groups
  | @conditions group c c' field v field' v' hcc =>
      rw [apply_updateCondition, apply_updateCondition]
      exact independent_updateConditionNamed group hcc field v field' v' groups

theorem independent_edits_commute (groups : List MixedGroup) {e e' : Edit} (h : e.Apart e')
    (ids ids' : IdSupply) :
    Independent (e.apply ids) (e'.apply ids') groups ∧
      ∀ result, e.apply ids groups >>= e'.apply ids' = .ok result ↔
        e'.apply ids' groups >>= e.apply ids = .ok result := by
  have hind := h.independent ids ids' groups
  exact ⟨hind, fun result => hind.bind_eq_ok_iff⟩

/-- Two groups with one id and a group between them, all with one condition. -/
def repeated : List MixedGroup :=
  [⟨"g", .all, [Condition.blank "c" false], none⟩, ⟨"h", .any, [Condition.blank "c" false], none⟩,
    ⟨"g", .any, [Condition.blank "d" true], none⟩]

theorem independent_edits_commute_repeated :
    let grow := (Edit.addCondition "g" true).apply (.numbered "n")
    let rename := (Edit.updateCondition "h" "c" (.text "key") (.text "age")).apply (.numbered "m")
    (Edit.addCondition "g" true).Apart (.updateCondition "h" "c" (.text "key") (.text "age")) ∧
      grow repeated ≠ .ok repeated ∧ rename repeated ≠ .ok repeated ∧
        ∃ result, (grow repeated >>= rename) = .ok result ∧
          (rename repeated >>= grow) = .ok result := by
  intro grow rename
  have hapart : (Edit.addCondition "g" true).Apart
      (.updateCondition "h" "c" (.text "key") (.text "age")) := .groups rfl rfl (by decide)
  have hcommute := independent_edits_commute repeated hapart (.numbered "n") (.numbered "m")
  refine ⟨hapart, ?grows, ?renames, _, rfl, (hcommute.right _).mp rfl⟩
  case grows => exact fun h => absurd (Except.ok.inj h) (by decide)
  case renames => exact fun h => absurd (Except.ok.inj h) (by decide)

/-!
# Steps

A step that is aimed at a group makes of the groups what its edit makes of them, or leaves them
as they were.
-/

/-- What is saved does not count for an edit that is aimed at a group. -/
theorem groups_attempt {s : Session} {t : Turn} {id : Text} (h : t.edit.target? = some id) :
    (s.attempt t).map Session.groups = t.edit.apply t.ids s.groups := by
  cases t with
  | mk saved ids edit =>
      cases edit with
      | removeGroup group => rfl
      | addCondition group withFlags => rfl
      | setOperator group operator =>
          exact (groups_withGroups _ _).trans (groups_withGroups _ _).symm
      | removeCondition group condition =>
          exact (groups_withGroups _ _).trans (groups_withGroups _ _).symm
      | updateCondition group condition field value =>
          exact (groups_withGroups _ _).trans (groups_withGroups _ _).symm
      | updateNotice group field value =>
          exact (groups_withGroups _ _).trans (groups_withGroups _ _).symm
      | addGroup withFlags => cases h
      | save => cases h
      | reconcile => cases h

theorem groups_turn_eq_orSame {s : Session} {t : Turn} {id : Text}
    (h : t.edit.target? = some id) :
    (s.turn t).groups = orSame (t.edit.apply t.ids) s.groups := by
  rw [groups_turn, orSame, ← groups_attempt h]
  cases s.attempt t <;> rfl

end Editor
end RuleDraft
