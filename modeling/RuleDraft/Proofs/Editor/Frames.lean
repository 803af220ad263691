import RuleDraft.Proofs.Editor.Independent
import RuleDraft.Proofs.Rule.Revised

/-!
# What a step leaves alone

Every edit works by id over the whole list, so what it touches rests on the ids being
distinct: then at most one group has the id that is aimed at, and at most one condition
in it.  A step whose drawn ids are new keeps the ids distinct, so in a run of such steps
every step alters at most one node, and the nodes that stay keep their ids and their order.
-/

namespace RuleDraft
namespace Editor

open List

/-- The ids of the groups are distinct, and in each group those of its conditions. -/
structure DistinctNodes (groups : List MixedGroup) : Prop where
  groupIds : (groups.map Group.id).Nodup
  conditionIds : DistinctIds groups

/-!
# Lists that differ at one id
-/

section Differing

variable {α : Type} {idOf : α → Text} {id : Text} {change : α → List α → Prop} {xs ys : List α}

/--
The lists are the same but for the one item with the id, if there is one; the change says
what has taken its place.
-/
inductive DiffersAt (idOf : α → Text) (id : Text) (change : α → List α → Prop) :
    List α → List α → Prop
  | nowhere {xs : List α} (habsent : ∀ x ∈ xs, idOf x ≠ id) : DiffersAt idOf id change xs xs
  | once {before after new : List α} {x : α} (hx : idOf x = id)
      (hothers : ∀ y ∈ before ++ after, idOf y ≠ id) (hchange : change x new) :
      DiffersAt idOf id change (before ++ x :: after) (before ++ new ++ after)

theorem DiffersAt.cons {x : α} (hx : idOf x ≠ id) (h : DiffersAt idOf id change xs ys) :
    DiffersAt idOf id change (x :: xs) (x :: ys) := by
  cases h with
  | nowhere habsent => exact .nowhere (forall_mem_cons.mpr ⟨hx, habsent⟩)
  | @once before after new x' hx' hothers hchange =>
      exact show DiffersAt idOf id change ((x :: before) ++ x' :: after)
        ((x :: before) ++ new ++ after) from
          .once hx' (forall_mem_cons.mpr ⟨hx, hothers⟩) hchange

theorem DiffersAt.mono {change' : α → List α → Prop} (h : DiffersAt idOf id change xs ys)
    (hchange : ∀ x ∈ xs, ∀ new, change x new → change' x new) :
    DiffersAt idOf id change' xs ys := by
  cases h with
  | nowhere habsent => exact .nowhere habsent
  | once hx hothers hnew =>
      exact .once hx hothers (hchange _ (mem_append_right _ mem_cons_self) _ hnew)

/-- Ids keep their order if what takes the place of an item has its id, if anything does. -/
theorem DiffersAt.ids_sublist (h : DiffersAt idOf id change xs ys)
    (hchange : ∀ x new, change x new → new.map idOf <+ [idOf x]) :
    ys.map idOf <+ xs.map idOf := by
  cases h with
  | nowhere habsent => exact Sublist.refl _
  | @once before after new x hx hothers hnew =>
      rw [map_append, map_append, map_append, map_cons, append_assoc, ← singleton_append]
      exact ((hchange x new hnew).append_right _).append_left _

/-- Where ids are distinct, rewriting at an id meets at most one item. -/
theorem differsAt_of_rewriteAt {σ : Type} {f : σ → α → Except Failure (List α × σ)} {s : σ}
    (hdistinct : (xs.map idOf).Nodup) (h : rewriteAt idOf id f s xs = .ok ys) :
    DiffersAt idOf id (fun x new => ∃ rest, f s x = .ok (new, rest)) xs ys := by
  induction xs generalizing ys with
  | nil =>
      cases h
      exact .nowhere (forall_mem_nil _)
  | cons x xs ih =>
      rcases nodup_cons.mp hdistinct with ⟨hnotMem, hrest⟩
      by_cases hx : idOf x = id
      · rcases (rewriteAt_hit_eq_ok hx).mp h with ⟨made, rest, hmade, hys, rfl⟩
        have habsent : ∀ y ∈ xs, idOf y ≠ id := fun y hy hyid =>
          hnotMem (mem_map.mpr ⟨y, hy, hyid.trans hx.symm⟩)
        have hsame : rest = xs := by
          have hover : rewriteAt idOf id f made.2 (xs ++ []) = _ :=
            rewriteAt_append_of_miss habsent
          rw [append_nil, hys] at hover
          simpa [rewriteAt, Except.map] using hover
        rw [hsame]
        exact show DiffersAt idOf id _ ([] ++ x :: xs) ([] ++ made.1 ++ xs) from
          .once hx habsent ⟨made.2, hmade⟩
      · rw [rewriteAt_miss hx] at h
        rcases map_eq_ok.mp h with ⟨rest, hys, rfl⟩
        exact (ih hrest hys).cons hx

end Differing

/-!
# Ids that survive
-/

section Surviving

variable {drawn : Text → Prop}

/-- Some of the ids stay, in their order, and at most one drawn id is added behind them. -/
def IdsSurvive (drawn : Text → Prop) (ids ids' : List Text) : Prop :=
  ∃ kept added, kept <+ ids ∧ ids' = kept ++ added ∧ added.length ≤ 1 ∧ ∀ id ∈ added, drawn id

theorem IdsSurvive.of_sublist {ids ids' : List Text} (h : ids' <+ ids) :
    IdsSurvive drawn ids ids' :=
  ⟨ids', [], h, (append_nil ids').symm, Nat.zero_le 1, forall_mem_nil _⟩

theorem IdsSurvive.of_append {ids : List Text} {id : Text} (hid : drawn id) :
    IdsSurvive drawn ids (ids ++ [id]) :=
  ⟨ids, [id], Sublist.refl ids, rfl, Nat.le_refl 1, forall_mem_singleton.mpr hid⟩

theorem IdsSurvive.nodup {ids ids' : List Text} (h : IdsSurvive drawn ids ids')
    (hids : ids.Nodup) (hnew : ∀ id, drawn id → id ∉ ids) : ids'.Nodup := by
  rcases h with ⟨kept, added, hkept, rfl, hone, hdrawn⟩
  refine nodup_append.mpr ⟨hids.sublist hkept, ?single, ?apart⟩
  case single =>
    rcases added with _ | ⟨id, _ | ⟨other, rest⟩⟩
    · exact nodup_nil
    · exact nodup_singleton id
    · simp only [length_cons] at hone
      omega
  case apart =>
    rintro id hid other hother rfl
    exact hnew id (hdrawn id hother) (hkept.mem hid)

/-- The group was there before with its id, or it was added with one condition. -/
inductive Descends (drawn : Text → Prop) (groups : List MixedGroup) (h : MixedGroup) : Prop
  | kept (g : MixedGroup) (hg : g ∈ groups) (hid : h.id = g.id)
      (hconditions : IdsSurvive drawn g.conditionIds h.conditionIds)
  | added (id : Text) (hgroup : drawn h.id) (hid : drawn id) (hconditions : h.conditionIds = [id])

/-- Groups and conditions that stay keep their ids and their order. -/
structure NodesSurvive (drawn : Text → Prop) (groups groups' : List MixedGroup) : Prop where
  groupIds : IdsSurvive drawn (groups.map Group.id) (groups'.map Group.id)
  descends : ∀ h ∈ groups', Descends drawn groups h

theorem NodesSurvive.distinct {groups groups' : List MixedGroup}
    (h : NodesSurvive drawn groups groups') (hdistinct : DistinctNodes groups)
    (hnew : ∀ id, drawn id → ∀ g ∈ groups, g.id ≠ id ∧ id ∉ g.conditionIds) :
    DistinctNodes groups' where
  groupIds := by
    refine h.groupIds.nodup hdistinct.groupIds fun id hid hmem => ?_
    rcases mem_map.mp hmem with ⟨g, hg, hgid⟩
    exact (hnew id hid g hg).left hgid
  conditionIds := by
    intro g' hg'
    cases h.descends g' hg' with
    | kept g hg _ hconditions =>
        exact hconditions.nodup (hdistinct.conditionIds g hg) fun id hid => (hnew id hid g hg).right
    | added id _ _ hconditions =>
        rw [hconditions]
        exact nodup_singleton id

theorem Descends.of_mem {groups : List MixedGroup} {h : MixedGroup} (hh : h ∈ groups) :
    Descends drawn groups h :=
  .kept h hh rfl (.of_sublist (Sublist.refl _))

theorem NodesSurvive.refl (groups : List MixedGroup) : NodesSurvive drawn groups groups :=
  ⟨.of_sublist (Sublist.refl _), fun _ hh => .of_mem hh⟩

/-- The nodes survive a change of one group that drops it or keeps its id and its conditions. -/
theorem nodesSurvive_of_differsAt {id : Text} {change : MixedGroup → List MixedGroup → Prop}
    {groups groups' : List MixedGroup} (h : DiffersAt Group.id id change groups groups')
    (hchange : ∀ g ∈ groups, g.id = id → ∀ new, change g new → new = [] ∨
      ∃ g', new = [g'] ∧ g'.id = g.id ∧ IdsSurvive drawn g.conditionIds g'.conditionIds) :
    NodesSurvive drawn groups groups' := by
  cases h with
  | nowhere habsent => exact .refl groups
  | @once before after new g hid hothers hnew =>
      have hg : g ∈ before ++ g :: after := mem_append_right before mem_cons_self
      have hkept : before ++ after <+ before ++ g :: after :=
        (sublist_cons_self g after).append_left before
      rcases hchange g hg hid new hnew with rfl | ⟨g', rfl, hsame, hsurvive⟩
      · rw [append_nil]
        exact ⟨.of_sublist (hkept.map Group.id), fun h hh => .of_mem (hkept.mem hh)⟩
      · constructor
        case groupIds =>
          refine .of_sublist ?_
          simp [hsame]
        case descends =>
          intro h hh
          simp only [append_assoc, cons_append, nil_append, mem_append, mem_cons] at hh
          rcases hh with hbefore | rfl | hafter
          · exact .of_mem (mem_append_left _ hbefore)
          · exact .kept g hg hsame hsurvive
          · exact .of_mem (mem_append_right before (mem_cons_of_mem g hafter))

theorem nodesSurvive_append {groups : List MixedGroup} {g : MixedGroup} {id : Text}
    (hgroup : drawn g.id) (hid : drawn id) (hconditions : g.conditionIds = [id]) :
    NodesSurvive drawn groups (groups ++ [g]) where
  groupIds := by
    rw [map_append]
    exact .of_append hgroup
  descends := by
    intro h hh
    rcases mem_append.mp hh with hold | hadded
    · exact .of_mem hold
    · rw [mem_singleton.mp hadded]
      exact .added id hgroup hid hconditions

theorem ids_of_forall₂ {α β : Type} {idOf : α → Text} {idOf' : β → Text} {xs : List α}
    {ys : List β} (h : Forall₂ (fun x y => idOf' y = idOf x) xs ys) :
    ys.map idOf' = xs.map idOf := by
  induction h with
  | nil => rfl
  | cons hhead _ ih => rw [map_cons, map_cons, hhead, ih]

/-- The nodes survive a change of every group that keeps its id and those of its conditions. -/
theorem nodesSurvive_of_forall₂ {groups groups' : List MixedGroup}
    (h : Forall₂ (fun g g' => g'.id = g.id ∧ g'.conditionIds = g.conditionIds) groups groups') :
    NodesSurvive drawn groups groups' where
  groupIds := by
    rw [ids_of_forall₂ (h.imp fun _ _ hsame => hsame.left)]
    exact .of_sublist (Sublist.refl _)
  descends := by
    intro g' hg'
    rcases exists_of_mem_right h hg' with ⟨g, hg, hid, hconditions⟩
    refine .kept g hg hid ?_
    rw [hconditions]
    exact .of_sublist (Sublist.refl _)

end Surviving

/-!
# The frame of an edit
-/

def AltersCondition (condition : Text) (change : Condition → List Condition → Prop)
    (g : MixedGroup) (new : List MixedGroup) : Prop :=
  ∃ conditions, DiffersAt Condition.id condition change g.conditions conditions ∧
    new = [{ g with conditions }]

/-- What an edit that succeeds makes of groups with distinct ids. -/
def Edit.Frame (saved : List MixedGroup) (ids : IdSupply) :
    Edit → List MixedGroup → List MixedGroup → Prop
  | .addGroup withFlags, groups, groups' =>
      groups' = groups ++ [⟨ids.label (ids.drawn + 2), .all,
        [Condition.blank (ids.label (ids.drawn + 1)) withFlags], none⟩]
  | .removeGroup group, groups, groups' =>
      DiffersAt Group.id group (fun _ new => new = []) groups groups'
  | .setOperator group operator, groups, groups' =>
      ∃ o, named? LogicalOperator.options operator = some o ∧
        DiffersAt Group.id group (fun g new => new = [{ g with operator := o }]) groups groups'
  | .addCondition group withFlags, groups, groups' =>
      DiffersAt Group.id group
        (fun g new => new = [{ g with conditions := g.conditions ++
          [Condition.blank (ids.label (ids.drawn + 1)) withFlags] }])
        groups groups'
  | .removeCondition group condition, groups, groups' =>
      DiffersAt Group.id group (AltersCondition condition fun _ new => new = []) groups groups'
  | .updateCondition group condition field value, groups, groups' =>
      ∃ known, named? Condition.Field.options field = some known ∧
        DiffersAt Group.id group
          (AltersCondition condition fun c new => ∃ d, c.Revised known value d ∧ new = [d])
          groups groups'
  | .updateNotice group field value, groups, groups' =>
      ∃ known, named? Notice.Field.options field = some known ∧
        DiffersAt Group.id group
          (fun g new => ∃ n t, g.notice = some n ∧ Checked.cleanText value = .ok t ∧
            new = [{ g with notice := some (n.set known t) }])
          groups groups'
  | .save, groups, groups' => groups' = groups
  | .reconcile, groups, groups' =>
      Forall₂ (fun g g' => ∃ n, inheritedNotice (lastWithId g.id saved) = .ok n ∧
        g' = g.withNotice (some n)) groups groups'

section Edits

variable {groups result : List MixedGroup} {id : Text}

theorem differsAt_tryGroups {f : MixedGroup → Except Failure MixedGroup}
    (hdistinct : (groups.map Group.id).Nodup) (h : tryGroups id f groups = .ok result) :
    DiffersAt Group.id id (fun g new => ∃ g', f g = .ok g' ∧ new = [g']) groups result := by
  rw [(itemByItem_tryGroups id f).eq_rewriteAt] at h
  refine (differsAt_of_rewriteAt hdistinct h).mono ?_
  rintro g _ new ⟨rest, hmade⟩
  rcases map_eq_ok.mp hmade with ⟨g', hg', hnew⟩
  cases hnew
  exact ⟨g', hg', rfl⟩

theorem differsAt_tryConditions {f : Condition → Except Failure Condition}
    {conditions result : List Condition} (hdistinct : (conditions.map Condition.id).Nodup)
    (h : tryConditions id f conditions = .ok result) :
    DiffersAt Condition.id id (fun c new => ∃ d, f c = .ok d ∧ new = [d]) conditions result := by
  rw [(itemByItem_tryConditions id f).eq_rewriteAt] at h
  refine (differsAt_of_rewriteAt hdistinct h).mono ?_
  rintro c _ new ⟨rest, hmade⟩
  rcases map_eq_ok.mp hmade with ⟨d, hd, hnew⟩
  cases hnew
  exact ⟨d, hd, rfl⟩

theorem differsAt_filter {α : Type} {idOf : α → Text} {xs : List α}
    (hdistinct : (xs.map idOf).Nodup) :
    DiffersAt idOf id (fun _ new => new = []) xs (xs.filter fun x => ¬ idOf x = id) := by
  refine (differsAt_of_rewriteAt hdistinct (filter_eq_rewriteAt idOf id xs).symm).mono ?_
  rintro x _ new ⟨rest, hmade⟩
  cases hmade
  rfl

theorem differsAt_setOperatorNamed {operator : Value} (hdistinct : (groups.map Group.id).Nodup)
    (h : setOperatorNamed id operator groups = .ok result) :
    ∃ o, named? LogicalOperator.options operator = some o ∧
      DiffersAt Group.id id (fun g new => new = [{ g with operator := o }]) groups result := by
  unfold setOperatorNamed at h
  cases hnamed : named? LogicalOperator.options operator with
  | none =>
      rw [hnamed] at h
      cases h
  | some o =>
      rw [hnamed] at h
      have htried := (setOperator_eq_tryGroups id o groups).symm.trans h
      refine ⟨o, rfl, (differsAt_tryGroups hdistinct htried).mono ?_⟩
      rintro g _ new ⟨g', hg', rfl⟩
      cases hg'
      rfl

theorem differsAt_addCondition {withFlags : Bool} {ids : IdSupply}
    (hdistinct : (groups.map Group.id).Nodup) :
    DiffersAt Group.id id
      (fun g new => new = [{ g with conditions := g.conditions ++
        [Condition.blank (ids.label (ids.drawn + 1)) withFlags] }])
      groups (addCondition id withFlags groups ids).1 := by
  refine (differsAt_of_rewriteAt hdistinct
    (addCondition_eq_rewriteAt id withFlags ids groups).symm).mono ?_
  rintro g _ new ⟨rest, hmade⟩
  cases hmade
  rfl

theorem differsAt_removeCondition {condition : Text} (hdistinct : DistinctNodes groups)
    (h : removeCondition id condition groups = .ok result) :
    DiffersAt Group.id id (AltersCondition condition fun _ new => new = []) groups result := by
  refine (differsAt_tryGroups hdistinct.groupIds h).mono ?_
  rintro g hg new ⟨g', hg', rfl⟩
  refine ⟨_, differsAt_filter (hdistinct.conditionIds g hg), ?_⟩
  rw [dropCondition_eq_ok hg']

theorem differsAt_updateConditionNamed {condition : Text} {field v : Value}
    (hdistinct : DistinctNodes groups)
    (h : updateConditionNamed id condition field v groups = .ok result) :
    ∃ known, named? Condition.Field.options field = some known ∧
      DiffersAt Group.id id
        (AltersCondition condition fun c new => ∃ d, c.Revised known v d ∧ new = [d])
        groups result := by
  unfold updateConditionNamed at h
  cases hnamed : named? Condition.Field.options field with
  | none =>
      rw [hnamed] at h
      cases h
  | some known =>
      rw [hnamed] at h
      refine ⟨known, rfl, (differsAt_tryGroups hdistinct.groupIds h).mono ?_⟩
      rintro g hg new ⟨g', hg', rfl⟩
      rcases changeConditions_eq_ok.mp hg' with ⟨conditions, hconditions, rfl⟩
      refine ⟨conditions, ?_, rfl⟩
      refine (differsAt_tryConditions (hdistinct.conditionIds g hg) hconditions).mono ?_
      rintro c _ new ⟨d, hd, rfl⟩
      exact ⟨d, Condition.revised_of_withField (replaceField_eq_ok.mp hd), rfl⟩

theorem differsAt_updateNoticeNamed {field v : Value} (hdistinct : (groups.map Group.id).Nodup)
    (h : updateNoticeNamed id field v groups = .ok result) :
    ∃ known, named? Notice.Field.options field = some known ∧
      DiffersAt Group.id id
        (fun g new => ∃ n t, g.notice = some n ∧ Checked.cleanText v = .ok t ∧
          new = [{ g with notice := some (n.set known t) }])
        groups result := by
  unfold updateNoticeNamed at h
  cases hnamed : named? Notice.Field.options field with
  | none =>
      rw [hnamed] at h
      cases h
  | some known =>
      rw [hnamed] at h
      refine ⟨known, rfl, (differsAt_tryGroups hdistinct h).mono ?_⟩
      rintro g hg new ⟨g', hg', rfl⟩
      rcases replaceNotice_eq_ok hg' with ⟨n, t, hn, ht, rfl⟩
      exact ⟨n, t, hn, ht, rfl⟩

end Edits

/-!
# One step
-/

section Steps

variable {s s' : Session} {e : Edit}

theorem frame_perform (hdistinct : DistinctNodes s.groups) (h : s.perform e = .ok s') :
    e.Frame s.saved s.ids s.groups s'.groups := by
  cases e with
  | addGroup withFlags =>
      cases h
      rfl
  | removeGroup group =>
      cases h
      exact differsAt_filter hdistinct.groupIds
  | setOperator group operator =>
      exact differsAt_setOperatorNamed hdistinct.groupIds (withGroups_eq_ok h)
  | addCondition group withFlags =>
      cases h
      exact differsAt_addCondition hdistinct.groupIds
  | removeCondition group condition =>
      exact differsAt_removeCondition hdistinct (withGroups_eq_ok h)
  | updateCondition group condition field value =>
      exact differsAt_updateConditionNamed hdistinct (withGroups_eq_ok h)
  | updateNotice group field value =>
      exact differsAt_updateNoticeNamed hdistinct.groupIds (withGroups_eq_ok h)
  | save =>
      cases h
      rfl
  | reconcile =>
      rcases map_eq_ok.mp (withGroups_eq_ok h) with ⟨merged, hmerged, hmixed⟩
      rw [← hmixed]
      refine forall₂_map_right_iff.mpr ((reconcile_eq_ok hmerged).imp ?_)
      rintro g g' ⟨n, hn, rfl⟩
      exact ⟨n, hn, rfl⟩

theorem survive_altersCondition {condition : Text} {drawn : Text → Prop}
    {change : Condition → List Condition → Prop} {g : MixedGroup} {new : List MixedGroup}
    (hchange : ∀ c new, change c new → new.map Condition.id <+ [c.id])
    (h : AltersCondition condition change g new) :
    ∃ g', new = [g'] ∧ g'.id = g.id ∧ IdsSurvive drawn g.conditionIds g'.conditionIds := by
  rcases h with ⟨conditions, hdiffers, rfl⟩
  exact ⟨_, rfl, rfl, .of_sublist (hdiffers.ids_sublist hchange)⟩

/-- A step that succeeds keeps ids and their order, and adds none but drawn ones. -/
theorem nodesSurvive_perform (hdistinct : DistinctNodes s.groups) (h : s.perform e = .ok s') :
    NodesSurvive (DrawnBetween s.ids s'.ids) s.groups s'.groups := by
  have hframe := frame_perform hdistinct h
  cases e with
  | addGroup withFlags =>
      cases h
      -- The id of the condition is drawn first, that of the group second.
      have hfirst : DrawnBetween s.ids s.ids.draw.2.draw.2 (s.ids.label (s.ids.drawn + 1)) :=
        ⟨_, Nat.lt_succ_self _, Nat.le_succ _, rfl⟩
      have hsecond : DrawnBetween s.ids s.ids.draw.2.draw.2 (s.ids.label (s.ids.drawn + 2)) :=
        ⟨_, Nat.lt_succ_of_lt (Nat.lt_succ_self _), Nat.le_refl _, rfl⟩
      rw [hframe]
      exact nodesSurvive_append hsecond hfirst rfl
  | removeGroup group =>
      exact nodesSurvive_of_differsAt hframe fun _ _ _ new hnew => Or.inl hnew
  | setOperator group operator =>
      rcases hframe with ⟨o, _, hdiffers⟩
      refine nodesSurvive_of_differsAt hdiffers fun g _ _ new hnew => Or.inr ?_
      exact ⟨_, hnew, rfl, .of_sublist (Sublist.refl _)⟩
  | addCondition group withFlags =>
      cases h
      refine nodesSurvive_of_differsAt hframe fun g hg hid new hnew => Or.inr ⟨_, hnew, rfl, ?_⟩
      rw [Group.conditionIds, Group.conditionIds, map_append]
      exact .of_append ⟨_, Nat.lt_succ_self _, drawn_lt_addCondition hg hid, rfl⟩
  | removeCondition group condition =>
      refine nodesSurvive_of_differsAt hframe fun g _ _ new hnew => Or.inr ?_
      refine survive_altersCondition (fun c none hnone => ?_) hnew
      rw [hnone]
      exact nil_sublist _
  | updateCondition group condition field value =>
      rcases hframe with ⟨known, _, hdiffers⟩
      refine nodesSurvive_of_differsAt hdiffers fun g _ _ new hnew => Or.inr ?_
      refine survive_altersCondition ?_ hnew
      rintro c new ⟨d, hd, rfl⟩
      rw [map_singleton, id_of_withField hd.read]
  | updateNotice group field value =>
      rcases hframe with ⟨known, _, hdiffers⟩
      refine nodesSurvive_of_differsAt hdiffers ?_
      rintro g _ _ new ⟨n, t, _, _, hnew⟩
      exact Or.inr ⟨_, hnew, rfl, .of_sublist (Sublist.refl _)⟩
  | save =>
      rw [show s'.groups = s.groups from hframe]
      exact .refl s.groups
  | reconcile =>
      refine nodesSurvive_of_forall₂ (hframe.imp ?_)
      rintro g g' ⟨n, _, rfl⟩
      exact ⟨rfl, rfl⟩

/-!
# Steps and runs
-/

/-- What a step does to groups with distinct ids: it fails and leaves them, or it frames. -/
structure Session.Keeps (s : Session) (t : Turn) : Prop where
  distinct : DistinctNodes (s.turn t).groups
  survive : NodesSurvive (DrawnBetween t.ids (s.turn t).ids) s.groups (s.turn t).groups
  frame : (∃ e, s.attempt t = .error e ∧ (s.turn t).groups = s.groups) ∨
    t.edit.Frame t.saved t.ids s.groups (s.turn t).groups

theorem keeps_turn {t : Turn} (hdistinct : DistinctNodes s.groups) (hnew : s.DrawsNew t) :
    s.Keeps t := by
  have hall : NodesSurvive (DrawnBetween t.ids (s.turn t).ids) s.groups (s.turn t).groups ∧
      ((∃ e, s.attempt t = .error e ∧ (s.turn t).groups = s.groups) ∨
        t.edit.Frame t.saved t.ids s.groups (s.turn t).groups) := by
    rw [Session.turn, Session.step]
    cases hattempt : s.attempt t with
    | error e =>
        rw [Session.attempt] at hattempt
        rw [hattempt]
        exact ⟨.refl s.groups, Or.inl ⟨e, rfl, rfl⟩⟩
    | ok s' =>
        rw [Session.attempt] at hattempt
        rw [hattempt]
        let found : Session := { s with saved := t.saved, ids := t.ids }
        exact ⟨nodesSurvive_perform (s := found) hdistinct hattempt,
          Or.inr (frame_perform (s := found) hdistinct hattempt)⟩
  exact ⟨hall.left.distinct hdistinct hnew, hall.left, hall.right⟩

/-- Whatever its steps are, a run whose drawn ids are new alters one node at a time. -/
theorem run_alters_one_node (s : Session) (hdistinct : DistinctNodes s.groups)
    (turns : List Turn)
    (hnew : ∀ past t, past ++ [t] <+: turns → (s.play past).DrawsNew t) :
    DistinctNodes (s.play turns).groups ∧
      ∀ past t, past ++ [t] <+: turns → (s.play past).Keeps t := by
  induction turns using List.reverseRecOn with
  | nil => exact ⟨hdistinct, forall_steps_nil⟩
  | append_singleton earlier last ih =>
      have hbefore := ih fun past t hpast =>
        hnew past t (hpast.trans (prefix_append earlier [last]))
      have hlast := keeps_turn hbefore.left (hnew earlier last (prefix_refl _))
      constructor
      case left =>
        rw [play_append]
        exact hlast.distinct
      case right =>
        intro past t hpast
        rcases prefix_concat_iff.mp hpast with hsame | hwithin
        · rcases append_inj' hsame rfl with ⟨rfl, hturn⟩
          cases hturn
          exact hlast
        · exact hbefore.right past t hwithin

end Steps

/-- A revised condition, an added group and a dropped condition. -/
def revisingTurns : List Turn :=
  [⟨[], .numbered "k", .updateCondition "g" "c" (.text "key") (.text "age")⟩,
    ⟨[], .numbered "m", .addGroup true⟩, ⟨[], .numbered "n", .removeCondition "g" "d"⟩]

theorem drawsNew_revisingTurns (past : List Turn) (t : Turn)
    (h : past ++ [t] <+: revisingTurns) :
    ((Session.start [noticed.mixed] (.numbered [])).play past).DrawsNew t := by
  revert past t
  refine forall_steps_cons ?revised (forall_steps_cons ?added (forall_steps_cons ?dropped
    forall_steps_nil))
  case revised => exact drawsNew_of_head (fun _ => rfl) (by decide)
  case added => exact drawsNew_of_head (fun _ => rfl) (by decide)
  case dropped => exact drawsNew_of_head (fun _ => rfl) (by decide)

theorem run_alters_one_node_revising :
    let s := Session.start [noticed.mixed] (.numbered [])
    DistinctNodes (s.play revisingTurns).groups ∧
      ∀ past t, past ++ [t] <+: revisingTurns → (s.play past).Keeps t :=
  run_alters_one_node (Session.start [noticed.mixed] (.numbered [])) ⟨by decide, by decide⟩
    revisingTurns drawsNew_revisingTurns

end Editor
end RuleDraft
