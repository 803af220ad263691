import RuleDraft.Proofs.Editor.FieldUpdates

/-!
# Additions and removals

What is added stands at the end, under an id that nothing else has.  Edits that are aimed at
this id pass over all that was there before, and they keep the id, so at any time the new node
is still the only one that a removal by its id takes away.  A group was not empty before a
condition was added to it, so the new condition is never the last one.
-/

namespace RuleDraft

def Group.grow {ν : Type} (g : Group ν) (c : Condition) : Group ν :=
  { g with conditions := g.conditions ++ [c] }

namespace Editor

open List

/-!
# New items at the end
-/

section Items

variable {α : Type} {idOf : α → Text} {a : Text} {xs ys : List α}

theorem ActsAt.orSame_append {A : List α → Except Failure (List α)} (hA : ActsAt idOf a A)
    (hxs : ∀ x ∈ xs, idOf x ≠ a) : orSame A (xs ++ ys) = xs ++ orSame A ys := by
  rw [orSame, orSame, hA.append hxs]
  cases A ys <;> rfl

theorem ActsAt.id_of_mem_orSame {A : List α → Except Failure (List α)} (hA : ActsAt idOf a A)
    (hys : ∀ y ∈ ys, idOf y = a) : ∀ y ∈ orSame A ys, idOf y = a := by
  cases hmade : A ys with
  | ok zs =>
      rw [orSame_of_ok hmade]
      exact hA.id_of_mem hys hmade
  | error e =>
      rw [orSame_of_error hmade]
      exact hys

/-- Removing by an id leaves the items in front, where all others have it. -/
theorem filter_append_of_ids (hxs : ∀ x ∈ xs, idOf x ≠ a) (hys : ∀ y ∈ ys, idOf y = a) :
    ((xs ++ ys).filter fun x => ¬ idOf x = a) = xs := by
  have hkept : (xs.filter fun x => ¬ idOf x = a) = xs :=
    filter_eq_self.mpr fun x hx => by simpa using hxs x hx
  have hdropped : (ys.filter fun x => ¬ idOf x = a) = [] :=
    filter_eq_nil_iff.mpr fun y hy => by simpa using hys y hy
  rw [filter_append, hkept, hdropped, append_nil]

/-- An id that is counted once is that of one item, and of none before or after it. -/
theorem exists_only_of_count (h : (xs.map idOf).count a = 1) :
    ∃ before x after, xs = before ++ x :: after ∧ idOf x = a ∧
      (∀ y ∈ before, idOf y ≠ a) ∧ ∀ y ∈ after, idOf y ≠ a := by
  have hmem : a ∈ xs.map idOf := count_pos_iff.mp (by omega)
  rcases mem_map.mp hmem with ⟨x, hx, hid⟩
  rcases append_of_mem hx with ⟨before, after, rfl⟩
  rw [map_append, map_cons, count_append, hid, count_cons_self] at h
  have hbefore : a ∉ before.map idOf := count_eq_zero.mp (by omega)
  have hafter : a ∉ after.map idOf := count_eq_zero.mp (by omega)
  exact ⟨before, x, after, rfl, hid, fun y hy hya => hbefore (mem_map.mpr ⟨y, hy, hya⟩),
    fun y hy hya => hafter (mem_map.mpr ⟨y, hy, hya⟩)⟩

end Items

/-!
# Groups
-/

section Groups

variable {s : Session} {new : Text} {xs : List MixedGroup}

/-- Edits aimed at the groups at the end leave those in front alone. -/
theorem groups_play_of_targets {later : List Turn} {hs : List MixedGroup}
    (hgroups : s.groups = xs ++ hs) (hxs : ∀ g ∈ xs, g.id ≠ new) (hhs : ∀ h ∈ hs, h.id = new)
    (hlater : ∀ u ∈ later, u.edit.target? = some new) :
    ∃ hs', (s.play later).groups = xs ++ hs' ∧ ∀ h ∈ hs', h.id = new := by
  induction later generalizing s hs with
  | nil => exact ⟨hs, hgroups, hhs⟩
  | cons u later ih =>
      rcases forall_mem_cons.mp hlater with ⟨hu, hrest⟩
      have hacts := actsAt_apply hu u.ids
      have hturn : (s.turn u).groups = xs ++ orSame (u.edit.apply u.ids) hs := by
        rw [groups_turn_eq_orSame hu, hgroups, hacts.orSame_append hxs]
      exact ih hturn (hacts.id_of_mem_orSame hhs) hrest

theorem groups_turn_addGroup (s : Session) {t : Turn} {withFlags : Bool}
    (ht : t.edit = .addGroup withFlags) :
    (s.turn t).groups = s.groups ++
      [⟨t.ids.draw.2.draw.1, .all, [Condition.blank t.ids.draw.1 withFlags], none⟩] := by
  cases t with
  | mk saved ids edit =>
      cases ht
      rfl

theorem attempt_removeGroup {hs : List MixedGroup} {last : Turn}
    (hlast : last.edit = .removeGroup new) (hgroups : s.groups = xs ++ hs)
    (hxs : ∀ g ∈ xs, g.id ≠ new) (hhs : ∀ h ∈ hs, h.id = new) :
    (s.attempt last).map Session.groups = .ok xs := by
  have htarget : last.edit.target? = some new := by
    rw [hlast]
    rfl
  rw [groups_attempt htarget, hlast, hgroups]
  exact congrArg Except.ok (filter_append_of_ids hxs hhs)

end Groups

/-!
# Conditions
-/

section Conditions

variable {s : Session} {group new : Text} {before after : List MixedGroup} {g : MixedGroup}
  {c : Condition}

theorem addCondition_once {withFlags : Bool} {ids : IdSupply}
    (hbefore : ∀ h ∈ before, h.id ≠ group) (hg : g.id = group)
    (hafter : ∀ h ∈ after, h.id ≠ group) :
    (addCondition group withFlags (before ++ g :: after) ids).1 =
      before ++ g.grow (Condition.blank ids.draw.1 withFlags) :: after := by
  have hrest : rewriteAt Group.id group (growing withFlags) ids.draw.2 (after ++ []) =
      .ok (after ++ []) :=
    rewriteAt_append_of_miss hafter
  rw [append_nil] at hrest
  have hhit : rewriteAt Group.id group (growing withFlags) ids (g :: after) =
      .ok (g.grow (Condition.blank ids.draw.1 withFlags) :: after) :=
    (rewriteAt_hit_eq_ok hg).mpr ⟨_, after, rfl, hrest, rfl⟩
  have hrewritten := addCondition_eq_rewriteAt group withFlags ids (before ++ g :: after)
  rw [rewriteAt_append_of_miss hbefore, hhit] at hrewritten
  exact Except.ok.inj hrewritten

theorem changeConditions_grow {f : Condition → Except Failure Condition}
    (hnew : new ∉ g.conditionIds) (hc : c.id = new) :
    changeConditions new f (g.grow c) = (f c).map fun d => g.grow d := by
  have hothers : ∀ d ∈ g.conditions, d.id ≠ new := fun d hd hid =>
    hnew (mem_map.mpr ⟨d, hd, hid⟩)
  have honce : tryConditions new f (g.conditions ++ [c]) =
      (f c).map fun d => g.conditions ++ [d] :=
    (itemByItem_tryConditions new f).once hothers hc (forall_mem_nil _)
  rw [changeConditions, Group.grow, honce]
  cases f c <;> rfl

/-- An update of the new condition makes it a condition with the same id, or fails. -/
theorem orSame_updateConditionNamed (hbefore : ∀ h ∈ before, h.id ≠ group) (hg : g.id = group)
    (hafter : ∀ h ∈ after, h.id ≠ group) (hnew : new ∉ g.conditionIds) (hc : c.id = new)
    (field v : Value) :
    ∃ d : Condition, d.id = new ∧
      orSame (updateConditionNamed group new field v) (before ++ g.grow c :: after) =
        before ++ g.grow d :: after := by
  rcases updateConditionNamed_cases (ν := Option Notice) group new field v with
    ⟨e, he⟩ | ⟨known, htry⟩
  · exact ⟨c, hc, orSame_of_error (he _)⟩
  · have hitems := itemByItem_tryGroups (ν := Option Notice) group
      (changeConditions new (replaceField group new known v))
    have honce := hitems.once hbefore (show (g.grow c).id = group from hg) hafter
    rw [changeConditions_grow hnew hc] at honce
    rw [htry]
    cases hreplaced : replaceField group new known v c with
    | error e =>
        rw [hreplaced] at honce
        exact ⟨c, hc, orSame_of_error honce⟩
    | ok d =>
        rw [hreplaced] at honce
        exact ⟨d, (id_of_replaceField hreplaced).trans hc, orSame_of_ok honce⟩

theorem groups_play_of_updates {later : List Turn}
    (hgroups : s.groups = before ++ g.grow c :: after)
    (hbefore : ∀ h ∈ before, h.id ≠ group) (hg : g.id = group)
    (hafter : ∀ h ∈ after, h.id ≠ group) (hnew : new ∉ g.conditionIds) (hc : c.id = new)
    (hlater : ∀ u ∈ later, ∃ field v, u.edit = .updateCondition group new field v) :
    ∃ d : Condition, d.id = new ∧ (s.play later).groups = before ++ g.grow d :: after := by
  induction later generalizing s c with
  | nil => exact ⟨c, hc, hgroups⟩
  | cons u later ih =>
      rcases forall_mem_cons.mp hlater with ⟨⟨field, v, hu⟩, hrest⟩
      have htarget : u.edit.target? = some group := by
        rw [hu]
        rfl
      rcases orSame_updateConditionNamed hbefore hg hafter hnew hc field v with ⟨d, hd, hmade⟩
      have hturn : (s.turn u).groups = before ++ g.grow d :: after := by
        rw [groups_turn_eq_orSame htarget, hu, apply_updateCondition, hgroups, hmade]
      exact ih hturn hd hrest

/-- A condition that was added to others can be dropped. -/
theorem dropCondition_grow (hfilled : g.conditions ≠ []) (hnew : new ∉ g.conditionIds)
    (hc : c.id = new) : dropCondition group new (g.grow c) = .ok g := by
  have hdropped : ∃ h, dropCondition group new (g.grow c) = .ok h := by
    refine dropCondition_isOk_iff.mpr fun d hd => ?_
    have hlength := congrArg length hd
    rw [Group.grow, length_append, length_singleton, length_singleton] at hlength
    exact absurd (length_eq_zero_iff.mp (by omega)) hfilled
  rcases hdropped with ⟨h, hh⟩
  have hothers : ∀ d ∈ g.conditions, d.id ≠ new := fun d hd hid =>
    hnew (mem_map.mpr ⟨d, hd, hid⟩)
  have hkept : ((g.conditions ++ [c]).filter fun d => ¬ d.id = new) = g.conditions :=
    filter_append_of_ids hothers (forall_mem_singleton.mpr hc)
  rw [hh, dropCondition_eq_ok hh, Group.grow, hkept]

theorem attempt_removeCondition {last : Turn} (hlast : last.edit = .removeCondition group new)
    (hgroups : s.groups = before ++ g.grow c :: after) (hbefore : ∀ h ∈ before, h.id ≠ group)
    (hg : g.id = group) (hafter : ∀ h ∈ after, h.id ≠ group) (hfilled : g.conditions ≠ [])
    (hnew : new ∉ g.conditionIds) (hc : c.id = new) :
    (s.attempt last).map Session.groups = .ok (before ++ g :: after) := by
  have htarget : last.edit.target? = some group := by
    rw [hlast]
    rfl
  have happly : (Edit.removeCondition group new).apply last.ids = removeCondition group new :=
    funext fun groups => groups_withGroups ⟨groups, [], last.ids⟩ _
  have honce := (itemByItem_tryGroups group (dropCondition group new)).once hbefore
    (show (g.grow c).id = group from hg) hafter
  rw [dropCondition_grow hfilled hnew hc] at honce
  rw [groups_attempt htarget, hlast, happly, hgroups]
  exact honce

end Conditions

/-!
# Rows
-/

section Rows

variable {rows : List Row} {new : Text} {r : Row}

theorem turnRows_update {u : RowTurn} {field v : Value} (hu : u.edit = .update new field v)
    (hrows : ∀ r ∈ rows, r.id ≠ new) (hr : r.id = new) :
    ∃ r' : Row, r'.id = new ∧ turnRows (rows ++ [r]) u = rows ++ [r'] := by
  rw [turnRows, performRows, hu]
  dsimp only
  rw [updateRowNamed]
  rcases named?_rowField_cases field with ⟨hnamed, _⟩ | ⟨f, hnamed, _⟩
  · rw [hnamed]
    exact ⟨r, hr, rfl⟩
  · rw [hnamed]
    have honce := (itemByItem_updateRow new f v).once hrows hr (forall_mem_nil _)
    dsimp only
    rw [honce]
    cases hreplaced : replaceRowField new f v r with
    | error e => exact ⟨r, hr, rfl⟩
    | ok r' => exact ⟨r', (id_of_replaceRowField hreplaced).trans hr, rfl⟩

theorem playRows_of_updates {later : List RowTurn} (hrows : ∀ r ∈ rows, r.id ≠ new)
    (hr : r.id = new) (hlater : ∀ u ∈ later, ∃ field v, u.edit = .update new field v) :
    ∃ r' : Row, r'.id = new ∧ playRows (rows ++ [r]) later = rows ++ [r'] := by
  induction later generalizing r with
  | nil => exact ⟨r, hr, rfl⟩
  | cons u later ih =>
      rcases forall_mem_cons.mp hlater with ⟨⟨field, v, hu⟩, hrest⟩
      rcases turnRows_update hu hrows hr with ⟨r', hr', hturn⟩
      rcases ih hr' hrest with ⟨r'', hr'', hplayed⟩
      refine ⟨r'', hr'', ?_⟩
      rw [← hplayed, ← hturn]
      rfl

end Rows

/-!
# What was added is removed
-/

/-- A group that was added, and edited in whatever way, is removed by its id. -/
theorem addGroup_undone (s : Session) {t last : Turn} {later : List Turn} {withFlags : Bool}
    {new : Text} (hid : new = t.ids.draw.2.draw.1) (ht : t.edit = .addGroup withFlags)
    (hnew : ∀ g ∈ s.groups, g.id ≠ new) (hlater : ∀ u ∈ later, u.edit.target? = some new)
    (hlast : last.edit = .removeGroup new) :
    (s.turn t).groups =
        s.groups ++ [⟨new, .all, [Condition.blank t.ids.draw.1 withFlags], none⟩] ∧
      (∃ hs, ((s.turn t).play later).groups = s.groups ++ hs ∧ ∀ h ∈ hs, h.id = new) ∧
      (((s.turn t).play later).attempt last).map Session.groups = .ok s.groups := by
  have hadded := groups_turn_addGroup s ht
  rw [← hid] at hadded
  rcases groups_play_of_targets hadded hnew (forall_mem_singleton.mpr rfl) hlater with
    ⟨hs, hplayed, hhs⟩
  exact ⟨hadded, ⟨hs, hplayed, hhs⟩, attempt_removeGroup hlast hplayed hnew hhs⟩

/-- A condition that was added to a group, and updated in whatever way, is removed by its id. -/
theorem addCondition_undone {s : Session} {t last : Turn} {later : List Turn} {group new : Text}
    {withFlags : Bool} (hid : new = t.ids.draw.1) (ht : t.edit = .addCondition group withFlags)
    (honly : (s.groups.map Group.id).count group = 1)
    (hnew : ∀ g ∈ s.groups, g.id = group → g.conditions ≠ [] ∧ new ∉ g.conditionIds)
    (hlater : ∀ u ∈ later, ∃ field v, u.edit = .updateCondition group new field v)
    (hlast : last.edit = .removeCondition group new) :
    (∃ before g after, s.groups = before ++ g :: after ∧ g.id = group ∧
        (s.turn t).groups = before ++ g.grow (Condition.blank new withFlags) :: after ∧
        ∃ c : Condition, c.id = new ∧
          ((s.turn t).play later).groups = before ++ g.grow c :: after) ∧
      (((s.turn t).play later).attempt last).map Session.groups = .ok s.groups := by
  rcases exists_only_of_count honly with ⟨before, g, after, hgroups, hg, hbefore, hafter⟩
  rcases hnew g (by rw [hgroups]; exact mem_append_right before mem_cons_self) hg with
    ⟨hfilled, hfresh⟩
  have hadded : (s.turn t).groups = before ++ g.grow (Condition.blank new withFlags) :: after := by
    have htarget : t.edit.target? = some group := by
      rw [ht]
      rfl
    have happly : t.edit.apply t.ids s.groups =
        .ok (addCondition group withFlags s.groups t.ids).1 := by
      rw [ht]
      rfl
    rw [groups_turn_eq_orSame htarget, orSame_of_ok happly, hgroups, hid]
    exact addCondition_once hbefore hg hafter
  rcases groups_play_of_updates hadded hbefore hg hafter hfresh rfl hlater with ⟨c, hc, hplayed⟩
  refine ⟨⟨before, g, after, hgroups, hg, hadded, c, hc, hplayed⟩, ?_⟩
  rw [attempt_removeCondition hlast hplayed hbefore hg hafter hfilled hfresh hc, hgroups]

/-- A row that was added, and updated in whatever way, is removed by its id. -/
theorem addRow_undone {rows : List Row} {ids : IdSupply} {later : List RowTurn} {new : Text}
    (hid : new = ids.draw.1) (hnew : ∀ r ∈ rows, r.id ≠ new)
    (hlater : ∀ u ∈ later, ∃ field v, u.edit = .update new field v) :
    (addRow rows ids).1 = rows ++ [⟨new, [], []⟩] ∧
      (∃ r : Row, r.id = new ∧ playRows (addRow rows ids).1 later = rows ++ [r]) ∧
      removeRow new (playRows (addRow rows ids).1 later) = rows := by
  have hadded : (addRow rows ids).1 = rows ++ [⟨new, [], []⟩] := by
    rw [hid]
    rfl
  rw [hadded]
  rcases playRows_of_updates (r := ⟨new, [], []⟩) hnew rfl hlater with ⟨r, hr, hplayed⟩
  refine ⟨rfl, ⟨r, hr, hplayed⟩, ?_⟩
  rw [hplayed]
  exact filter_append_of_ids hnew (forall_mem_singleton.mpr hr)

/--
Removing undoes adding.  If the id that is drawn is new, whatever is done to the new group, to
the new condition of the only group with an id, or to the new row, and whether it succeeds or
not, leaves all other nodes alone, and the removal by this id succeeds and gives what was there
before.
-/
theorem removals_undo_additions :
    (∀ (s : Session) (t last : Turn) (later : List Turn) (withFlags : Bool),
      let new := t.ids.draw.2.draw.1
      t.edit = .addGroup withFlags → (∀ g ∈ s.groups, g.id ≠ new) →
        (∀ u ∈ later, u.edit.target? = some new) → last.edit = .removeGroup new →
          (s.turn t).groups =
              s.groups ++ [⟨new, .all, [Condition.blank t.ids.draw.1 withFlags], none⟩] ∧
            (∃ hs, ((s.turn t).play later).groups = s.groups ++ hs ∧ ∀ h ∈ hs, h.id = new) ∧
            (((s.turn t).play later).attempt last).map Session.groups = .ok s.groups) ∧
      (∀ (s : Session) (t last : Turn) (later : List Turn) (group : Text) (withFlags : Bool),
        let new := t.ids.draw.1
        t.edit = .addCondition group withFlags → (s.groups.map Group.id).count group = 1 →
          (∀ g ∈ s.groups, g.id = group → g.conditions ≠ [] ∧ new ∉ g.conditionIds) →
          (∀ u ∈ later, ∃ field v, u.edit = .updateCondition group new field v) →
          last.edit = .removeCondition group new →
            (∃ before g after, s.groups = before ++ g :: after ∧ g.id = group ∧
                (s.turn t).groups = before ++ g.grow (Condition.blank new withFlags) :: after ∧
                ∃ c : Condition, c.id = new ∧
                  ((s.turn t).play later).groups = before ++ g.grow c :: after) ∧
              (((s.turn t).play later).attempt last).map Session.groups = .ok s.groups) ∧
      ∀ (rows : List Row) (ids : IdSupply) (later : List RowTurn),
        let new := ids.draw.1
        (∀ r ∈ rows, r.id ≠ new) → (∀ u ∈ later, ∃ field v, u.edit = .update new field v) →
          (addRow rows ids).1 = rows ++ [⟨new, [], []⟩] ∧
            (∃ r : Row, r.id = new ∧ playRows (addRow rows ids).1 later = rows ++ [r]) ∧
            removeRow new (playRows (addRow rows ids).1 later) = rows := by
  refine ⟨?group, ?condition, ?row⟩
  case group =>
    intro s t last later withFlags new ht hnew hlater hlast
    exact addGroup_undone s rfl ht hnew hlater hlast
  case condition =>
    intro s t last later group withFlags new ht honly hnew hlater hlast
    exact addCondition_undone rfl ht honly hnew hlater hlast
  case row =>
    intro rows ids later new hnew hlater
    exact addRow_undone rfl hnew hlater

/-- Two groups share an id; the added nodes are updated, with one value that is refused. -/
theorem removals_undo_additions_repeated :
    let ids : IdSupply := .numbered "n"
    let new := ids.draw.1
    let newGroup := ids.draw.2.draw.1
    let s : Session := ⟨repeated, [], .numbered []⟩
    let turn (edit : Edit) : Turn := ⟨[], ids, edit⟩
    let grown := (s.turn (turn (.addGroup true))).play
      [turn (.setOperator newGroup (.text "OR")), turn (.setOperator newGroup .null)]
    let longer := (s.turn (turn (.addCondition "h" true))).play
      [turn (.updateCondition "h" new (.text "negate") (.text "YES")),
        turn (.updateCondition "h" new (.text "type") (.text "odd"))]
    let rows := playRows (addRow sharingRows ids).1
      [⟨ids, .update new (.text "key") (.text "k")⟩]
    (grown.attempt (turn (.removeGroup newGroup))).map Session.groups = .ok repeated ∧
      (longer.attempt (turn (.removeCondition "h" new))).map Session.groups = .ok repeated ∧
      removeRow new rows = sharingRows := by
  intro ids new newGroup s turn grown longer rows
  rcases removals_undo_additions with ⟨hgroup, hcondition, hrow⟩
  refine ⟨?group, ?condition, ?row⟩
  case group =>
    refine (hgroup s (turn (.addGroup true)) (turn (.removeGroup newGroup)) _ true rfl ?_ ?_
      rfl).right.right
    · decide
    · simp only [forall_mem_cons]
      exact ⟨rfl, rfl, forall_mem_nil _⟩
  case condition =>
    refine (hcondition s (turn (.addCondition "h" true)) (turn (.removeCondition "h" new)) _ "h"
      true rfl ?_ ?_ ?_ rfl).right
    · decide
    · decide
    · simp only [forall_mem_cons]
      exact ⟨⟨_, _, rfl⟩, ⟨_, _, rfl⟩, forall_mem_nil _⟩
  case row =>
    refine (hrow sharingRows ids _ ?_ ?_).right.right
    · decide
    · exact forall_mem_singleton.mpr ⟨_, _, rfl⟩

end Editor
end RuleDraft
