import RuleDraft.Proofs.Editor.Grounds
import RuleDraft.Proofs.Editor.UpdateLaws

/-!
# Updates of conditions, rows and notices

An update reads a whole node again, with one value in the place of another.  Still it is
nothing but reading the value and putting it into the one field, so the updates of
conditions, of rows and of the notices of groups obey the laws of updates, whatever ids are
repeated.  Only that the value which is there already may be put in again takes data that
models have read: a text with a surrogate could not be read again.
-/

namespace RuleDraft
namespace Editor

open List

/-- All conditions that the update is aimed at hold the data in the field. -/
def ConditionsHold (group condition : Text) (f : Condition.Field) (v : Value)
    (groups : List MixedGroup) : Prop :=
  ∀ g ∈ groups, g.id = group → ∀ c ∈ g.conditions, c.id = condition →
    c.toValue.field? (Text.ofString f.name) = some v

def RowsHold (row : Text) (f : Row.Field) (v : Value) (rows : List Row) : Prop :=
  ∀ r ∈ rows, r.id = row → r.toValue.field? (Text.ofString f.name) = some v

/-- All groups that the update is aimed at have conditions and hold the data in the field. -/
def NoticesHold (group : Text) (f : Notice.Field) (v : Value) (groups : List MixedGroup) : Prop :=
  ∀ g ∈ groups, g.id = group →
    g.conditions ≠ [] ∧ g.toValue.field? (Text.ofString f.name) = some v

/-- The conditions that the update is aimed at are read with the value in the field. -/
def ConditionsRevised (group condition : Text) (f : Condition.Field) (v : Value) :
    List MixedGroup → List MixedGroup → Prop :=
  Forall₂ <| RelatedAt Group.id group fun g h =>
    ∃ cs, Forall₂ (RelatedAt Condition.id condition
        (Revision Condition.intake Condition.toValue f.name v)) g.conditions cs ∧
      h = { g with conditions := cs }

def RowsRevised (row : Text) (f : Row.Field) (v : Value) : List Row → List Row → Prop :=
  Forall₂ (RelatedAt Row.id row (Revision Row.intake Row.toValue f.name v))

def NoticesRevised (group : Text) (f : Notice.Field) (v : Value) :
    List MixedGroup → List MixedGroup → Prop :=
  Forall₂ (RelatedAt Group.id group (Revision Group.intakeNoticed Group.toValue f.name v))

/-!
# Conditions
-/

section Conditions

variable {group condition : Text}

/-- What a refused value for a field of a condition is answered with. -/
def conditionBlame (group condition : Text) (f : Condition.Field) (issues : List Issue) :
    Failure :=
  .refused (.badConditionField f.name group condition (Checked.messages issues))

theorem replaceField_eq_put (f : Condition.Field) (v : Value) (c : Condition) :
    replaceField group condition f v c =
      (Condition.places.put f v c).mapError (conditionBlame group condition f) := by
  rw [replaceField, Condition.withField_eq_put]
  rfl

theorem updateLaws_replaceField {c : Condition} (hc : c.Sound) :
    UpdateLaws (replaceField group condition)
      (fun f v c => c.toValue.field? (Text.ofString f.name) = some v)
      (fun f v => Revision Condition.intake Condition.toValue f.name v) c := by
  refine UpdateLaws.of_put (P := Condition.places) (fun f v h a => replaceField_eq_put f v _)
    (fun f v => replaceField_eq_put f v c) ?_ ?_
  · intro f v d hd
    rw [← Condition.withField_eq_put] at hd
    exact Condition.revision_of_withField hc hd
  · intro f v hv
    rw [← Condition.withField_eq_put]
    exact Condition.withField_held hc hv

theorem updateLaws_updateCondition {groups : List MixedGroup} (h : EncodableGroups groups) :
    UpdateLaws (updateCondition group condition) (ConditionsHold group condition)
      (ConditionsRevised group condition) groups := by
  have hitems (f : Condition.Field) (v : Value) :
      ItemByItem
        (changeAt Group.id group (changeConditions condition (replaceField group condition f v)))
        (updateCondition (ν := Option Notice) group condition f v) :=
    itemByItem_tryGroups group _
  refine UpdateLaws.items hitems fun g hg => ?_
  refine UpdateLaws.at (fun f v g h => id_of_changeConditions) fun _ => ?_
  have hconditions :
      UpdateLaws (fun f v => tryConditions condition (replaceField group condition f v))
        (fun f v cs => ∀ c ∈ cs, c.id = condition →
          c.toValue.field? (Text.ofString f.name) = some v)
        (fun f v => Forall₂ (RelatedAt Condition.id condition
          (Revision Condition.intake Condition.toValue f.name v))) g.conditions := by
    refine UpdateLaws.items (fun f v => itemByItem_tryConditions condition _) fun c hc => ?_
    refine UpdateLaws.at (fun f v c d => id_of_replaceField) fun _ => ?_
    exact updateLaws_replaceField ((Group.encodable_toValue.mp (h g hg)).right.left c hc)
  exact hconditions.conditions

theorem namedUpdateLaws_updateConditionNamed {groups : List MixedGroup}
    (h : EncodableGroups groups) :
    NamedUpdateLaws Condition.Field.name (updateConditionNamed group condition)
      (ConditionsHold group condition) (ConditionsRevised group condition) groups := by
  refine (updateLaws_updateCondition h).named ?_ ?_
  · intro field
    rcases named?_conditionField_cases field with ⟨hnamed, _⟩ | ⟨f, hnamed, hfield⟩
    · refine Or.inl ⟨.refused (.fixedConditionField field), fun v groups => ?_⟩
      rw [updateConditionNamed, hnamed]
    · refine Or.inr ⟨f, hfield, funext fun v => funext fun groups => ?_⟩
      rw [updateConditionNamed, hnamed]
  · intro f
    cases f <;> rfl

end Conditions

/-!
# Rows
-/

section Rows

variable {row : Text}

def rowBlame (row : Text) (f : Row.Field) (issues : List Issue) : Failure :=
  .refused (.badRowField f.name row (Checked.messages issues))

theorem replaceRowField_eq_put (f : Row.Field) (v : Value) (r : Row) :
    replaceRowField row f v r = (Row.places.put f v r).mapError (rowBlame row f) := by
  rw [replaceRowField, Row.withField_eq_put]
  rfl

theorem id_of_replaceRowField {f : Row.Field} {v : Value} {r r' : Row}
    (h : replaceRowField row f v r = .ok r') : r'.id = r.id := by
  rw [replaceRowField_eq_put] at h
  rcases mapError_put_eq_ok.mp h with ⟨t, _, rfl⟩
  cases f <;> rfl

theorem updateLaws_replaceRowField {r : Row} (hr : r.Sound) :
    UpdateLaws (replaceRowField row)
      (fun f v r => r.toValue.field? (Text.ofString f.name) = some v)
      (fun f v => Revision Row.intake Row.toValue f.name v) r := by
  refine UpdateLaws.of_put (P := Row.places) (fun f v h a => replaceRowField_eq_put f v _)
    (fun f v => replaceRowField_eq_put f v r) ?_ ?_
  · intro f v r' hr'
    rw [← Row.withField_eq_put] at hr'
    exact Row.revision_of_withField ((sound_rowWithField hr').right hr) hr'
  · intro f v hv
    rw [← Row.withField_eq_put]
    exact Row.withField_held hr hv

theorem namedUpdateLaws_updateRowNamed {rows : List Row} (h : EncodableRows rows) :
    NamedUpdateLaws Row.Field.name (updateRowNamed row) (RowsHold row) (RowsRevised row) rows := by
  have hlaws : UpdateLaws (updateRow row) (RowsHold row) (RowsRevised row) rows := by
    refine UpdateLaws.items (fun f v => itemByItem_updateRow row f v) fun r hr => ?_
    refine UpdateLaws.at (fun f v r r' => id_of_replaceRowField) fun _ => ?_
    exact updateLaws_replaceRowField (Row.encodable_toValue.mp (h r hr))
  refine hlaws.named ?_ ?_
  · intro field
    rcases named?_rowField_cases field with ⟨hnamed, _⟩ | ⟨f, hnamed, hfield⟩
    · refine Or.inl ⟨.refused (.fixedRowField field), fun v rows => ?_⟩
      rw [updateRowNamed, hnamed]
    · refine Or.inr ⟨f, hfield, funext fun v => funext fun rows => ?_⟩
      rw [updateRowNamed, hnamed]
  · intro f
    cases f <;> rfl

end Rows

/-!
# Notices
-/

section Notices

variable {group : Text} {g : MixedGroup} {n : Notice}

def noticeBlame (group : Text) (f : Notice.Field) (issues : List Issue) : Failure :=
  .refused (.badNoticeField f.name group (Checked.messages issues))

theorem replaceNotice_eq_put (hfilled : g.conditions ≠ []) (hn : g.notice = some n)
    (f : Notice.Field) (v : Value) :
    replaceNotice group f v g = (Group.noticePlaces.put f v g).mapError (noticeBlame group f) := by
  have hnotice : g.notice? = some n := hn
  rw [replaceNotice, hnotice]
  dsimp only
  rw [noticeIssues_of_filled hfilled, Places.put]
  cases hread : (Checked.cleanText v).under (.field (Text.ofString f.name)) with
  | error issues =>
      have hput : Group.noticePlaces.read f v = .error issues := hread
      rw [hput]
      rfl
  | ok t =>
      have hput : Group.noticePlaces.read f v = .ok t := hread
      have hset : Group.noticePlaces.set f t g = { g with notice := some (n.set f t) } :=
        congrArg (fun notice => { g with notice }) (congrArg (Option.map (Notice.set f t)) hn)
      rw [hput]
      exact congrArg Except.ok hset.symm

/-- Only a group with conditions and a notice takes a value for its notice. -/
theorem fails_replaceNotice_of_bare (hbare : ¬ (g.conditions ≠ [] ∧ ∃ n, g.notice = some n))
    (f : Notice.Field) (v : Value) : ∃ e, replaceNotice group f v g = .error e := by
  cases hreplaced : replaceNotice group f v g with
  | error e => exact ⟨e, rfl⟩
  | ok h =>
      exfalso
      apply hbare
      rcases replaceNotice_eq_ok hreplaced with ⟨n, _, hn, _, _⟩
      refine ⟨?_, n, hn⟩
      intro hempty
      rw [replaceNotice, hn] at hreplaced
      have hissues : ∃ issues, noticeIssues g f v = .error issues := by
        rw [noticeIssues, hempty]
        cases Checked.under (.field (Text.ofString f.name)) (Checked.cleanText v) with
        | error issues => exact ⟨_, rfl⟩
        | ok t => exact ⟨_, rfl⟩
      rcases hissues with ⟨issues, hissues⟩
      simp only [hissues] at hreplaced
      cases hreplaced

theorem sound_set_notice {f : Notice.Field} {t : Text} (hg : g.toValue.Encodable)
    (hfilled : g.conditions ≠ []) (ht : t.Encodable) : (Group.noticePlaces.set f t g).Sound := by
  rcases Group.encodable_toValue.mp hg with ⟨hid, hconditions, hnotice⟩
  refine ⟨hid, hfilled, hconditions, ?_⟩
  intro m hm
  rcases Option.map_eq_some_iff.mp hm with ⟨n, hn, rfl⟩
  have hold := hnotice n hn
  cases f with
  | code => exact ⟨ht, hold.message⟩
  | message => exact ⟨hold.code, ht⟩

theorem updateLaws_replaceNotice (hg : g.toValue.Encodable) :
    UpdateLaws (replaceNotice group)
      (fun f v g => g.conditions ≠ [] ∧ g.toValue.field? (Text.ofString f.name) = some v)
      (fun f v => Revision Group.intakeNoticed Group.toValue f.name v) g := by
  by_cases hready : g.conditions ≠ [] ∧ ∃ n, g.notice = some n
  · rcases hready with ⟨hfilled, n, hn⟩
    refine UpdateLaws.of_put (P := Group.noticePlaces) (fun f v h t => ?_)
      (fun f v => replaceNotice_eq_put hfilled hn f v) ?_ ?_
    · have hset : (Group.noticePlaces.set h t g).notice = some (n.set h t) :=
        congrArg (Option.map (Notice.set h t)) hn
      have hkept : (Group.noticePlaces.set h t g).conditions ≠ [] := hfilled
      exact replaceNotice_eq_put hkept hset f v
    · intro f v h hh
      rcases map_eq_ok.mp hh with ⟨t, ht, rfl⟩
      have hclean := Checked.under_eq_ok.mp ht
      rw [Checked.eq_text_of_cleanText hclean]
      exact Group.revision_of_set_notice hn
        (sound_set_notice hg hfilled (Checked.encodable_of_cleanText hclean))
    · intro f v hv
      rcases Group.set_notice_held hv.right with ⟨m, hm, rfl, hsame⟩
      have hsound := (Group.encodable_toValue.mp hg).right.right m hm
      refine map_eq_ok.mpr ⟨m.get f, ?_, hsame⟩
      exact Checked.under_eq_ok.mpr (Checked.cleanText_text (hsound.get f))
  · refine UpdateLaws.of_never (fails_replaceNotice_of_bare hready) ?_
    intro f v hv
    rcases Group.set_notice_held hv.right with ⟨m, hm, _, _⟩
    exact hready ⟨hv.left, m, hm⟩

theorem namedUpdateLaws_updateNoticeNamed {groups : List MixedGroup} (h : EncodableGroups groups) :
    NamedUpdateLaws Notice.Field.name (updateNoticeNamed group) (NoticesHold group)
      (NoticesRevised group) groups := by
  have hid (f : Notice.Field) (v : Value) (g h : MixedGroup)
      (hh : replaceNotice group f v g = .ok h) : h.id = g.id := by
    rcases replaceNotice_eq_ok hh with ⟨_, _, _, _, rfl⟩
    rfl
  have hlaws : UpdateLaws (updateNotice (ν := Option Notice) group) (NoticesHold group)
      (NoticesRevised group) groups := by
    refine UpdateLaws.items (fun f v => itemByItem_tryGroups group _) fun g hg => ?_
    exact UpdateLaws.at hid fun _ => updateLaws_replaceNotice (h g hg)
  refine hlaws.named ?_ ?_
  · intro field
    rcases named?_noticeField_cases field with ⟨hnamed, _⟩ | ⟨f, hnamed, hfield⟩
    · refine Or.inl ⟨.refused (.fixedNoticeField field), fun v groups => ?_⟩
      rw [updateNoticeNamed, hnamed]
    · refine Or.inr ⟨f, hfield, funext fun v => funext fun groups => ?_⟩
      rw [updateNoticeNamed, hnamed]
  · intro f
    cases f <;> rfl

end Notices

/-!
# Edited groups and rows
-/

/--
However groups and rows without surrogates were edited, with whatever ids repeated, the updates
of conditions, of notices and of rows obey the laws.  An id names one condition, group or row,
or several, or none: a value that all of them hold may be put in again.
-/
theorem updates_obey_laws {s : Session} {turns : List Turn} {rows : List Row}
    {rowTurns : List RowTurn} (hgroups : EncodableGroups s.groups)
    (hturns : ∀ t ∈ turns, t.Encodable) (hrows : EncodableRows rows)
    (hrowTurns : ∀ t ∈ rowTurns, t.ids.Encodable) (group condition row : Text) :
    NamedUpdateLaws Condition.Field.name (updateConditionNamed group condition)
        (ConditionsHold group condition) (ConditionsRevised group condition)
        (s.play turns).groups ∧
      NamedUpdateLaws Row.Field.name (updateRowNamed row) (RowsHold row) (RowsRevised row)
        (playRows rows rowTurns) ∧
      NamedUpdateLaws Notice.Field.name (updateNoticeNamed group) (NoticesHold group)
        (NoticesRevised group) (s.play turns).groups := by
  have hplayed := encodable_play hgroups hturns
  exact ⟨namedUpdateLaws_updateConditionNamed hplayed,
    namedUpdateLaws_updateRowNamed (hrows.play hrowTurns),
    namedUpdateLaws_updateNoticeNamed hplayed⟩

theorem encodable_sharing : EncodableGroups sharing.groups := by
  have hblank (id : String) (withFlags : Bool) : (Condition.blank id withFlags).Sound :=
    sound_blank (Text.encodable_ofString id) withFlags
  have hnotice (code message : String) : (⟨code, message⟩ : Notice).Sound :=
    ⟨Text.encodable_ofString code, Text.encodable_ofString message⟩
  refine forall_mem_cons.mpr ⟨?noticed, forall_mem_singleton.mpr ?uncoded⟩
  case noticed =>
    refine Group.encodable_toValue.mpr ⟨Text.encodable_ofString "g", ?_, ?_⟩
    · exact forall_mem_cons.mpr ⟨hblank "c" true, forall_mem_singleton.mpr (hblank "d" false)⟩
    · intro n hn
      cases hn
      exact hnotice "AGE" "Too young."
  case uncoded =>
    refine Group.encodable_toValue.mpr ⟨Text.encodable_ofString "g", ?_, ?_⟩
    · exact forall_mem_singleton.mpr (hblank "e" false)
    · intro n hn
      cases hn
      exact hnotice "" "Refused."

def sharingRows : List Row := [⟨"r", "k", "v"⟩, ⟨"r", "l", "w"⟩]

theorem updates_obey_laws_sharing :
    let turns : List Turn := [⟨[], .numbered "n", .addGroup true⟩]
    let groups := (sharing.play turns).groups
    let rows := playRows sharingRows [⟨.numbered "n", .add⟩]
    (∃ y, updateConditionNamed "g" "c" (.text "negate") (.text "YES") groups = .ok y ∧
        updateConditionNamed "g" "c" (.text "negate") .null y =
          updateConditionNamed "g" "c" (.text "negate") .null groups) ∧
      updateConditionNamed "g" "d" (.text "mandatory") .null groups = .ok groups ∧
      (∃ y, (updateRowNamed "r" (.text "key") (.text "m") rows >>=
            updateRowNamed "r" (.text "value") (.text "x")) = .ok y ∧
        (updateRowNamed "r" (.text "value") (.text "x") rows >>=
            updateRowNamed "r" (.text "key") (.text "m")) = .ok y) ∧
      ∃ y, updateNoticeNamed "g" (.text "error_code") (.text "A") groups = .ok y ∧
        NoticesRevised "g" .code (.text "A") groups y := by
  intro turns groups rows
  have hrows : EncodableRows sharingRows := by
    refine forall_mem_cons.mpr ⟨?_, forall_mem_singleton.mpr ?_⟩
    · exact Row.encodable_toValue.mpr ⟨Text.encodable_ofString "r", Text.encodable_ofString "k",
        Text.encodable_ofString "v"⟩
    · exact Row.encodable_toValue.mpr ⟨Text.encodable_ofString "r", Text.encodable_ofString "l",
        Text.encodable_ofString "w"⟩
  have hids : IdSupply.Encodable (.numbered "n") :=
    IdSupply.encodable_numbered (Text.encodable_ofString "n")
  have hturns : ∀ t ∈ turns, t.Encodable := forall_mem_singleton.mpr ⟨forall_mem_nil _, hids⟩
  have hrowTurns : ∀ t ∈ ([⟨.numbered "n", .add⟩] : List RowTurn), t.ids.Encodable :=
    forall_mem_singleton.mpr hids
  have hlaws (condition : Text) :=
    updates_obey_laws encodable_sharing hturns hrows hrowTurns "g" condition "r"
  refine ⟨⟨_, rfl, ?again⟩, ?same, ⟨_, rfl, ?apart⟩, ⟨_, rfl, ?notice⟩⟩
  case again => exact (hlaws "c").left.again (.text "negate") (.text "YES") .null _ rfl
  case same =>
    refine (hlaws "d").left.same .mandatory .null ?_
    unfold ConditionsHold
    decide
  case apart =>
    exact ((hlaws "c").right.left.apart (.text "key") (.text "value") (.text "m") (.text "x") _
      (by decide)).mp rfl
  case notice =>
    rcases (hlaws "c").right.right.revises (.text "error_code") (.text "A") _ rfl with
      ⟨f, hf, hrevised⟩
    cases f with
    | code => exact hrevised
    | message => exact absurd hf (by decide)

end Editor
end RuleDraft
