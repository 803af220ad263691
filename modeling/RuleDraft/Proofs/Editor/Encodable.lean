import RuleDraft.Proofs.Editor.Filled
import RuleDraft.Proofs.Rule.Encodable

/-!
# Editing without surrogates

Some edits build nodes without reading them again, so the screening of a model is not
enough by itself.  Still every edit of groups and rows without surrogates gives such
groups and rows: what it puts in is a fresh id, a name, a text of another group, or a
value that was read.  A value with a surrogate is refused and nothing is changed.
-/

namespace RuleDraft
namespace Editor

open List

variable {ν μ : Type}

def EncodableGroups [HasNotice ν] (groups : List (Group ν)) : Prop :=
  ∀ g ∈ groups, g.toValue.Encodable

/-- The saved groups and the fresh ids of a turn have no surrogate. -/
structure Turn.Encodable (t : Turn) : Prop where
  saved : EncodableGroups t.saved
  ids : t.ids.Encodable

/-- No text of the session has a surrogate, and no id that is still fresh. -/
structure Session.Encodable (s : Session) : Prop where
  groups : EncodableGroups s.groups
  saved : EncodableGroups s.saved
  ids : s.ids.Encodable

/-!
# Blank and replaced nodes
-/

theorem sound_blank {id : Text} (h : id.Encodable) (withFlags : Bool) :
    (Condition.blank id withFlags).Sound :=
  ⟨h, Text.encodable_nil, Operand.encodable_empty⟩

/-- A field takes only data without a surrogate, and the condition stays as it should be. -/
theorem sound_withField {field : Condition.Field} {v : Value} {c d : Condition}
    (h : c.withField field v = .ok d) : v.Encodable ∧ (c.Sound → d.Sound) := by
  cases field
  all_goals
    rcases map_eq_ok.mp h with ⟨x, hx, rfl⟩
  case key =>
    exact ⟨Checked.encodable_data_of_cleanText hx,
      fun hc => ⟨hc.id, Checked.encodable_of_cleanText hx, hc.value⟩⟩
  case type => exact ⟨Checked.encodable_data_of_chosen hx, fun hc => ⟨hc.id, hc.key, hc.value⟩⟩
  case value =>
    exact ⟨Operand.encodable_data_of_readClean hx,
      fun hc => ⟨hc.id, hc.key, Operand.encodable_of_readClean hx⟩⟩
  case negate =>
    exact ⟨Condition.encodable_data_of_readFlag hx, fun hc => ⟨hc.id, hc.key, hc.value⟩⟩
  case mandatory =>
    exact ⟨Condition.encodable_data_of_readFlag hx, fun hc => ⟨hc.id, hc.key, hc.value⟩⟩

theorem sound_of_tryConditions {id : Text} {f : Condition → Except Failure Condition}
    {conditions result : List Condition} (hf : ∀ c d, f c = .ok d → c.Sound → d.Sound)
    (h : tryConditions id f conditions = .ok result) (hsound : ∀ c ∈ conditions, c.Sound) :
    ∀ c ∈ result, c.Sound := by
  induction conditions generalizing result with
  | nil =>
      cases h
      exact hsound
  | cons c rest ih =>
      rw [tryConditions_cons] at h
      rcases bind_eq_ok.mp h with ⟨d, hd, hrest⟩
      rcases bind_eq_ok.mp hrest with ⟨ds, hds, hresult⟩
      cases hresult
      rcases forall_mem_cons.mp hsound with ⟨hc, hothers⟩
      refine forall_mem_cons.mpr ⟨?_, ih hds hothers⟩
      by_cases hid : c.id = id
      · rw [if_pos hid] at hd
        exact hf c d hd hc
      · rw [if_neg hid] at hd
        cases hd
        exact hc

/-!
# Edits of groups
-/

section Groups

variable [HasNotice ν] {groups result : List (Group ν)}

theorem EncodableGroups.addGroup {n : ν} {withFlags : Bool} {ids : IdSupply}
    (h : EncodableGroups groups)
    (hn : ∀ m, HasNotice.notice? n = some m → m.Sound) (hids : ids.Encodable) :
    EncodableGroups (Editor.addGroup n withFlags groups ids).1 := by
  refine forall_mem_append.mpr ⟨h, forall_mem_singleton.mpr (Group.encodable_toValue.mpr ?_)⟩
  refine ⟨hids _, forall_mem_singleton.mpr ?_, hn⟩
  exact sound_blank (hids _) withFlags

theorem EncodableGroups.removeGroup {id : Text} (h : EncodableGroups groups) :
    EncodableGroups (Editor.removeGroup id groups) := by
  intro g hg
  exact h g (mem_of_mem_filter hg)

theorem EncodableGroups.setOperatorNamed {id : Text} {operator : Value} (h : EncodableGroups groups)
    (hresult : Editor.setOperatorNamed id operator groups = .ok result) :
    EncodableGroups result := by
  unfold Editor.setOperatorNamed at hresult
  cases hnamed : named? LogicalOperator.options operator with
  | none =>
      rw [hnamed] at hresult
      cases hresult
  | some o =>
      rw [hnamed] at hresult
      cases hresult
      refine forall_mem_map.mpr ?_
      intro g hg
      have hold := Group.encodable_toValue.mp (h g hg)
      by_cases hid : g.id = id
      · rw [if_pos hid]
        exact Group.encodable_toValue.mpr hold
      · rw [if_neg hid]
        exact Group.encodable_toValue.mpr hold

theorem EncodableGroups.addCondition {id : Text} {withFlags : Bool} {ids : IdSupply}
    (h : EncodableGroups groups) (hids : ids.Encodable) :
    EncodableGroups (Editor.addCondition id withFlags groups ids).1 := by
  induction groups generalizing ids with
  | nil => exact h
  | cons g rest ih =>
      rcases forall_mem_cons.mp h with ⟨hg, hrest⟩
      by_cases hid : g.id = id
      · simp only [Editor.addCondition, if_pos hid]
        refine forall_mem_cons.mpr ⟨Group.encodable_toValue.mpr ?_, ih hrest hids⟩
        rcases Group.encodable_toValue.mp hg with ⟨hgroup, hconditions, hnotice⟩
        have hblank := sound_blank (hids (ids.drawn + 1)) withFlags
        exact ⟨hgroup, forall_mem_append.mpr ⟨hconditions, forall_mem_singleton.mpr hblank⟩,
          hnotice⟩
      · simp only [Editor.addCondition, if_neg hid]
        exact forall_mem_cons.mpr ⟨hg, ih hrest hids⟩

theorem EncodableGroups.tryGroups {id : Text} {f : Group ν → Except Failure (Group ν)}
    (h : EncodableGroups groups)
    (hf : ∀ g g', f g = .ok g' → g.toValue.Encodable → g'.toValue.Encodable)
    (hresult : Editor.tryGroups id f groups = .ok result) : EncodableGroups result := by
  intro g' hg'
  rcases mem_of_tryGroups hresult hg' with ⟨g, hg, htry⟩
  unfold tryGroup at htry
  by_cases hid : g.id = id
  · rw [if_pos hid] at htry
    exact hf g g' htry (h g hg)
  · rw [if_neg hid] at htry
    cases htry
    exact h _ hg

theorem EncodableGroups.removeCondition {group condition : Text} (h : EncodableGroups groups)
    (hresult : Editor.removeCondition group condition groups = .ok result) :
    EncodableGroups result := by
  refine h.tryGroups ?_ hresult
  intro g g' hdrop hg
  rw [dropCondition_eq_ok hdrop]
  rcases Group.encodable_toValue.mp hg with ⟨hid, hconditions, hnotice⟩
  exact Group.encodable_toValue.mpr
    ⟨hid, fun c hc => hconditions c (mem_of_mem_filter hc), hnotice⟩

theorem EncodableGroups.updateConditionNamed {group condition : Text} {field v : Value}
    (h : EncodableGroups groups)
    (hresult : Editor.updateConditionNamed group condition field v groups = .ok result) :
    EncodableGroups result := by
  rcases updateConditionNamed_eq_ok hresult with ⟨known, hupdate⟩
  refine h.tryGroups ?_ hupdate
  intro g g' hg' hg
  rcases bind_eq_ok.mp hg' with ⟨cs, hcs, hmk⟩
  cases hmk
  rcases Group.encodable_toValue.mp hg with ⟨hid, hconditions, hnotice⟩
  refine Group.encodable_toValue.mpr ⟨hid, ?_, hnotice⟩
  refine sound_of_tryConditions ?_ hcs hconditions
  intro c d hd
  exact (sound_withField (replaceField_eq_ok.mp hd)).right

end Groups

theorem EncodableGroups.updateNoticeNamed {groups result : List MixedGroup} {group : Text}
    {field v : Value} (h : EncodableGroups groups)
    (hresult : Editor.updateNoticeNamed group field v groups = .ok result) :
    EncodableGroups result := by
  unfold Editor.updateNoticeNamed at hresult
  cases hnamed : named? Notice.Field.options field with
  | none =>
      rw [hnamed] at hresult
      cases hresult
  | some known =>
      rw [hnamed] at hresult
      refine h.tryGroups ?_ hresult
      intro g g' hg' hg
      rcases Group.encodable_toValue.mp hg with ⟨hid, hconditions, hnotice⟩
      rcases replaceNotice_eq_ok hg' with ⟨n, t, hn, ht, rfl⟩
      have htext := Checked.encodable_of_cleanText ht
      have hold := hnotice n hn
      refine Group.encodable_toValue.mpr ⟨hid, hconditions, ?_⟩
      rintro m hm
      cases hm
      cases known with
      | code => exact ⟨htext, hold.message⟩
      | message => exact ⟨hold.code, htext⟩

/-!
# Reconciling
-/

theorem encodable_orElse {t other : Text} (ht : t.Encodable) (hother : other.Encodable) :
    (orElse t other).Encodable := by
  unfold orElse
  split
  · exact hother
  · exact ht

theorem sound_inheritedNotice [HasNotice ν] {previous : List (Group ν)} {id : Text}
    {n : Notice} (hprevious : EncodableGroups previous)
    (h : inheritedNotice (lastWithId id previous) = .ok n) : n.Sound := by
  have hcode : Notice.defaultCode.Encodable := Text.encodable_ofString _
  have hmessage : Notice.defaultMessage.Encodable := Text.encodable_ofString _
  cases hlast : lastWithId id previous with
  | none =>
      rw [hlast] at h
      cases h
      exact ⟨hcode, hmessage⟩
  | some g =>
      have hmem : g ∈ previous := mem_reverse.mp (mem_of_find?_eq_some hlast)
      rw [hlast] at h
      unfold inheritedNotice at h
      cases hn : g.notice? with
      | none =>
          simp only [hn] at h
          cases h
      | some m =>
          simp only [hn] at h
          cases h
          have hm := (Group.encodable_toValue.mp (hprevious g hmem)).right.right m hn
          exact ⟨encodable_orElse hm.code hcode, encodable_orElse hm.message hmessage⟩

theorem EncodableGroups.reconcile [HasNotice ν] [HasNotice μ] {previous : List (Group ν)}
    {groups : List (Group μ)} {result : List ValidationGroup} (hprevious : EncodableGroups previous)
    (h : EncodableGroups groups) (hresult : Editor.reconcile previous groups = .ok result) :
    EncodableGroups result := by
  intro g' hg'
  rcases mem_of_reconcile hresult hg' with ⟨g, hg, n, hn, rfl⟩
  rcases Group.encodable_toValue.mp (h g hg) with ⟨hid, hconditions, _⟩
  have hnotice : ∀ m, some n = some m → m.Sound := by
    rintro m ⟨⟩
    exact sound_inheritedNotice hprevious hn
  exact Group.encodable_toValue.mpr ⟨hid, hconditions, hnotice⟩

/-!
# Steps and runs of groups
-/

theorem encodable_perform {s s' : Session} {e : Edit} (hsaved : EncodableGroups s.saved)
    (hids : s.ids.Encodable) (h : EncodableGroups s.groups) (hs' : s.perform e = .ok s') :
    EncodableGroups s'.groups := by
  cases e with
  | addGroup withFlags =>
      cases hs'
      refine h.addGroup ?_ hids
      intro m hm
      cases hm
  | removeGroup group =>
      cases hs'
      exact h.removeGroup
  | setOperator group operator => exact h.setOperatorNamed (withGroups_eq_ok hs')
  | addCondition group withFlags =>
      cases hs'
      exact h.addCondition hids
  | removeCondition group condition => exact h.removeCondition (withGroups_eq_ok hs')
  | updateCondition group condition field value =>
      exact h.updateConditionNamed (withGroups_eq_ok hs')
  | updateNotice group field value => exact h.updateNoticeNamed (withGroups_eq_ok hs')
  | save =>
      cases hs'
      exact h
  | reconcile =>
      rcases map_eq_ok.mp (withGroups_eq_ok hs') with ⟨merged, hmerged, hmixed⟩
      rw [← hmixed]
      exact forall_mem_map.mpr (EncodableGroups.reconcile hsaved h hmerged)

theorem encodable_turn {s : Session} {t : Turn} (ht : t.Encodable) (h : EncodableGroups s.groups) :
    EncodableGroups (s.turn t).groups := by
  unfold Session.turn Session.step
  split
  case h_1 s' hs' =>
    exact encodable_perform (s := { s with saved := t.saved, ids := t.ids }) ht.saved ht.ids h hs'
  case h_2 => exact h

theorem encodable_play {s : Session} {turns : List Turn} (h : EncodableGroups s.groups)
    (hturns : ∀ t ∈ turns, t.Encodable) : EncodableGroups (s.play turns).groups := by
  induction turns using List.reverseRecOn with
  | nil => exact h
  | append_singleton past t ih =>
      rw [play_append]
      exact encodable_turn (hturns t (mem_append_right past mem_cons_self))
        (ih fun u hu => hturns u (mem_append_left [t] hu))

theorem label_addCondition (id : Text) (withFlags : Bool) (groups : List (Group ν))
    (ids : IdSupply) : (addCondition id withFlags groups ids).2.label = ids.label := by
  induction groups generalizing ids with
  | nil => rfl
  | cons g rest ih =>
      by_cases hid : g.id = id
      · simp only [addCondition, if_pos hid]
        exact ih ids.draw.2
      · simp only [addCondition, if_neg hid]
        exact ih ids

/-- No step makes up ids, and only saving changes what is saved. -/
theorem saved_ids_perform {s s' : Session} {e : Edit} (hs' : s.perform e = .ok s') :
    (s'.saved = s.saved ∨ s'.saved = s.groups) ∧ s'.ids.label = s.ids.label := by
  have hwith {r : Except Failure (List MixedGroup)} (h : s.withGroups r = .ok s') :
      (s'.saved = s.saved ∨ s'.saved = s.groups) ∧ s'.ids.label = s.ids.label := by
    rcases map_eq_ok.mp h with ⟨groups, _, rfl⟩
    exact ⟨Or.inl rfl, rfl⟩
  cases e with
  | addGroup withFlags =>
      cases hs'
      exact ⟨Or.inl rfl, rfl⟩
  | removeGroup group =>
      cases hs'
      exact ⟨Or.inl rfl, rfl⟩
  | setOperator group operator => exact hwith hs'
  | addCondition group withFlags =>
      cases hs'
      exact ⟨Or.inl rfl, label_addCondition group withFlags s.groups s.ids⟩
  | removeCondition group condition => exact hwith hs'
  | updateCondition group condition field value => exact hwith hs'
  | updateNotice group field value => exact hwith hs'
  | save =>
      cases hs'
      exact ⟨Or.inr rfl, rfl⟩
  | reconcile => exact hwith hs'

theorem encodable_step {s : Session} (h : s.Encodable) (e : Edit) : (s.step e).Encodable := by
  unfold Session.step
  cases hperform : s.perform e with
  | error failure => exact h
  | ok s' =>
      rcases saved_ids_perform hperform with ⟨hsaved, hlabel⟩
      refine ⟨encodable_perform h.saved h.ids h.groups hperform, ?saved, ?ids⟩
      case saved =>
        rcases hsaved with hsame | hgroups
        · rw [hsame]
          exact h.saved
        · rw [hgroups]
          exact h.groups
      case ids =>
        unfold IdSupply.Encodable
        rw [hlabel]
        exact h.ids

theorem encodable_run {s : Session} (h : s.Encodable) (edits : List Edit) :
    (s.run edits).Encodable := by
  induction edits generalizing s with
  | nil => exact h
  | cons e edits ih => exact ih (encodable_step h e)

end Editor
end RuleDraft
