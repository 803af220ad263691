import RuleDraft.Proofs.Editor.Independent
import RuleDraft.Proofs.Editor.Refused
import RuleDraft.Proofs.Editor.Regenerated
import RuleDraft.Proofs.Rule.Fields

/-!
# Grounds for refusing an edit

The names in an edit are looked at first, whatever the groups are: an operator and a field
have to be known.  A value is looked at only where the edit puts it, so it counts only if
some group, or some condition in it, has the id that is aimed at.  And a removal looks at the
groups that hold one condition.  Nothing else speaks against an edit: on any of these
grounds it is refused, and on no ground it succeeds.
-/

namespace RuleDraft

def Failure.IsOf (kind : RefusalKind) : Failure → Prop
  | .refused refusal => refusal.kind = kind
  | _ => False

namespace Editor

open List

variable {ν : Type}

def Edit.refusalKind : Edit → RefusalKind
  | .removeCondition _ _ => .lastCondition
  | _ => .validation

/-- There are grounds to refuse the edit. -/
def Edit.Grounds (groups : List MixedGroup) : Edit → Prop
  | .setOperator _ operator => ∀ o : LogicalOperator, operator ≠ .text o.name
  | .removeCondition group condition =>
      ∃ g ∈ groups, g.id = group ∧ ∃ c, g.conditions = [c] ∧ c.id = condition
  | .updateCondition group condition field value =>
      (∀ f : Condition.Field, field ≠ .text f.name) ∨
        ∃ f : Condition.Field, field = .text f.name ∧
          ∃ g ∈ groups, g.id = group ∧ ∃ c ∈ g.conditions, c.id = condition ∧ ¬ f.Takes value
  | .updateNotice group field value =>
      (∀ f : Notice.Field, field ≠ .text f.name) ∨
        (∃ g ∈ groups, g.id = group) ∧ ¬ value.IsCleanText
  | _ => False

/--
The edit is meant for such groups: the groups that it is aimed at have a notice if it changes
notices, and a condition, as every validation group has that was read.
-/
def Edit.Suits (groups : List MixedGroup) : Edit → Prop
  | .updateNotice group _ _ =>
      ∀ g ∈ groups, g.id = group → g.conditions ≠ [] ∧ ∃ n, g.notice = some n
  | .reconcile => False
  | _ => True

theorem suits_of_wasRead {groups : List MixedGroup} {e : Edit} (hread : ∀ g ∈ groups, WasRead g)
    (hnotices : ∀ g ∈ groups, ∃ n, g.notice = some n) (he : e ≠ .reconcile) :
    e.Suits groups := by
  cases e with
  | updateNotice group field value =>
      intro g hg _
      exact ⟨filled_of_wasRead hread g hg, hnotices g hg⟩
  | reconcile => exact he rfl
  | _ => trivial

/-!
# Changes decided by their grounds
-/

/-- The computation fails with a refusal of the kind on the grounds, and succeeds without. -/
structure DecidedBy {α : Type} (kind : RefusalKind) (grounds : Prop) (r : Except Failure α) :
    Prop where
  fails : grounds → Fails (Failure.IsOf kind) r
  succeeds : ¬ grounds → ∃ y, r = .ok y

section Decided

variable {α β : Type} {kind : RefusalKind} {p q : Prop} {r : Except Failure α}

theorem DecidedBy.of_iff (h : DecidedBy kind p r) (hpq : q ↔ p) : DecidedBy kind q r where
  fails hq := h.fails (hpq.mp hq)
  succeeds hq := h.succeeds fun hp => hq (hpq.mpr hp)

theorem DecidedBy.map (h : DecidedBy kind p r) (f : α → β) : DecidedBy kind p (r.map f) where
  fails hp := (h.fails hp).map f
  succeeds hp := map_isOk_iff.mpr (h.succeeds hp)

theorem DecidedBy.ok (x : α) : DecidedBy kind False (.ok x : Except Failure α) where
  fails := False.elim
  succeeds _ := ⟨x, rfl⟩

theorem DecidedBy.refused (refusal : Refusal) (hp : p) :
    DecidedBy refusal.kind p (.error (.refused refusal) : Except Failure α) where
  fails _ := ⟨_, rfl, rfl⟩
  succeeds hnot := absurd hp hnot

theorem decidedBy_changeAt {idOf : α → Text} {id : Text} {f : α → Except Failure α} {x : α}
    (h : idOf x = id → DecidedBy kind p (f x)) :
    DecidedBy kind (idOf x = id ∧ p) (changeAt idOf id f x) := by
  by_cases hid : idOf x = id
  · rw [changeAt_of_eq hid]
    exact (h hid).of_iff (and_iff_right hid)
  · rw [changeAt_of_ne hid]
    exact (DecidedBy.ok x).of_iff (iff_false_intro fun hboth => hid hboth.left)

/-- A change that goes item by item fails on the grounds of any item. -/
theorem ItemByItem.decidedBy {F : α → Except Failure α} {A : List α → Except Failure (List α)}
    (hA : ItemByItem F A) {grounds : α → Prop} {xs : List α}
    (h : ∀ x ∈ xs, DecidedBy kind (grounds x) (F x)) :
    DecidedBy kind (∃ x ∈ xs, grounds x) (A xs) := by
  induction xs with
  | nil =>
      rw [hA.left]
      exact (DecidedBy.ok []).of_iff (iff_false_intro (by simp))
  | cons x xs ih =>
      rcases forall_mem_cons.mp h with ⟨hx, hxs⟩
      rw [exists_mem_cons_iff, hA.right]
      constructor
      case fails =>
        intro hgrounds
        -- The first item that cannot be changed gives the failure.
        by_cases hfirst : grounds x
        · exact (hx.fails hfirst).bind _
        · rcases hx.succeeds hfirst with ⟨y, hy⟩
          rw [hy]
          exact ((ih hxs).fails (hgrounds.resolve_left hfirst)).bind _
      case succeeds =>
        intro hnone
        rcases not_or.mp hnone with ⟨hfirst, hrest⟩
        rcases hx.succeeds hfirst with ⟨y, hy⟩
        rcases (ih hxs).succeeds hrest with ⟨ys, hys⟩
        exact ⟨y :: ys, bind_eq_ok.mpr ⟨y, hy, bind_eq_ok.mpr ⟨ys, hys, rfl⟩⟩⟩

theorem DecidedBy.fails_iff (h : DecidedBy kind p r) : Fails (Failure.IsOf kind) r ↔ p := by
  constructor
  · intro hfails
    rcases hfails with ⟨failure, rfl, _⟩
    by_contra hp
    rcases h.succeeds hp with ⟨y, hy⟩
    cases hy
  · exact h.fails

theorem DecidedBy.succeeds_iff (h : DecidedBy kind p r) : (∃ y, r = .ok y) ↔ ¬ p := by
  constructor
  · intro hsucceeds hp
    rcases hsucceeds with ⟨y, rfl⟩
    rcases h.fails hp with ⟨failure, hfailure, _⟩
    cases hfailure
  · exact h.succeeds

theorem decidedBy_tryGroups {id : Text} {f : Group ν → Except Failure (Group ν)}
    {grounds : Group ν → Prop} {groups : List (Group ν)}
    (h : ∀ g ∈ groups, g.id = id → DecidedBy kind (grounds g) (f g)) :
    DecidedBy kind (∃ g ∈ groups, g.id = id ∧ grounds g) (tryGroups id f groups) :=
  (itemByItem_tryGroups id f).decidedBy fun g hg => decidedBy_changeAt (h g hg)

theorem decidedBy_changeConditions {id : Text} {f : Condition → Except Failure Condition}
    {grounds : Condition → Prop} {g : Group ν}
    (h : ∀ c ∈ g.conditions, DecidedBy kind (grounds c) (f c)) :
    DecidedBy kind (∃ c ∈ g.conditions, c.id = id ∧ grounds c) (changeConditions id f g) := by
  have hconditions : DecidedBy kind (∃ c ∈ g.conditions, c.id = id ∧ grounds c)
      (tryConditions id f g.conditions) :=
    (itemByItem_tryConditions id f).decidedBy fun c hc => decidedBy_changeAt fun _ => h c hc
  exact hconditions.map _

end Decided

/-!
# Names
-/

/-- Data is the name of one of the options, or of none of them. -/
theorem named?_cases {α : Type} (name : α → String) {options : List (String × α)}
    (hnames : ∀ o ∈ options, o.1 = name o.2) (hall : ∀ a, (name a, a) ∈ options) (v : Value) :
    (named? options v = none ∧ ∀ a, v ≠ .text (Text.ofString (name a))) ∨
      ∃ a, named? options v = some a ∧ v = .text (Text.ofString (name a)) := by
  cases hnamed : named? options v with
  | none =>
      refine Or.inl ⟨rfl, ?_⟩
      intro a hv
      rw [hv, named?, Option.map_eq_none_iff] at hnamed
      exact find?_named_eq_none.mp hnamed _ (hall a) rfl
  | some a =>
      refine Or.inr ⟨a, rfl, ?_⟩
      cases v with
      | text t =>
          rcases Option.map_eq_some_iff.mp hnamed with ⟨o, ho, rfl⟩
          have hname := find?_some ho
          rw [← hnames o (mem_of_find?_eq_some ho), of_decide_eq_true hname]
      | _ => cases hnamed

theorem named?_operator_cases (v : Value) :
    (named? LogicalOperator.options v = none ∧ ∀ o : LogicalOperator, v ≠ .text o.name) ∨
      ∃ o : LogicalOperator, named? LogicalOperator.options v = some o ∧ v = .text o.name := by
  refine named?_cases LogicalOperator.name (by decide) ?_ v
  intro o
  cases o <;> decide

theorem named?_conditionField_cases (v : Value) :
    (named? Condition.Field.options v = none ∧ ∀ f : Condition.Field, v ≠ .text f.name) ∨
      ∃ f : Condition.Field, named? Condition.Field.options v = some f ∧ v = .text f.name := by
  refine named?_cases Condition.Field.name (by decide) ?_ v
  intro f
  cases f <;> decide

theorem named?_rowField_cases (v : Value) :
    (named? Row.Field.options v = none ∧ ∀ f : Row.Field, v ≠ .text f.name) ∨
      ∃ f : Row.Field, named? Row.Field.options v = some f ∧ v = .text f.name := by
  refine named?_cases Row.Field.name (by decide) ?_ v
  intro f
  cases f <;> decide

theorem named?_noticeField_cases (v : Value) :
    (named? Notice.Field.options v = none ∧ ∀ f : Notice.Field, v ≠ .text f.name) ∨
      ∃ f : Notice.Field, named? Notice.Field.options v = some f ∧ v = .text f.name := by
  refine named?_cases Notice.Field.name (by decide) ?_ v
  intro f
  cases f <;> decide

/-!
# One group or condition
-/

section Nodes

variable {group condition : Text} {v : Value}

theorem decidedBy_dropCondition (g : Group ν) :
    DecidedBy .lastCondition (∃ c, g.conditions = [c] ∧ c.id = condition)
      (dropCondition group condition g) where
  fails := by
    intro hlast
    rcases hlast with ⟨c, hc, hid⟩
    have hfound : ¬ (g.findCondition condition).isNone = true := by
      rw [findCondition_isNone_iff, hc]
      intro hnever
      exact hnever c mem_cons_self hid
    rw [dropCondition, if_neg hfound, if_pos (by rw [hc]; rfl)]
    exact ⟨_, rfl, rfl⟩
  succeeds := by
    intro hnot
    rw [dropCondition_isOk_iff]
    intro c hc hid
    exact hnot ⟨c, hc, hid⟩

theorem decidedBy_replaceField (field : Condition.Field) (c : Condition) :
    DecidedBy .validation (¬ field.Takes v) (replaceField group condition field v c) := by
  unfold replaceField
  cases hread : c.withField field v with
  | ok d =>
      have htakes : field.Takes v := Condition.withField_isOk_iff.mp ⟨d, hread⟩
      exact (DecidedBy.ok d).of_iff (iff_false_intro fun hnot => hnot htakes)
  | error issues =>
      refine DecidedBy.refused (.badConditionField _ _ _ _) ?_
      intro htakes
      rcases (Condition.withField_isOk_iff (c := c)).mpr htakes with ⟨d, hd⟩
      rw [hread] at hd
      cases hd

theorem decidedBy_replaceNotice (field : Notice.Field) {g : MixedGroup} {n : Notice}
    (hfilled : g.conditions ≠ []) (hn : g.notice = some n) :
    DecidedBy .validation (¬ v.IsCleanText) (replaceNotice group field v g) := by
  have hnotice : g.notice? = some n := hn
  rw [replaceNotice, hnotice]
  dsimp only
  rw [noticeIssues_of_filled hfilled, ← Checked.cleanText_isOk_iff]
  cases hread : Checked.cleanText v with
  | ok t => exact (DecidedBy.ok _).of_iff (iff_false_intro fun hnot => hnot ⟨t, rfl⟩)
  | error issues => exact DecidedBy.refused (.badNoticeField _ _ _) nofun

end Nodes

/-!
# Edits of groups
-/

section Edits

variable {groups : List MixedGroup} {group condition : Text} {field v : Value}

theorem decidedBy_setOperatorNamed :
    DecidedBy .validation ((Edit.setOperator group v).Grounds groups)
      (setOperatorNamed group v groups) := by
  rw [setOperatorNamed]
  rcases named?_operator_cases v with ⟨hnamed, hnever⟩ | ⟨o, hnamed, ho⟩
  · rw [hnamed]
    exact DecidedBy.refused (.unknownOperator v) hnever
  · rw [hnamed]
    exact (DecidedBy.ok _).of_iff (iff_false_intro fun hnever => hnever o ho)

theorem decidedBy_removeCondition :
    DecidedBy .lastCondition ((Edit.removeCondition group condition).Grounds groups)
      (removeCondition group condition groups) :=
  decidedBy_tryGroups fun g _ _ => decidedBy_dropCondition g

theorem decidedBy_updateConditionNamed :
    DecidedBy .validation ((Edit.updateCondition group condition field v).Grounds groups)
      (updateConditionNamed group condition field v groups) := by
  rw [updateConditionNamed]
  rcases named?_conditionField_cases field with ⟨hnamed, hnever⟩ | ⟨known, hnamed, hfield⟩
  · rw [hnamed]
    exact DecidedBy.refused (.fixedConditionField field) (Or.inl hnever)
  · rw [hnamed]
    have hdecided : DecidedBy .validation
        (∃ g ∈ groups, g.id = group ∧ ∃ c ∈ g.conditions, c.id = condition ∧ ¬ known.Takes v)
        (updateCondition group condition known v groups) :=
      decidedBy_tryGroups fun g _ _ =>
        decidedBy_changeConditions fun c _ => decidedBy_replaceField known c
    refine hdecided.of_iff ?_
    constructor
    · intro hgrounds
      rcases hgrounds with hnever | ⟨f, hf, htakes⟩
      · exact absurd hfield (hnever known)
      · rw [hfield] at hf
        injection hf with hname
        rw [Condition.Field.name_inj (Text.ofString_inj hname)]
        exact htakes
    · intro htakes
      exact Or.inr ⟨known, hfield, htakes⟩

theorem decidedBy_updateNoticeNamed (h : (Edit.updateNotice group field v).Suits groups) :
    DecidedBy .validation ((Edit.updateNotice group field v).Grounds groups)
      (updateNoticeNamed group field v groups) := by
  rw [updateNoticeNamed]
  rcases named?_noticeField_cases field with ⟨hnamed, hnever⟩ | ⟨known, hnamed, hfield⟩
  · rw [hnamed]
    exact DecidedBy.refused (.fixedNoticeField field) (Or.inl hnever)
  · rw [hnamed]
    have hdecided : DecidedBy .validation (∃ g ∈ groups, g.id = group ∧ ¬ v.IsCleanText)
        (updateNotice group known v groups) := by
      apply decidedBy_tryGroups
      intro g hg hid
      rcases h g hg hid with ⟨hfilled, n, hn⟩
      exact decidedBy_replaceNotice known hfilled hn
    refine hdecided.of_iff ?_
    constructor
    · intro hgrounds
      rcases hgrounds with hnever | ⟨⟨g, hg, hid⟩, hclean⟩
      · exact absurd hfield (hnever known)
      · exact ⟨g, hg, hid, hclean⟩
    · intro haimed
      rcases haimed with ⟨g, hg, hid, hclean⟩
      exact Or.inr ⟨⟨g, hg, hid⟩, hclean⟩

/-- Where no condition is aimed at, any value for a known field changes nothing. -/
theorem updateConditionNamed_of_absent (f : Condition.Field)
    (habsent : ∀ g ∈ groups, g.id = group → ∀ c ∈ g.conditions, c.id ≠ condition) :
    updateConditionNamed group condition (.text f.name) v groups = .ok groups := by
  have hnamed : named? Condition.Field.options (.text f.name) = some f := by
    cases f <;> rfl
  rw [updateConditionNamed, hnamed]
  apply (itemByItem_tryGroups group _).eq_self
  intro g hg
  by_cases hid : g.id = group
  · rw [changeAt_of_eq hid]
    refine changeConditions_eq_ok.mpr ⟨g.conditions, ?_, rfl⟩
    apply (itemByItem_tryConditions condition _).eq_self
    intro c hc
    exact changeAt_of_ne (habsent g hg hid c hc)
  · exact changeAt_of_ne hid

end Edits

theorem decidedBy_perform (s : Session) {e : Edit} (h : e.Suits s.groups) :
    DecidedBy e.refusalKind (e.Grounds s.groups) (s.perform e) := by
  cases e with
  | setOperator group operator => exact decidedBy_setOperatorNamed.map _
  | removeCondition group condition => exact decidedBy_removeCondition.map _
  | updateCondition group condition field value => exact decidedBy_updateConditionNamed.map _
  | updateNotice group field value => exact (decidedBy_updateNoticeNamed h).map _
  | reconcile => exact h.elim
  | _ => exact DecidedBy.ok _

/--
An edit fails exactly on its grounds, with the refusal that belongs to it, and without grounds
it succeeds.  So adding anything and removing a group never fail, and a value counts only for
the nodes with the ids that the edit is aimed at: where there are none, nothing changes.  And
a field takes a value exactly if the whole condition can be read again with the value in it.
-/
theorem refused_iff_grounds (s : Session) :
    (∀ e : Edit, e.Suits s.groups →
      (Fails (Failure.IsOf e.refusalKind) (s.perform e) ↔ e.Grounds s.groups) ∧
        ((∃ s', s.perform e = .ok s') ↔ ¬ e.Grounds s.groups)) ∧
      (∀ (group condition : Text) (field : Condition.Field) (value : Value),
        (∀ g ∈ s.groups, g.id = group → ∀ c ∈ g.conditions, c.id ≠ condition) →
          s.perform (.updateCondition group condition (.text field.name) value) = .ok s) ∧
        ∀ g ∈ s.groups, ∀ c ∈ g.conditions, c.Sound → ∀ (field : Condition.Field) (value : Value),
          field.Takes value ↔
            ∃ d, (Condition.intake (c.toValue.putField field.name value)).Settles d := by
  refine ⟨?_, ?_, ?_⟩
  · intro e he
    have hdecided := decidedBy_perform s he
    exact ⟨hdecided.fails_iff, hdecided.succeeds_iff⟩
  · intro group condition field value habsent
    exact congrArg s.withGroups (updateConditionNamed_of_absent field habsent)
  · intro g _ c _ hsound field value
    exact (Condition.settles_putField_iff hsound).symm

/-- Two groups share an id, and one of them holds one condition. -/
def sharing : Session :=
  ⟨[noticed.mixed, Group.mixed { uncoded with id := "g" }], [], .numbered "n"⟩

theorem wasRead_sharing : ∀ g ∈ sharing.groups, WasRead g := by
  intro g hg
  simp only [sharing, mem_cons, not_mem_nil, or_false] at hg
  rcases hg with rfl | rfl
  · exact Or.inr ⟨noticed.toValue, noticed, ⟨.numbered [], rfl⟩, rfl⟩
  · exact Or.inr ⟨Group.toValue { uncoded with id := "g" }, _, ⟨.numbered [], rfl⟩, rfl⟩

theorem refused_iff_grounds_sharing :
    let message := Edit.updateNotice "g" (.text "error_message") (.text Text.loneSurrogate)
    message.Suits sharing.groups ∧
      Fails (Failure.IsOf .validation) (sharing.perform message) ∧
      Fails (Failure.IsOf .lastCondition) (sharing.perform (.removeCondition "g" "e")) ∧
      (∃ s', sharing.perform (.removeCondition "g" "d") = .ok s') ∧
      sharing.perform (.updateCondition "g" "x" (.text "key") (.text Text.loneSurrogate)) =
        .ok sharing ∧
      ∃ d, (Condition.intake ((Condition.blank "e" false).toValue.putField
        (Text.ofString "negate") (.text "YES"))).Settles d := by
  intro message
  have hnotices : ∀ g ∈ sharing.groups, ∃ n, g.notice = some n := by
    intro g hg
    simp only [sharing, mem_cons, not_mem_nil, or_false] at hg
    rcases hg with rfl | rfl <;> exact ⟨_, rfl⟩
  have hsuits : message.Suits sharing.groups := suits_of_wasRead wasRead_sharing hnotices nofun
  have hunclean : ¬ (Value.text Text.loneSurrogate).IsCleanText := by
    intro hclean
    rcases hclean with ⟨t, ht, heq⟩
    cases heq
    cases ht _ mem_cons_self
  have hkept : ¬ (Edit.removeCondition "g" "d").Grounds sharing.groups := by
    intro hgrounds
    rcases hgrounds with ⟨g, hg, _, c, hc, hid⟩
    simp only [sharing, mem_cons, not_mem_nil, or_false] at hg
    rcases hg with rfl | rfl
    · cases hc
    · cases hc
      revert hid
      decide
  have htakes : Condition.Field.negate.Takes (.text "YES") :=
    Or.inr ⟨true, .word (w := "yes") (by decide) (by decide)⟩
  have hsound : (Condition.blank "e" false).Sound := sound_blank (Text.encodable_ofString "e") false
  rcases refused_iff_grounds sharing with ⟨hgrounds, habsent, hread⟩
  refine ⟨hsuits, ?_, ?_, ?_, ?_, ?_⟩
  · refine (hgrounds message hsuits).left.mpr ?_
    exact Or.inr ⟨⟨noticed.mixed, mem_cons_self, rfl⟩, hunclean⟩
  · refine (hgrounds (.removeCondition "g" "e") trivial).left.mpr ?_
    exact ⟨_, mem_cons_of_mem _ mem_cons_self, rfl, _, rfl, rfl⟩
  · exact (hgrounds (.removeCondition "g" "d") trivial).right.mpr hkept
  · apply habsent "g" "x" .key (.text Text.loneSurrogate)
    decide
  · exact (hread _ (mem_cons_of_mem _ mem_cons_self) _ mem_cons_self hsound .negate _).mp htakes

end Editor
end RuleDraft
