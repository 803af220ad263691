import RuleDraft.Proofs.Editor.Encodable
import RuleDraft.Proofs.Editor.Independent
import RuleDraft.Proofs.Editor.RowEdits

/-!
# Edits that are refused for their data

An edit that would put data with a surrogate into a node is refused.  Where nothing has
the ids that it is aimed at, the same edit changes nothing, so in both cases the groups
and rows stay as they are.
-/

namespace RuleDraft

def Failure.IsInvalid : Failure → Prop
  | .refused refusal => refusal.kind = .validation
  | _ => False

namespace Editor

open List

/-- The data that the edit would put into nodes. -/
def Edit.data? : Edit → Option Value
  | .setOperator _ operator => some operator
  | .updateCondition _ _ _ value => some value
  | .updateNotice _ _ value => some value
  | _ => none

/-- The edit is aimed at a node that can take its data. -/
def Edit.AimsAt (groups : List MixedGroup) : Edit → Prop
  | .setOperator _ _ => True
  | .updateCondition group condition _ _ =>
      ∃ g ∈ groups, g.id = group ∧ ∃ c ∈ g.conditions, c.id = condition
  | .updateNotice group _ _ =>
      (∃ g ∈ groups, g.id = group) ∧ ∀ g ∈ groups, g.id = group → ∃ n, g.notice = some n
  | _ => False

/-!
# Changes that fail or change nothing
-/

def Fails {α : Type} (P : Failure → Prop) (r : Except Failure α) : Prop :=
  ∃ e, r = .error e ∧ P e

/-- The change fails, or it is aimed at nothing and changes nothing. -/
def Keeps {α : Type} (P : Failure → Prop) (r : Except Failure α) (x : α) (aimed : Prop) : Prop :=
  Fails P r ∨ (r = .ok x ∧ ¬ aimed)

section Changes

variable {α : Type} {P : Failure → Prop} {r : Except Failure α} {x : α} {aimed aimed' : Prop}

theorem Fails.bind {β : Type} (h : Fails P r) (f : α → Except Failure β) : Fails P (r >>= f) := by
  rcases h with ⟨e, rfl, he⟩
  exact ⟨e, rfl, he⟩

theorem Fails.map {β : Type} (h : Fails P r) (f : α → β) : Fails P (r.map f) := by
  rcases h with ⟨e, rfl, he⟩
  exact ⟨e, rfl, he⟩

theorem Keeps.fails (h : Keeps P r x aimed) (haimed : aimed) : Fails P r :=
  h.resolve_right fun hsame => hsame.right haimed

theorem Keeps.cons {s : Except Failure (List α)} {xs : List α} (h : Keeps P r x aimed)
    (h' : Keeps P s xs aimed') :
    Keeps P (r >>= fun y => s >>= fun ys => .ok (y :: ys)) (x :: xs) (aimed ∨ aimed') := by
  rcases h with hfails | ⟨rfl, hnot⟩
  · exact Or.inl (hfails.bind _)
  · rcases h' with hfails | ⟨rfl, hnot'⟩
    · exact Or.inl (hfails.bind _)
    · exact Or.inr ⟨rfl, not_or.mpr ⟨hnot, hnot'⟩⟩

/-- A change that goes item by item fails for some item, or it is aimed at none. -/
theorem ItemByItem.keeps {F : α → Except Failure α} {A : List α → Except Failure (List α)}
    (hA : ItemByItem F A) {Aimed : α → Prop} {xs : List α}
    (h : ∀ x ∈ xs, Keeps P (F x) x (Aimed x)) : Keeps P (A xs) xs (∃ x ∈ xs, Aimed x) := by
  induction xs with
  | nil => exact Or.inr ⟨hA.left, by simp⟩
  | cons x xs ih =>
      rcases forall_mem_cons.mp h with ⟨hx, hxs⟩
      rw [hA.right, exists_mem_cons_iff]
      exact hx.cons (ih hxs)

theorem keeps_changeAt {idOf : α → Text} {id : Text} {f : α → Except Failure α}
    (h : idOf x = id → Keeps P (f x) x aimed) :
    Keeps P (changeAt idOf id f x) x (idOf x = id ∧ aimed) := by
  by_cases hid : idOf x = id
  · rw [changeAt_of_eq hid]
    rcases h hid with hfails | ⟨hsame, hnot⟩
    · exact Or.inl hfails
    · exact Or.inr ⟨hsame, fun hboth => hnot hboth.right⟩
  · rw [changeAt_of_ne hid]
    exact Or.inr ⟨rfl, fun hboth => hid hboth.left⟩

/-- A change that fails wherever it is made is aimed at every item with the id. -/
theorem keeps_changeAt_of_fails {idOf : α → Text} {id : Text} {f : α → Except Failure α}
    (h : Fails P (f x)) : Keeps P (changeAt idOf id f x) x (idOf x = id) := by
  have haimed : Keeps P (changeAt idOf id f x) x (idOf x = id ∧ True) :=
    keeps_changeAt fun _ => Or.inl h
  rw [and_true] at haimed
  exact haimed

end Changes

section Nodes

variable {P : Failure → Prop} {id : Text}

theorem keeps_tryConditions {f : Condition → Except Failure Condition}
    (hf : ∀ c, Fails P (f c)) (conditions : List Condition) :
    Keeps P (tryConditions id f conditions) conditions (∃ c ∈ conditions, c.id = id) :=
  (itemByItem_tryConditions id f).keeps fun c _ => keeps_changeAt_of_fails (hf c)

theorem keeps_tryGroups {f : MixedGroup → Except Failure MixedGroup} {Takes : MixedGroup → Prop}
    {groups : List MixedGroup} (hf : ∀ g ∈ groups, g.id = id → Keeps P (f g) g (Takes g)) :
    Keeps P (tryGroups id f groups) groups (∃ g ∈ groups, g.id = id ∧ Takes g) :=
  (itemByItem_tryGroups id f).keeps fun g hg => keeps_changeAt (hf g hg)

theorem itemByItem_updateRow (id : Text) (field : Row.Field) (v : Value) :
    ItemByItem (changeAt Row.id id (replaceRowField id field v)) (updateRow id field v) :=
  ⟨rfl, updateRow_cons id field v⟩

theorem keeps_updateRow {field : Row.Field} {v : Value}
    (hf : ∀ r, Fails P (replaceRowField id field v r)) (rows : List Row) :
    Keeps P (updateRow id field v rows) rows (∃ r ∈ rows, r.id = id) :=
  (itemByItem_updateRow id field v).keeps fun r _ => keeps_changeAt_of_fails (hf r)

end Nodes

/-!
# Refused fields
-/

section Fields

variable {v : Value}

theorem fails_replaceField (hv : ¬ v.Encodable) (group condition : Text)
    (field : Condition.Field) (c : Condition) :
    Fails Failure.IsInvalid (replaceField group condition field v c) := by
  unfold replaceField
  cases hfield : c.withField field v with
  | ok d => exact absurd (sound_withField hfield).left hv
  | error issues => exact ⟨_, rfl, rfl⟩

theorem fails_replaceRowField (hv : ¬ v.Encodable) (id : Text) (field : Row.Field) (r : Row) :
    Fails Failure.IsInvalid (replaceRowField id field v r) := by
  unfold replaceRowField
  cases hfield : r.withField field v with
  | ok r' => exact absurd (sound_rowWithField hfield).left hv
  | error issues => exact ⟨_, rfl, rfl⟩

theorem refuses_replaceNotice (hv : ¬ v.Encodable) (group : Text) (field : Notice.Field)
    {g : MixedGroup} {n : Notice} (hn : g.notice = some n) :
    Fails Failure.IsInvalid (replaceNotice group field v g) := by
  have hnotice : g.notice? = some n := hn
  unfold replaceNotice
  rw [hnotice]
  dsimp only
  cases hissues : noticeIssues g field v with
  | error issues => exact ⟨_, rfl, rfl⟩
  | ok t =>
      rcases Checked.apply_eq_ok.mp hissues with ⟨_, u, _, hu, _⟩
      exact absurd (Checked.encodable_data_of_cleanText (Checked.under_eq_ok.mp hu)) hv

theorem fails_replaceNotice (hv : ¬ v.Encodable) (group : Text) (field : Notice.Field)
    (g : MixedGroup) : Fails (fun _ => True) (replaceNotice group field v g) := by
  cases hn : g.notice with
  | some n =>
      rcases refuses_replaceNotice hv group field hn with ⟨failure, hfailure, _⟩
      exact ⟨failure, hfailure, trivial⟩
  | none =>
      have hnotice : g.notice? = none := hn
      unfold replaceNotice
      rw [hnotice]
      exact ⟨_, rfl, trivial⟩

theorem fails_setOperatorNamed (hv : ¬ v.Encodable) (group : Text) (groups : List MixedGroup) :
    Fails Failure.IsInvalid (setOperatorNamed group v groups) := by
  have hnone : named? LogicalOperator.options v = none := by
    cases v with
    | text t =>
        rw [named?, Option.map_eq_none_iff, find?_eq_none]
        intro o _ ho
        -- The text would be the name of an operator, and names have no surrogates.
        rw [← of_decide_eq_true ho] at hv
        exact hv (Text.encodable_ofString o.1)
    | _ => rfl
  unfold setOperatorNamed
  rw [hnone]
  exact ⟨_, rfl, rfl⟩

end Fields

/-!
# Refused edits of groups
-/

theorem keeps_updateConditionNamed {v : Value} (hv : ¬ v.Encodable) (group condition : Text)
    (field : Value) (groups : List MixedGroup) :
    Keeps Failure.IsInvalid (updateConditionNamed group condition field v groups) groups
      (∃ g ∈ groups, g.id = group ∧ ∃ c ∈ g.conditions, c.id = condition) := by
  unfold updateConditionNamed
  cases named? Condition.Field.options field with
  | none => exact Or.inl ⟨_, rfl, rfl⟩
  | some known =>
      apply keeps_tryGroups
      intro g _ _
      have hconditions : Keeps Failure.IsInvalid
          (tryConditions condition (replaceField group condition known v) g.conditions)
          g.conditions (∃ c ∈ g.conditions, c.id = condition) :=
        keeps_tryConditions (fails_replaceField hv group condition known) g.conditions
      rcases hconditions with hfails | ⟨hsame, hnot⟩
      · exact Or.inl (hfails.bind _)
      · refine Or.inr ⟨?_, hnot⟩
        rw [hsame]
        rfl

theorem keeps_updateNoticeNamed {P : Failure → Prop} {v : Value} {group : Text}
    {groups : List MixedGroup} (field : Value) (hunknown : ∀ f, P (.refused (.fixedNoticeField f)))
    (hf : ∀ g ∈ groups, g.id = group → ∀ known, Fails P (replaceNotice group known v g)) :
    Keeps P (updateNoticeNamed group field v groups) groups
      (∃ g ∈ groups, g.id = group ∧ True) := by
  unfold updateNoticeNamed
  cases named? Notice.Field.options field with
  | none => exact Or.inl ⟨_, rfl, hunknown field⟩
  | some known => exact keeps_tryGroups fun g hg hid => Or.inl (hf g hg hid known)

theorem step_of_keeps {s : Session} {e : Edit} {r : Except Failure (List MixedGroup)}
    {P : Failure → Prop} {aimed : Prop} (hperform : s.perform e = s.withGroups r)
    (h : Keeps P r s.groups aimed) : s.step e = s := by
  unfold Session.step
  rw [hperform]
  rcases h with ⟨failure, rfl, _⟩ | ⟨rfl, _⟩ <;> rfl

theorem step_of_surrogate {s : Session} {e : Edit} {v : Value} (he : e.data? = some v)
    (hv : ¬ v.Encodable) :
    s.step e = s ∧ (e.AimsAt s.groups → Fails Failure.IsInvalid (s.perform e)) := by
  cases e with
  | setOperator group operator =>
      cases he
      have hrefused := fails_setOperatorNamed hv group s.groups
      have hkeeps : Keeps Failure.IsInvalid (setOperatorNamed group v s.groups) s.groups True :=
        Or.inl hrefused
      exact ⟨step_of_keeps rfl hkeeps, fun _ => hrefused.map _⟩
  | updateCondition group condition field value =>
      cases he
      have hkeeps := keeps_updateConditionNamed hv group condition field s.groups
      exact ⟨step_of_keeps rfl hkeeps, fun haims => (hkeeps.fails haims).map _⟩
  | updateNotice group field value =>
      cases he
      constructor
      · refine step_of_keeps rfl (keeps_updateNoticeNamed (P := fun _ => True) field
          (fun _ => trivial) ?_)
        intro g _ _ known
        exact fails_replaceNotice hv group known g
      · rintro ⟨⟨g, hg, hid⟩, hnotices⟩
        have hrefused : ∀ g ∈ s.groups, g.id = group → ∀ known,
            Fails Failure.IsInvalid (replaceNotice group known v g) := by
          intro g hg hid known
          rcases hnotices g hg hid with ⟨n, hn⟩
          exact refuses_replaceNotice hv group known hn
        have hkeeps := keeps_updateNoticeNamed field (fun _ => rfl) hrefused
        exact (hkeeps.fails ⟨g, hg, hid, trivial⟩).map _
  | _ => cases he

/-!
# Refused edits of rows
-/

theorem turnRows_of_surrogate {rows : List Row} {t : RowTurn} {row : Text} {field v : Value}
    (he : t.edit = .update row field v) (hv : ¬ v.Encodable) :
    turnRows rows t = rows ∧
      ((∃ r ∈ rows, r.id = row) → Fails Failure.IsInvalid (performRows rows t)) := by
  have hkeeps : Keeps Failure.IsInvalid (performRows rows t) rows (∃ r ∈ rows, r.id = row) := by
    unfold performRows
    rw [he]
    dsimp only
    unfold updateRowNamed
    cases named? Row.Field.options field with
    | none => exact Or.inl ⟨_, rfl, rfl⟩
    | some known => exact keeps_updateRow (fails_replaceRowField hv row known) rows
  refine ⟨?_, hkeeps.fails⟩
  unfold turnRows
  rcases hkeeps with ⟨failure, hfailure, _⟩ | ⟨hsame, _⟩
  · rw [hfailure]
  · rw [hsame]

end Editor
end RuleDraft
