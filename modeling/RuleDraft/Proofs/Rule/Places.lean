import RuleDraft.Proofs.Rule.Revised

/-!
# Fields as places

A field is a place in a node.  Data is read into the place without a look at the node, and
what was read goes into this place alone.  So the last content of a place counts, and
contents of two places may be put in one after the other, in either order.
-/

namespace RuleDraft

variable {F α : Type}

/-- The places of a kind of node, by their fields. -/
structure Places (F α : Type) where
  Content : F → Type
  read : (f : F) → Value → Checked (Content f)
  set : (f : F) → Content f → α → α
  set_set : ∀ f a b x, set f b (set f a x) = set f b x
  set_comm : ∀ f g a b x, f ≠ g → set g b (set f a x) = set f a (set g b x)

def Places.put (P : Places F α) (f : F) (v : Value) (x : α) : Checked α :=
  (P.read f v).map fun a => P.set f a x

/--
A node is read from the data of another one with a value in the place of a field, and it has
the rest of these data.
-/
structure Revision (read : Value → Intake α) (write : α → Value) (name : String) (v : Value)
    (x y : α) : Prop where
  reread : (read ((write x).putField (Text.ofString name) v)).Settles y
  others : ∀ other, other ≠ Text.ofString name → (write y).field? other = (write x).field? other

/-!
# Data of nodes
-/

theorem Value.field?_putField (data : Value) {name other : Text} (v : Value)
    (h : other ≠ name) : (data.putField name v).field? other = data.field? other := by
  cases data with
  | object fields => exact (Keyed.get?_put name other v fields).trans (if_neg fun heq => h heq.symm)
  | _ => rfl

theorem Value.field?_record (named : List (String × Value)) (name : String) :
    (Value.record named).field? (Text.ofString name) =
      (named.find? fun f => f.1 = name).map Prod.snd := by
  cases h : (named.find? fun f => f.1 = name).map Prod.snd with
  | some data => exact get?_recordFields h
  | none =>
      have hkeys : ∀ f ∈ named, f.1 ≠ name := by
        simpa using h
      induction named with
      | nil => rfl
      | cons f named ih =>
          rcases List.forall_mem_cons.mp hkeys with ⟨hf, hnamed⟩
          refine (if_neg fun heq => hf (Text.ofString_inj heq)).trans (ih ?_ hnamed)
          simpa using hnamed

theorem Value.eq_of_field? {named : List (String × Value)} {name : String} {v : Value}
    (data : Value) (h : (named.find? fun f => f.1 = name).map Prod.snd = some data)
    (hv : (Value.record named).field? (Text.ofString name) = some v) : data = v := by
  rw [field?_record, h] at hv
  exact Option.some.inj hv

theorem Checked.eq_text_of_cleanText {v : Value} {t : Text} (h : cleanText v = .ok t) :
    v = .text t := by
  have htext := (guarded_eq_ok.mp h).left
  cases v with
  | text u =>
      cases htext
      rfl
  | _ => cases htext

/-- A node whose data are those of an old one with a value in a place, and are read again. -/
theorem Revision.of_data {read : Value → Intake α} {write : α → Value} {name : String}
    {v : Value} {x y : α} (hdata : write y = (write x).putField (Text.ofString name) v)
    (hread : (read (write y)).Settles y) : Revision read write name v x y where
  reread := by
    rw [← hdata]
    exact hread
  others := by
    intro other hother
    rw [hdata]
    exact Value.field?_putField (write x) v hother

/-!
# Conditions
-/

namespace Condition

variable {c d : Condition} {field : Field} {v : Value}

def places : Places Field Condition where
  Content
    | .key => Text
    | .type => ConditionType
    | .value => Operand
    | .negate => Option Bool
    | .mandatory => Option Bool
  read
    | .key => Checked.cleanText
    | .type => readType
    | .value => Operand.readClean
    | .negate => readFlag
    | .mandatory => readFlag
  set
    | .key => fun key c => { c with key }
    | .type => fun type c => { c with type }
    | .value => fun value c => { c with value }
    | .negate => fun negate c => { c with negate }
    | .mandatory => fun mandatory c => { c with mandatory }
  set_set := by
    intro f a b c
    cases f <;> rfl
  set_comm := by
    intro f g a b c hfg
    cases f <;> cases g <;> first | rfl | exact absurd rfl hfg

theorem withField_eq_put (field : Field) (v : Value) (c : Condition) :
    c.withField field v = places.put field v c := by
  cases field <;> rfl

theorem revision_of_withField (hc : c.Sound) (h : c.withField field v = .ok d) :
    Revision intake toValue field.name v c d :=
  have hrevised := revised_of_withField h
  ⟨hrevised.reread hc, hrevised.others⟩

/-- The data that a field holds are read as what the field is. -/
theorem withField_held (hc : c.Sound)
    (hv : c.toValue.field? (Text.ofString field.name) = some v) :
    c.withField field v = .ok c := by
  cases field with
  | key =>
      rcases Value.eq_of_field? (.text c.key) rfl hv
      rw [withField, Checked.cleanText_text hc.key]
      rfl
  | type =>
      rcases Value.eq_of_field? (.text c.type.name) rfl hv
      rw [withField, readType_name]
      rfl
  | value =>
      rcases Value.eq_of_field? c.value.toValue rfl hv
      rw [withField, Operand.readClean_toValue hc.value]
      rfl
  | negate =>
      rcases Value.eq_of_field? (flagValue c.negate) rfl hv
      rw [withField, readFlag_flagValue]
      rfl
  | mandatory =>
      rcases Value.eq_of_field? (flagValue c.mandatory) rfl hv
      rw [withField, readFlag_flagValue]
      rfl

end Condition

/-!
# Rows
-/

namespace Row

variable {r r' : Row} {field : Field} {v : Value}

def places : Places Field Row where
  Content _ := Text
  read _ := Checked.cleanText
  set
    | .key => fun key r => { r with key }
    | .value => fun value r => { r with value }
  set_set := by
    intro f a b r
    cases f <;> rfl
  set_comm := by
    intro f g a b r hfg
    cases f <;> cases g <;> first | rfl | exact absurd rfl hfg

theorem withField_eq_put (field : Field) (v : Value) (r : Row) :
    r.withField field v = places.put field v r := by
  cases field <;> rfl

theorem revision_of_withField (hr : r'.Sound) (h : r.withField field v = .ok r') :
    Revision intake toValue field.name v r r' := by
  refine Revision.of_data ?_ (settles_intake hr)
  have hput : r.toValue.putField (Text.ofString field.name) v =
      Value.record (Keyed.put field.name v [("id", r.id), ("key", r.key), ("value", r.value)]) :=
    Value.putField_record _ _ _
  rw [hput]
  cases field
  all_goals
    rcases map_eq_ok.mp h with ⟨t, ht, rfl⟩
    rw [Checked.eq_text_of_cleanText ht]
    rfl

theorem withField_held (hr : r.Sound)
    (hv : r.toValue.field? (Text.ofString field.name) = some v) :
    r.withField field v = .ok r := by
  cases field with
  | key =>
      rcases Value.eq_of_field? (.text r.key) rfl hv
      rw [withField, Checked.cleanText_text hr.key]
      rfl
  | value =>
      rcases Value.eq_of_field? (.text r.value) rfl hv
      rw [withField, Checked.cleanText_text hr.value]
      rfl

end Row

/-!
# Notices of groups
-/

def Notice.get (field : Field) (n : Notice) : Text :=
  match field with
  | .code => n.code
  | .message => n.message

theorem Notice.Sound.get {n : Notice} (h : n.Sound) (field : Field) :
    (n.get field).Encodable := by
  cases field with
  | code => exact h.code
  | message => exact h.message

namespace Group

variable {g : MixedGroup} {n : Notice} {field : Notice.Field} {v : Value} {t : Text}

/-- The fields of the notice of a group, if it has one. -/
def noticePlaces : Places Notice.Field MixedGroup where
  Content _ := Text
  read f v := (Checked.cleanText v).under (.field f.name)
  set f t g := { g with notice := g.notice.map (Notice.set f t) }
  set_set := by
    intro f a b g
    cases hn : g.notice with
    | none => rfl
    | some n => cases f <;> rfl
  set_comm := by
    intro f g a b x hfg
    cases hn : x.notice with
    | none => rfl
    | some n => cases f <;> cases g <;> first | rfl | exact absurd rfl hfg

/-- Read a group with a notice among groups that may have one. -/
def intakeNoticed (v : Value) : Intake MixedGroup :=
  (fun g : ValidationGroup => g.withNotice (some g.notice)) <$> validationIntake v

theorem settles_intakeNoticed (hn : g.notice = some n) (hg : g.Sound) :
    (intakeNoticed g.toValue).Settles g := by
  cases g with
  | mk id operator conditions notice =>
      cases hn
      have hsound : (Group.mk id operator conditions n).Sound :=
        ⟨hg.id, hg.nonempty, hg.conditions, hg.notice⟩
      exact Intake.settles_map (settles_validationIntake hsound)

theorem toValue_set_notice (hn : g.notice = some n) (field : Notice.Field) (t : Text) :
    (noticePlaces.set field t g).toValue =
      g.toValue.putField (Text.ofString field.name) (.text t) := by
  have hput : g.toValue.putField (Text.ofString field.name) (.text t) =
      Value.record (Keyed.put field.name (.text t) g.named) :=
    Value.putField_record g.named field.name (.text t)
  rw [hput]
  cases g with
  | mk id operator conditions notice =>
      cases hn
      cases field <;> rfl

theorem revision_of_set_notice (hn : g.notice = some n) (hg : (noticePlaces.set field t g).Sound) :
    Revision intakeNoticed toValue field.name (.text t) g (noticePlaces.set field t g) := by
  have hset : (noticePlaces.set field t g).notice = some (n.set field t) :=
    congrArg (Option.map (Notice.set field t)) hn
  exact Revision.of_data (toValue_set_notice hn field t) (settles_intakeNoticed hset hg)

/-- A field holds a text of the notice, and with this text in its place the group is the same. -/
theorem set_notice_held (hv : g.toValue.field? (Text.ofString field.name) = some v) :
    ∃ n, g.notice = some n ∧ v = .text (n.get field) ∧
      noticePlaces.set field (n.get field) g = g := by
  cases g with
  | mk id operator conditions notice =>
      cases notice with
      | none =>
          rw [toValue, Value.field?_record] at hv
          cases field <;> cases hv
      | some n =>
          cases field with
          | code =>
              rcases Value.eq_of_field? (.text n.code) rfl hv
              exact ⟨n, rfl, rfl, rfl⟩
          | message =>
              rcases Value.eq_of_field? (.text n.message) rfl hv
              exact ⟨n, rfl, rfl, rfl⟩

end Group

end RuleDraft
