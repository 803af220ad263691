import RuleDraft.Proofs.Intake.Scalars
import RuleDraft.Proofs.Text.Characters

/-!
# Rules read again from their data

A reading is stable if all that it gives from encodable ids is given again by the
reading of its data, with no fresh id drawn.  For each type of a rule tree the two
halves are stated apart: what is read is sound, and what is sound is read from its data.
-/

namespace RuleDraft

open Intake

variable {ν : Type}

/-- What was read is read again, unchanged and without a fresh id, from its data. -/
def Intake.Stable {α : Type} (read : Value → Intake α) (write : α → Value) : Prop :=
  ∀ v ids x, ids.Encodable → ((read v).run ids).1 = .ok x → (read (write x)).Settles x

theorem Intake.Stable.of_sound {α : Type} {read : Value → Intake α} {write : α → Value}
    {Sound : α → Prop} (hread : ∀ v, (read v).Ensures Sound)
    (hwrite : ∀ x, Sound x → (read (write x)).Settles x) : Stable read write := by
  intro v ids x hids hx
  exact hwrite x ((hread v ids hids).left x hx)

/-!
# Fields of records
-/

def Value.recordFields (fields : List (String × Value)) : List (Text × Value) :=
  fields.map fun f => (Text.ofString f.1, f.2)

theorem Value.get?_recordFields {fields : List (String × Value)} {name : String} {v : Value}
    (h : (fields.find? fun f => f.1 = name).map Prod.snd = some v) :
    Keyed.get? (Text.ofString name) (recordFields fields) = some v := by
  induction fields with
  | nil => cases h
  | cons f fields ih =>
      rw [recordFields, List.map_cons, Keyed.get?]
      by_cases hname : f.1 = name
      · rw [List.find?_cons_of_pos (by simpa using hname)] at h
        rw [if_pos (congrArg Text.ofString hname)]
        exact h
      · rw [List.find?_cons_of_neg (by simpa using hname)] at h
        rw [if_neg (fun heq => hname (Text.ofString_inj heq))]
        exact ih h

section Fields

variable {α : Type} {absent : Intake α} {read : Value → Intake α} {name : String}
  {fields : List (Text × Value)}

theorem settles_field {named : List (String × Value)} {v : Value} {x : α}
    (h : (named.find? fun f => f.1 = name).map Prod.snd = some v) (hr : (read v).Settles x) :
    (optional (Value.recordFields named) name absent read).Settles x :=
  settles_optional (Value.get?_recordFields h) hr

theorem ensures_text (default : Text) (h : default.Encodable) :
    (optional fields name (pure default) (lift Checked.cleanText)).Ensures Text.Encodable :=
  ensures_optional (ensures_pure h)
    fun _ => ensures_lift fun _ => Checked.encodable_of_cleanText

theorem ensures_id :
    (optional fields name fresh (lift Checked.cleanText)).Ensures Text.Encodable :=
  ensures_optional ensures_fresh fun _ => ensures_lift fun _ => Checked.encodable_of_cleanText

theorem ensures_anything (default : α) (read : Value → Checked α) :
    (optional fields name (pure default) (lift read)).Ensures fun _ => True :=
  ensures_optional (ensures_pure trivial) fun _ => ensures_lift fun _ _ => trivial

theorem ensures_nodes {Sound : α → Prop} (hread : ∀ v, (read v).Ensures Sound) :
    (optional fields name (pure []) (list read)).Ensures fun xs => ∀ x ∈ xs, Sound x := by
  apply ensures_optional
  · apply ensures_pure
    intro x hx
    cases hx
  · exact ensures_list hread

end Fields

/-!
# Conditions
-/

/-- The texts of the condition have encodings. -/
structure Condition.Sound (c : Condition) : Prop where
  id : c.id.Encodable
  key : c.key.Encodable
  value : c.value.Encodable

theorem Condition.ensures_intake (v : Value) : (intake v).Ensures Sound := by
  apply ensures_record
  intro fields
  have hvalue : (optional fields "value" (pure .empty) (lift Operand.readClean)).Ensures
      Operand.Encodable :=
    ensures_optional (ensures_pure Operand.encodable_empty)
      fun _ => ensures_lift fun _ => Operand.encodable_of_readClean
  apply (ensures_seq (ensures_seq (ensures_seq (ensures_seq (ensures_seq (ensures_map
    ensures_id) (ensures_text [] Text.encodable_nil)) (ensures_anything _ _)) hvalue)
    (ensures_anything _ _)) (ensures_anything _ _)).mono
  rintro c ⟨_, m, ⟨_, n, ⟨_, value, ⟨_, type, ⟨_, key, ⟨id, hid, rfl⟩, hkey, rfl⟩, _, rfl⟩,
    hoperand, rfl⟩, _, rfl⟩, _, rfl⟩
  exact ⟨hid, hkey, hoperand⟩

theorem Condition.settles_intake {c : Condition} (h : c.Sound) :
    (intake c.toValue).Settles c := by
  rcases h with ⟨hid, hkey, hvalue⟩
  cases c with
  | mk id key type value negate mandatory =>
      refine settles_seq (settles_seq (settles_seq (settles_seq (settles_seq (settles_map
        ?id) ?key) ?type) ?value) ?negate) ?mandatory
      case id => exact settles_field rfl (settles_lift (Checked.cleanText_text hid))
      case key => exact settles_field rfl (settles_lift (Checked.cleanText_text hkey))
      case type => exact settles_field rfl (settles_lift (readType_name type))
      case value => exact settles_field rfl (settles_lift (Operand.readClean_toValue hvalue))
      case negate => exact settles_field rfl (settles_lift (readFlag_flagValue negate))
      case mandatory => exact settles_field rfl (settles_lift (readFlag_flagValue mandatory))

/-!
# Groups
-/

structure Notice.Sound (n : Notice) : Prop where
  code : n.code.Encodable
  message : n.message.Encodable

/-- The group holds a condition, and all its texts have encodings. -/
structure Group.Sound [HasNotice ν] (g : Group ν) : Prop where
  id : g.id.Encodable
  nonempty : g.conditions ≠ []
  conditions : ∀ c ∈ g.conditions, c.Sound
  notice : ∀ n, g.notice? = some n → n.Sound

namespace Group

theorem ensures_conditionsIntake (v : Value) :
    (conditionsIntake v).Ensures fun cs => cs ≠ [] ∧ ∀ c ∈ cs, c.Sound := by
  apply (ensures_guarded (ensures_list Condition.ensures_intake v)).mono
  rintro cs ⟨hsound, hcheck⟩
  refine ⟨?_, hsound⟩
  rintro rfl
  cases hcheck

theorem ensures_intakeWith [HasNotice ν] {model : String}
    {notice : List (Text × Value) → Intake ν}
    (hnotice : ∀ fields,
      (notice fields).Ensures fun x => ∀ n, HasNotice.notice? x = some n → n.Sound)
    (v : Value) : (intakeWith model notice v).Ensures Sound := by
  apply ensures_record
  intro fields
  apply (ensures_seq (ensures_seq (ensures_seq (ensures_map
    ensures_id) (ensures_anything _ _)) (ensures_required ensures_conditionsIntake))
    (hnotice fields)).mono
  rintro g ⟨_, n, ⟨_, cs, ⟨_, operator, ⟨id, hid, rfl⟩, _, rfl⟩, hcs, rfl⟩, hn, rfl⟩
  exact ⟨hid, hcs.left, hcs.right, hn⟩

theorem ensures_plainIntake (v : Value) : (plainIntake v).Ensures Sound := by
  apply ensures_intakeWith
  intro fields
  apply ensures_pure
  intro n hn
  cases hn

theorem ensures_validationIntake (v : Value) : (validationIntake v).Ensures Sound := by
  apply ensures_intakeWith
  intro fields
  apply (ensures_seq (ensures_map (ensures_text _ (Text.encodable_ofString _)))
    (ensures_text _ (Text.encodable_ofString _))).mono
  rintro n ⟨_, message, ⟨code, hcode, rfl⟩, hmessage, rfl⟩ n' hn'
  cases hn'
  exact ⟨hcode, hmessage⟩

theorem settles_conditionsIntake {cs : List Condition} (hne : cs ≠ [])
    (hcs : ∀ c ∈ cs, c.Sound) :
    (conditionsIntake (.list (cs.map Condition.toValue))).Settles cs := by
  refine settles_guarded (settles_list fun c hc => Condition.settles_intake (hcs c hc)) ?_
  cases cs with
  | nil => exact absurd rfl hne
  | cons c cs => rfl

def named [HasNotice ν] (g : Group ν) : List (String × Value) :=
  [("id", .text g.id), ("operator", .text g.operator.name),
    ("conditions", .list (g.conditions.map Condition.toValue))] ++ noticeFields g.notice?

/-- The data of a group are read with any notice that is read from them. -/
theorem settles_intakeWith {μ : Type} [HasNotice ν] {model : String}
    {notice : List (Text × Value) → Intake μ} {g : Group ν} {n : μ} (hg : g.Sound)
    (hnotice : (notice (Value.recordFields g.named)).Settles n) :
    (intakeWith model notice g.toValue).Settles (g.withNotice n) := by
  refine settles_seq (settles_seq (settles_seq (settles_map
    ?id) ?operator) ?conditions) hnotice
  case id => exact settles_field rfl (settles_lift (Checked.cleanText_text hg.id))
  case operator => exact settles_field rfl (settles_lift (LogicalOperator.chosen_name _ _))
  case conditions =>
    exact settles_field rfl (settles_conditionsIntake hg.nonempty hg.conditions)

/-- Read as a plain group, the data of any group give the group without its notice. -/
theorem settles_plainIntake [HasNotice ν] {g : Group ν} (hg : g.Sound) :
    (plainIntake g.toValue).Settles g.forget :=
  settles_intakeWith hg (settles_pure ())

theorem settles_validationIntake {g : ValidationGroup} (hg : g.Sound) :
    (validationIntake g.toValue).Settles g := by
  have hn := hg.notice g.notice rfl
  refine settles_intakeWith (n := g.notice) hg (settles_seq (settles_map ?code) ?message)
  case code => exact settles_field rfl (settles_lift (Checked.cleanText_text hn.code))
  case message => exact settles_field rfl (settles_lift (Checked.cleanText_text hn.message))

end Group

/-!
# Rows
-/

structure Row.Sound (r : Row) : Prop where
  id : r.id.Encodable
  key : r.key.Encodable
  value : r.value.Encodable

theorem Row.ensures_intake (v : Value) : (intake v).Ensures Sound := by
  apply ensures_record
  intro fields
  apply (ensures_seq (ensures_seq (ensures_map
    ensures_id) (ensures_text [] Text.encodable_nil)) (ensures_text [] Text.encodable_nil)).mono
  rintro r ⟨_, value, ⟨_, key, ⟨id, hid, rfl⟩, hkey, rfl⟩, hvalue, rfl⟩
  exact ⟨hid, hkey, hvalue⟩

theorem Row.settles_intake {r : Row} (h : r.Sound) : (intake r.toValue).Settles r := by
  rcases h with ⟨hid, hkey, hvalue⟩
  cases r with
  | mk id key value =>
      refine settles_seq (settles_seq (settles_map ?id) ?key) ?value
      case id => exact settles_field rfl (settles_lift (Checked.cleanText_text hid))
      case key => exact settles_field rfl (settles_lift (Checked.cleanText_text hkey))
      case value => exact settles_field rfl (settles_lift (Checked.cleanText_text hvalue))

/-!
# Lists of nodes
-/

section Lists

variable {named : List (String × Value)} {name : String}

theorem settles_rows {rows : List Row}
    (h : (named.find? fun f => f.1 = name).map Prod.snd = some (.list (rows.map Row.toValue)))
    (hrows : ∀ r ∈ rows, r.Sound) :
    (optional (Value.recordFields named) name (pure []) (list Row.intake)).Settles rows :=
  settles_field h (settles_list fun r hr => Row.settles_intake (hrows r hr))

theorem settles_groups {groups : List ConditionGroup}
    (h : (named.find? fun f => f.1 = name).map Prod.snd =
      some (.list (groups.map Group.toValue))) (hgroups : ∀ g ∈ groups, g.Sound) :
    (optional (Value.recordFields named) name (pure []) (list Group.plainIntake)).Settles
      groups :=
  settles_field h (settles_list fun g hg => Group.settles_plainIntake (hgroups g hg))

theorem settles_validations {absent : Intake (List ValidationGroup)}
    {groups : List ValidationGroup}
    (h : (named.find? fun f => f.1 = name).map Prod.snd =
      some (.list (groups.map Group.toValue))) (hgroups : ∀ g ∈ groups, g.Sound) :
    (optional (Value.recordFields named) name absent (list Group.validationIntake)).Settles
      groups :=
  settles_field h (settles_list fun g hg => Group.settles_validationIntake (hgroups g hg))

end Lists

/-!
# Forms
-/

/-- Every text of the form has an encoding, and every group holds a condition. -/
structure VendorForm.Sound (f : VendorForm) : Prop where
  vendor : f.vendor.Encodable
  endpoint : f.endpoint.Encodable
  timeout : f.timeout.Encodable
  headers : ∀ r ∈ f.headers, r.Sound
  body : ∀ r ∈ f.body, r.Sound
  preconditions : ∀ g ∈ f.preconditions, g.Sound
  responseMappings : ∀ g ∈ f.responseMappings, g.Sound
  responseTemplate : ∀ r ∈ f.responseTemplate, r.Sound

theorem VendorForm.ensures_intake (v : Value) : (intake v).Ensures Sound := by
  apply ensures_record
  intro fields
  apply (ensures_seq (ensures_seq (ensures_seq (ensures_seq (ensures_seq (ensures_seq
    (ensures_seq (ensures_seq (ensures_seq (ensures_map
    (ensures_text [] Text.encodable_nil))
    (ensures_text [] Text.encodable_nil))
    (ensures_anything _ _))
    (ensures_text [] Text.encodable_nil))
    (ensures_nodes Row.ensures_intake))
    (ensures_anything _ _))
    (ensures_nodes Row.ensures_intake))
    (ensures_nodes Group.ensures_plainIntake))
    (ensures_nodes Group.ensures_plainIntake))
    (ensures_nodes Row.ensures_intake)).mono
  rintro f ⟨_, template, ⟨_, mappings, ⟨_, preconditions, ⟨_, body, ⟨_, retries, ⟨_, headers,
    ⟨_, timeout, ⟨_, method, ⟨_, endpoint, ⟨vendor, hvendor, rfl⟩, hendpoint, rfl⟩, _, rfl⟩,
    htimeout, rfl⟩, hheaders, rfl⟩, _, rfl⟩, hbody, rfl⟩, hpreconditions, rfl⟩, hmappings,
    rfl⟩, htemplate, rfl⟩
  exact ⟨hvendor, hendpoint, htimeout, hheaders, hbody, hpreconditions, hmappings, htemplate⟩

theorem VendorForm.settles_intake {f : VendorForm} (h : f.Sound) :
    (intake f.toValue).Settles f := by
  rcases h with ⟨hvendor, hendpoint, htimeout, hheaders, hbody, hpreconditions, hmappings,
    htemplate⟩
  cases f with
  | mk vendor endpoint method timeout headers retryCases body preconditions mappings template =>
      refine settles_seq (settles_seq (settles_seq (settles_seq (settles_seq (settles_seq
        (settles_seq (settles_seq (settles_seq (settles_map ?vendor) ?endpoint) ?method)
        ?timeout) ?headers) ?retryCases) ?body) ?preconditions) ?mappings) ?template
      case vendor => exact settles_field rfl (settles_lift (Checked.cleanText_text hvendor))
      case endpoint => exact settles_field rfl (settles_lift (Checked.cleanText_text hendpoint))
      case method => exact settles_field rfl (settles_lift (readMethod_name method))
      case timeout => exact settles_field rfl (settles_lift (Checked.cleanText_text htimeout))
      case headers => exact settles_rows rfl hheaders
      case retryCases => exact settles_field rfl (settles_lift (RetryCase.list_names retryCases))
      case body => exact settles_rows rfl hbody
      case preconditions => exact settles_groups rfl hpreconditions
      case mappings => exact settles_groups rfl hmappings
      case template => exact settles_rows rfl htemplate

structure ConfigForm.Sound (f : ConfigForm) : Prop where
  validations : ∀ g ∈ f.validations, g.Sound
  readWrite : ∀ r ∈ f.readWrite, r.Sound

theorem ConfigForm.ensures_intake (v : Value) : (intake v).Ensures Sound := by
  apply ensures_record
  intro fields
  apply (ensures_seq (ensures_seq (ensures_map
    (ensures_nodes Group.ensures_validationIntake)) (ensures_anything _ _))
    (ensures_nodes Row.ensures_intake)).mono
  rintro f ⟨_, rows, ⟨_, additional, ⟨groups, hgroups, rfl⟩, _, rfl⟩, hrows, rfl⟩
  exact ⟨hgroups, hrows⟩

theorem ConfigForm.settles_intake {f : ConfigForm} (h : f.Sound) :
    (intake f.toValue).Settles f := by
  rcases h with ⟨hvalidations, hrows⟩
  cases f with
  | mk validations additional readWrite =>
      refine settles_seq (settles_seq (settles_map ?validations) ?additional) ?readWrite
      case validations => exact settles_validations rfl hvalidations
      case additional => exact settles_field rfl (settles_lift rfl)
      case readWrite => exact settles_rows rfl hrows

end RuleDraft
