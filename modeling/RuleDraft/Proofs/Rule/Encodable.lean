import RuleDraft.Proofs.Intake.Required
import RuleDraft.Proofs.Rule.Stable

/-!
# Rules without surrogates

A node, or a form, is encodable as data exactly when its own texts and its parts are.
The models screen their data: what is read from encodable ids is encodable, and data
with a surrogate in a field that a model declares is not read at all, at whatever depth
of nodes the field stands.
-/

namespace RuleDraft

open Intake

variable {ν : Type}

/-!
# Encodable nodes
-/

theorem Condition.encodable_toValue {c : Condition} : c.toValue.Encodable ↔ c.Sound := by
  have hflag (b : Option Bool) : (flagValue b).Encodable := by
    cases b <;> trivial
  rw [toValue, Value.encodable_record]
  constructor
  · intro h
    simp only [List.forall_mem_cons] at h
    exact ⟨h.left, h.right.left, Operand.encodable_toValue.mp h.right.right.right.left⟩
  · rintro ⟨hid, hkey, hvalue⟩
    simp [hid, hkey, Operand.encodable_toValue.mpr hvalue, hflag]

theorem Group.encodable_noticeFields {n : Option Notice} :
    (∀ f ∈ noticeFields n, f.2.Encodable) ↔ ∀ m, n = some m → m.Sound := by
  cases n with
  | none => simp [noticeFields]
  | some n =>
      constructor
      · rintro h m ⟨⟩
        simp only [noticeFields, List.forall_mem_cons] at h
        exact ⟨h.left, h.right.left⟩
      · intro h
        rcases h n rfl with ⟨hcode, hmessage⟩
        simp [noticeFields, hcode, hmessage]

theorem Group.encodable_toValue [HasNotice ν] {g : Group ν} :
    g.toValue.Encodable ↔
      g.id.Encodable ∧ (∀ c ∈ g.conditions, c.Sound) ∧ ∀ n, g.notice? = some n → n.Sound := by
  have hconditions : (Value.list (g.conditions.map Condition.toValue)).Encodable ↔
      ∀ c ∈ g.conditions, c.Sound := by
    rw [Value.encodable_list_map]
    exact forall₂_congr fun c _ => Condition.encodable_toValue
  rw [toValue, Value.encodable_record, List.forall_mem_append, encodable_noticeFields]
  simp [hconditions, and_assoc]

theorem Row.encodable_toValue {r : Row} : r.toValue.Encodable ↔ r.Sound := by
  rw [toValue, Value.encodable_record]
  constructor
  · intro h
    simp only [List.forall_mem_cons] at h
    exact ⟨h.left, h.right.left, h.right.right.left⟩
  · rintro ⟨hid, hkey, hvalue⟩
    simp [hid, hkey, hvalue]

/-!
# Encodable forms
-/

theorem VendorForm.encodable_toValue {f : VendorForm} :
    f.toValue.Encodable ↔
      (∀ t ∈ [f.vendor, f.endpoint, f.timeout], t.Encodable) ∧
        (∀ r ∈ f.headers ++ f.body ++ f.responseTemplate, r.toValue.Encodable) ∧
          ∀ g ∈ f.preconditions ++ f.responseMappings, g.toValue.Encodable := by
  have hretries : (Value.texts (f.retryCases.map fun r => Text.ofString r.name)).Encodable := by
    rw [Value.encodable_texts, List.forall_mem_map]
    exact fun r _ => Text.encodable_ofString r.name
  rw [toValue, Value.encodable_record]
  -- The method is shown by a name in either case.
  cases f.method with
  | none =>
      simp only [List.forall_mem_cons, List.forall_mem_append, Value.encodable_list_map,
        Value.encodable_text, hretries, Text.encodable_ofString, List.not_mem_nil,
        false_implies, implies_true]
      tauto
  | some m =>
      simp only [List.forall_mem_cons, List.forall_mem_append, Value.encodable_list_map,
        Value.encodable_text, hretries, Text.encodable_ofString, List.not_mem_nil,
        false_implies, implies_true]
      tauto

theorem ConfigForm.encodable_toValue {f : ConfigForm} :
    f.toValue.Encodable ↔
      (∀ g ∈ f.validations, g.toValue.Encodable) ∧ ∀ r ∈ f.readWrite, r.toValue.Encodable := by
  rw [toValue, Value.encodable_record]
  simp [Value.encodable_list_map]

/-!
# Sound nodes and forms
-/

theorem Group.Sound.encodable [HasNotice ν] {g : Group ν} (h : g.Sound) :
    g.toValue.Encodable :=
  encodable_toValue.mpr ⟨h.id, h.conditions, h.notice⟩

theorem VendorForm.Sound.encodable {f : VendorForm} (h : f.Sound) : f.toValue.Encodable := by
  refine encodable_toValue.mpr ⟨?texts, ?rows, ?groups⟩
  case texts =>
    simp [h.vendor, h.endpoint, h.timeout]
  case rows =>
    simp only [List.forall_mem_append, Row.encodable_toValue]
    exact ⟨⟨h.headers, h.body⟩, h.responseTemplate⟩
  case groups =>
    rw [List.forall_mem_append]
    exact ⟨fun g hg => (h.preconditions g hg).encodable,
      fun g hg => (h.responseMappings g hg).encodable⟩

theorem ConfigForm.Sound.encodable {f : ConfigForm} (h : f.Sound) : f.toValue.Encodable :=
  encodable_toValue.mpr ⟨fun g hg => (h.validations g hg).encodable,
    fun r hr => Row.encodable_toValue.mpr (h.readWrite r hr)⟩

/-!
# Declared data

A model declares fields by name, of its own and of the nodes in its lists.  Fields that
no model declares are dropped when data is read.
-/

/-- The value stands in a field of the data that has one of the names. -/
def Value.Under (names : List String) (v w : Value) : Prop :=
  ∃ name ∈ names, v.field? (Text.ofString name) = some w

def Value.UnderItems (names : List String) (Declares : Value → Value → Prop)
    (v w : Value) : Prop :=
  ∃ name ∈ names, ∃ items,
    v.field? (Text.ofString name) = some (.list items) ∧ ∃ item ∈ items, Declares item w

def Condition.Declares : Value → Value → Prop :=
  Value.Under ["id", "key", "type", "value", "negate", "mandatory"]

/-- The value stands in a field of a group or of one of its conditions. -/
def Group.Declares (v w : Value) : Prop :=
  Value.Under ["id", "operator"] v w ∨ Value.UnderItems ["conditions"] Condition.Declares v w

def Group.DeclaresWithNotice (v w : Value) : Prop :=
  Declares v w ∨ Value.Under ["error_code", "error_message"] v w

def Row.Declares : Value → Value → Prop :=
  Value.Under ["id", "key", "value"]

/-- The value stands in a field of a vendor form, or of one of its rows or groups. -/
def VendorForm.Declares (v w : Value) : Prop :=
  Value.Under ["vendor", "endpoint", "method", "timeout", "retry_cases"] v w ∨
    Value.UnderItems ["headers", "body", "response_template"] Row.Declares v w ∨
      Value.UnderItems ["preconditions", "response_mappings"] Group.Declares v w

def ConfigForm.Declares (v w : Value) : Prop :=
  Value.Under ["additional_validations"] v w ∨
    Value.UnderItems ["validations"] Group.DeclaresWithNotice v w ∨
      Value.UnderItems ["read_write"] Row.Declares v w

/-!
# Nodes that require encodable fields
-/

/-- The field, if it is there, is as required. -/
def AtField (fields : List (Text × Value)) (name : String) (P : Value → Prop) : Prop :=
  ∀ w, Keyed.get? (Text.ofString name) fields = some w → P w

/-- Every declared value of the data is encodable. -/
def Clean (Declares : Value → Value → Prop) (v : Value) : Prop := ∀ w, Declares v w → w.Encodable

def CleanItems (Declares : Value → Value → Prop) (v : Value) : Prop :=
  ∀ vs, v = .list vs → ∀ w ∈ vs, Clean Declares w

section Fields

variable {fields : List (Text × Value)} {Declares Declares' : Value → Value → Prop} {v : Value}

theorem clean_under {names : List String}
    (h : ∀ name ∈ names, AtField fields name Value.Encodable) :
    Clean (Value.Under names) (.object fields) := by
  rintro w ⟨name, hname, hw⟩
  exact h name hname w hw

theorem clean_underItems {names : List String}
    (h : ∀ name ∈ names, AtField fields name (CleanItems Declares)) :
    Clean (Value.UnderItems names Declares) (.object fields) := by
  rintro w ⟨name, hname, items, hitems, item, hitem, hw⟩
  exact h name hname _ hitems items rfl item hitem w hw

theorem Clean.or (h : Clean Declares v) (h' : Clean Declares' v) :
    Clean (fun v w => Declares v w ∨ Declares' v w) v := by
  rintro w (hw | hw)
  · exact h w hw
  · exact h' w hw

end Fields

theorem requires_clean_text (v : Value) : (lift Checked.cleanText v).Requires v.Encodable :=
  requires_lift fun _ => Checked.encodable_data_of_cleanText

theorem Condition.requires_clean (v : Value) : (intake v).Requires (Clean Declares v) := by
  intro c hc
  rcases accepts_record hc with ⟨fields, rfl, hfields⟩
  rcases requires_seq (requires_seq (requires_seq (requires_seq (requires_seq (requires_map
    (requires_optional requires_clean_text))
    (requires_optional requires_clean_text))
    (requires_optional fun _ => requires_lift fun _ => Checked.encodable_data_of_chosen))
    (requires_optional fun _ => requires_lift fun _ => Operand.encodable_data_of_readClean))
    (requires_optional fun _ => requires_lift fun _ => encodable_data_of_readFlag))
    (requires_optional fun _ => requires_lift fun _ => encodable_data_of_readFlag) c hfields with
    ⟨⟨⟨⟨⟨hid, hkey⟩, htype⟩, hvalue⟩, hnegate⟩, hmandatory⟩
  apply clean_under
  simp only [List.forall_mem_cons]
  exact ⟨hid, hkey, htype, hvalue, hnegate, hmandatory, List.forall_mem_nil _⟩

theorem Row.requires_clean (v : Value) : (intake v).Requires (Clean Declares v) := by
  intro r hr
  rcases accepts_record hr with ⟨fields, rfl, hfields⟩
  rcases requires_seq (requires_seq (requires_map
    (requires_optional requires_clean_text))
    (requires_optional requires_clean_text))
    (requires_optional requires_clean_text) r hfields with ⟨⟨hid, hkey⟩, hvalue⟩
  apply clean_under
  simp only [List.forall_mem_cons]
  exact ⟨hid, hkey, hvalue, List.forall_mem_nil _⟩

theorem Group.requires_clean_conditions (v : Value) :
    (conditionsIntake v).Requires (CleanItems Condition.Declares v) := by
  intro cs hcs
  exact requires_list Condition.requires_clean v cs (accepts_guarded hcs).left

theorem Group.requires_clean_with {model : String} {notice : List (Text × Value) → Intake ν}
    {P : List (Text × Value) → Prop} (hnotice : ∀ fields, (notice fields).Requires (P fields))
    (v : Value) :
    (intakeWith model notice v).Requires
      (∃ fields, v = .object fields ∧ Clean Declares v ∧ P fields) := by
  intro g hg
  rcases accepts_record hg with ⟨fields, rfl, hfields⟩
  rcases requires_seq (requires_seq (requires_seq (requires_map
    (requires_optional requires_clean_text))
    (requires_optional fun _ => requires_lift fun _ => Checked.encodable_data_of_chosen))
    (requires_required requires_clean_conditions))
    (hnotice fields) g hfields with ⟨⟨⟨hid, hoperator⟩, hconditions⟩, hrest⟩
  refine ⟨fields, rfl, Clean.or (clean_under ?_) (clean_underItems ?_), hrest⟩
  · simp only [List.forall_mem_cons]
    exact ⟨hid, hoperator, List.forall_mem_nil _⟩
  · exact List.forall_mem_singleton.mpr hconditions

theorem Group.requires_clean (v : Value) : (plainIntake v).Requires (Clean Declares v) := by
  intro g hg
  rcases requires_clean_with (P := fun _ => True) (fun _ _ _ => trivial) v g hg with
    ⟨_, _, hclean, _⟩
  exact hclean

theorem Group.requires_clean_notice (fields : List (Text × Value)) :
    (noticeIntake fields).Requires
      (AtField fields "error_code" Value.Encodable ∧
        AtField fields "error_message" Value.Encodable) :=
  requires_seq (requires_map (requires_optional requires_clean_text))
    (requires_optional requires_clean_text)

theorem Group.requires_clean_validation (v : Value) :
    (validationIntake v).Requires (Clean DeclaresWithNotice v) := by
  intro g hg
  rcases requires_clean_with requires_clean_notice v g hg with
    ⟨fields, rfl, hclean, hcode, hmessage⟩
  refine hclean.or (clean_under ?_)
  simp only [List.forall_mem_cons]
  exact ⟨hcode, hmessage, List.forall_mem_nil _⟩

/-!
# Forms that require encodable fields
-/

theorem VendorForm.requires_clean (v : Value) : (intake v).Requires (Clean Declares v) := by
  intro f hf
  rcases accepts_record hf with ⟨fields, rfl, hfields⟩
  have hrows (name : String) : (optional fields name (pure []) (list Row.intake)).Requires
      (AtField fields name (CleanItems Row.Declares)) :=
    requires_optional (requires_list Row.requires_clean)
  have hgroups (name : String) : (optional fields name (pure [])
      (list Group.plainIntake)).Requires (AtField fields name (CleanItems Group.Declares)) :=
    requires_optional (requires_list Group.requires_clean)
  rcases requires_seq (requires_seq (requires_seq (requires_seq (requires_seq (requires_seq
    (requires_seq (requires_seq (requires_seq (requires_map
    (requires_optional requires_clean_text))
    (requires_optional requires_clean_text))
    (requires_optional fun _ => requires_lift fun _ => encodable_data_of_readMethod))
    (requires_optional requires_clean_text))
    (hrows "headers"))
    (requires_optional fun _ => requires_lift fun _ =>
      Checked.encodable_data_of_list fun _ _ => Checked.encodable_data_of_chosen))
    (hrows "body"))
    (hgroups "preconditions"))
    (hgroups "response_mappings"))
    (hrows "response_template") f hfields with
    ⟨⟨⟨⟨⟨⟨⟨⟨⟨hvendor, hendpoint⟩, hmethod⟩, htimeout⟩, hheaders⟩, hretries⟩, hbody⟩,
      hpreconditions⟩, hmappings⟩, htemplate⟩
  refine Clean.or (clean_under ?texts) (Clean.or (clean_underItems ?rows)
    (clean_underItems ?groups))
  case texts =>
    simp only [List.forall_mem_cons]
    exact ⟨hvendor, hendpoint, hmethod, htimeout, hretries, List.forall_mem_nil _⟩
  case rows =>
    simp only [List.forall_mem_cons]
    exact ⟨hheaders, hbody, htemplate, List.forall_mem_nil _⟩
  case groups =>
    simp only [List.forall_mem_cons]
    exact ⟨hpreconditions, hmappings, List.forall_mem_nil _⟩

theorem ConfigForm.requires_clean (v : Value) : (intake v).Requires (Clean Declares v) := by
  intro f hf
  rcases accepts_record hf with ⟨fields, rfl, hfields⟩
  rcases requires_seq (requires_seq (requires_map
    (requires_optional (requires_list Group.requires_clean_validation)))
    (requires_optional fun _ => requires_lift fun _ => Checked.encodable_data_of_bool))
    (requires_optional (requires_list Row.requires_clean)) f hfields with
    ⟨⟨hvalidations, hadditional⟩, hrows⟩
  refine Clean.or (clean_under ?flag) (Clean.or (clean_underItems ?groups)
    (clean_underItems ?rows))
  case flag => exact List.forall_mem_singleton.mpr hadditional
  case groups => exact List.forall_mem_singleton.mpr hvalidations
  case rows => exact List.forall_mem_singleton.mpr hrows

/-!
# Models that screen their data
-/

/--
What is read from encodable ids is encodable data, and data in which a declared value has
a surrogate is refused, whatever the ids.
-/
structure Screens {α : Type} (read : Value → Intake α) (write : α → Value)
    (Declares : Value → Value → Prop) : Prop where
  keeps : ∀ v ids x, ids.Encodable → ((read v).run ids).1 = .ok x → (write x).Encodable
  refuses : ∀ v w, Declares v w → ¬ w.Encodable →
    ∀ ids, ∃ issues, ((read v).run ids).1 = .error issues

theorem Screens.of_requires {α : Type} {read : Value → Intake α} {write : α → Value}
    {Declares : Value → Value → Prop} (hread : ∀ v, (read v).Ensures fun x => (write x).Encodable)
    (hclean : ∀ v, (read v).Requires (Clean Declares v)) : Screens read write Declares := by
  refine ⟨?keeps, ?refuses⟩
  case keeps =>
    intro v ids x hids hx
    exact (hread v ids hids).left x hx
  case refuses =>
    intro v w hw hsurrogate ids
    exact (hclean v).error (fun hall => hsurrogate (hall w hw)) ids

theorem models_screen :
    Screens Condition.intake Condition.toValue Condition.Declares ∧
      Screens Group.plainIntake Group.toValue Group.Declares ∧
      Screens Group.validationIntake Group.toValue Group.DeclaresWithNotice ∧
      Screens Row.intake Row.toValue Row.Declares ∧
      Screens VendorForm.intake VendorForm.toValue VendorForm.Declares ∧
      Screens ConfigForm.intake ConfigForm.toValue ConfigForm.Declares := by
  refine ⟨?condition, ?plain, ?validation, ?row, ?vendor, ?config⟩
  case condition =>
    exact .of_requires (fun v => (Condition.ensures_intake v).mono
      fun _ => Condition.encodable_toValue.mpr) Condition.requires_clean
  case plain =>
    exact .of_requires (fun v => (Group.ensures_plainIntake v).mono
      fun _ => Group.Sound.encodable) Group.requires_clean
  case validation =>
    exact .of_requires (fun v => (Group.ensures_validationIntake v).mono
      fun _ => Group.Sound.encodable) Group.requires_clean_validation
  case row =>
    exact .of_requires (fun v => (Row.ensures_intake v).mono
      fun _ => Row.encodable_toValue.mpr) Row.requires_clean
  case vendor =>
    exact .of_requires (fun v => (VendorForm.ensures_intake v).mono
      fun _ => VendorForm.Sound.encodable) VendorForm.requires_clean
  case config =>
    exact .of_requires (fun v => (ConfigForm.ensures_intake v).mono
      fun _ => ConfigForm.Sound.encodable) ConfigForm.requires_clean

end RuleDraft
