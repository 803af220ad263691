import RuleDraft.Editor.Request
import RuleDraft.Proofs.Json.Encodings
import RuleDraft.Rule.Form
import RuleDraft.Service.Payload

/-!
# What readings of requests find

Whatever a reading finds against a request is told in words that are fixed in advance: the
location is made of declared names, of labels of readings and of places in lists, and the
sentence is one of a few, some with a number in it.  This is put together along the combinators
of readings, from what each reader of a single value finds.
-/

namespace RuleDraft
namespace Service

/-!
# Words
-/

/-- The names of the fields that requests declare, and of the parts of a request. -/
def fieldNames : List String :=
  ["body", "query", "strict", "groups", "validation_fields", "group_id", "operator",
    "condition_id", "field", "value", "previous", "validations", "pairs", "pair_id", "id", "key",
    "type", "negate", "mandatory", "conditions", "error_code", "error_message", "vendor",
    "endpoint", "method", "timeout", "headers", "retry_cases", "preconditions",
    "response_mappings", "response_template", "additional_validations", "read_write"]

/-- The labels of the readings of a value that can be one of several things. -/
def readingLabels : List String :=
  ["str", "int", "float", "bool", "list[union[str,int,float,bool]]", "str-enum[HttpMethod]",
    "literal['']"]

/-- The sentences that say no more than themselves. -/
def sentences : List String :=
  ["Field required",
    "JSON decode error",
    "Input should be a valid dictionary or object to extract fields from",
    "Input should be a valid string",
    "Input should be a valid string, unable to parse raw data as a unicode string",
    "Input should be a valid boolean",
    "Input should be a valid boolean, unable to interpret input",
    "Input should be a valid integer",
    "Input should be a valid number",
    "Input should be a valid list",
    "Input should be 'AND' or 'OR'",
    "Input should be 'equals', 'matches', 'greater_than', 'less_than', 'contains', 'str_len_range' or 'data_type'",
    "Input should be 'GET', 'POST', 'PUT', 'DELETE' or 'PATCH'",
    "Input should be ''",
    "Input should be 'http_poison_error', 'network_error', 'timeout' or 'server_error'",
    "Input should be 'key', 'type', 'value', 'negate' or 'mandatory'",
    "Input should be 'error_code' or 'error_message'",
    "Input should be 'key' or 'value'"]

/-- The sentences with a number, each as what stands before it and what stands behind it. -/
def numberedSentences : List (String × String) :=
  [("List should have at least ", " item after validation, not 0"),
    ("Value error, text is not valid UTF-8 (lone surrogate at position ", ")")]

/-- A step that is not taken from a request, but for a place in a list. -/
inductive Declared : Step → Prop where
  | field {name : String} : name ∈ fieldNames → Declared (.field (Text.ofString name))
  | item (index : Nat) : Declared (.item index)
  | reading {label : String} : label ∈ readingLabels → Declared (.reading (Text.ofString label))

/-- A message that is not taken from a request, but for a number. -/
inductive Worded : Text → Prop where
  | plain {sentence : String} : sentence ∈ sentences → Worded (Text.ofString sentence)
  | numbered {before behind : String} (n : Nat) : (before, behind) ∈ numberedSentences →
      Worded (Text.join [before, Text.ofNat n, behind])

/-- An issue whose path is declared and whose cause has a property. -/
def Told (Q : Cause → Prop) (i : Issue) : Prop := (∀ step ∈ i.path, Declared step) ∧ Q i.cause

variable {α β : Type} {Q : Cause → Prop}

theorem told_here {cause : Cause} (h : Q cause) : Told Q (.here cause) :=
  ⟨List.forall_mem_nil _, h⟩

theorem Told.under {i : Issue} (hi : Told Q i) {step : Step} (hstep : Declared step) :
    Told Q (i.under step) :=
  ⟨List.forall_mem_cons.mpr ⟨hstep, hi.left⟩, hi.right⟩

/-!
# Readings without fresh ids
-/

def CheckedTells (Q : Cause → Prop) (r : Checked α) : Prop :=
  ∀ found, r = .error found → ∀ i ∈ found, Told Q i

section Checked

variable {r : Checked α}

theorem checked_ok (x : α) : CheckedTells Q (.ok x : Checked α) := by
  rintro found ⟨⟩

theorem checked_fail {cause : Cause} (h : Q cause) :
    CheckedTells Q (Checked.fail cause : Checked α) := by
  rintro found ⟨⟩ i hi
  cases List.mem_singleton.mp hi
  exact told_here h

theorem checked_map {g : α → β} (hr : CheckedTells Q r) : CheckedTells Q (r.map g) := by
  cases r with
  | ok x => exact checked_ok _
  | error a =>
      rintro found ⟨⟩
      exact hr a rfl

theorem checked_under {step : Step} (hstep : Declared step) (hr : CheckedTells Q r) :
    CheckedTells Q (r.under step) := by
  cases r with
  | ok x => exact checked_ok _
  | error a =>
      rintro found ⟨⟩ i hi
      rcases List.mem_map.mp hi with ⟨j, hj, rfl⟩
      exact (hr a rfl j hj).under hstep

theorem checked_apply {f : Checked (α → β)} (hf : CheckedTells Q f) (hr : CheckedTells Q r) :
    CheckedTells Q (Checked.apply f r) := by
  cases f with
  | ok g =>
      cases r with
      | ok x => exact checked_ok _
      | error b =>
          rintro found ⟨⟩
          exact hr b rfl
  | error a =>
      cases r with
      | ok x =>
          rintro found ⟨⟩
          exact hf a rfl
      | error b =>
          rintro found ⟨⟩ i hi
          rcases List.mem_append.mp hi with ha | hb
          · exact hf a rfl i ha
          · exact hr b rfl i hb

theorem checked_guarded {check : α → Option Cause}
    (hcheck : ∀ x cause, check x = some cause → Q cause) (hr : CheckedTells Q r) :
    CheckedTells Q (Checked.guarded check r) := by
  cases r with
  | error a => exact hr
  | ok x =>
      unfold Checked.guarded
      dsimp only
      cases hx : check x with
      | none => exact checked_ok x
      | some cause => exact checked_fail (hcheck x cause hx)

theorem checked_list {read : Value → Checked α} (hlist : Q .notList)
    (hread : ∀ v, CheckedTells Q (read v)) (v : Value) : CheckedTells Q (Checked.list read v) := by
  have hitems : ∀ (vs : List Value) (n : Nat), CheckedTells Q (Checked.items read n vs) := by
    intro vs
    induction vs with
    | nil => exact fun n => checked_ok []
    | cons v vs ih =>
        exact fun n => checked_apply (checked_map (checked_under (.item n) (hread v))) (ih (n + 1))
  cases v with
  | list vs => exact hitems vs 0
  | _ => exact checked_fail hlist

theorem checked_firstOf (readings : List (String × Checked α))
    (h : ∀ p ∈ readings, p.1 ∈ readingLabels ∧ CheckedTells Q p.2) :
    CheckedTells Q (Checked.firstOf (readings.map fun p => (Text.ofString p.1, p.2))) := by
  induction readings with
  | nil =>
      rintro found ⟨⟩ i hi
      cases hi
  | cons p readings ih =>
      rcases p with ⟨label, r⟩
      rcases h (label, r) List.mem_cons_self with ⟨hlabel, hr⟩
      have hrest := ih fun p hp => h p (List.mem_cons_of_mem _ hp)
      rw [List.map_cons]
      unfold Checked.firstOf
      cases r with
      | ok x => exact checked_ok x
      | error a =>
          dsimp only
          cases hfirst : Checked.firstOf (readings.map fun p => (Text.ofString p.1, p.2)) with
          | ok x => exact checked_ok x
          | error b =>
              rintro found ⟨⟩ i hi
              rcases List.mem_append.mp hi with ha | hb
              · rcases List.mem_map.mp ha with ⟨j, hj, rfl⟩
                exact (hr a rfl j hj).under (.reading hlabel)
              · exact hrest b hfirst i hb

end Checked

/-!
# Readings with fresh ids
-/

def IntakeTells (Q : Cause → Prop) (r : Intake α) : Prop := ∀ ids, CheckedTells Q (r.run ids).1

section Intake

variable {r : Intake α} {read : Value → Intake α}

theorem tells_ofChecked {c : Checked α} (h : CheckedTells Q c) :
    IntakeTells Q (Intake.ofChecked c) :=
  fun _ => h

theorem tells_pure (x : α) : IntakeTells Q (pure x : Intake α) := tells_ofChecked (checked_ok x)

theorem tells_fresh : IntakeTells Q Intake.fresh := fun _ => checked_ok _

theorem tells_seq {f : Intake (α → β)} (hf : IntakeTells Q f) (hr : IntakeTells Q r) :
    IntakeTells Q (f <*> r) :=
  fun ids => checked_apply (hf ids) (hr (f ids).2)

theorem tells_map {g : α → β} (hr : IntakeTells Q r) : IntakeTells Q (g <$> r) :=
  tells_seq (tells_pure g) hr

theorem tells_under {step : Step} (hstep : Declared step) (hr : IntakeTells Q r) :
    IntakeTells Q (Intake.under step r) :=
  fun ids => checked_under hstep (hr ids)

theorem tells_guarded {check : α → Option Cause}
    (hcheck : ∀ x cause, check x = some cause → Q cause) (hr : IntakeTells Q r) :
    IntakeTells Q (Intake.guarded check r) :=
  fun ids => checked_guarded hcheck (hr ids)

theorem tells_record {model : String} {read : RequestFields → Intake α}
    (hmodel : Q (.notRecord model)) (hread : ∀ fields, IntakeTells Q (read fields)) (v : Value) :
    IntakeTells Q (Intake.record model read v) := by
  cases v with
  | object fields => exact hread fields
  | _ => exact tells_ofChecked (checked_fail hmodel)

theorem tells_optional {fields : RequestFields} {name : String} {absent : Intake α}
    (hname : name ∈ fieldNames) (habsent : IntakeTells Q absent)
    (hread : ∀ v, IntakeTells Q (read v)) :
    IntakeTells Q (Intake.optional fields name absent read) := by
  unfold Intake.optional
  cases Keyed.get? (Text.ofString name) fields with
  | none => exact habsent
  | some v => exact tells_under (.field hname) (hread v)

theorem tells_required {fields : RequestFields} {name : String} (hname : name ∈ fieldNames)
    (hmissing : Q .missing) (hread : ∀ v, IntakeTells Q (read v)) :
    IntakeTells Q (Intake.required fields name read) :=
  tells_optional hname (tells_under (.field hname) (tells_ofChecked (checked_fail hmissing))) hread

theorem tells_list (hlist : Q .notList) (hread : ∀ v, IntakeTells Q (read v)) (v : Value) :
    IntakeTells Q (Intake.list read v) := by
  have hitems : ∀ (vs : List Value) (n : Nat), IntakeTells Q (Intake.items read n vs) := by
    intro vs
    induction vs with
    | nil => exact fun n => tells_pure []
    | cons v vs ih =>
        exact fun n => tells_seq (tells_map (tells_under (.item n) (hread v))) (ih (n + 1))
  cases v with
  | list vs => exact hitems vs 0
  | _ => exact tells_ofChecked (checked_fail hlist)

end Intake

/-!
# Readers of single values
-/

/-- A cause as it shows in a request is worded. -/
def Shown (c : Cause) : Prop := Worded (shownCause c).message

theorem Shown.plain {c : Cause} {sentence : String} (hmem : sentence ∈ sentences)
    (h : (shownCause c).message = Text.ofString sentence) : Shown c := by
  rw [Shown, h]
  exact .plain hmem

theorem shown_missing : Shown .missing := .plain (by simp [sentences]) rfl

theorem shown_notBody : Shown .notBody := .plain (by simp [sentences]) rfl

theorem shown_notRecord (model : String) : Shown (.notRecord model) := shown_notBody

theorem shown_notJson : Shown .notJson := .plain (by simp [sentences]) rfl

theorem shown_notText : Shown .notText := .plain (by simp [sentences]) rfl

theorem shown_notUnicode : Shown .notUnicode := .plain (by simp [sentences]) rfl

theorem shown_notBool : Shown .notBool := .plain (by simp [sentences]) rfl

theorem shown_unreadableBool : Shown .unreadableBool := .plain (by simp [sentences]) rfl

theorem shown_notInteger : Shown .notInteger := .plain (by simp [sentences]) rfl

theorem shown_notNumber : Shown .notNumber := .plain (by simp [sentences]) rfl

theorem shown_notList : Shown .notList := .plain (by simp [sentences]) rfl

/-- The options of the choices in requests, each with the sentence that lists them. -/
def listings : List (List String × String) :=
  [(ConditionType.options.map Prod.fst,
      "Input should be 'equals', 'matches', 'greater_than', 'less_than', 'contains', 'str_len_range' or 'data_type'"),
    (LogicalOperator.options.map Prod.fst, "Input should be 'AND' or 'OR'"),
    (CallMethod.options.map Prod.fst, "Input should be 'GET', 'POST', 'PUT', 'DELETE' or 'PATCH'"),
    ([""], "Input should be ''"),
    (RetryCase.options.map Prod.fst,
      "Input should be 'http_poison_error', 'network_error', 'timeout' or 'server_error'"),
    (Condition.Field.options.map Prod.fst,
      "Input should be 'key', 'type', 'value', 'negate' or 'mandatory'"),
    (Notice.Field.options.map Prod.fst, "Input should be 'error_code' or 'error_message'"),
    (Row.Field.options.map Prod.fst, "Input should be 'key' or 'value'")]

theorem sentence_of_mem_listings : ∀ l ∈ listings, l.2 ∈ sentences := by
  simp [listings, sentences]

theorem listOptions_of_mem_listings : ∀ l ∈ listings,
    Text.ofString "Input should be " ++ Cause.listOptions l.1 = Text.ofString l.2 := by
  decide +kernel

/-- Options that are listed in one of the sentences. -/
theorem shown_notChosen {choice : Choice} {options : List String}
    (h : options ∈ listings.map Prod.fst) : Shown (.notChosen choice options) := by
  rcases List.mem_map.mp h with ⟨l, hl, rfl⟩
  refine .plain (sentence_of_mem_listings l hl) ?_
  rw [← listOptions_of_mem_listings l hl]
  simp [shownCause, Cause.message, Text.join]

theorem shown_conditionTypes {choice : Choice} :
    Shown (.notChosen choice (ConditionType.options.map Prod.fst)) :=
  shown_notChosen (by simp [listings])

theorem shown_operators {choice : Choice} :
    Shown (.notChosen choice (LogicalOperator.options.map Prod.fst)) :=
  shown_notChosen (by simp [listings])

theorem shown_methods {choice : Choice} :
    Shown (.notChosen choice (CallMethod.options.map Prod.fst)) :=
  shown_notChosen (by simp [listings])

theorem shown_noMethod {choice : Choice} : Shown (.notChosen choice [""]) :=
  shown_notChosen (by simp [listings])

theorem shown_retryCases {choice : Choice} :
    Shown (.notChosen choice (RetryCase.options.map Prod.fst)) :=
  shown_notChosen (by simp [listings])

theorem shown_conditionFields {choice : Choice} :
    Shown (.notChosen choice (Condition.Field.options.map Prod.fst)) :=
  shown_notChosen (by simp [listings])

theorem shown_noticeFields {choice : Choice} :
    Shown (.notChosen choice (Notice.Field.options.map Prod.fst)) :=
  shown_notChosen (by simp [listings])

theorem shown_rowFields {choice : Choice} :
    Shown (.notChosen choice (Row.Field.options.map Prod.fst)) :=
  shown_notChosen (by simp [listings])

theorem tells_text (v : Value) : CheckedTells Shown (Checked.text v) := by
  cases v with
  | text t => exact checked_ok t
  | _ => exact checked_fail shown_notText

theorem replaceSurrogates_of_encodable {t : Text} (h : t.Encodable) : t.replaceSurrogates = t := by
  induction t with
  | nil => rfl
  | cons c t ih =>
      have hrest := ih fun d hd => h d (List.mem_cons_of_mem _ hd)
      unfold Text.replaceSurrogates at hrest ⊢
      rw [List.flatMap_cons, hrest, h c List.mem_cons_self]
      rfl

/-- Of a text that has no encoding only the place is told where it has none. -/
theorem shown_encodable {t : Text} {cause : Cause} (h : Checked.encodable t = some cause) :
    Shown cause := by
  unfold Checked.encodable at h
  cases hposition : t.surrogateAt? with
  | none =>
      rw [hposition] at h
      cases h
  | some n =>
      rw [hposition] at h
      cases h
      have hreason : Text.Encodable (Text.join
          ["text is not valid UTF-8 (lone surrogate at position ", Text.ofNat n, ")"]) := by
        apply Text.encodable_flatten
        intro piece hpiece
        simp only [List.mem_cons, List.not_mem_nil, or_false] at hpiece
        rcases hpiece with rfl | rfl | rfl
        · exact Text.encodable_ofString _
        · exact Text.encodable_ofNat n
        · exact Text.encodable_ofString _
      have hbefore :
          Text.ofString "Value error, text is not valid UTF-8 (lone surrogate at position " =
            Text.ofString "Value error, " ++
              Text.ofString "text is not valid UTF-8 (lone surrogate at position " := by decide
      have hworded := Worded.numbered n (List.mem_cons_of_mem _ List.mem_cons_self)
      unfold Shown shownCause Cause.message
      dsimp only
      rw [replaceSurrogates_of_encodable hreason]
      rw [hbefore] at hworded
      simpa [Text.join] using hworded

theorem tells_cleanText (v : Value) : CheckedTells Shown (Checked.cleanText v) :=
  checked_guarded (fun _ _ h => shown_encodable h) (tells_text v)

theorem tells_chosen {choice : Choice} {options : List (String × α)}
    (h : Shown (.notChosen choice (options.map Prod.fst))) (v : Value) :
    CheckedTells Shown (Checked.chosen choice options v) := by
  cases v with
  | text t =>
      unfold Checked.chosen
      dsimp only
      by_cases hsurrogate : t.hasSurrogate = true
      · rw [if_pos hsurrogate]
        exact checked_fail shown_notUnicode
      · rw [if_neg hsurrogate]
        cases options.find? fun o => Text.ofString o.1 = t with
        | some o => exact checked_ok o.2
        | none => exact checked_fail h
  | _ => exact checked_fail h

theorem tells_bool (hunicode : Q .notUnicode) (hbool : Q .notBool) (hunreadable : Q .unreadableBool)
    (v : Value) : CheckedTells Q (Checked.bool v) := by
  cases v with
  | bool b => exact checked_ok b
  | int i =>
      unfold Checked.bool
      dsimp only
      split_ifs
      · exact checked_ok false
      · exact checked_ok true
      · exact checked_fail hunreadable
      · exact checked_fail hbool
  | float x =>
      unfold Checked.bool
      dsimp only
      cases Checked.machineInteger? x with
      | none => exact checked_fail hbool
      | some i =>
          dsimp only
          split_ifs
          · exact checked_ok false
          · exact checked_ok true
          · exact checked_fail hunreadable
  | text t =>
      unfold Checked.bool
      dsimp only
      by_cases hsurrogate : t.hasSurrogate = true
      · rw [if_pos hsurrogate]
        exact checked_fail hunicode
      · rw [if_neg hsurrogate]
        cases Checked.boolWords.find? fun w => Text.ofString w.1 = t.asciiLower with
        | some w => exact checked_ok w.2
        | none => exact checked_fail hunreadable
  | _ => exact checked_fail hbool

theorem tells_shownBool (v : Value) : CheckedTells Shown (Checked.bool v) :=
  tells_bool shown_notUnicode shown_notBool shown_unreadableBool v

theorem tells_flag (v : Value) : CheckedTells Shown (Condition.readFlag v) := by
  unfold Condition.readFlag
  split
  · exact checked_ok none
  · exact checked_map (tells_shownBool v)

theorem tells_conditionType (v : Value) : CheckedTells Shown (Condition.readType v) :=
  tells_chosen shown_conditionTypes v

theorem tells_operator (v : Value) :
    CheckedTells Shown (Checked.chosen .enumeration LogicalOperator.options v) :=
  tells_chosen shown_operators v

theorem tells_retryCases (v : Value) :
    CheckedTells Shown (Checked.list (Checked.chosen .enumeration RetryCase.options) v) :=
  checked_list shown_notList (tells_chosen shown_retryCases) v

theorem tells_method (v : Value) : CheckedTells Shown (VendorForm.readMethod v) := by
  refine checked_firstOf
    [("str-enum[HttpMethod]", (Checked.chosen .enumeration CallMethod.options v).map some),
      ("literal['']", Checked.chosen .listed [("", none)] v)] ?_
  have hnamed : "str-enum[HttpMethod]" ∈ readingLabels := by decide
  have hempty : "literal['']" ∈ readingLabels := by decide
  rw [List.forall_mem_cons, List.forall_mem_singleton]
  exact ⟨⟨hnamed, checked_map (tells_chosen shown_methods v)⟩,
    hempty, tells_chosen shown_noMethod v⟩

/-!
# Operands
-/

theorem told_scalarIssues : ∀ i ∈ Scalar.issues, Told Shown i := by
  have hreading {label : String} {cause : Cause} (hlabel : label ∈ readingLabels)
      (hcause : Shown cause) : Told Shown ⟨[.reading (Text.ofString label)], cause⟩ :=
    (told_here hcause).under (.reading hlabel)
  intro i hi
  simp only [Scalar.issues, List.mem_cons, List.not_mem_nil, or_false] at hi
  rcases hi with rfl | rfl | rfl | rfl
  · exact hreading (by decide) shown_notText
  · exact hreading (by decide) shown_notInteger
  · exact hreading (by decide) shown_notNumber
  · exact hreading (by decide) shown_notBool

theorem tells_scalar (v : Value) : CheckedTells Shown (Scalar.read v) := by
  unfold Scalar.read
  cases Scalar.ofValue? v with
  | some s => exact checked_ok s
  | none =>
      rintro found ⟨⟩
      exact told_scalarIssues

theorem tells_operand (v : Value) : CheckedTells Shown (Operand.read v) := by
  have hlist := checked_list shown_notList tells_scalar v
  have hlabel : Declared (.reading Operand.listLabel) := .reading (by decide)
  unfold Operand.read
  cases Scalar.ofValue? v with
  | some s => exact checked_ok _
  | none =>
      dsimp only
      cases hitems : Checked.list Scalar.read v with
      | ok ss => exact checked_ok _
      | error a =>
          rintro found ⟨⟩ i hi
          rcases List.mem_append.mp hi with hscalar | hitem
          · exact told_scalarIssues i hscalar
          · rcases List.mem_map.mp hitem with ⟨j, hj, rfl⟩
            exact (hlist a hitems j hj).under hlabel

theorem tells_cleanOperand (v : Value) : CheckedTells Shown (Operand.readClean v) := by
  refine checked_guarded (fun o cause h => ?_) (tells_operand v)
  rcases List.exists_of_findSome?_eq_some h with ⟨t, _, ht⟩
  exact shown_encodable ht

theorem tells_operandArgument (v : Value) :
    CheckedTells Shown (ConditionUpdateRequest.readValue v) := by
  unfold ConditionUpdateRequest.readValue
  split
  · exact checked_ok none
  · exact checked_map (tells_operand v)

/-!
# Rules and forms
-/

abbrev Tells (r : Intake α) : Prop := IntakeTells Shown r

section Fields

variable (r : RequestFields) (name : String)

theorem tells_cleanField (absent : Intake Text) (hname : name ∈ fieldNames)
    (habsent : Tells absent) :
    Tells (Intake.optional r name absent (Intake.lift Checked.cleanText)) :=
  tells_optional hname habsent fun v => tells_ofChecked (tells_cleanText v)

theorem tells_liftedField {read : Value → Checked α} (absent : α) (hname : name ∈ fieldNames)
    (hread : ∀ v, CheckedTells Shown (read v)) :
    Tells (Intake.optional r name (pure absent) (Intake.lift read)) :=
  tells_optional hname (tells_pure absent) fun v => tells_ofChecked (hread v)

theorem tells_listField {read : Value → Intake α} (hname : name ∈ fieldNames)
    (hread : ∀ v, Tells (read v)) :
    Tells (Intake.optional r name (pure []) (Intake.list read)) :=
  tells_optional hname (tells_pure []) (tells_list shown_notList hread)

end Fields

theorem tells_condition : ∀ v, Tells (Condition.intake v) := by
  refine tells_record (shown_notRecord _) fun r => ?_
  refine tells_seq (tells_seq (tells_seq (tells_seq (tells_seq (tells_map ?id) ?key) ?type)
    ?value) ?negate) ?mandatory
  case id => exact tells_cleanField r "id" _ (by simp [fieldNames]) tells_fresh
  case key => exact tells_cleanField r "key" _ (by simp [fieldNames]) (tells_pure [])
  case type => exact tells_liftedField r "type" _ (by simp [fieldNames]) tells_conditionType
  case value => exact tells_liftedField r "value" _ (by simp [fieldNames]) tells_cleanOperand
  case negate => exact tells_liftedField r "negate" _ (by simp [fieldNames]) tells_flag
  case mandatory => exact tells_liftedField r "mandatory" _ (by simp [fieldNames]) tells_flag

theorem tells_conditions (v : Value) : Tells (Group.conditionsIntake v) := by
  refine tells_guarded (fun cs cause h => ?_) (tells_list shown_notList tells_condition v)
  split at h
  · cases h
    exact .numbered 1 List.mem_cons_self
  · cases h

section Group

variable {ν : Type} {notice : RequestFields → Intake ν}

theorem tells_groupWith (model : String) (hnotice : ∀ r, Tells (notice r)) :
    ∀ v, Tells (Group.intakeWith model notice v) := by
  refine tells_record (shown_notRecord _) fun r => ?_
  refine tells_seq (tells_seq (tells_seq (tells_map ?id) ?operator) ?conditions) (hnotice r)
  case id => exact tells_cleanField r "id" _ (by simp [fieldNames]) tells_fresh
  case operator => exact tells_liftedField r "operator" _ (by simp [fieldNames]) tells_operator
  case conditions => exact tells_required (by simp [fieldNames]) shown_missing tells_conditions

theorem tells_plainGroup : ∀ v, Tells (Group.plainIntake v) :=
  tells_groupWith _ fun _ => tells_pure ()

theorem tells_validation : ∀ v, Tells (Group.validationIntake v) := by
  refine tells_groupWith _ fun r => ?_
  refine tells_seq (tells_map ?code) ?message
  case code => exact tells_cleanField r "error_code" _ (by simp [fieldNames]) (tells_pure _)
  case message => exact tells_cleanField r "error_message" _ (by simp [fieldNames]) (tells_pure _)

end Group

theorem tells_row : ∀ v, Tells (Row.intake v) := by
  refine tells_record (shown_notRecord _) fun r => ?_
  refine tells_seq (tells_seq (tells_map ?id) ?key) ?value
  case id => exact tells_cleanField r "id" _ (by simp [fieldNames]) tells_fresh
  case key => exact tells_cleanField r "key" _ (by simp [fieldNames]) (tells_pure [])
  case value => exact tells_cleanField r "value" _ (by simp [fieldNames]) (tells_pure [])

theorem tells_vendorForm : ∀ v, Tells (VendorForm.intake v) := by
  refine tells_record (shown_notRecord _) fun r => ?_
  have htext (name : String) (hname : name ∈ fieldNames) :
      Tells (Intake.optional r name (pure []) (Intake.lift Checked.cleanText)) :=
    tells_cleanField r name _ hname (tells_pure [])
  have hrows (name : String) (hname : name ∈ fieldNames) :
      Tells (Intake.optional r name (pure []) (Intake.list Row.intake)) :=
    tells_listField r name hname tells_row
  have hgroups (name : String) (hname : name ∈ fieldNames) :
      Tells (Intake.optional r name (pure []) (Intake.list Group.plainIntake)) :=
    tells_listField r name hname tells_plainGroup
  refine tells_seq (tells_seq (tells_seq (tells_seq (tells_seq (tells_seq (tells_seq (tells_seq
    (tells_seq (tells_map ?vendor) ?endpoint) ?method) ?timeout) ?headers) ?retry) ?body) ?pre)
    ?mappings) ?template
  case vendor => exact htext "vendor" (by simp [fieldNames])
  case endpoint => exact htext "endpoint" (by simp [fieldNames])
  case method => exact tells_liftedField r "method" _ (by simp [fieldNames]) tells_method
  case timeout => exact htext "timeout" (by simp [fieldNames])
  case headers => exact hrows "headers" (by simp [fieldNames])
  case retry => exact tells_liftedField r "retry_cases" _ (by simp [fieldNames]) tells_retryCases
  case body => exact hrows "body" (by simp [fieldNames])
  case pre => exact hgroups "preconditions" (by simp [fieldNames])
  case mappings => exact hgroups "response_mappings" (by simp [fieldNames])
  case template => exact hrows "response_template" (by simp [fieldNames])

theorem tells_configForm : ∀ v, Tells (ConfigForm.intake v) := by
  refine tells_record (shown_notRecord _) fun r => ?_
  refine tells_seq (tells_seq (tells_map ?validations) ?additional) ?readWrite
  case validations => exact tells_listField r "validations" (by simp [fieldNames]) tells_validation
  case additional =>
    exact tells_liftedField r "additional_validations" _ (by simp [fieldNames]) tells_shownBool
  case readWrite => exact tells_listField r "read_write" (by simp [fieldNames]) tells_row

/-!
# Edit requests
-/

section Requests

variable (r : RequestFields)

theorem tells_textArgument (name : String) (hname : name ∈ fieldNames) :
    Tells (textArgument r name) :=
  tells_required hname shown_missing fun v => tells_ofChecked (tells_text v)

theorem tells_chosenArgument {choice : Choice} {options : List (String × α)} (name : String)
    (hname : name ∈ fieldNames) (h : Shown (.notChosen choice (options.map Prod.fst))) :
    Tells (chosenArgument r name choice options) :=
  tells_required hname shown_missing fun v => tells_ofChecked (tells_chosen h v)

theorem tells_groupsRequest : Tells (GroupsRequest.fields r) :=
  tells_seq (tells_map (tells_listField r "groups" (by simp [fieldNames]) tells_plainGroup))
    (tells_liftedField r "validation_fields" _ (by simp [fieldNames]) tells_shownBool)

theorem tells_groupRequest : Tells (GroupRequest.fields r) :=
  tells_seq (tells_map (tells_groupsRequest r))
    (tells_textArgument r "group_id" (by simp [fieldNames]))

theorem tells_operatorRequest : Tells (OperatorRequest.fields r) :=
  tells_seq (tells_map (tells_groupRequest r))
    (tells_chosenArgument r "operator" (by simp [fieldNames]) shown_operators)

theorem tells_conditionRequest : Tells (ConditionRequest.fields r) :=
  tells_seq (tells_map (tells_groupRequest r))
    (tells_textArgument r "condition_id" (by simp [fieldNames]))

theorem tells_conditionUpdateRequest : Tells (ConditionUpdateRequest.fields r) :=
  tells_seq
    (tells_seq (tells_map (tells_conditionRequest r))
      (tells_chosenArgument r "field" (by simp [fieldNames]) shown_conditionFields))
    (tells_liftedField r "value" _ (by simp [fieldNames]) tells_operandArgument)

theorem tells_reconcileRequest : Tells (ReconcileRequest.fields r) :=
  tells_seq (tells_map (tells_listField r "previous" (by simp [fieldNames]) tells_validation))
    (tells_listField r "groups" (by simp [fieldNames]) tells_plainGroup)

theorem tells_noticeUpdateRequest : Tells (NoticeUpdateRequest.fields r) := by
  refine tells_seq (tells_seq (tells_seq (tells_map ?validations) ?group) ?field) ?value
  case validations =>
    exact tells_required (by simp [fieldNames]) shown_missing
      (tells_list shown_notList tells_validation)
  case group => exact tells_textArgument r "group_id" (by simp [fieldNames])
  case field => exact tells_chosenArgument r "field" (by simp [fieldNames]) shown_noticeFields
  case value => exact tells_textArgument r "value" (by simp [fieldNames])

theorem tells_rowsRequest : Tells (RowsRequest.fields r) :=
  tells_map (tells_listField r "pairs" (by simp [fieldNames]) tells_row)

theorem tells_rowRequest : Tells (RowRequest.fields r) :=
  tells_seq (tells_map (tells_rowsRequest r))
    (tells_textArgument r "pair_id" (by simp [fieldNames]))

theorem tells_rowUpdateRequest : Tells (RowUpdateRequest.fields r) :=
  tells_seq
    (tells_seq (tells_map (tells_rowRequest r))
      (tells_chosenArgument r "field" (by simp [fieldNames]) shown_rowFields))
    (tells_textArgument r "value" (by simp [fieldNames]))

end Requests

end Service
end RuleDraft
