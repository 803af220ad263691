import RuleDraft.Editor.Request
import RuleDraft.Proofs.Rule.Stable

/-!
# Models read again from their data

Every named shape of data is stable: the nodes of a rule tree, the forms, and the
requests that hold nodes together with the arguments of an edit.  The arguments of a
request are taken as they come, so only the nodes of a request have to be sound.
-/

namespace RuleDraft

open Intake

/-!
# Arguments
-/

section Arguments

variable {named : List (String × Value)} {name : String}

theorem ensures_textArgument {fields : RequestFields} :
    (textArgument fields name).Ensures fun _ => True :=
  ensures_required fun _ => ensures_lift fun _ _ => trivial

theorem ensures_chosenArgument {α : Type} {fields : RequestFields} {choice : Choice}
    {options : List (String × α)} :
    (chosenArgument fields name choice options).Ensures fun _ => True :=
  ensures_required fun _ => ensures_lift fun _ _ => trivial

theorem settles_textArgument {t : Text}
    (h : (named.find? fun f => f.1 = name).map Prod.snd = some (.text t)) :
    (textArgument (Value.recordFields named) name).Settles t :=
  settles_field h (settles_lift rfl)

theorem settles_chosenArgument {α : Type} {choice : Choice} {options : List (String × α)}
    {t : Text} {a : α} (h : (named.find? fun f => f.1 = name).map Prod.snd = some (.text t))
    (ha : Checked.chosen choice options (.text t) = .ok a) :
    (chosenArgument (Value.recordFields named) name choice options).Settles a :=
  settles_field h (settles_lift ha)

end Arguments

theorem Condition.Field.chosen_name (f : Condition.Field) :
    Checked.chosen .listed options (.text f.name) = .ok f := by
  apply Checked.chosen_name
  cases f <;> rfl

theorem Notice.Field.chosen_name (f : Notice.Field) :
    Checked.chosen .listed options (.text f.name) = .ok f := by
  apply Checked.chosen_name
  cases f <;> rfl

theorem Row.Field.chosen_name (f : Row.Field) :
    Checked.chosen .listed options (.text f.name) = .ok f := by
  apply Checked.chosen_name
  cases f <;> rfl

/-!
# Requests that edit groups

A request extends another one by an argument, so its fields are read from the data of
every request that extends it.
-/

def GroupsRequest.Sound (q : GroupsRequest) : Prop := ∀ g ∈ q.groups, g.Sound

theorem GroupsRequest.ensures_fields (r : RequestFields) : (fields r).Ensures Sound := by
  apply (ensures_seq (ensures_map (ensures_nodes Group.ensures_plainIntake))
    (ensures_anything false Checked.bool)).mono
  rintro q ⟨_, withFlags, ⟨groups, hgroups, rfl⟩, _, rfl⟩
  exact hgroups

theorem GroupsRequest.settles_fields {q : GroupsRequest} (h : q.Sound)
    (more : List (String × Value)) :
    (fields (Value.recordFields (q.named ++ more))).Settles q := by
  cases q with
  | mk groups withFlags =>
      refine settles_seq (settles_map ?groups) ?withFlags
      case groups => exact settles_groups rfl h
      case withFlags => exact settles_field rfl (settles_lift rfl)

theorem GroupRequest.ensures_fields (r : RequestFields) :
    (fields r).Ensures fun q => q.toGroupsRequest.Sound := by
  apply (ensures_seq (ensures_map (GroupsRequest.ensures_fields r))
    ensures_textArgument).mono
  rintro q ⟨_, id, ⟨groups, hgroups, rfl⟩, _, rfl⟩
  exact hgroups

theorem GroupRequest.settles_fields {q : GroupRequest} (h : q.toGroupsRequest.Sound)
    (more : List (String × Value)) :
    (fields (Value.recordFields (q.named ++ more))).Settles q := by
  cases q with
  | mk base groupId =>
      refine settles_seq (settles_map ?base) ?groupId
      case base => exact GroupsRequest.settles_fields h (("group_id", .text groupId) :: more)
      case groupId => exact settles_textArgument rfl

theorem OperatorRequest.ensures_fields (r : RequestFields) :
    (fields r).Ensures fun q => q.toGroupsRequest.Sound := by
  apply (ensures_seq (ensures_map (GroupRequest.ensures_fields r))
    ensures_chosenArgument).mono
  rintro q ⟨_, operator, ⟨base, hbase, rfl⟩, _, rfl⟩
  exact hbase

theorem OperatorRequest.settles_fields {q : OperatorRequest} (h : q.toGroupsRequest.Sound)
    (more : List (String × Value)) :
    (fields (Value.recordFields (q.named ++ more))).Settles q := by
  cases q with
  | mk base operator =>
      refine settles_seq (settles_map ?base) ?operator
      case base =>
        exact GroupRequest.settles_fields h (("operator", .text operator.name) :: more)
      case operator => exact settles_chosenArgument rfl (LogicalOperator.chosen_name _ operator)

theorem ConditionRequest.ensures_fields (r : RequestFields) :
    (fields r).Ensures fun q => q.toGroupsRequest.Sound := by
  apply (ensures_seq (ensures_map (GroupRequest.ensures_fields r)) ensures_textArgument).mono
  rintro q ⟨_, id, ⟨base, hbase, rfl⟩, _, rfl⟩
  exact hbase

theorem ConditionRequest.settles_fields {q : ConditionRequest} (h : q.toGroupsRequest.Sound)
    (more : List (String × Value)) :
    (fields (Value.recordFields (q.named ++ more))).Settles q := by
  cases q with
  | mk base conditionId =>
      refine settles_seq (settles_map ?base) ?conditionId
      case base =>
        exact GroupRequest.settles_fields h (("condition_id", .text conditionId) :: more)
      case conditionId => exact settles_textArgument rfl

theorem ConditionUpdateRequest.readValue_valueData (q : ConditionUpdateRequest) :
    readValue q.valueData = .ok q.value := by
  cases q with
  | mk base field value =>
      cases value with
      | none => rfl
      | some o =>
          have hread := Operand.read_toValue o
          cases o with
          | one s => cases s <;> rfl
          | many ss =>
              change (Operand.read (Operand.many ss).toValue).map some = _
              rw [hread]
              rfl

theorem ConditionUpdateRequest.ensures_fields (r : RequestFields) :
    (fields r).Ensures fun q => q.toGroupsRequest.Sound := by
  apply (ensures_seq (ensures_seq (ensures_map (ConditionRequest.ensures_fields r))
    ensures_chosenArgument) (ensures_anything none readValue)).mono
  rintro q ⟨_, value, ⟨_, field, ⟨base, hbase, rfl⟩, _, rfl⟩, _, rfl⟩
  exact hbase

theorem ConditionUpdateRequest.settles_fields {q : ConditionUpdateRequest}
    (h : q.toGroupsRequest.Sound) (more : List (String × Value)) :
    (fields (Value.recordFields (q.named ++ more))).Settles q := by
  have hvalue := q.readValue_valueData
  cases q with
  | mk base field value =>
      refine settles_seq (settles_seq (settles_map ?base) ?field) ?value
      case base =>
        exact ConditionRequest.settles_fields h
          (("field", .text field.name) :: ("value", _) :: more)
      case field => exact settles_chosenArgument rfl (Condition.Field.chosen_name field)
      case value => exact settles_field rfl (settles_lift hvalue)

/-!
# Requests that edit validations
-/

structure ReconcileRequest.Sound (q : ReconcileRequest) : Prop where
  previous : ∀ g ∈ q.previous, g.Sound
  groups : ∀ g ∈ q.groups, g.Sound

theorem ReconcileRequest.ensures_fields (r : RequestFields) : (fields r).Ensures Sound := by
  apply (ensures_seq (ensures_map (ensures_nodes Group.ensures_validationIntake))
    (ensures_nodes Group.ensures_plainIntake)).mono
  rintro q ⟨_, groups, ⟨previous, hprevious, rfl⟩, hgroups, rfl⟩
  exact ⟨hprevious, hgroups⟩

theorem ReconcileRequest.settles_fields {q : ReconcileRequest} (h : q.Sound) :
    (fields (Value.recordFields q.named)).Settles q := by
  rcases h with ⟨hprevious, hgroups⟩
  cases q with
  | mk previous groups =>
      refine settles_seq (settles_map ?previous) ?groups
      case previous => exact settles_validations rfl hprevious
      case groups => exact settles_groups rfl hgroups

def NoticeUpdateRequest.Sound (q : NoticeUpdateRequest) : Prop := ∀ g ∈ q.validations, g.Sound

theorem NoticeUpdateRequest.ensures_fields (r : RequestFields) :
    (fields r).Ensures Sound := by
  apply (ensures_seq (ensures_seq (ensures_seq (ensures_map (ensures_required
    (ensures_list Group.ensures_validationIntake))) ensures_textArgument)
    ensures_chosenArgument) ensures_textArgument).mono
  rintro q ⟨_, value, ⟨_, field, ⟨_, id, ⟨validations, hvalidations, rfl⟩, _, rfl⟩, _, rfl⟩, _,
    rfl⟩
  exact hvalidations

theorem NoticeUpdateRequest.settles_fields {q : NoticeUpdateRequest} (h : q.Sound) :
    (fields (Value.recordFields q.named)).Settles q := by
  cases q with
  | mk validations groupId field value =>
      refine settles_seq (settles_seq (settles_seq (settles_map
        ?validations) ?groupId) ?field) ?value
      case validations => exact settles_validations rfl h
      case groupId => exact settles_textArgument rfl
      case field => exact settles_chosenArgument rfl (Notice.Field.chosen_name field)
      case value => exact settles_textArgument rfl

/-!
# Requests that edit rows
-/

def RowsRequest.Sound (q : RowsRequest) : Prop := ∀ r ∈ q.rows, r.Sound

theorem RowsRequest.ensures_fields (r : RequestFields) : (fields r).Ensures Sound := by
  apply (ensures_map (ensures_nodes Row.ensures_intake)).mono
  rintro q ⟨rows, hrows, rfl⟩
  exact hrows

theorem RowsRequest.settles_fields {q : RowsRequest} (h : q.Sound)
    (more : List (String × Value)) :
    (fields (Value.recordFields (q.named ++ more))).Settles q := by
  cases q with
  | mk rows => exact settles_map (settles_rows rfl h)

theorem RowRequest.ensures_fields (r : RequestFields) :
    (fields r).Ensures fun q => q.toRowsRequest.Sound := by
  apply (ensures_seq (ensures_map (RowsRequest.ensures_fields r)) ensures_textArgument).mono
  rintro q ⟨_, id, ⟨base, hbase, rfl⟩, _, rfl⟩
  exact hbase

theorem RowRequest.settles_fields {q : RowRequest} (h : q.toRowsRequest.Sound)
    (more : List (String × Value)) :
    (fields (Value.recordFields (q.named ++ more))).Settles q := by
  cases q with
  | mk base rowId =>
      refine settles_seq (settles_map ?base) ?rowId
      case base => exact RowsRequest.settles_fields h (("pair_id", .text rowId) :: more)
      case rowId => exact settles_textArgument rfl

theorem RowUpdateRequest.ensures_fields (r : RequestFields) :
    (fields r).Ensures fun q => q.toRowsRequest.Sound := by
  apply (ensures_seq (ensures_seq (ensures_map (RowRequest.ensures_fields r))
    ensures_chosenArgument) ensures_textArgument).mono
  rintro q ⟨_, value, ⟨_, field, ⟨base, hbase, rfl⟩, _, rfl⟩, _, rfl⟩
  exact hbase

theorem RowUpdateRequest.settles_fields {q : RowUpdateRequest} (h : q.toRowsRequest.Sound)
    (more : List (String × Value)) :
    (fields (Value.recordFields (q.named ++ more))).Settles q := by
  cases q with
  | mk base field value =>
      refine settles_seq (settles_seq (settles_map ?base) ?field) ?value
      case base =>
        exact RowRequest.settles_fields h
          (("field", .text field.name) :: ("value", .text value) :: more)
      case field => exact settles_chosenArgument rfl (Row.Field.chosen_name field)
      case value => exact settles_textArgument rfl

/-!
# All models
-/

def StableRequest {α : Type} (title : String) (fields : RequestFields → Intake α)
    (named : α → List (String × Value)) : Prop :=
  Stable (Intake.record title fields) fun q => Value.record (named q)

theorem StableRequest.of_sound {α : Type} {title : String} {fields : RequestFields → Intake α}
    {named : α → List (String × Value)} {Sound : α → Prop}
    (hread : ∀ r, (fields r).Ensures Sound)
    (hwrite : ∀ q, Sound q → (fields (Value.recordFields (named q ++ []))).Settles q) :
    StableRequest title fields named := by
  apply Stable.of_sound (ensures_record hread)
  intro q hq
  have hsettles := hwrite q hq
  rw [List.append_nil] at hsettles
  exact hsettles

theorem models_stable :
    Stable Condition.intake Condition.toValue ∧
      Stable Group.plainIntake Group.toValue ∧
      Stable Group.validationIntake Group.toValue ∧
      Stable Row.intake Row.toValue ∧
      Stable VendorForm.intake VendorForm.toValue ∧
      Stable ConfigForm.intake ConfigForm.toValue ∧
      StableRequest "GroupsRequest" GroupsRequest.fields GroupsRequest.named ∧
      StableRequest "GroupRequest" GroupRequest.fields GroupRequest.named ∧
      StableRequest "GroupOperatorRequest" OperatorRequest.fields OperatorRequest.named ∧
      StableRequest "ConditionRequest" ConditionRequest.fields ConditionRequest.named ∧
      StableRequest "ConditionUpdateRequest" ConditionUpdateRequest.fields
        ConditionUpdateRequest.named ∧
      StableRequest "ReconcileRequest" ReconcileRequest.fields ReconcileRequest.named ∧
      StableRequest "ValidationErrorUpdateRequest" NoticeUpdateRequest.fields
        NoticeUpdateRequest.named ∧
      StableRequest "PairsRequest" RowsRequest.fields RowsRequest.named ∧
      StableRequest "PairRequest" RowRequest.fields RowRequest.named ∧
      StableRequest "PairUpdateRequest" RowUpdateRequest.fields RowUpdateRequest.named := by
  refine ⟨?condition, ?plain, ?validation, ?row, ?vendor, ?config, ?groups, ?group, ?operator,
    ?conditionOf, ?conditionUpdate, ?reconcile, ?noticeUpdate, ?rows, ?rowOf, ?rowUpdate⟩
  case condition =>
    exact .of_sound Condition.ensures_intake fun _ => Condition.settles_intake
  case plain =>
    exact .of_sound Group.ensures_plainIntake fun _ => Group.settles_plainIntake
  case validation =>
    exact .of_sound Group.ensures_validationIntake fun _ => Group.settles_validationIntake
  case row => exact .of_sound Row.ensures_intake fun _ => Row.settles_intake
  case vendor => exact .of_sound VendorForm.ensures_intake fun _ => VendorForm.settles_intake
  case config => exact .of_sound ConfigForm.ensures_intake fun _ => ConfigForm.settles_intake
  case groups =>
    exact .of_sound GroupsRequest.ensures_fields fun _ hq => GroupsRequest.settles_fields hq []
  case group =>
    exact .of_sound GroupRequest.ensures_fields fun _ hq => GroupRequest.settles_fields hq []
  case operator =>
    exact .of_sound OperatorRequest.ensures_fields
      fun _ hq => OperatorRequest.settles_fields hq []
  case conditionOf =>
    exact .of_sound ConditionRequest.ensures_fields
      fun _ hq => ConditionRequest.settles_fields hq []
  case conditionUpdate =>
    exact .of_sound ConditionUpdateRequest.ensures_fields
      fun _ hq => ConditionUpdateRequest.settles_fields hq []
  case reconcile =>
    exact .of_sound ReconcileRequest.ensures_fields fun _ => ReconcileRequest.settles_fields
  case noticeUpdate =>
    exact .of_sound NoticeUpdateRequest.ensures_fields
      fun _ => NoticeUpdateRequest.settles_fields
  case rows =>
    exact .of_sound RowsRequest.ensures_fields fun _ hq => RowsRequest.settles_fields hq []
  case rowOf =>
    exact .of_sound RowRequest.ensures_fields fun _ hq => RowRequest.settles_fields hq []
  case rowUpdate =>
    exact .of_sound RowUpdateRequest.ensures_fields
      fun _ hq => RowUpdateRequest.settles_fields hq []

/-- Data of a validation group with no ids, a flag as a word, and a field that is not read. -/
def looseData : Value :=
  Value.record
    [("conditions", .list [Value.record
      [("value", .list [.int 5, .float .nan, .bool true, .text "5"]), ("negate", .text "Yes")]]),
     ("comment", .null)]

def letterIds : IdSupply := .numbered "n"

def looseGroup : ValidationGroup :=
  { id := letterIds.label 1
    operator := .all
    conditions :=
      [{ Condition.blank (letterIds.label 2) false with
         value := .many [.int 5, .float .nan, .bool true, .text "5"], negate := some true }]
    notice := .standard }

theorem models_stable_loose :
    letterIds.Encodable ∧
      ((Group.validationIntake looseData).run letterIds).1 = .ok looseGroup ∧
        (Group.validationIntake looseGroup.toValue).Settles looseGroup := by
  have hids : letterIds.Encodable := IdSupply.encodable_numbered (Text.encodable_ofString "n")
  have hread : ((Group.validationIntake looseData).run letterIds).1 = .ok looseGroup := by
    rfl
  exact ⟨hids, hread,
    models_stable.right.right.left looseData letterIds looseGroup hids hread⟩

end RuleDraft
