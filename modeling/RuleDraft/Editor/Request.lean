import RuleDraft.Rule.Group
import RuleDraft.Rule.Row

/-!
# Edit requests

One request holds the nodes to edit and the arguments of one edit. The nodes
are read as the rule types read them; the arguments are texts as they come.
-/

namespace RuleDraft

/-- Groups to edit, and whether new conditions get flags. -/
structure GroupsRequest where
  groups : List ConditionGroup
  withFlags : Bool
  deriving DecidableEq, Repr

structure GroupRequest extends GroupsRequest where
  groupId : Text
  deriving DecidableEq, Repr

structure OperatorRequest extends GroupRequest where
  operator : LogicalOperator
  deriving DecidableEq, Repr

structure ConditionRequest extends GroupRequest where
  conditionId : Text
  deriving DecidableEq, Repr

/-- A change of one field of a condition; no operand is null. -/
structure ConditionUpdateRequest extends ConditionRequest where
  field : Condition.Field
  value : Option Operand
  deriving DecidableEq, Repr

/-- Groups to merge with previous validations. -/
structure ReconcileRequest where
  previous : List ValidationGroup
  groups : List ConditionGroup
  deriving DecidableEq, Repr

structure NoticeUpdateRequest where
  validations : List ValidationGroup
  groupId : Text
  field : Notice.Field
  value : Text
  deriving DecidableEq, Repr

structure RowsRequest where
  rows : List Row
  deriving DecidableEq, Repr

structure RowRequest extends RowsRequest where
  rowId : Text
  deriving DecidableEq, Repr

structure RowUpdateRequest extends RowRequest where
  field : Row.Field
  value : Text
  deriving DecidableEq, Repr

abbrev RequestFields := List (Text × Value)

def textArgument (r : RequestFields) (name : String) : Intake Text :=
  Intake.required r name (Intake.lift Checked.text)

def chosenArgument {α : Type} (r : RequestFields) (name : String) (choice : Choice)
    (options : List (String × α)) : Intake α :=
  Intake.required r name (Intake.lift (Checked.chosen choice options))

namespace GroupsRequest

/-- Read the fields of the request. -/
def fields (r : RequestFields) : Intake GroupsRequest :=
  GroupsRequest.mk
    <$> Intake.optional r "groups" (pure []) (Intake.list Group.plainIntake)
    <*> Intake.optional r "validation_fields" (pure false) (Intake.lift Checked.bool)

/-- The request as named data. -/
def named (q : GroupsRequest) : List (String × Value) :=
  [("groups", .list (q.groups.map Group.toValue)), ("validation_fields", .bool q.withFlags)]

end GroupsRequest

namespace GroupRequest

def fields (r : RequestFields) : Intake GroupRequest :=
  GroupRequest.mk <$> GroupsRequest.fields r <*> textArgument r "group_id"

def named (q : GroupRequest) : List (String × Value) :=
  q.toGroupsRequest.named ++ [("group_id", .text q.groupId)]

end GroupRequest

namespace OperatorRequest

def fields (r : RequestFields) : Intake OperatorRequest :=
  OperatorRequest.mk <$> GroupRequest.fields r
    <*> chosenArgument r "operator" .enumeration LogicalOperator.options

def named (q : OperatorRequest) : List (String × Value) :=
  q.toGroupRequest.named ++ [("operator", .text q.operator.name)]

end OperatorRequest

namespace ConditionRequest

def fields (r : RequestFields) : Intake ConditionRequest :=
  ConditionRequest.mk <$> GroupRequest.fields r <*> textArgument r "condition_id"

def named (q : ConditionRequest) : List (String × Value) :=
  q.toGroupRequest.named ++ [("condition_id", .text q.conditionId)]

end ConditionRequest

namespace ConditionUpdateRequest

def readValue : Value → Checked (Option Operand)
  | .null => .ok none
  | v => (Operand.read v).map some

def fields (r : RequestFields) : Intake ConditionUpdateRequest :=
  ConditionUpdateRequest.mk <$> ConditionRequest.fields r
    <*> chosenArgument r "field" .listed Condition.Field.options
    <*> Intake.optional r "value" (pure none) (Intake.lift readValue)

def valueData (q : ConditionUpdateRequest) : Value :=
  match q.value with
  | some o => o.toValue
  | none => .null

def named (q : ConditionUpdateRequest) : List (String × Value) :=
  q.toConditionRequest.named ++ [("field", .text q.field.name), ("value", q.valueData)]

end ConditionUpdateRequest

namespace ReconcileRequest

def fields (r : RequestFields) : Intake ReconcileRequest :=
  ReconcileRequest.mk
    <$> Intake.optional r "previous" (pure []) (Intake.list Group.validationIntake)
    <*> Intake.optional r "groups" (pure []) (Intake.list Group.plainIntake)

def named (q : ReconcileRequest) : List (String × Value) :=
  [("previous", .list (q.previous.map Group.toValue)),
   ("groups", .list (q.groups.map Group.toValue))]

end ReconcileRequest

namespace NoticeUpdateRequest

def fields (r : RequestFields) : Intake NoticeUpdateRequest :=
  NoticeUpdateRequest.mk
    <$> Intake.required r "validations" (Intake.list Group.validationIntake)
    <*> textArgument r "group_id"
    <*> chosenArgument r "field" .listed Notice.Field.options
    <*> textArgument r "value"

def named (q : NoticeUpdateRequest) : List (String × Value) :=
  [("validations", .list (q.validations.map Group.toValue)), ("group_id", .text q.groupId),
   ("field", .text q.field.name), ("value", .text q.value)]

end NoticeUpdateRequest

namespace RowsRequest

def fields (r : RequestFields) : Intake RowsRequest :=
  RowsRequest.mk <$> Intake.optional r "pairs" (pure []) (Intake.list Row.intake)

def named (q : RowsRequest) : List (String × Value) :=
  [("pairs", .list (q.rows.map Row.toValue))]

end RowsRequest

namespace RowRequest

def fields (r : RequestFields) : Intake RowRequest :=
  RowRequest.mk <$> RowsRequest.fields r <*> textArgument r "pair_id"

def named (q : RowRequest) : List (String × Value) :=
  q.toRowsRequest.named ++ [("pair_id", .text q.rowId)]

end RowRequest

namespace RowUpdateRequest

def fields (r : RequestFields) : Intake RowUpdateRequest :=
  RowUpdateRequest.mk <$> RowRequest.fields r
    <*> chosenArgument r "field" .listed Row.Field.options
    <*> textArgument r "value"

def named (q : RowUpdateRequest) : List (String × Value) :=
  q.toRowRequest.named ++ [("field", .text q.field.name), ("value", .text q.value)]

end RowUpdateRequest

end RuleDraft
