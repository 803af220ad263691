import RuleDraft.Editor.Request
import RuleDraft.Failure
import RuleDraft.Rule.Form

/-!
# Models

A model is a named shape of data: reading data into it and writing it out again
fills in absent fields, brings lenient values into their type, and leaves out
what does not belong to the shape.
-/

namespace RuleDraft

/-- A named shape of data. -/
structure Model where
  title : String
  normalise : Value → Intake Value

namespace Model

def of {α : Type} (title : String) (read : Value → Intake α) (write : α → Value) : Model :=
  ⟨title, fun v => write <$> read v⟩

def ofRequest {α : Type} (title : String) (fields : RequestFields → Intake α)
    (named : α → List (String × Value)) : Model :=
  of title (Intake.record title fields) fun q => Value.record (named q)

def catalog : List Model :=
  [of "Condition" Condition.intake Condition.toValue,
   of "ConditionGroup" Group.plainIntake Group.toValue,
   of "ValidationGroup" Group.validationIntake Group.toValue,
   of "KeyValuePair" Row.intake Row.toValue,
   of VendorForm.title VendorForm.intake VendorForm.toValue,
   of ConfigForm.title ConfigForm.intake ConfigForm.toValue,
   ofRequest "GroupsRequest" GroupsRequest.fields GroupsRequest.named,
   ofRequest "GroupRequest" GroupRequest.fields GroupRequest.named,
   ofRequest "GroupOperatorRequest" OperatorRequest.fields OperatorRequest.named,
   ofRequest "ConditionRequest" ConditionRequest.fields ConditionRequest.named,
   ofRequest "ConditionUpdateRequest" ConditionUpdateRequest.fields
     ConditionUpdateRequest.named,
   ofRequest "ReconcileRequest" ReconcileRequest.fields ReconcileRequest.named,
   ofRequest "ValidationErrorUpdateRequest" NoticeUpdateRequest.fields
     NoticeUpdateRequest.named,
   ofRequest "PairsRequest" RowsRequest.fields RowsRequest.named,
   ofRequest "PairRequest" RowRequest.fields RowRequest.named,
   ofRequest "PairUpdateRequest" RowUpdateRequest.fields RowUpdateRequest.named]

def find? (title : Text) : Option Model :=
  catalog.find? fun m => Text.ofString m.title = title

end Model

/-- Read a value with a reader, or fail for the model as a whole. -/
def readModel {α : Type} (title : String) (read : Value → Intake α) (v : Value)
    (ids : IdSupply) : Except Failure α × IdSupply :=
  let (result, ids) := (read v).run ids
  (result.mapError (Failure.unreadable title), ids)

end RuleDraft
