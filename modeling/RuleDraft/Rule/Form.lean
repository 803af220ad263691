import RuleDraft.Rule.Group
import RuleDraft.Rule.Row

/-!
# Forms

A form is everything that was entered for one document: the vendor form for an
outbound call, the config form for the validation of requests.
-/

namespace RuleDraft

/-- What was entered for a vendor document. No method is the empty text. -/
structure VendorForm where
  vendor : Text
  endpoint : Text
  method : Option CallMethod
  timeout : Text
  headers : List Row
  retryCases : List RetryCase
  body : List Row
  preconditions : List ConditionGroup
  responseMappings : List ConditionGroup
  responseTemplate : List Row
  deriving DecidableEq, Repr

namespace VendorForm

def title : String := "VendorFormState"

/-- Read a method by its name, or the empty text. -/
def readMethod (v : Value) : Checked (Option CallMethod) :=
  Checked.firstOf
    [("str-enum[HttpMethod]", (Checked.chosen .enumeration CallMethod.options v).map some),
     ("literal['']", Checked.chosen .listed [("", none)] v)]

def intake : Value → Intake VendorForm :=
  Intake.record title fun r =>
    let text (name : String) := Intake.optional r name (pure []) (Intake.lift Checked.cleanText)
    let rows (name : String) := Intake.optional r name (pure []) (Intake.list Row.intake)
    let groups (name : String) :=
      Intake.optional r name (pure []) (Intake.list Group.plainIntake)
    VendorForm.mk
      <$> text "vendor"
      <*> text "endpoint"
      <*> Intake.optional r "method" (pure none) (Intake.lift readMethod)
      <*> text "timeout"
      <*> rows "headers"
      <*> Intake.optional r "retry_cases" (pure [])
        (Intake.lift (Checked.list (Checked.chosen .enumeration RetryCase.options)))
      <*> rows "body"
      <*> groups "preconditions"
      <*> groups "response_mappings"
      <*> rows "response_template"

def toValue (f : VendorForm) : Value :=
  Value.record
    [("vendor", f.vendor), ("endpoint", f.endpoint),
     ("method", .text (match f.method with | some m => m.name | none => "")),
     ("timeout", f.timeout),
     ("headers", .list (f.headers.map Row.toValue)),
     ("retry_cases", Value.texts (f.retryCases.map fun r => Text.ofString r.name)),
     ("body", .list (f.body.map Row.toValue)),
     ("preconditions", .list (f.preconditions.map Group.toValue)),
     ("response_mappings", .list (f.responseMappings.map Group.toValue)),
     ("response_template", .list (f.responseTemplate.map Row.toValue))]

def empty : VendorForm :=
  { vendor := [], endpoint := [], method := none, timeout := [], headers := [],
    retryCases := [], body := [], preconditions := [], responseMappings := [],
    responseTemplate := [] }

/-- The form that a new vendor document starts from: a JSON call with one header. -/
def starter (ids : IdSupply) : VendorForm :=
  let (header, ids) := ids.draw
  let (body, ids) := ids.draw
  let (condition, ids) := ids.draw
  let (group, ids) := ids.draw
  let (template, _) := ids.draw
  { empty with
    method := some .post
    headers := [⟨header, "Content-Type", "application/json"⟩]
    body := [⟨body, "id_number", "$\x7bdata.id_number\x7d"⟩]
    responseMappings :=
      [{ id := group
         operator := .all
         conditions :=
           [{ Condition.blank condition false with
              key := "$\x7bresponse.status_code\x7d", value := .text "200" }]
         notice := () }]
    responseTemplate := [⟨template, "status", "success"⟩] }

end VendorForm

structure ConfigForm where
  validations : List ValidationGroup
  additionalValidations : Bool
  readWrite : List Row
  deriving DecidableEq, Repr

namespace ConfigForm

def title : String := "ConfigFormState"

def intake : Value → Intake ConfigForm :=
  Intake.record title fun r =>
    ConfigForm.mk
      <$> Intake.optional r "validations" (pure []) (Intake.list Group.validationIntake)
      <*> Intake.optional r "additional_validations" (pure false) (Intake.lift Checked.bool)
      <*> Intake.optional r "read_write" (pure []) (Intake.list Row.intake)

def toValue (f : ConfigForm) : Value :=
  Value.record
    [("validations", .list (f.validations.map Group.toValue)),
     ("additional_validations", .bool f.additionalValidations),
     ("read_write", .list (f.readWrite.map Row.toValue))]

/-- The form that a new config document starts from: one format check. -/
def starter (ids : IdSupply) : ConfigForm :=
  let (condition, ids) := ids.draw
  let (group, ids) := ids.draw
  let (row, _) := ids.draw
  { validations :=
      [{ id := group
         operator := .all
         conditions :=
           [{ Condition.blank condition true with
              key := "data.id_number", type := .matching, value := .text "^\\d+$" }]
         notice := ⟨"PE_INVALID_ID_NUMBER", "Please provide a valid ID Number."⟩ }]
    additionalValidations := false
    readWrite := [⟨row, "search_term", "$\x7brequest.data.id_number\x7d"⟩] }

end ConfigForm

end RuleDraft
