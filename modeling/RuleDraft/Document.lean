import RuleDraft.Document.Gate
import RuleDraft.Rule.Form

/-!
# Documents

A document is what is left of a form when the ids are gone and absent choices
have been made: a vendor document describes an outbound call, a config document
the rules that requests have to meet. The order of fields is the order in which
they are written.
-/

namespace RuleDraft

/-- A condition without its identity. -/
structure Clause where
  key : Text
  type : ConditionType
  value : Operand
  deriving DecidableEq, Repr

/-- Clauses under one operator. -/
structure Match where
  operator : LogicalOperator
  clauses : List Clause
  deriving DecidableEq, Repr

/-- A clause of a validation, with both of its flags. -/
structure CheckedClause extends Clause where
  negate : Bool
  mandatory : Bool
  deriving DecidableEq, Repr

/-- A validation with what it reports when it fails. -/
structure Validation where
  operator : LogicalOperator
  clauses : List CheckedClause
  notice : Notice
  deriving DecidableEq, Repr

/-- The description of an outbound call. -/
structure VendorDocument where
  vendor : Text
  endpoint : Text
  method : CallMethod
  headers : Keyed Text Text
  timeout : Text
  retryCases : List RetryCase
  body : Keyed Text Text
  preconditions : List Match
  responseMappings : List Match
  responseTemplate : Keyed Text Text
  deriving DecidableEq, Repr

/-- The rules for requests. -/
structure ConfigDocument where
  validations : List Validation
  additionalValidations : Bool
  readWrite : Keyed Text Text
  deriving DecidableEq, Repr

/-! ## Clauses and matches -/

def Condition.clause (c : Condition) : Clause := ⟨c.key, c.type, c.value⟩

/-- The condition with flags: no negation and mandatory unless it says otherwise. -/
def Condition.checkedClause (c : Condition) : CheckedClause :=
  { c.clause with negate := c.negate.getD false, mandatory := c.mandatory.getD true }

def Group.toMatch {ν : Type} (g : Group ν) : Match :=
  ⟨g.operator, g.conditions.map Condition.clause⟩

def Group.toValidation (g : ValidationGroup) : Validation :=
  ⟨g.operator, g.conditions.map Condition.checkedClause, g.notice⟩

def Clause.named (c : Clause) : List (String × Value) :=
  [("key", .text c.key), ("type", .text c.type.name), ("value", c.value.toValue)]

def Match.toValue (m : Match) : Value :=
  Value.record
    [("operator", .text m.operator.name),
     ("conditions", .list (m.clauses.map fun c => Value.record c.named))]

def CheckedClause.toValue (c : CheckedClause) : Value :=
  Value.record
    (c.toClause.named ++ [("negate", .bool c.negate), ("mandatory", .bool c.mandatory)])

def Validation.toValue (v : Validation) : Value :=
  Value.record
    ([("operator", .text v.operator.name),
      ("conditions", .list (v.clauses.map CheckedClause.toValue))] ++
      Group.noticeFields (some v.notice))

def mappingValue (m : Keyed Text Text) : Value :=
  .object (m.map fun e => (e.1, .text e.2))

/-! ## Vendor documents -/

/-- The placeholder for an environment variable; no name gives no placeholder. -/
def envPlaceholder (name : Text) : Text :=
  if name.isEmpty then [] else Text.join ["$\x7benv.", name, "\x7d"]

namespace VendorDocument

def ofForm (f : VendorForm) : VendorDocument :=
  { vendor := f.vendor
    endpoint := f.endpoint
    method := f.method.getD .post
    headers := Row.fold true f.headers
    timeout := envPlaceholder f.timeout
    retryCases := f.retryCases
    body := Row.fold false f.body
    preconditions := f.preconditions.map Group.toMatch
    responseMappings := f.responseMappings.map Group.toMatch
    responseTemplate := Row.fold false f.responseTemplate }

def empty : VendorDocument := ofForm .empty

def toValue (d : VendorDocument) : Value :=
  Value.record
    [("vendor", d.vendor), ("endpoint", d.endpoint), ("method", .text d.method.name),
     ("headers", mappingValue d.headers), ("timeout", d.timeout),
     ("retry_cases", Value.texts (d.retryCases.map fun r => Text.ofString r.name)),
     ("body", mappingValue d.body),
     ("preconditions",
       .list (d.preconditions.map fun m => Value.record [("match", m.toValue)])),
     ("response_mappings",
       .list (d.responseMappings.map fun m =>
         Value.record [("match", m.toValue), ("response", .object [])])),
     ("response_template", mappingValue d.responseTemplate)]

end VendorDocument

def VendorForm.gate (f : VendorForm) : Except Failure Unit :=
  Gate.check [("$.preconditions", f.preconditions), ("$.response_mappings", f.responseMappings)]

/-- The document of a vendor form; strictly only if every value fits. -/
def VendorForm.generate (strict : Bool) (f : VendorForm) : Except Failure VendorDocument := do
  if strict then f.gate
  return .ofForm f

/-! ## Config documents -/

namespace ConfigDocument

def ofForm (f : ConfigForm) : ConfigDocument :=
  { validations := f.validations.map Group.toValidation
    additionalValidations := f.additionalValidations
    readWrite := Row.fold false f.readWrite }

def empty : ConfigDocument := ⟨[], false, []⟩

/-- The document as data; without a keyed row there is no mapping at all. -/
def toValue (d : ConfigDocument) : Value :=
  Value.record <|
    [("validations", .list (d.validations.map Validation.toValue)),
     ("additional_validations", .bool d.additionalValidations)] ++
      if d.readWrite.isEmpty then [] else [("read_write", mappingValue d.readWrite)]

end ConfigDocument

def ConfigForm.gate (f : ConfigForm) : Except Failure Unit :=
  Gate.check [("$.validations", f.validations)]

/-- The document of a config form, which needs a validation. -/
def ConfigForm.generate (strict : Bool) (f : ConfigForm) : Except Failure ConfigDocument := do
  if f.validations.isEmpty then throw (.refused .noValidation)
  if strict then f.gate
  return .ofForm f

/-! ## Forms as data -/

/-- Read a form, or refuse it with its issues. -/
def readForm {α : Type} (title : String) (read : Value → Intake α) (v : Value)
    (ids : IdSupply) : Except Failure α :=
  ((read v).run ids).1.mapError fun issues => .refused (.badForm title issues)

/-- A config form made of groups as they stand in an edit: all need a notice. -/
def ConfigForm.ofGroups (groups : List MixedGroup) : Except Failure ConfigForm :=
  match (collect 0 groups).under (.field "validations") with
  | .ok validations => .ok ⟨validations, false, []⟩
  | .error issues => .error (.refused (.badForm title issues))
where
  /-- The groups as validation groups, an issue for each that has no notice. -/
  collect : Nat → List MixedGroup → Checked (List ValidationGroup)
    | _, [] => .ok []
    | n, g :: rest =>
        let one : Checked ValidationGroup :=
          match g.notice with
          | some notice => .ok (g.withNotice notice)
          | none => Checked.under (.item n) (Checked.fail (.notRecord "ValidationGroup"))
        Checked.apply (one.map List.cons) (collect (n + 1) rest)

/-- A vendor form with the same groups before and after the call. -/
def VendorForm.ofGroups {ν : Type} (groups : List (Group ν)) : VendorForm :=
  let groups := groups.map Group.forget
  { VendorForm.empty with preconditions := groups, responseMappings := groups }

end RuleDraft
