import RuleDraft.Catalog
import RuleDraft.Issue
import RuleDraft.Json.Reader
import RuleDraft.Value.Shown

/-!
# Failures

An operation fails in one of three ways. A *refusal* is an answer of the domain,
with a message and details for the person who edits. An *unreadable* model is
data that does not have the shape of a type. A *fault* is anything else: the
operation was not prepared for it.
-/

namespace RuleDraft

inductive RefusalKind where
  | validation
  | notFound
  | lastCondition
  | missingValidation
  deriving DecidableEq, Repr

namespace RefusalKind

def name : RefusalKind → String
  | validation => "ValidationError"
  | notFound => "NotFoundError"
  | lastCondition => "LastConditionError"
  | missingValidation => "MissingValidationError"

/-- The status that a service answers with. -/
def status : RefusalKind → Nat
  | validation => 400
  | notFound => 404
  | lastCondition => 409
  | missingValidation => 422

end RefusalKind

/-- A condition whose value does not fit its type, and where it stands. -/
structure Mismatch where
  path : Text
  key : Text
  type : ConditionType
  reasons : List Text
  deriving DecidableEq, Repr

/-- Why an operation refuses. -/
inductive Refusal where
  | unknownConditionType (type : Value)
  | unfitValue (type : ConditionType) (value : Value) (reasons : List Text)
  | unknownOperator (operator : Value)
  | fixedConditionField (field : Value)
  | badConditionField (field group condition : Text) (reasons : List Text)
  | fixedNoticeField (field : Value)
  | badNoticeField (field group : Text) (reasons : List Text)
  | fixedRowField (field : Value)
  | badRowField (field row : Text) (reasons : List Text)
  | lastCondition (group condition : Text)
  | badForm (title : String) (issues : List Issue)
  | unfitConditions (mismatches : List Mismatch)
  | noValidation
  | unknownDocumentKind (kind : Text)
  deriving DecidableEq, Repr

namespace Refusal

def kind : Refusal → RefusalKind
  | lastCondition _ _ => .lastCondition
  | noValidation => .missingValidation
  | unknownDocumentKind _ => .notFound
  | _ => .validation

def unfitMessage (type : ConditionType) : Text :=
  Text.join ["Value does not fit condition type '", type.name, "'"]

def message : Refusal → Text
  | unknownConditionType type => Text.join ["Unknown condition type '", type.shown, "'"]
  | unfitValue type _ _ => unfitMessage type
  | unknownOperator operator => Text.join ["Unknown operator '", operator.shown, "'"]
  | fixedConditionField field =>
      Text.join ["Condition field '", field.shown, "' cannot be edited"]
  | badConditionField field _ _ _ =>
      Text.join ["Invalid value for condition field '", field, "'"]
  | fixedNoticeField field =>
      Text.join ["Validation field '", field.shown, "' cannot be edited"]
  | badNoticeField field _ _ => Text.join ["Invalid value for validation field '", field, "'"]
  | fixedRowField field => Text.join ["Key/value field '", field.shown, "' cannot be edited"]
  | badRowField field _ _ => Text.join ["Invalid value for key/value field '", field, "'"]
  | lastCondition _ _ => "A condition group must keep at least one condition"
  | badForm title _ => Text.join ["Invalid ", title]
  | unfitConditions mismatches =>
      Text.join [Text.ofNat mismatches.length,
        " condition value(s) do not fit their comparison type"]
  | noValidation => "Please add at least one validation rule."
  | unknownDocumentKind kind => Text.join ["Unknown document kind '", kind, "'"]

def locatedIssue (i : Issue) : Value :=
  Value.record [("loc", .text i.location), ("msg", .text i.message)]

def mismatchValue (m : Mismatch) : Value :=
  Value.record
    [("path", m.path), ("key", m.key), ("type", .text m.type.name),
     ("message", .text (unfitMessage m.type)), ("errors", Value.texts m.reasons)]

/-- What a refusal says beside its message. -/
def details : Refusal → Value
  | unknownConditionType type => Value.record [("type", type.shown)]
  | unfitValue type value reasons =>
      Value.record [("type", .text type.name), ("value", value), ("errors", Value.texts reasons)]
  | unknownOperator operator =>
      Value.record
        [("operator", operator.shown), ("allowed", namesValue LogicalOperator.options)]
  | fixedConditionField field =>
      Value.record
        [("field", field),
         ("allowed", Value.texts ["key", "type", "value", "negate", "mandatory"])]
  | badConditionField _ group condition reasons =>
      Value.record
        [("group_id", group), ("condition_id", condition), ("errors", Value.texts reasons)]
  | fixedNoticeField field =>
      Value.record
        [("field", field), ("allowed", Value.texts ["error_code", "error_message"])]
  | badNoticeField _ group reasons =>
      Value.record [("group_id", group), ("errors", Value.texts reasons)]
  | fixedRowField field =>
      Value.record [("field", field), ("allowed", Value.texts ["key", "value"])]
  | badRowField _ row reasons =>
      Value.record [("pair_id", row), ("errors", Value.texts reasons)]
  | lastCondition group condition =>
      Value.record [("group_id", group), ("condition_id", condition)]
  | badForm _ issues => Value.record [("errors", .list (issues.map locatedIssue))]
  | unfitConditions mismatches =>
      Value.record [("errors", .list (mismatches.map mismatchValue))]
  | noValidation => Value.record [("title", .text "Validation required")]
  | unknownDocumentKind kind =>
      Value.record [("kind", kind), ("allowed", namesValue DocumentKind.options)]

end Refusal

/-- What an operation was not prepared for. -/
inductive Fault where
  /-- A numeral with more digits than are read. -/
  | integerTooLong (digits : Nat)
  /-- A document with a container too deep. -/
  | documentTooDeep (container : Json.Container)
  /-- A repetition count beyond what a matcher counts. -/
  | countTooLarge
  /-- The number of an escaped character beyond a machine word. -/
  | characterTooLarge
  /-- A pattern whose groups are nested too deeply. -/
  | patternTooDeep
  /-- A lookbehind wider than a matcher can step back. -/
  | reachTooLarge
  /-- A group without a notice where a notice is asked for. -/
  | noNotice
  deriving DecidableEq, Repr

namespace Fault

def name : Fault → String
  | integerTooLong _ => "ValueError"
  | documentTooDeep _ => "RecursionError"
  | countTooLarge => "OverflowError"
  | characterTooLarge => "OverflowError"
  | patternTooDeep => "RecursionError"
  | reachTooLarge => "RuntimeError"
  | noNotice => "AttributeError"

def message : Fault → Text
  | integerTooLong digits => Json.ReadError.tooManyDigits digits
  | documentTooDeep container => Json.ReadError.nestedTooDeeply container
  | countTooLarge => "the repetition number is too large"
  | characterTooLarge => "Python int too large to convert to C int"
  | patternTooDeep => "maximum recursion depth exceeded"
  | reachTooLarge => "invalid SRE code"
  | noNotice => "'ConditionGroup' object has no attribute 'error_code'"

end Fault

inductive Failure where
  | refused (r : Refusal)
  | unreadable (title : String) (issues : List Issue)
  | broken (f : Fault)
  deriving DecidableEq, Repr

namespace Failure

def unreadableMessage (title : String) (issues : List Issue) : Text :=
  Text.join [Text.ofNat issues.length, " validation error(s) for ", title]

end Failure

end RuleDraft
