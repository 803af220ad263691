import RuleDraft.Number.Numeral
import RuleDraft.Text.Quoted

/-!
# Issues

Reading data does not stop at the first thing that is wrong. Each issue has a
cause and the path to the part of the data that it is about. The kind of a
cause is a fixed word; its message is for people.
-/

namespace RuleDraft

/-- One step of a path into data. -/
inductive Step where
  /-- A field of an object. -/
  | field (name : Text)
  /-- An item of a list. -/
  | item (index : Nat)
  /-- A reading that was tried and failed, where several are possible. -/
  | reading (label : Text)
  deriving DecidableEq, Repr

def Step.text : Step → Text
  | .field name => name
  | .item index => Text.ofNat index
  | .reading label => label

/-- Whether a closed choice is one of an enumeration or of listed texts. -/
inductive Choice where
  | enumeration
  | listed
  deriving DecidableEq, Repr

/-- Why a part of the data is not accepted. -/
inductive Cause where
  | missing
  | notRecord (model : String)
  | notBody
  | notText
  | notUnicode
  | notChosen (choice : Choice) (options : List String)
  | notBool
  | unreadableBool
  | notInteger
  | unreadableInteger
  | oversizedInteger
  | fractional
  | notFinite
  | notNumber
  | unreadableNumber
  | notList
  | tooFew (least : Nat)
  | negative
  | rejected (reason : Text)
  | notJson
  deriving DecidableEq, Repr

namespace Cause

/-- Options in quotes, the last after "or". -/
def listOptions : List String → Text
  | [] => []
  | [last] => (Text.ofString last).quoted
  | [a, b] => Text.join [(Text.ofString a).quoted, " or ", (Text.ofString b).quoted]
  | a :: rest => (Text.ofString a).quoted ++ Text.ofString ", " ++ listOptions rest

def kind : Cause → String
  | missing => "missing"
  | notRecord _ => "model_type"
  | notBody => "model_attributes_type"
  | notText => "string_type"
  | notUnicode => "string_unicode"
  | notChosen .enumeration _ => "enum"
  | notChosen .listed _ => "literal_error"
  | notBool => "bool_type"
  | unreadableBool => "bool_parsing"
  | notInteger => "int_type"
  | unreadableInteger => "int_parsing"
  | oversizedInteger => "int_parsing_size"
  | fractional => "int_from_float"
  | notFinite => "finite_number"
  | notNumber => "float_type"
  | unreadableNumber => "float_parsing"
  | notList => "list_type"
  | tooFew _ => "too_short"
  | negative => "greater_than_equal"
  | rejected _ => "value_error"
  | notJson => "json_invalid"

def message : Cause → Text
  | missing => "Field required"
  | notRecord model => Text.join ["Input should be a valid dictionary or instance of ", model]
  | notBody => "Input should be a valid dictionary or object to extract fields from"
  | notText => "Input should be a valid string"
  | notUnicode =>
      "Input should be a valid string, unable to parse raw data as a unicode string"
  | notChosen _ options => Text.join ["Input should be ", listOptions options]
  | notBool => "Input should be a valid boolean"
  | unreadableBool => "Input should be a valid boolean, unable to interpret input"
  | notInteger => "Input should be a valid integer"
  | unreadableInteger =>
      "Input should be a valid integer, unable to parse string as an integer"
  | oversizedInteger =>
      "Unable to parse input string as an integer, exceeded maximum size"
  | fractional => "Input should be a valid integer, got a number with a fractional part"
  | notFinite => "Input should be a finite number"
  | notNumber => "Input should be a valid number"
  | unreadableNumber => "Input should be a valid number, unable to parse string as a number"
  | notList => "Input should be a valid list"
  | tooFew least =>
      Text.join ["List should have at least ", Text.ofNat least,
        if least = 1 then " item" else " items", " after validation, not 0"]
  | negative => "Input should be greater than or equal to 0"
  | rejected reason => Text.join ["Value error, ", reason.replaceSurrogates]
  | notJson => "JSON decode error"

end Cause

/-- A cause and the path to the part it is about. -/
structure Issue where
  path : List Step
  cause : Cause
  deriving DecidableEq, Repr

namespace Issue

def here (cause : Cause) : Issue := ⟨[], cause⟩

def under (step : Step) (i : Issue) : Issue := { i with path := step :: i.path }

/-- The path with points between its steps. -/
def location (i : Issue) : Text :=
  Text.joinWith [CodePoint.ofChar '.'] (i.path.map Step.text)

def message (i : Issue) : Text := i.cause.message

end Issue

end RuleDraft
