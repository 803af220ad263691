import RuleDraft.Value

/-!
# Closed choices

The closed sets of names that rules and documents choose from, each with its
names in display order.
-/

namespace RuleDraft

/-- How the conditions of a group combine. -/
inductive LogicalOperator where
  | all
  | any
  deriving DecidableEq, Repr

namespace LogicalOperator

def name : LogicalOperator → String
  | all => "AND"
  | any => "OR"

/-- The named operators in display order. -/
def options : List (String × LogicalOperator) := [all, any].map fun o => (o.name, o)

end LogicalOperator

/-- How a condition compares. -/
inductive ConditionType where
  | equals
  | matching
  | greaterThan
  | lessThan
  | contains
  | lengthRange
  | dataType
  deriving DecidableEq, Repr

namespace ConditionType

def name : ConditionType → String
  | equals => "equals"
  | matching => "matches"
  | greaterThan => "greater_than"
  | lessThan => "less_than"
  | contains => "contains"
  | lengthRange => "str_len_range"
  | dataType => "data_type"

def options : List (String × ConditionType) :=
  [equals, matching, greaterThan, lessThan, contains, lengthRange, dataType].map
    fun t => (t.name, t)

end ConditionType

/-- The method of an outbound call. -/
inductive CallMethod where
  | get
  | post
  | put
  | delete
  | patch
  deriving DecidableEq, Repr

namespace CallMethod

def name : CallMethod → String
  | get => "GET"
  | post => "POST"
  | put => "PUT"
  | delete => "DELETE"
  | patch => "PATCH"

def options : List (String × CallMethod) :=
  [get, post, put, delete, patch].map fun m => (m.name, m)

end CallMethod

/-- A class of failures after which a call is tried again. -/
inductive RetryCase where
  | poison
  | network
  | timeout
  | server
  deriving DecidableEq, Repr

namespace RetryCase

def name : RetryCase → String
  | poison => "http_poison_error"
  | network => "network_error"
  | timeout => "timeout"
  | server => "server_error"

def options : List (String × RetryCase) :=
  [poison, network, timeout, server].map fun r => (r.name, r)

end RetryCase

/-- The type of a JSON value. -/
inductive JsonType where
  | string
  | number
  | integer
  | boolean
  | array
  | object
  | null
  deriving DecidableEq, Repr

namespace JsonType

def name : JsonType → String
  | string => "string"
  | number => "number"
  | integer => "integer"
  | boolean => "boolean"
  | array => "array"
  | object => "object"
  | null => "null"

def options : List (String × JsonType) :=
  [string, number, integer, boolean, array, object, null].map fun t => (t.name, t)

end JsonType

/-- What a document is about. -/
inductive DocumentKind where
  | vendor
  | config
  deriving DecidableEq, Repr

namespace DocumentKind

def name : DocumentKind → String
  | vendor => "vendor"
  | config => "config"

def options : List (String × DocumentKind) := [vendor, config].map fun k => (k.name, k)

def ofName? (t : Text) : Option DocumentKind :=
  (options.find? fun o => Text.ofString o.1 = t).map Prod.snd

end DocumentKind

def namesValue {α : Type} (options : List (String × α)) : Value :=
  Value.texts (options.map fun o => Text.ofString o.1)

/-- All closed choices, as data. -/
def catalogs : Value :=
  Value.record
    [("methods", namesValue CallMethod.options),
     ("retry_cases", namesValue RetryCase.options),
     ("condition_types", namesValue ConditionType.options),
     ("operators", namesValue LogicalOperator.options),
     ("data_types", namesValue JsonType.options)]

end RuleDraft
