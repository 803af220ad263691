import RuleDraft.Catalog
import RuleDraft.Rule.Operand

/-!
# Conditions

A condition is a comparison of the value under a key with an operand. The two
flags are only used where a rule validates requests, and may be left open.
-/

namespace RuleDraft

/-- A leaf of a rule tree. -/
structure Condition where
  id : Text
  key : Text
  type : ConditionType
  value : Operand
  negate : Option Bool
  mandatory : Option Bool
  deriving DecidableEq, Repr

namespace Condition

inductive Field where
  | key
  | type
  | value
  | negate
  | mandatory
  deriving DecidableEq, Repr

def Field.name : Field → String
  | .key => "key"
  | .type => "type"
  | .value => "value"
  | .negate => "negate"
  | .mandatory => "mandatory"

def Field.options : List (String × Field) :=
  [Field.key, .type, .value, .negate, .mandatory].map fun f => (f.name, f)

/-- Read a flag that may be open. -/
def readFlag : Value → Checked (Option Bool)
  | .null => .ok none
  | v => (Checked.bool v).map some

def readType (v : Value) : Checked ConditionType :=
  Checked.chosen .enumeration ConditionType.options v

/-- Read a condition; every field may be absent. -/
def intake : Value → Intake Condition :=
  Intake.record "Condition" fun r =>
    Condition.mk
      <$> Intake.optional r "id" Intake.fresh (Intake.lift Checked.cleanText)
      <*> Intake.optional r "key" (pure []) (Intake.lift Checked.cleanText)
      <*> Intake.optional r "type" (pure .equals) (Intake.lift readType)
      <*> Intake.optional r "value" (pure .empty) (Intake.lift Operand.readClean)
      <*> Intake.optional r "negate" (pure none) (Intake.lift readFlag)
      <*> Intake.optional r "mandatory" (pure none) (Intake.lift readFlag)

def flagValue : Option Bool → Value
  | none => .null
  | some b => .bool b

def toValue (c : Condition) : Value :=
  Value.record
    [("id", c.id), ("key", c.key), ("type", .text c.type.name), ("value", c.value.toValue),
     ("negate", flagValue c.negate), ("mandatory", flagValue c.mandatory)]

/-- The condition with one field read anew; the others stay. -/
def withField (f : Field) (v : Value) (c : Condition) : Checked Condition :=
  match f with
  | .key => (Checked.cleanText v).map fun key => { c with key }
  | .type => (readType v).map fun type => { c with type }
  | .value => (Operand.readClean v).map fun value => { c with value }
  | .negate => (readFlag v).map fun negate => { c with negate }
  | .mandatory => (readFlag v).map fun mandatory => { c with mandatory }

/-- The condition as the editor inserts it. -/
def blank (id : Text) (withFlags : Bool) : Condition :=
  { id, key := [], type := .equals, value := .empty,
    negate := if withFlags then some false else none,
    mandatory := if withFlags then some true else none }

def isComplete (c : Condition) : Bool := ¬ c.key.isEmpty

end Condition

end RuleDraft
