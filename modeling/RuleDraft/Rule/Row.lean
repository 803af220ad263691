import RuleDraft.Intake.Scalar

/-!
# Rows

A row is one editable line of a key and value list. Folding rows makes them a
mapping: rows without a key are left out, and of rows with one key the first
gives the place and the last the value.
-/

namespace RuleDraft

/-- A key and a value. -/
structure Row where
  id : Text
  key : Text
  value : Text
  deriving DecidableEq, Repr

namespace Row

inductive Field where
  | key
  | value
  deriving DecidableEq, Repr

def Field.name : Field → String
  | .key => "key"
  | .value => "value"

def Field.options : List (String × Field) :=
  [Field.key, .value].map fun f => (f.name, f)

def intake : Value → Intake Row :=
  Intake.record "KeyValuePair" fun r =>
    Row.mk
      <$> Intake.optional r "id" Intake.fresh (Intake.lift Checked.cleanText)
      <*> Intake.optional r "key" (pure []) (Intake.lift Checked.cleanText)
      <*> Intake.optional r "value" (pure []) (Intake.lift Checked.cleanText)

def toValue (r : Row) : Value :=
  Value.record [("id", r.id), ("key", r.key), ("value", r.value)]

/-- The row with one field read anew; the others stay. -/
def withField (f : Field) (v : Value) (r : Row) : Checked Row :=
  match f with
  | .key => (Checked.cleanText v).map fun key => { r with key }
  | .value => (Checked.cleanText v).map fun value => { r with value }

/-- Whether a row takes part in a fold. -/
def isKept (needsValue : Bool) (r : Row) : Bool :=
  ¬ r.key.isEmpty && (¬ needsValue || ¬ r.value.isEmpty)

def fold (needsValue : Bool) (rows : List Row) : Keyed Text Text :=
  Keyed.ofRows ((rows.filter (isKept needsValue)).map fun r => (r.key, r.value))

end Row

end RuleDraft
