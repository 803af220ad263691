import RuleDraft.Issue
import RuleDraft.Value

/-!
# Intake

Reading data into the types of the library. A reader may draw fresh ids for
nodes that come without one, and it reports every issue rather than the first.
The supply of ids moves on even when a reading fails.
-/

namespace RuleDraft

/-- Fresh ids: the one that each draw gives, and how many have been drawn. -/
structure IdSupply where
  label : Nat → Text
  drawn : Nat

namespace IdSupply

def numbered (stem : Text) : IdSupply := ⟨fun n => stem ++ CodePoint.ofChar '-' :: Text.ofNat n, 0⟩

def draw (s : IdSupply) : Text × IdSupply :=
  (s.label (s.drawn + 1), { s with drawn := s.drawn + 1 })

end IdSupply

/-- What a reading without fresh ids gives: a result or issues. -/
abbrev Checked (α : Type) := Except (List Issue) α

namespace Checked

def fail {α : Type} (cause : Cause) : Checked α := .error [Issue.here cause]

/-- The issues of a reading, seen from one level further out. -/
def under {α : Type} (step : Step) (r : Checked α) : Checked α :=
  r.mapError fun issues => issues.map (Issue.under step)

/-- Apply one result to another; the issues of both count. -/
def apply {α β : Type} (f : Checked (α → β)) (x : Checked α) : Checked β :=
  match f, x with
  | .ok f, .ok x => .ok (f x)
  | .ok _, .error b => .error b
  | .error a, .ok _ => .error a
  | .error a, .error b => .error (a ++ b)

def items {α : Type} (read : Value → Checked α) : Nat → List Value → Checked (List α)
  | _, [] => .ok []
  | n, v :: vs =>
      apply (((read v).under (.item n)).map List.cons) (items read (n + 1) vs)

def list {α : Type} (read : Value → Checked α) : Value → Checked (List α)
  | .list vs => items read 0 vs
  | _ => fail .notList

/-- The first reading that succeeds; the issues of all when none does. -/
def firstOf {α : Type} : List (Text × Checked α) → Checked α
  | [] => .error []
  | (label, r) :: rest =>
      match r with
      | .ok x => .ok x
      | .error a =>
          match firstOf rest with
          | .ok x => .ok x
          | .error b => .error (a.map (Issue.under (.reading label)) ++ b)

/-- Keep what a reading gives only if a check finds no cause against it. -/
def guarded {α : Type} (check : α → Option Cause) : Checked α → Checked α
  | .ok x =>
      match check x with
      | none => .ok x
      | some cause => fail cause
  | .error issues => .error issues

def messages (issues : List Issue) : List Text := issues.map Issue.message

end Checked

/-- A reading that may draw fresh ids. -/
def Intake (α : Type) := IdSupply → Checked α × IdSupply

namespace Intake

def run {α : Type} (r : Intake α) (ids : IdSupply) : Checked α × IdSupply := r ids

def ofChecked {α : Type} (r : Checked α) : Intake α := fun ids => (r, ids)

def lift {α : Type} (read : Value → Checked α) (v : Value) : Intake α := ofChecked (read v)

def guarded {α : Type} (check : α → Option Cause) (r : Intake α) : Intake α := fun ids =>
  let result := r ids
  (Checked.guarded check result.1, result.2)

def fresh : Intake Text := fun ids => (.ok ids.draw.1, ids.draw.2)

/-- One reading after the other; the issues of both count. -/
def apply {α β : Type} (f : Intake (α → β)) (x : Intake α) : Intake β := fun ids =>
  let first := f ids
  let second := x first.2
  (Checked.apply first.1 second.1, second.2)

instance : Applicative Intake where
  pure x := ofChecked (.ok x)
  seq f x := apply f (x ())

def under {α : Type} (step : Step) (r : Intake α) : Intake α := fun ids =>
  let result := r ids
  (result.1.under step, result.2)

def items {α : Type} (read : Value → Intake α) : Nat → List Value → Intake (List α)
  | _, [] => pure []
  | n, v :: vs => List.cons <$> (read v).under (.item n) <*> items read (n + 1) vs

def list {α : Type} (read : Value → Intake α) : Value → Intake (List α)
  | .list vs => items read 0 vs
  | _ => ofChecked (Checked.fail .notList)

/-- Read an object field by field. -/
def record {α : Type} (model : String) (read : List (Text × Value) → Intake α) :
    Value → Intake α
  | .object fields => read fields
  | _ => ofChecked (Checked.fail (.notRecord model))

/-- A field that may be absent. -/
def optional {α : Type} (fields : List (Text × Value)) (name : String)
    (absent : Intake α) (read : Value → Intake α) : Intake α :=
  match Keyed.get? (Text.ofString name) fields with
  | some v => (read v).under (.field name)
  | none => absent

def required {α : Type} (fields : List (Text × Value)) (name : String)
    (read : Value → Intake α) : Intake α :=
  optional fields name ((ofChecked (Checked.fail .missing)).under (.field name)) read

end Intake

end RuleDraft
