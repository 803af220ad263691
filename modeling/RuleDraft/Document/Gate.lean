import RuleDraft.Comparison
import RuleDraft.Rule.Group

/-!
# The strict gate

Documents pass values on as they were typed. The strict gate looks at every
condition first and reports all values that do not fit their type, each with the
path of its condition.
-/

namespace RuleDraft
namespace Gate

variable {ν : Type}

def conditionPath (path : Text) (group condition : Nat) : Text :=
  Text.join [path, "[", Text.ofNat group, "].conditions[", Text.ofNat condition, "]"]

/-- What is wrong with a condition at a path, if anything. -/
def mismatch? (path : Text) (c : Condition) : Except Fault (Option Mismatch) :=
  match Comparison.read c.type c.value.toValue with
  | .ok _ => .ok none
  | .error (.unfit reasons) => .ok (some ⟨path, c.key, c.type, reasons⟩)
  | .error (.broken f) => .error f

def ofConditions (path : Text) (group : Nat) :
    Nat → List Condition → Except Fault (List Mismatch)
  | _, [] => .ok []
  | j, c :: rest => do
      let found ← mismatch? (conditionPath path group j) c
      return found.toList ++ (← ofConditions path group (j + 1) rest)

def ofGroups (path : Text) : Nat → List (Group ν) → Except Fault (List Mismatch)
  | _, [] => .ok []
  | i, g :: rest => do
      let found ← ofConditions path i 0 g.conditions
      return found ++ (← ofGroups path (i + 1) rest)

def collect (path : Text) (groups : List (Group ν)) : Except Fault (List Mismatch) :=
  ofGroups path 0 groups

def refuse : List Mismatch → Except Failure Unit
  | [] => .ok ()
  | found => .error (.refused (.unfitConditions found))

/-- Let groups at their paths pass only if every value fits. -/
def check (lists : List (Text × List (Group ν))) : Except Failure Unit := do
  let found ← (lists.mapM fun l => collect l.1 l.2).mapError Failure.broken
  refuse found.flatten

/-- The number of conditions without a key. -/
def countIncomplete (groups : List (Group ν)) : Nat :=
  (groups.flatMap Group.conditions).countP fun c => ¬ c.isComplete

end Gate
end RuleDraft
