import RuleDraft.Intake.Scalar

/-!
# Operands

What a condition compares with: one scalar or a list of scalars. A scalar keeps
the type that it came with.
-/

namespace RuleDraft

/-- A text, a number or a truth value. -/
inductive Scalar where
  | text (t : Text)
  | int (i : Int)
  | float (x : Binary64)
  | bool (b : Bool)
  deriving DecidableEq, Repr

namespace Scalar

def toValue : Scalar → Value
  | text t => .text t
  | int i => .int i
  | float x => .float x
  | bool b => .bool b

def ofValue? : Value → Option Scalar
  | .text t => some (text t)
  | .int i => some (int i)
  | .float x => some (float x)
  | .bool b => some (bool b)
  | _ => none

/-- What each reading of a scalar reports about something else. -/
def issues : List Issue :=
  [⟨[.reading "str"], .notText⟩, ⟨[.reading "int"], .notInteger⟩,
   ⟨[.reading "float"], .notNumber⟩, ⟨[.reading "bool"], .notBool⟩]

def read (v : Value) : Checked Scalar :=
  match ofValue? v with
  | some s => .ok s
  | none => .error issues

end Scalar

/-- One scalar or several. -/
inductive Operand where
  | one (s : Scalar)
  | many (ss : List Scalar)
  deriving DecidableEq, Repr

namespace Operand

def toValue : Operand → Value
  | one s => s.toValue
  | many ss => .list (ss.map Scalar.toValue)

def empty : Operand := .one (.text [])

def text (s : String) : Operand := .one (.text s)

def listLabel : Text := "list[union[str,int,float,bool]]"

/-- Read an operand, without a look at the code points of its texts. -/
def read (v : Value) : Checked Operand :=
  match Scalar.ofValue? v with
  | some s => .ok (.one s)
  | none =>
      match Checked.list Scalar.read v with
      | .ok ss => .ok (.many ss)
      | .error found => .error (Scalar.issues ++ found.map (Issue.under (.reading listLabel)))

def textsOf : Operand → List Text
  | one (.text t) => [t]
  | one _ => []
  | many ss => ss.filterMap fun s => match s with
      | .text t => some t
      | _ => none

/-- The first text that has no encoding speaks against the operand. -/
def encodable (o : Operand) : Option Cause := o.textsOf.findSome? Checked.encodable

/-- Read an operand whose texts all have an encoding. -/
def readClean (v : Value) : Checked Operand := Checked.guarded encodable (read v)

end Operand

end RuleDraft
