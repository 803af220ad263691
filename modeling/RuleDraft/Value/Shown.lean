import RuleDraft.Number.Shortest
import RuleDraft.Text.Quoted
import RuleDraft.Value

/-!
# Values in messages

The text of a value inside a message. Text stands as it is at the top and in
quotes inside a list or an object.
-/

namespace RuleDraft
namespace Value

mutual

/-- A value as part of a larger one. -/
def inner : Value → Text
  | .null => Text.ofString "None"
  | .bool b => Text.ofString (if b then "True" else "False")
  | .int i => Text.ofInt i
  | .float x => FloatLayout.plain.write x
  | .text t => t.quoted
  | .list vs => CodePoint.ofChar '[' :: (innerItems vs ++ [CodePoint.ofChar ']'])
  | .object fs => CodePoint.ofChar '\x7b' :: (innerFields fs ++ [CodePoint.ofChar '\x7d'])

def innerItems : List Value → Text
  | [] => []
  | v :: vs => inner v ++ (if vs.isEmpty then [] else Text.ofString ", " ++ innerItems vs)

def innerFields : List (Text × Value) → Text
  | [] => []
  | (k, v) :: fs =>
      k.quoted ++ Text.ofString ": " ++ inner v ++
        (if fs.isEmpty then [] else Text.ofString ", " ++ innerFields fs)

end

/-- A value as the whole of a text. -/
def shown : Value → Text
  | .text t => t
  | v => v.inner

def kindName : Value → String
  | .null => "NoneType"
  | .bool _ => "bool"
  | .int _ => "int"
  | .float _ => "float"
  | .text _ => "str"
  | .list _ => "list"
  | .object _ => "dict"

end Value
end RuleDraft
