import RuleDraft.Editor.Groups
import RuleDraft.Rule.Row

/-!
# Editing rows

Rows are added at the end, dropped by id, and changed one field at a time.
-/

namespace RuleDraft
namespace Editor

def addRow (rows : List Row) (ids : IdSupply) : List Row × IdSupply :=
  let (id, ids) := ids.draw
  (rows ++ [⟨id, [], []⟩], ids)

def removeRow (id : Text) (rows : List Row) : List Row :=
  rows.filter fun r => ¬ r.id = id

/-- Replace a field of a row, or refuse the value. -/
def replaceRowField (id : Text) (field : Row.Field) (v : Value) (r : Row) :
    Except Failure Row :=
  (r.withField field v).mapError fun issues =>
    .refused (.badRowField field.name id (Checked.messages issues))

def updateRow (id : Text) (field : Row.Field) (v : Value) :
    List Row → Except Failure (List Row)
  | [] => .ok []
  | r :: rest => do
      let r ← if r.id = id then replaceRowField id field v r else pure r
      return r :: (← updateRow id field v rest)

def updateRowNamed (id : Text) (field v : Value) (rows : List Row) :
    Except Failure (List Row) :=
  match named? Row.Field.options field with
  | some f => updateRow id f v rows
  | none => .error (.refused (.fixedRowField field))

end Editor
end RuleDraft
