import RuleDraft.Checksum
import RuleDraft.Json.Writer

/-!
# Renderings

A document is shown in lines and hashed in its compact form, so that two
generations can be compared by their checksum alone.
-/

namespace RuleDraft

/-- A document as data and as text, with its checksum. -/
structure Rendering where
  document : Value
  content : Text
  compact : Text
  checksum : Text

namespace Rendering

def ofValue (indent : Int) (v : Value) : Rendering :=
  let compact := Json.render .compact v
  { document := v
    content := Json.render (.pretty indent) v
    compact
    checksum := Checksum.ofText compact }

def toValue (r : Rendering) : Value :=
  Value.record
    [("document", r.document), ("content", r.content), ("compact", r.compact),
     ("checksum", r.checksum)]

end Rendering

end RuleDraft
