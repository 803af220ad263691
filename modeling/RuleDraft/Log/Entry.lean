import RuleDraft.Value

/-!
# Log entries

What is written down about the work: a level, who writes, a message, and named
data. Entries are results like any other and are written out at the edge.
-/

namespace RuleDraft
namespace Log

inductive Level where
  | debug
  | info
  | warning
  | error
  | critical
  deriving DecidableEq, Repr

def Level.name : Level → String
  | debug => "DEBUG"
  | info => "INFO"
  | warning => "WARNING"
  | error => "ERROR"
  | critical => "CRITICAL"

structure Entry where
  level : Level
  logger : String
  message : Text
  extra : List (Text × Value)
  deriving DecidableEq, Repr

def Entry.of (level : Level) (logger : String) (message : Text)
    (extra : List (String × Value)) : Entry :=
  ⟨level, logger, message, extra.map fun f => (Text.ofString f.1, f.2)⟩

def Entry.toValue (e : Entry) : Value :=
  Value.record
    [("level", .text e.level.name), ("logger", .text e.logger), ("message", .text e.message),
     ("extra", .object e.extra)]

end Log
end RuleDraft
