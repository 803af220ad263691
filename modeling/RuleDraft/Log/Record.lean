import RuleDraft.Incident
import RuleDraft.Json.Writer
import RuleDraft.Log.Entry
import RuleDraft.Log.Timestamp
import RuleDraft.Text.LetterCase
import RuleDraft.Text.Template

/-!
# Log records and lines

A record is what a program hands over to be logged: where it was written, a
message template with arguments, what was raised, and further attributes. A
record becomes one line of JSON. An attribute with a reserved name replaces the
record's own; the others are kept in order and written last.
-/

namespace RuleDraft

def Value.isTruthy : Value → Bool
  | .null => false
  | .bool b => b
  | .int i => i ≠ 0
  | .float x => x.units? ≠ some 0
  | .text t => ¬ t.isEmpty
  | .list vs => ¬ vs.isEmpty
  | .object fs => ¬ fs.isEmpty

namespace Log

/-- What a record says was raised. -/
inductive Raised where
  | nothing
  /-- An incident, or the absence of one where one was asked for. -/
  | incident (i : Option Incident)
  /-- Data in the place of an incident. -/
  | data (v : Value)

/-- A record before it is written. -/
structure Record where
  name : Value
  levelName : Value
  path : Value
  line : Value
  function : Value
  created : Value
  message : Value
  arguments : Option Template.Arguments
  raised : Raised
  /-- Data in the place of the function that fills in the message. -/
  replacedFill : Option Value
  extra : Keyed Text Value

inductive RecordFault where
  | time (f : TimeFault)
  | template (f : Template.Fault)
  | notCallable (kind : String)
  | notSubscriptable (kind : String)
  | noName (kind : String)
  | noItem
  | noKey
  deriving DecidableEq, Repr

namespace RecordFault

def name : RecordFault → String
  | time f => f.name
  | template f => f.name
  | notCallable _ | notSubscriptable _ => "TypeError"
  | noName _ => "AttributeError"
  | noItem => "IndexError"
  | noKey => "KeyError"

def message : RecordFault → Text
  | time f => f.message
  | template f => f.message
  | notCallable kind => Text.join ["'", kind, "' object is not callable"]
  | notSubscriptable kind => Text.join ["'", kind, "' object is not subscriptable"]
  | noName kind => Text.join ["'", kind, "' object has no attribute '__name__'"]
  | noItem => "list index out of range"
  | noKey => "0"

end RecordFault

def levelName (n : Int) : Text :=
  match n with
  | 0 => "NOTSET"
  | 10 => Level.debug.name
  | 20 => Level.info.name
  | 30 => Level.warning.name
  | 40 => Level.error.name
  | 50 => Level.critical.name
  | n => Text.join ["Level ", Text.ofInt n]

/-- Attribute names that are never written as further attributes. -/
def reservedNames : List String :=
  ["name", "msg", "args", "levelname", "levelno", "pathname", "filename", "module", "lineno",
   "funcName", "created", "msecs", "relativeCreated", "thread", "threadName", "processName",
   "process", "taskName", "getMessage", "exc_info", "exc_text", "stack_info"]

namespace Record

/-- Arguments in order; a single mapping that is not empty gives its fields. -/
def argumentsOf : List Value → Option Template.Arguments
  | [] => none
  | [.object fields] => if fields.isEmpty then some (.inOrder [.object []])
      else some (.underKeys fields)
  | values => some (.inOrder values)

/-- One value in the place of the arguments. -/
def replacedArguments (v : Value) : Option Template.Arguments :=
  if ¬ v.isTruthy then none
  else match v with
    | .object fields => some (.underKeys fields)
    | v => some (.single v)

def withAttribute (r : Record) (name : Text) (v : Value) : Record :=
  match name.toString with
  | "name" => { r with name := v }
  | "levelname" => { r with levelName := v }
  | "pathname" => { r with path := v }
  | "lineno" => { r with line := v }
  | "funcName" => { r with function := v }
  | "created" => { r with created := v }
  | "msg" => { r with message := v }
  | "args" => { r with arguments := replacedArguments v }
  | "exc_info" => { r with raised := if v.isTruthy then .data v else .nothing }
  | "getMessage" => { r with replacedFill := some v }
  | _ =>
      if reservedNames.any fun n => Text.ofString n = name then r
      else { r with extra := Keyed.put name v r.extra }

def filledMessage (r : Record) : Except RecordFault Text :=
  match r.replacedFill, r.arguments with
  | some v, _ => .error (.notCallable v.kindName)
  | none, none => .ok r.message.shown
  | none, some args => (Template.fill r.message.shown args).mapError .template

def raisedFields (type message : Value) : Value :=
  Value.record [("type", type), ("message", message)]

def raisedValue : Raised → Except RecordFault (Option Value)
  | .nothing => .ok none
  | .incident none => .ok (some (raisedFields .null .null))
  | .incident (some i) => .ok (some (raisedFields i.family i.shown))
  | .data (.list (type :: rest)) =>
      if type.isTruthy then .error (.noName type.kindName)
      else match rest with
        | [] => .error .noItem
        | m :: _ =>
            .ok (some (raisedFields .null (if m.isTruthy then .text m.shown else .null)))
  | .data (.object _) => .error .noKey
  | .data (.text t) => .error (.noName (Value.text t).kindName)
  | .data v => .error (.notSubscriptable v.kindName)

/-- A field that is only written when there is a value. -/
def fieldIf (name : String) : Option Value → List (String × Value)
  | none => []
  | some v => [(name, v)]

def fields (requestId : Text) (r : Record) : Except RecordFault Value := do
  let time ← ((Instant.ofValue r.created).bind Instant.text).mapError .time
  let message ← r.filledMessage
  let raised ← raisedValue r.raised
  return Value.record <|
    [("timestamp", .text time), ("level", r.levelName), ("logger", r.name),
     ("message", .text message)] ++
    fieldIf "request_id" (if requestId.isEmpty then none else some (.text requestId)) ++
    fieldIf "exception" raised ++
    [("file", r.path), ("line", r.line), ("function", r.function)] ++
    fieldIf "extra" (if r.extra.isEmpty then none else some (.object r.extra))

def render (requestId : Text) (r : Record) : Except RecordFault Text :=
  (r.fields requestId).map (Json.render .asciiLine)

end Record

/-! ## Thresholds -/

def thresholds : List (String × Nat) :=
  [("DEBUG", 10), ("INFO", 20), ("WARN", 30), ("WARNING", 30), ("ERROR", 40),
   ("CRITICAL", 50), ("FATAL", 50), ("NOTSET", 0)]

/-- Names that stand for something else than a level. -/
inductive ThresholdFault where
  | lineFormat
  | styleTable
  deriving DecidableEq, Repr

namespace ThresholdFault

def name : ThresholdFault → String
  | lineFormat => "ValueError"
  | styleTable => "TypeError"

def message : ThresholdFault → Text
  | lineFormat => "Unknown level: '%(levelname)s:%(name)s:%(message)s'"
  | styleTable => Text.join
      ["Level not an integer or a valid string: \x7b'%': ",
       "(<class 'logging.PercentStyle'>, '%(levelname)s:%(name)s:%(message)s'), ",
       "'\x7b': (<class 'logging.StrFormatStyle'>, ",
       "'\x7blevelname\x7d:\x7bname\x7d:\x7bmessage\x7d'), ",
       "'$': (<class 'logging.StringTemplateStyle'>, ",
       "'$\x7blevelname\x7d:$\x7bname\x7d:$\x7bmessage\x7d')\x7d"]

end ThresholdFault

/-- The numeric level for a name in any case; an unknown name stands for INFO. -/
def threshold (name : Text) : Except ThresholdFault Nat :=
  let name := name.upper
  if name = Text.ofString "BASIC_FORMAT" then .error .lineFormat
  else if name = Text.ofString "_STYLES" then .error .styleTable
  else .ok (((thresholds.find? fun t => Text.ofString t.1 = name).map Prod.snd).getD 20)

end Log
end RuleDraft
