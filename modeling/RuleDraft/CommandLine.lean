import RuleDraft.CommandLine.Arguments
import RuleDraft.CommandLine.Host
import RuleDraft.Document.Generation
import RuleDraft.Document.Rendering
import RuleDraft.Settings

/-!
# The command

The command reads a form, generates its document, and writes it to a file or to
the output. It ends with 0 when the document is written, with 1 when the form is
unreadable or refused, with 2 when a validation is missing or the command is
misused. Any other failure escapes.
-/

namespace RuleDraft
namespace CommandLine

/-- How a run of the command ends. -/
inductive Ending where
  | exit (code : Nat)
  | escaped (i : Incident)
  deriving DecidableEq, Repr

/-- How a run ends, and what it says of failures and doubts. -/
structure Closing where
  ending : Ending
  errors : Text
  deriving DecidableEq, Repr

namespace Closing

def failed (code : Nat) (errors : Text) : Closing := ⟨.exit code, errors⟩

def escape (i : Incident) (errors : Text) : Closing := ⟨.escaped i, errors⟩

end Closing

/-! ## Reading the form -/

def Source.label : Source → Text
  | .starter => []
  | .input => "-"
  | .file path => path

/-- The end of a run whose form cannot be read. -/
def unreadable (label reason : Text) : Closing :=
  .failed 1 (Text.join ["[ERROR] Cannot read form ", label, ": ", reason, "\n"])

def readData (label t : Text) : Except Closing Value :=
  match Json.readDocument t with
  | .ok v => .ok v
  | .error (.malformed fault position) =>
      .error (unreadable label (Json.ReadError.message t (.malformed fault position)))
  | .error (.integerTooLong digits) =>
      .error (.escape (Incident.ofFailure (.broken (.integerTooLong digits))) [])
  | .error (.tooDeep container) =>
      .error (.escape (Incident.ofFailure (.broken (.documentTooDeep container))) [])

/-- The data in the octets of a file. -/
def readOctets (label : Text) (octets : List UInt8) : Except Closing Value :=
  match Utf8.read octets with
  | .ok t => readData label (Folder.unifyBreaks t)
  | .error f => .error (unreadable label (decodingMessage octets f))

/-- The data in a file, or the end of a run that cannot read it. -/
def readFile (path : Text) : Except FileFault (List UInt8) → Except Closing Value
  | .ok octets => readOctets path octets
  | .error f =>
      .error (if f.isOfFiles then unreadable path (f.message path)
        else .escape (f.incident path) [])

/-! ## Generating -/

/-- The entries of the log that show without being asked for: warnings. -/
def shownEntries (journal : List Log.Entry) : Text :=
  journal.flatMap fun e =>
    match e.level with
    | .debug | .info => []
    | _ => e.message ++ [CodePoint.ofChar '\n']

def listed (r : Refusal) : List Value :=
  match r.details.field? "errors" with
  | some (.list items) => items
  | _ => []

/-- The end of a run that is refused. -/
def refused (r : Refusal) : Closing :=
  let headline := Text.join ["[ERROR] ", r.message, "\n"]
  if r.kind = .missingValidation then .failed 2 headline
  else
    .failed 1 (headline ++ (listed r).flatMap fun v => Text.join ["  - ", v.shown, "\n"])

/-- The document of a generation with the warnings before it, or the end of the run. -/
def contentOf (s : Settings) (g : Generation) : Except Closing (Text × Text) :=
  match g.result with
  | .ok v => .ok ((Rendering.ofValue s.indent v).content, shownEntries g.journal)
  | .error (.refused r) => .error (refused r)
  | .error f => .error (.escape (Incident.ofFailure f) (shownEntries g.journal))

/-- Whether a request generates strictly: if it says so, or else if the settings do. -/
def isStrict (s : Settings) (r : Request) : Bool := if r.strict then true else s.strict

def generationOf (s : Settings) (r : Request) (ids : IdSupply) (data : Value) : Generation :=
  match r.source with
  | .starter => .ofStarter r.kind (isStrict s r) ids
  | _ => .ofData r.kind (isStrict s r) data ids

def writtenLine (kind : DocumentKind) (target : Text) : Text :=
  Text.join ["[OK] ", kind.name, " document written: ", target, "\n"]

/-! ## Running -/

section Running

variable {m : Type → Type} [Monad m] [Host m]

/-- Read what a request is about. -/
def load (r : Request) : m (Except Closing Value) := do
  match r.source with
  | .starter => return .ok .null
  | .input => return readOctets r.source.label (← Host.input)
  | .file path => return readFile path (← Host.read path)

def conclude (t errors : Text) : m Closing := do
  match ← Host.print t with
  | .ok () => return ⟨.exit 0, errors⟩
  | .error i => return .escape i errors

def deliver (r : Request) (content warnings : Text) : m Closing := do
  let line := content ++ [CodePoint.ofChar '\n']
  match r.target with
  | none => conclude line warnings
  | some target =>
      let path := Folder.tidy target
      match ← Host.write path line.toUtf8 with
      -- The file has been written by now, whatever becomes of the line that says so.
      | .ok () => conclude (writtenLine r.kind target) warnings
      | .error f => return .escape (f.incident path) warnings

def carryOut (s : Settings) (r : Request) : m Closing := do
  match ← load r with
  | .error closing => return closing
  | .ok data =>
      match contentOf s (generationOf s r (← Host.ids) data) with
      | .error closing => return closing
      | .ok (content, warnings) => deliver r content warnings

/-- Run the command under settings with the words of a command line. -/
def command (s : Settings) (words : List Text) : m Closing :=
  match Request.read words with
  | .error .help => conclude Arguments.help []
  | .error (.misuse message) => return .failed 2 (Arguments.misuse message)
  | .ok r => carryOut s r

end Running

/-! ## Runs on systems -/

/-- What a run of the command shows, and how it ends. -/
structure Finish where
  ending : Ending
  output : Text
  errors : Text
  deriving DecidableEq, Repr

section Simulating

variable {φ : Type} [FileSystem φ]

def simulate (run : Simulation φ Closing) (system : System φ) : Finish × φ :=
  let (closing, trace) := Id.run (run.run { system with shown := [] })
  (⟨closing.ending, trace.shown, closing.errors⟩, trace.files)

def perform (s : Settings) (r : Request) (system : System φ) : Finish × φ :=
  simulate (carryOut s r) system

def runUnder (s : Settings) (words : List Text) (system : System φ) : Finish × φ :=
  simulate (command s words) system

end Simulating

/-- Run the command under the standard settings, with files in a folder. -/
def run (words : List Text) (system : System Folder) : Finish × Folder :=
  runUnder .standard words system

end CommandLine
end RuleDraft
