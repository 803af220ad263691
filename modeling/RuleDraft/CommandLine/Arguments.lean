import RuleDraft.Catalog
import RuleDraft.CommandLine.Grammar

/-!
# Arguments of a generation

The command that generates a document takes the kind of document, the file with
the form, and options. Its usage and its help are fixed texts for lines of
eighty columns.
-/

namespace RuleDraft
namespace CommandLine

/-- What a command line asks for. -/
structure Arguments where
  kind : Option DocumentKind
  form : Option Text
  starter : Bool
  output : Option Text
  strict : Bool
  deriving DecidableEq, Repr

namespace Arguments

def nothing : Arguments := ⟨none, none, false, none, false⟩

def grammar : Grammar Arguments :=
  { options :=
      [⟨["-h", "--help"], false, fun _ _ => .error .help⟩,
       ⟨["--defaults"], false, fun _ a => .ok { a with starter := true }⟩,
       ⟨["--output", "-o"], true, fun t a => .ok { a with output := some t }⟩,
       ⟨["--strict"], false, fun _ a => .ok { a with strict := true }⟩]
    places :=
      [⟨"kind", true, fun t a =>
          match DocumentKind.ofName? t with
          | some k => .ok { a with kind := some k }
          | none => .error (notAmong "kind" (DocumentKind.options.map Prod.fst) t)⟩,
       ⟨"form", false, fun t a => .ok { a with form := some t }⟩] }

/-- The command and what it takes. -/
def usage : String :=
  "usage: dsl-generate [-h] [--defaults] [--output OUTPUT] [--strict]\n" ++
  "                    \x7bvendor,config\x7d [form]\n"

def help : String :=
  usage ++
  "\nGenerate a DSL document from editor form state\n" ++
  "\npositional arguments:\n" ++
  "  \x7bvendor,config\x7d       Document kind\n" ++
  "  form                  Form state JSON file ('-' reads stdin)\n" ++
  "\noptions:\n" ++
  "  -h, --help            show this help message and exit\n" ++
  "  --defaults            Use the editor's initial form state instead of a file\n" ++
  "  --output OUTPUT, -o OUTPUT\n" ++
  "                        Write to file instead of stdout\n" ++
  "  --strict              Reject condition values that do not fit their\n" ++
  "                        comparison type\n"

def misuse (message : Text) : Text :=
  Text.join [usage, "dsl-generate: error: ", message, "\n"]

end Arguments

inductive Source where
  /-- The form that a new document starts from. -/
  | starter
  | input
  | file (path : Text)
  deriving DecidableEq, Repr

/-- A generation that a command line asks for. -/
structure Request where
  kind : DocumentKind
  source : Source
  strict : Bool
  /-- The file to write; the output when there is none. -/
  target : Option Text
  deriving DecidableEq, Repr

namespace Request

def sourceOf (a : Arguments) : Option Source :=
  if a.starter then some .starter
  else
    match a.form.filter fun t => ¬ t.isEmpty with
    | none => none
    | some t => some (if t = Text.ofString "-" then .input else .file t)

def read (words : List Text) : Except Stop Request := do
  let a ← Arguments.grammar.read .nothing words
  match a.kind, sourceOf a with
  | some kind, some source =>
      return ⟨kind, source, a.strict, a.output.filter fun t => ¬ t.isEmpty⟩
  | _, _ => throw (.misuse "a form file is required unless --defaults is given")

end Request

end CommandLine
end RuleDraft
