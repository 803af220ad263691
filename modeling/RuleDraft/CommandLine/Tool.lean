import RuleDraft.CommandLine.Folder
import RuleDraft.CommandLine.Grammar
import RuleDraft.Service.Route

/-!
# Tools for developers

Tools that start another program with fixed arguments and pass on the rest, and
the tool that writes the schema of the service to a file.
-/

namespace RuleDraft
namespace CommandLine

/-- A tool that starts another program. -/
inductive Tool where
  | serve
  | format
  | lint
  | check
  deriving DecidableEq, Repr

namespace Tool

def name : Tool → String
  | serve => "dev"
  | format => "format"
  | lint => "lint"
  | check => "test"

def options : List (String × Tool) := [serve, format, lint, check].map fun t => (t.name, t)

/-- The folders that are formatted and linted. -/
def folders : List String := ["dsl_builder", "cli", "tests"]

def fixed : Tool → List String
  | serve => ["uvicorn", "dsl_builder.main:app", "--reload", "--host", "127.0.0.1", "--port",
      "8000"]
  | format => ["ruff", "format"] ++ folders
  | lint => ["ruff", "check"] ++ folders
  | check => ["pytest", "-q"]

/-- The command that a tool starts: an interpreter runs a module, with more words behind. -/
def command (interpreter : Text) (t : Tool) (words : List Text) : List Text :=
  interpreter :: Text.ofString "-m" :: (t.fixed.map fun w => Text.ofString w) ++ words

end Tool

/-! ## The schema -/

namespace Schema

def standardTarget : Text := "docs/openapi.json"

def grammar : Grammar Text :=
  { options :=
      [⟨["-h", "--help"], false, fun _ _ => .error .help⟩,
       ⟨["--output", "-o"], true, fun t _ => .ok t⟩]
    places := [] }

def help : String :=
  "usage: openapi [-h] [--output OUTPUT]\n" ++
  "\nGenerate the OpenAPI schema\n" ++
  "\noptions:\n" ++
  "  -h, --help            show this help message and exit\n" ++
  "  --output OUTPUT, -o OUTPUT\n" ++
  "                        Destination file (default: docs/openapi.json)\n"

/-- The endpoints that the schema describes: all but the pages about the service itself. -/
def described : List Service.Endpoint :=
  Service.Endpoint.standing.filter fun e =>
    e ≠ .schema ∧ e ≠ .reference ∧ e ≠ .authorisation ∧ e ≠ .overview

def summary (path : Text) : Text :=
  Text.join
    ["[OK] OpenAPI schema generated: ", path, "\n", "   Title: Integration DSL Builder API\n",
     "   Version: 0.1.0\n", "   Endpoints: ", Text.ofNat described.length, " paths\n"]

/-- How the tool ends: with a code, or after writing a file. -/
inductive Ending where
  | exit (code : Nat)
  | written (path : Text)
  deriving DecidableEq, Repr

def run (words : List Text) : Ending × Text :=
  match grammar.read standardTarget words with
  | .ok target =>
      let path := Folder.tidy target
      (.written path, summary path)
  | .error .help => (.exit 0, help)
  | .error (.misuse _) => (.exit 2, [])

end Schema

end CommandLine
end RuleDraft
