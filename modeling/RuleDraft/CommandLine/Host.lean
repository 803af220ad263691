import RuleDraft.CommandLine.Folder
import RuleDraft.Intake

/-!
# Hosts

What a command asks of its surroundings: the octets of its input, ids that nothing has yet,
files to read and to write, and an output for text.  The command is written once for all hosts.
It runs in `IO`, and on a system that is given as data; what becomes of the files and the output
is data then, too.
-/

namespace RuleDraft

def Codec.incident (k : Codec) (g : Gap) : Incident :=
  ⟨"UnicodeEncodeError", k.message g, .object []⟩

namespace CommandLine

class Host (m : Type → Type) where
  input : m (List UInt8)
  ids : m IdSupply
  read : Text → m (Except FileFault (List UInt8))
  write : Text → List UInt8 → m (Except FileFault Unit)
  /-- Show a text on the output, as a whole or not at all. -/
  print : Text → m (Except Incident Unit)

/-- What a run of a command finds. -/
structure System (φ : Type) where
  input : List UInt8
  /-- The ids that are drawn, whatever they look like. -/
  ids : IdSupply
  /-- The codec that the output writes text with. -/
  screen : Codec
  files : φ

structure Trace (φ : Type) extends System φ where
  shown : Text

abbrev Simulation (φ : Type) := StateM (Trace φ)

instance {φ : Type} [FileSystem φ] : Host (Simulation φ) where
  input trace := (trace.input, trace)
  ids trace := (trace.ids, trace)
  read path trace := (FileSystem.read trace.files path, trace)
  write path octets trace :=
    match FileSystem.write trace.files path octets with
    | .ok files => (.ok (), { trace with files })
    | .error f => (.error f, trace)
  print t trace :=
    match trace.screen.gap? t with
    | none => (.ok (), { trace with shown := trace.shown ++ t })
    | some g => (.error (trace.screen.incident g), trace)

end CommandLine
end RuleDraft
