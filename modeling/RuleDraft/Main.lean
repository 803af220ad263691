import RuleDraft.CommandLine

/-!
# The program

The command in `IO`: on the streams of the process and the files that are there.
-/

namespace RuleDraft
namespace CommandLine

def faultOf : IO.Error → FileFault
  | .noFileOrDirectory .. => .missing
  | .inappropriateType .. => .isFolder
  | .permissionDenied _ code reason => .other "PermissionError" code.toNat (Text.ofString reason)
  | .resourceExhausted _ code reason => .other "OSError" code.toNat (Text.ofString reason)
  | e => .other "OSError" 0 (Text.ofString e.toString)

def accessed {α : Type} (access : IO α) : IO (Except FileFault α) := do
  try
    return .ok (← access)
  catch e => return .error (faultOf e)

instance : Host IO where
  input := return (← (← IO.getStdin).readBinToEnd).toList
  -- Documents have no ids in them, so it does not show which ones are drawn.
  ids := return .numbered "new"
  read path := do
    return (← accessed (IO.FS.readBinFile path.toString)).map ByteArray.toList
  write path octets := accessed (IO.FS.writeBinFile path.toString ⟨octets.toArray⟩)
  print t := do
    match Codec.utf8.gap? t with
    | some g => return .error (Codec.utf8.incident g)
    | none =>
        IO.print t.toString
        return .ok ()

end CommandLine
end RuleDraft

def main (words : List String) : IO UInt32 := do
  let words := words.map RuleDraft.Text.ofString
  let closing ← RuleDraft.CommandLine.command .standard words
  IO.eprint closing.errors.toString
  match closing.ending with
  | .exit code => return UInt32.ofNat code
  | .escaped i =>
      IO.eprintln (RuleDraft.Text.join [i.family, ": ", i.shown]).toString
      return 1
