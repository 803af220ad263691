import RuleDraft.Failure
import RuleDraft.Incident
import RuleDraft.Text.Codec
import RuleDraft.Text.Utf8

/-!
# Files

A command sees files through a file system: it reads the octets of a file and writes them,
and either may fail for a reason that the file system gives.

The files that are known are those under the folder that the command runs in. A folder
below it exists as long as a file is in it. Outside nothing is known but the folders above,
the root, and the null device, so a path that leads out and on ends where nothing is until
something is written there.
-/

namespace RuleDraft
namespace CommandLine

/-- Why a file cannot be read or written. -/
inductive FileFault where
  | missing
  | notFolder
  | isFolder
  /-- The path, or a name on it, has too many octets. -/
  | tooLong
  /-- The path holds a character that no path can hold. -/
  | nulInPath
  /-- The path holds surrogates that have no octets. -/
  | surrogates (g : Gap)
  /-- Any other reason of the file system, as a permission that is lacking. -/
  | other (kind : String) (number : Nat) (reason : Text)
  deriving DecidableEq, Repr

namespace FileFault

/-- Whether the fault lies with the file system rather than with the path as a text. -/
def isOfFiles : FileFault → Bool
  | nulInPath | surrogates _ => false
  | _ => true

def family : FileFault → String
  | missing => "FileNotFoundError"
  | notFolder => "NotADirectoryError"
  | isFolder => "IsADirectoryError"
  | tooLong => "OSError"
  | nulInPath => "ValueError"
  | surrogates _ => "UnicodeEncodeError"
  | other kind _ _ => kind

def message (path : Text) : FileFault → Text
  | missing => Text.join ["[Errno 2] No such file or directory: ", path.quoted]
  | notFolder => Text.join ["[Errno 20] Not a directory: ", path.quoted]
  | isFolder => Text.join ["[Errno 21] Is a directory: ", path.quoted]
  | tooLong => Text.join ["[Errno 36] File name too long: ", path.quoted]
  | nulInPath => "embedded null byte"
  | surrogates g => Codec.fileNames.message g
  | other _ number reason =>
      Text.join ["[Errno ", Text.ofNat number, "] ", reason, ": ", path.quoted]

def incident (path : Text) (f : FileFault) : Incident :=
  ⟨f.family, f.message path, .object []⟩

end FileFault

/-- What a command can do with files. -/
class FileSystem (φ : Type) where
  /-- The octets of the file at a path. -/
  read : φ → Text → Except FileFault (List UInt8)
  /-- The files with octets in the one at a path. -/
  write : φ → Text → List UInt8 → Except FileFault φ

/-! ## Paths in octets -/

def octetCount (t : Text) : Nat :=
  t.foldl (fun n c => n + if Codec.isOctet c then 1 else c.toOctets.length) 0

/-- The longest name, in octets. -/
def longestName : Nat := 255

def longestPath : Nat := 4095

/-- What is wrong with a path as a text. -/
def pathFault? (path : Text) : Option FileFault :=
  match Codec.fileNames.gap? path with
  | some g => some (.surrogates g)
  | none =>
      if path.contains (CodePoint.ofNat 0) then some .nulInPath
      else if longestPath < octetCount path then some .tooLong
      else none

/-- The files under a folder, each with the names on the way to it. -/
abbrev Folder := Keyed (List Text) (List UInt8)

namespace Folder

def pathText (names : List Text) : Text := Text.joinWith "/" names

inductive Spot where
  | folder (names : List Text)
  | file (names : List Text) (octets : List UInt8)
  /-- A name in a folder that nothing has yet. -/
  | vacant (names : List Text)
  /-- Nothing is ever in it, whatever is written to it. -/
  | device
  deriving DecidableEq, Repr

def up : Text := ".."

def root : Text := "/"

def devices : List Text := [root, "dev"]

def nullDevice : List Text := [root, "dev", "null"]

/-- Whether names lead to a folder that is there without files in it. -/
def isStanding (names : List Text) : Bool :=
  names = [root] || names = devices || names.all (· = up)

/-- The names of the folder above another one; nothing is above the root. -/
def above (names : List Text) : List Text :=
  if names = [root] then [root]
  else if names.all (· = up) then names ++ [up]
  else names.dropLast

def hasBelow (folder : Folder) (names : List Text) : Bool :=
  isStanding names ||
    folder.any fun f => names.length < f.1.length && names.isPrefixOf f.1

/-- What has a name in a folder. -/
def enter (folder : Folder) (names : List Text) : Spot :=
  match folder.get? names with
  | some octets => .file names octets
  | none =>
      if names = nullDevice then .device
      else if folder.hasBelow names then .folder names
      else .vacant names

def step (folder : Folder) (spot : Spot) (name : Text) : Except FileFault Spot :=
  match spot with
  | .file _ _ | .device => .error .notFolder
  | .vacant _ => .error .missing
  | .folder names =>
      if name.isEmpty ∨ name = Text.ofString "." then .ok (.folder names)
      else if name = up then .ok (.folder (above names))
      else if longestName < octetCount name then .error .tooLong
      else .ok (folder.enter (names ++ [name]))

def start (path : Text) : List Text :=
  if path.head? = some (CodePoint.ofChar '/') then [root] else []

def locate (folder : Folder) (path : Text) : Except FileFault Spot :=
  match pathFault? path with
  | some f => .error f
  | none =>
      (path.splitAt (CodePoint.ofChar '/')).foldlM folder.step (.folder (start path))

def read (folder : Folder) (path : Text) : Except FileFault (List UInt8) := do
  match ← folder.locate path with
  | .file _ octets => return octets
  | .device => return []
  | .vacant _ => throw .missing
  | .folder _ => throw .isFolder

def write (folder : Folder) (path : Text) (octets : List UInt8) : Except FileFault Folder := do
  match ← folder.locate path with
  | .file names _ => return folder.put names octets
  | .vacant names => return folder.put names octets
  | .device => return folder
  | .folder _ => throw .isFolder

instance : FileSystem Folder where
  read := read
  write := write

/-- A path without what does not change it: repeated slashes, points, a slash at its end. -/
def tidy (path : Text) : Text :=
  let slashes := (path.takeWhile (· = CodePoint.ofChar '/')).length
  let root : Text := if slashes = 0 then [] else if slashes = 2 then "//" else "/"
  let names := (path.splitAt (CodePoint.ofChar '/')).filter fun n =>
    ¬ (n.isEmpty ∨ n = Text.ofString ".")
  let tidied := root ++ pathText names
  if tidied.isEmpty then "." else tidied

/-- Line breaks of all kinds as line feeds. -/
def unifyBreaks : Text → Text
  | [] => []
  | [c] => if c.val = 13 then [CodePoint.ofChar '\n'] else [c]
  | c :: d :: rest =>
      if c.val = 13 then
        if d.val = 10 then unifyBreaks (d :: rest)
        else CodePoint.ofChar '\n' :: unifyBreaks (d :: rest)
      else c :: unifyBreaks (d :: rest)

end Folder

def decodingMessage (octets : List UInt8) (f : Utf8.FaultAt) : Text :=
  let place :=
    if f.width = 1 then
      let octet := (octets.drop f.position).head?.getD 0
      Text.join ["byte 0x", Text.hexPadded CodePoint.hexDigit 2 octet.toNat, " in position ",
        Text.ofNat f.position]
    else
      Text.join ["bytes in position ", Text.ofNat f.position, "-",
        Text.ofNat (f.position + f.width - 1)]
  Text.join ["'utf-8' codec can't decode ", place, ": ", f.fault.message]

end CommandLine
end RuleDraft
