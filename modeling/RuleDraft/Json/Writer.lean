import RuleDraft.Number.Shortest
import RuleDraft.Value

/-!
# Writing JSON

One writer serves every layout. It writes a value in front of a tail, so that
the text of a container is built from the texts of its parts without a copy. A
style says what follows a comma, what follows a key, whether lines are broken,
and whether code points outside printable ASCII are escaped.
-/

namespace RuleDraft
namespace Json

structure Style where
  /-- Spaces per level when lines are broken; one line otherwise. -/
  indent : Option Nat
  /-- What follows a comma when lines are not broken. -/
  afterComma : String
  /-- What follows the colon after a key. -/
  afterColon : String
  /-- Whether everything outside printable ASCII is escaped. -/
  asciiOnly : Bool

namespace Style

def compact : Style := ⟨none, "", "", false⟩

/-- One line of printable ASCII, with a space after commas and colons. -/
def asciiLine : Style := ⟨none, " ", " ", true⟩

/-- A line per item, indented; a negative indent counts as none. -/
def pretty (indent : Int) : Style := ⟨some indent.toNat, "", " ", false⟩

/-- What follows an opening bracket and goes before a closing one. -/
def edge (s : Style) (depth : Nat) (tail : Text) : Text :=
  match s.indent with
  | none => tail
  | some n =>
      CodePoint.ofChar '\n' :: (List.replicate (n * depth) (CodePoint.ofChar ' ') ++ tail)

def comma (s : Style) (depth : Nat) (tail : Text) : Text :=
  CodePoint.ofChar ',' ::
    match s.indent with
    | none => Text.ofString s.afterComma ++ tail
    | some _ => s.edge depth tail

end Style

def escapedUnit (n : Nat) : Text :=
  CodePoint.ofChar '\\' :: CodePoint.ofChar 'u' :: Text.hexPadded CodePoint.hexDigit 4 n

/-- A code point as one escaped unit, or as a pair above U+FFFF. -/
def escapedCodePoint (c : CodePoint) : Text :=
  if c.val < 0x10000 then escapedUnit c.val
  else
    escapedUnit (0xD800 + (c.val - 0x10000) / 0x400) ++
      escapedUnit (0xDC00 + (c.val - 0x10000) % 0x400)

def shortEscape? (c : CodePoint) : Option Char :=
  match c.toChar with
  | '\x22' => some '\x22'
  | '\\' => some '\\'
  | '\n' => some 'n'
  | '\r' => some 'r'
  | '\t' => some 't'
  | '\x0C' => some 'f'
  | '\x08' => some 'b'
  | _ => none

def escape (asciiOnly : Bool) (c : CodePoint) : Text :=
  match shortEscape? c with
  | some letter => [CodePoint.ofChar '\\', CodePoint.ofChar letter]
  | none =>
      if c.val < 0x20 then escapedUnit c.val
      else if asciiOnly && 0x7F ≤ c.val then escapedCodePoint c
      else [c]

/-- A string in quotes, in front of a tail. -/
def writeText (asciiOnly : Bool) (t : Text) (tail : Text) : Text :=
  CodePoint.ofChar '\x22' ::
    t.foldr (fun c rest => escape asciiOnly c ++ rest) (CodePoint.ofChar '\x22' :: tail)

mutual

/-- A value at a depth, in front of a tail. -/
def write (s : Style) (depth : Nat) : Value → Text → Text
  | .null, tail => Text.ofString "null" ++ tail
  | .bool true, tail => Text.ofString "true" ++ tail
  | .bool false, tail => Text.ofString "false" ++ tail
  | .int i, tail => Text.ofInt i ++ tail
  | .float x, tail => FloatLayout.document.write x ++ tail
  | .text t, tail => writeText s.asciiOnly t tail
  | .list [], tail => CodePoint.ofChar '[' :: CodePoint.ofChar ']' :: tail
  | .list (v :: vs), tail =>
      CodePoint.ofChar '[' ::
        s.edge (depth + 1) (write s (depth + 1) v
          (writeItems s (depth + 1) vs (s.edge depth (CodePoint.ofChar ']' :: tail))))
  | .object [], tail => CodePoint.ofChar '\x7b' :: CodePoint.ofChar '\x7d' :: tail
  | .object ((k, v) :: fs), tail =>
      CodePoint.ofChar '\x7b' ::
        s.edge (depth + 1) (writeText s.asciiOnly k (CodePoint.ofChar ':' ::
          (Text.ofString s.afterColon ++ write s (depth + 1) v
            (writeFields s (depth + 1) fs (s.edge depth (CodePoint.ofChar '\x7d' :: tail))))))

def writeItems (s : Style) (depth : Nat) : List Value → Text → Text
  | [], tail => tail
  | v :: vs, tail => s.comma depth (write s depth v (writeItems s depth vs tail))

def writeFields (s : Style) (depth : Nat) : List (Text × Value) → Text → Text
  | [], tail => tail
  | (k, v) :: fs, tail =>
      s.comma depth (writeText s.asciiOnly k (CodePoint.ofChar ':' ::
        (Text.ofString s.afterColon ++ write s depth v (writeFields s depth fs tail))))

end

def render (s : Style) (v : Value) : Text := write s 0 v []

end Json
end RuleDraft
