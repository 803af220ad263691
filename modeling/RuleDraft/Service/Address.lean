import RuleDraft.Text.Utf8

/-!
# Addresses

In an address an octet can be written as a percent sign and two hexadecimal
digits. The path of a request is read by undoing that once; the address of a
redirection is written by doing it for everything that may not stand there.
-/

namespace RuleDraft
namespace Address

/-! ## Reading -/

def unescape : Text → List UInt8
  | [] => []
  | [c] => c.toOctets
  | [c, d] => c.toOctets ++ d.toOctets
  | c :: a :: b :: rest =>
      if c = CodePoint.ofChar '%' then
        match a.hexValue?, b.hexValue? with
        | some hi, some lo => UInt8.ofNat (hi * 16 + lo) :: unescape rest
        | _, _ => c.toOctets ++ unescape (a :: b :: rest)
      else c.toOctets ++ unescape (a :: b :: rest)

/-- Read a run of ASCII, which is kept back to front, before a text. -/
def closeRun (run rest : Text) : Text :=
  Utf8.readReplacing (unescape run.reverse) ++ rest

/-- Undo the escapes of a text, run of ASCII by run of ASCII. -/
def decodeRuns : Text → Text → Text
  | run, [] => closeRun run []
  | run, c :: rest =>
      if c.isAscii then decodeRuns (c :: run) rest
      else closeRun run (c :: decodeRuns [] rest)

/-- The text with its escapes undone; octets that are no text show as U+FFFD. -/
def decode (t : Text) : Text := decodeRuns [] t

/-! ## Queries -/

/-- One piece of a query: a plus sign is a space. -/
def decodeField (t : Text) : Text :=
  decode (t.map fun c => if c = CodePoint.ofChar '+' then CodePoint.ofChar ' ' else c)

/-- The names and values of a query, in order. A name without a value has the empty one. -/
def queryFields (query : Text) : List (Text × Text) :=
  ((query.splitAt (CodePoint.ofChar '&')).filter fun f => ¬ f.isEmpty).map fun f =>
    let (name, value) := f.cutAt (CodePoint.ofChar '=')
    (decodeField name, decodeField (value.getD []))

def queryValue? (name : Text) (query : Text) : Option Text :=
  ((queryFields query).reverse.find? fun f => f.1 = name).map Prod.snd

/-! ## Writing -/

/-- What stands in an address as it is. -/
def isPlain (c : CodePoint) : Bool :=
  c.isAsciiLetter || c.isAsciiDigit || (Text.ofString "_.-~:/%#?=@[]!$&'()*+,;").contains c

def escape (b : UInt8) : Text :=
  CodePoint.ofChar '%' :: Text.hexPadded CodePoint.upperHexDigit 2 b.toNat

def encode (t : Text) : Text :=
  t.flatMap fun c => if isPlain c then [c] else c.toOctets.flatMap escape

/-- Marks that would end the path of an address or divide it. -/
def isMark (c : CodePoint) : Bool := (Text.ofString "?#\\").contains c

def escapeMarks (path : Text) : Text :=
  path.flatMap fun c => if isMark c then c.toOctets.flatMap escape else [c]

def absolute (host path query : Text) : Text :=
  encode (Text.join
    ["http://", host, escapeMarks path,
     if query.isEmpty then [] else CodePoint.ofChar '?' :: query])

/-! ## The path of an address -/

/-- Line breaks and tabs, which are dropped from an address. -/
def isDropped (c : CodePoint) : Bool := c.val = 9 || c.val = 10 || c.val = 13

def rooted (path : Text) : Text :=
  if path.head? = some (CodePoint.ofChar '/') then path else CodePoint.ofChar '/' :: path

/-- The path that is read back from an address with a path in it. -/
def pathOf (path : Text) : Text := (rooted (escapeMarks path)).filter fun c => ¬ isDropped c

end Address
end RuleDraft
