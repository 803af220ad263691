/-!
# Code points and text

Text is a list of Unicode code points. A text that arrives through an escaped
notation can hold a surrogate code point on its own, so the unit is wider than
`Char`: every number below `0x110000` is a unit, and `CodePoint.toChar` is the
view for matching on characters, where a surrogate shows as U+FFFD.
-/

namespace RuleDraft

/-- A Unicode code point, surrogates included. -/
abbrev CodePoint := Fin 0x110000

/-- A text is its code points in order. -/
abbrev Text := List CodePoint

namespace CodePoint

def ofChar (c : Char) : CodePoint :=
  ⟨c.toNat, by
    have h := c.valid
    simp only [UInt32.isValidChar, Nat.isValidChar] at h
    show c.val.toNat < 0x110000
    omega⟩

instance : Coe Char CodePoint := ⟨ofChar⟩

/-- Surrogates are the code points that stand for no character. -/
def isSurrogate (c : CodePoint) : Bool :=
  0xD800 ≤ c.val && c.val ≤ 0xDFFF

/-- The first half of a pair. -/
def isHighSurrogate (c : CodePoint) : Bool :=
  0xD800 ≤ c.val && c.val ≤ 0xDBFF

def isLowSurrogate (c : CodePoint) : Bool :=
  0xDC00 ≤ c.val && c.val ≤ 0xDFFF

/-- The character of a code point; a surrogate shows as U+FFFD. -/
def toChar (c : CodePoint) : Char :=
  if h : c.val.isValidChar then Char.ofNatAux c.val h else '\uFFFD'

/-- The code point with a number, or U+FFFD when the number is too large. -/
def ofNat (n : Nat) : CodePoint :=
  if h : n < 0x110000 then ⟨n, h⟩ else 0xFFFD

def isAscii (c : CodePoint) : Bool := c.val < 128

def isAsciiDigit (c : CodePoint) : Bool := 48 ≤ c.val && c.val ≤ 57

def isAsciiLetter (c : CodePoint) : Bool :=
  (65 ≤ c.val && c.val ≤ 90) || (97 ≤ c.val && c.val ≤ 122)

def hexValue? (c : CodePoint) : Option Nat :=
  if c.isAsciiDigit then some (c.val - 48)
  else if 65 ≤ c.val ∧ c.val ≤ 70 then some (c.val - 55)
  else if 97 ≤ c.val ∧ c.val ≤ 102 then some (c.val - 87)
  else none

def hexDigit (n : Nat) : CodePoint :=
  if n < 10 then ofNat (48 + n) else ofNat (87 + n)

def upperHexDigit (n : Nat) : CodePoint :=
  if n < 10 then ofNat (48 + n) else ofNat (55 + n)

/-- A code point belongs to a table of inclusive ranges. -/
def within (ranges : List (Nat × Nat)) (c : CodePoint) : Bool :=
  ranges.any fun r => r.1 ≤ c.val && c.val ≤ r.2

end CodePoint

namespace Text

def ofString (s : String) : Text := s.toList.map CodePoint.ofChar

instance : Coe String Text := ⟨ofString⟩

/-- The string of a text; a surrogate shows as U+FFFD. -/
def toString (t : Text) : String := String.ofList (t.map CodePoint.toChar)

def join (pieces : List Text) : Text := pieces.flatten

def joinWith (separator : Text) (pieces : List Text) : Text :=
  separator.intercalate pieces

def hasSurrogate (t : Text) : Bool := t.any CodePoint.isSurrogate

def surrogateAt? (t : Text) : Option Nat := t.findIdx? CodePoint.isSurrogate

/-- The text with U+FFFD for each of the three octets that would encode a surrogate. -/
def replaceSurrogates (t : Text) : Text :=
  t.flatMap fun c => if c.isSurrogate then List.replicate 3 (CodePoint.ofNat 0xFFFD) else [c]

/-- The text without its first part, when it begins with that part. -/
def dropStart? (t : Text) (start : Text) : Option Text :=
  if start.isPrefixOf t then some (t.drop start.length) else none

/-- The text in two parts around the first occurrence of a code point. -/
def cutAt (mark : CodePoint) (t : Text) : Text × Option Text :=
  match t.span (· ≠ mark) with
  | (before, []) => (before, none)
  | (before, _ :: rest) => (before, some rest)

def splitAt (mark : CodePoint) (t : Text) : List Text :=
  t.foldr
    (fun c parts =>
      if c = mark then [] :: parts
      else match parts with
        | [] => [[c]]
        | part :: rest => (c :: part) :: rest)
    [[]]

def asciiLower (t : Text) : Text :=
  t.map fun c => if 65 ≤ c.val ∧ c.val ≤ 90 then CodePoint.ofNat (c.val + 32) else c

def asciiUpper (t : Text) : Text :=
  t.map fun c => if 97 ≤ c.val ∧ c.val ≤ 122 then CodePoint.ofNat (c.val - 32) else c

/-- Hexadecimal digits of a number, padded with zeros to a width. -/
def hexPadded (digit : Nat → CodePoint) : Nat → Nat → Text
  | 0, _ => []
  | width + 1, n => hexPadded digit width (n / 16) ++ [digit (n % 16)]

end Text

end RuleDraft
