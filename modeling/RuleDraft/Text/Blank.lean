import RuleDraft.Text.CodePoint

/-!
# Blank code points

Two sets of blanks are in use. White space is the Unicode property; the wider
set of blanks adds the four information separators U+001C to U+001F. Trimming
takes a set away from both ends of a text.
-/

namespace RuleDraft

namespace CodePoint

def whiteSpaceRanges : List (Nat × Nat) :=
  [(9, 13), (32, 32), (133, 133), (160, 160), (5760, 5760), (8192, 8202), (8232, 8233),
   (8239, 8239), (8287, 8287), (12288, 12288)]

/-- The Unicode property White_Space. -/
def isWhiteSpace (c : CodePoint) : Bool := c.within whiteSpaceRanges

/-- White space or an information separator. -/
def isBlank (c : CodePoint) : Bool :=
  c.isWhiteSpace || (28 ≤ c.val && c.val ≤ 31)

end CodePoint

namespace Text

def trimStartOf (drop : CodePoint → Bool) (t : Text) : Text := t.dropWhile drop

def trimEndOf (drop : CodePoint → Bool) (t : Text) : Text :=
  (t.reverse.dropWhile drop).reverse

def trimOf (drop : CodePoint → Bool) (t : Text) : Text :=
  trimEndOf drop (trimStartOf drop t)

def trim (t : Text) : Text := trimOf CodePoint.isBlank t

end Text

end RuleDraft
