import RuleDraft.Text.Printable

/-!
# Quoted text

Text inside a message is shown in single quotes, or in double quotes when it
holds a single quote and no double one. The quote in use and the backslash are
escaped, and every code point that is not printable is shown by its number.
-/

namespace RuleDraft
namespace Text

def quoteMark (t : Text) : CodePoint :=
  let single := CodePoint.ofChar '\''
  let double := CodePoint.ofChar '\x22'
  if t.contains single && !t.contains double then double else single

/-- A code point that is not printable, by its number. -/
def numberEscape (c : CodePoint) : Text :=
  if c.val < 0x100 then
    [CodePoint.ofChar '\\', CodePoint.ofChar 'x'] ++ hexPadded CodePoint.hexDigit 2 c.val
  else if c.val < 0x10000 then
    [CodePoint.ofChar '\\', CodePoint.ofChar 'u'] ++ hexPadded CodePoint.hexDigit 4 c.val
  else
    [CodePoint.ofChar '\\', CodePoint.ofChar 'U'] ++ hexPadded CodePoint.hexDigit 8 c.val

def quotedCodePoint (mark c : CodePoint) : Text :=
  if c = mark ∨ c = CodePoint.ofChar '\\' then [CodePoint.ofChar '\\', c]
  else match c.toChar with
    | '\n' => ofString "\\n"
    | '\r' => ofString "\\r"
    | '\t' => ofString "\\t"
    | _ => if c.isPrintable then [c] else numberEscape c

def quoted (t : Text) : Text :=
  let mark := quoteMark t
  mark :: (t.flatMap (quotedCodePoint mark) ++ [mark])

end Text
end RuleDraft
