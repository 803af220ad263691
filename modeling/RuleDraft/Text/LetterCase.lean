import RuleDraft.Text.CodePoint

/-!
# Letter case for names

Names in settings, levels and document kinds are ASCII, and they are compared
after a change of case. The maps here are exact wherever the result is ASCII:
the Kelvin sign lowers to `k`, and dotless i, long s, sharp s and the Latin
ligatures raise to ASCII capitals. Every other code point stays as it is, so a
text with one of them still differs from every name.
-/

namespace RuleDraft

namespace CodePoint

/-- Lower case, for comparison with ASCII names. -/
def lower (c : CodePoint) : CodePoint :=
  if 65 ≤ c.val ∧ c.val ≤ 90 then ofNat (c.val + 32)
  else if c.val = 0x212A then 'k'
  else c

/-- Capitals beyond ASCII letters whose raised form is ASCII. -/
def raisedForms : List (Nat × String) :=
  [(0xDF, "SS"), (0x131, "I"), (0x17F, "S"), (0xFB00, "FF"), (0xFB01, "FI"), (0xFB02, "FL"),
   (0xFB03, "FFI"), (0xFB04, "FFL"), (0xFB05, "ST"), (0xFB06, "ST")]

def upper (c : CodePoint) : Text :=
  if 97 ≤ c.val ∧ c.val ≤ 122 then [ofNat (c.val - 32)]
  else match raisedForms.lookup c.val with
    | some form => Text.ofString form
    | none => [c]

end CodePoint

namespace Text

def lower (t : Text) : Text := t.map CodePoint.lower

def upper (t : Text) : Text := t.flatMap CodePoint.upper

end Text

end RuleDraft
