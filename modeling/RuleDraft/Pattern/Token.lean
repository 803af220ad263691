import RuleDraft.Text.CodePoint

/-!
# Pattern tokens

A pattern is read in tokens: a backslash together with the code point after it,
or a single code point. A backslash at the very end begins no token.
-/

namespace RuleDraft
namespace Pattern

/-- One or two code points of a pattern, and where they stand. -/
structure Token where
  text : Text
  position : Nat
  deriving DecidableEq, Repr

namespace Token

/--
The character that decides what a token is. Every escape shows as a backslash,
which no single code point does.
-/
def sign (t : Token) : Char :=
  match t.text with
  | [c] => c.toChar
  | _ => '\\'

def escaped (t : Token) : CodePoint :=
  match t.text with
  | [_, c] => c
  | _ => CodePoint.ofNat 0

/-- The single code point of a token that is no escape. -/
def single? (t : Token) : Option CodePoint :=
  match t.text with
  | [c] => some c
  | _ => none

def isIn (t : Token) (cls : CodePoint → Bool) : Bool := t.single?.any cls

end Token

/-- The tokens of a pattern from a position on, and whether a backslash is left over. -/
def tokens (position : Nat) : Text → List Token × Bool
  | [] => ([], false)
  | c :: rest =>
      if c = CodePoint.ofChar '\\' then
        match rest with
        | [] => ([], true)
        | d :: rest =>
            let (ts, dangling) := tokens (position + 2) rest
            (⟨[c, d], position⟩ :: ts, dangling)
      else
        let (ts, dangling) := tokens (position + 1) rest
        (⟨[c], position⟩ :: ts, dangling)

end Pattern
end RuleDraft
