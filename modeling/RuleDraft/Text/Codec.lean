import RuleDraft.Number.Numeral
import RuleDraft.Text.Quoted

/-!
# Codecs

A codec turns text into octets.  The characters that it lacks stop it, and then the text as
a whole is not written; some of them may be spared, as the surrogates that stand for single
octets are in the names of files.
-/

namespace RuleDraft

/-- Characters in a row that a codec lacks, from the one that stops it on. -/
structure Gap where
  first : CodePoint
  position : Nat
  width : Nat
  deriving DecidableEq, Repr

structure Codec where
  name : String
  reason : String
  lacks : CodePoint → Bool
  spares : CodePoint → Bool

namespace Codec

def stopsAt (k : Codec) (c : CodePoint) : Bool := k.lacks c && !k.spares c

def gapFrom? (k : Codec) (position : Nat) : Text → Option Gap
  | [] => none
  | c :: rest =>
      if k.stopsAt c then some ⟨c, position, (rest.takeWhile k.lacks).length + 1⟩
      else k.gapFrom? (position + 1) rest

def gap? (k : Codec) (t : Text) : Option Gap := k.gapFrom? 0 t

def message (k : Codec) (g : Gap) : Text :=
  let place :=
    if g.width = 1 then
      Text.join ["character '", Text.numberEscape g.first, "' in position ",
        Text.ofNat g.position]
    else
      Text.join ["characters in position ", Text.ofNat g.position, "-",
        Text.ofNat (g.position + g.width - 1)]
  Text.join ["'", k.name, "' codec can't encode ", place, ": ", k.reason]

/-- UTF-8, which has every character and no surrogate. -/
def utf8 : Codec where
  name := "utf-8"
  reason := "surrogates not allowed"
  lacks := CodePoint.isSurrogate
  spares := fun _ => false

/-- Surrogates that stand for single octets. -/
def isOctet (c : CodePoint) : Bool := 0xDC80 ≤ c.val && c.val ≤ 0xDCFF

/-- The codec of the names of files. -/
def fileNames : Codec := { utf8 with spares := isOctet }

end Codec
end RuleDraft
