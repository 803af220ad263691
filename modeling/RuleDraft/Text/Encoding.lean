import RuleDraft.Text.Utf8

/-!
# Encodings of documents

A document says by its first octets how it is encoded: by a mark in front, or by
where zeros stand among the first four octets, since a document starts with an
ASCII character. Surrogates may stand for themselves in every encoding.
-/

namespace RuleDraft

inductive Encoding where
  | utf8
  | utf16 (bigEndian : Bool)
  | utf32 (bigEndian : Bool)
  deriving DecidableEq, Repr

namespace Encoding

/-- The encoding of a document without a mark, by the zeros among its first octets. -/
def ofZeros : List UInt8 → Encoding
  | a :: b :: c :: d :: _ =>
      if a = 0 then if b = 0 then utf32 true else utf16 true
      else if b = 0 then if c = 0 ∧ d = 0 then utf32 false else utf16 false
      else utf8
  | [a, b] => if a = 0 then utf16 true else if b = 0 then utf16 false else utf8
  | _ => utf8

/-- The marks that can stand in front of a document. -/
def marks : List (List UInt8 × Encoding) :=
  [([0x00, 0x00, 0xFE, 0xFF], utf32 true), ([0xFF, 0xFE, 0x00, 0x00], utf32 false),
   ([0xFE, 0xFF], utf16 true), ([0xFF, 0xFE], utf16 false), ([0xEF, 0xBB, 0xBF], utf8)]

/-- The encoding of a document, and its octets without a mark. -/
def detect (octets : List UInt8) : Encoding × List UInt8 :=
  match marks.find? fun m => m.1.isPrefixOf octets with
  | some (mark, encoding) => (encoding, octets.drop mark.length)
  | none => (ofZeros octets, octets)

def unit16 (bigEndian : Bool) (a b : UInt8) : Nat :=
  if bigEndian then a.toNat * 256 + b.toNat else b.toNat * 256 + a.toNat

/-- The sixteen-bit units of octets, if they come in pairs. -/
def units16 (bigEndian : Bool) : List UInt8 → Option (List Nat)
  | [] => some []
  | [_] => none
  | a :: b :: rest => (units16 bigEndian rest).map (unit16 bigEndian a b :: ·)

/-- The text of sixteen-bit units: a high and a low surrogate join. -/
def joinUnits : List Nat → Text
  | [] => []
  | [u] => [CodePoint.ofNat u]
  | u :: v :: rest =>
      if 0xD800 ≤ u ∧ u ≤ 0xDBFF ∧ 0xDC00 ≤ v ∧ v ≤ 0xDFFF then
        CodePoint.ofNat (0x10000 + (u - 0xD800) * 0x400 + (v - 0xDC00)) :: joinUnits rest
      else CodePoint.ofNat u :: joinUnits (v :: rest)

/-- The text of thirty-two-bit units, if all are code points. -/
def readWide (bigEndian : Bool) : List UInt8 → Option Text
  | [] => some []
  | a :: b :: c :: d :: rest =>
      let n :=
        if bigEndian then unit16 true a b * 65536 + unit16 true c d
        else unit16 false c d * 65536 + unit16 false a b
      if n < 0x110000 then (readWide bigEndian rest).map (CodePoint.ofNat n :: ·) else none
  | _ => none

def read (octets : List UInt8) : Encoding → Option Text
  | utf8 => (Utf8.readWithSurrogates octets).toOption
  | utf16 bigEndian => (units16 bigEndian octets).map joinUnits
  | utf32 bigEndian => readWide bigEndian octets

def readDocument (octets : List UInt8) : Option Text :=
  let (encoding, octets) := detect octets
  encoding.read octets

end Encoding

end RuleDraft
