import RuleDraft.Text.CodePoint

/-!
# UTF-8

Every code point, surrogates included, has an encoding of one to four octets.
The reader takes octets back to text: it refuses surrogates, overlong forms and
stray octets, and says where the first fault is and how far it reaches.
-/

namespace RuleDraft

namespace CodePoint

def toOctets (c : CodePoint) : List UInt8 :=
  let n := c.val
  let tail (unit : Nat) : UInt8 := UInt8.ofNat (0x80 + n / unit % 64)
  if n < 0x80 then [UInt8.ofNat n]
  else if n < 0x800 then [UInt8.ofNat (0xC0 + n / 64), tail 1]
  else if n < 0x10000 then [UInt8.ofNat (0xE0 + n / 4096), tail 64, tail 1]
  else [UInt8.ofNat (0xF0 + n / 262144), tail 4096, tail 64, tail 1]

end CodePoint

namespace Text

def toUtf8 (t : Text) : List UInt8 := t.flatMap CodePoint.toOctets

def utf8Size (t : Text) : Nat := t.foldl (fun n c => n + c.toOctets.length) 0

end Text

namespace Utf8

inductive Fault where
  /-- No encoding starts with the octet. -/
  | invalidStart
  /-- An octet that should go on with an encoding does not. -/
  | invalidContinuation
  /-- The octets stop inside an encoding. -/
  | unexpectedEnd
  deriving DecidableEq, Repr

def Fault.message : Fault → String
  | invalidStart => "invalid start byte"
  | invalidContinuation => "invalid continuation byte"
  | unexpectedEnd => "unexpected end of data"

/-- One step of reading: a code point and its width, or a fault and its width. -/
inductive Step where
  | found (c : CodePoint) (width : Nat)
  | faulty (fault : Fault) (width : Nat)

/-- The octets that may follow a lead octet directly. -/
def secondRange (surrogates : Bool) (lead : UInt8) : UInt8 × UInt8 :=
  if lead = 0xE0 then (0xA0, 0xBF)
  else if lead = 0xED then (0x80, if surrogates then 0xBF else 0x9F)
  else if lead = 0xF0 then (0x90, 0xBF)
  else if lead = 0xF4 then (0x80, 0x8F)
  else (0x80, 0xBF)

def isContinuation (b : UInt8) : Bool := 0x80 ≤ b && b ≤ 0xBF

def low6 (b : UInt8) : Nat := b.toNat % 64

/-- The first encoding of a list of octets; `surrogates` admits surrogates. -/
def step? (surrogates : Bool) : List UInt8 → Option Step
  | [] => none
  | a :: rest =>
      let width :=
        if a < 0x80 then 1
        -- The leads 0xC0 and 0xC1 would only start encodings that are longer than they need be.
        else if a < 0xC2 then 0
        else if a < 0xE0 then 2
        else if a < 0xF0 then 3
        else if a < 0xF5 then 4
        else 0
      let (lo, hi) := secondRange surrogates a
      some <|
        if width = 1 then .found (CodePoint.ofNat a.toNat) 1
        else if width = 0 then .faulty .invalidStart 1
        else match rest with
          | [] => .faulty .unexpectedEnd 1
          | b :: rest =>
              if b < lo ∨ hi < b then .faulty .invalidContinuation 1
              else if width = 2 then
                .found (CodePoint.ofNat ((a.toNat % 32) * 64 + low6 b)) 2
              else match rest with
                | [] => .faulty .unexpectedEnd 2
                | c :: rest =>
                    if ¬ isContinuation c then .faulty .invalidContinuation 2
                    else if width = 3 then
                      .found (CodePoint.ofNat
                        (((a.toNat % 16) * 64 + low6 b) * 64 + low6 c)) 3
                    else match rest with
                      | [] => .faulty .unexpectedEnd 3
                      | d :: _ =>
                          if ¬ isContinuation d then .faulty .invalidContinuation 3
                          else
                            .found (CodePoint.ofNat
                              ((((a.toNat % 8) * 64 + low6 b) * 64 + low6 c) * 64 + low6 d)) 4

/-- The first fault of some octets: what, where from, how many octets. -/
structure FaultAt where
  fault : Fault
  position : Nat
  width : Nat
  deriving DecidableEq, Repr

/-- Read octets from a position on, with at most `fuel` encodings. -/
def readFrom (surrogates : Bool) : Nat → Nat → List UInt8 → Except FaultAt Text
  | 0, _, _ => .ok []
  | fuel + 1, position, octets =>
      match step? surrogates octets with
      | none => .ok []
      | some (.found c width) =>
          (readFrom surrogates fuel (position + width) (octets.drop width)).map (c :: ·)
      | some (.faulty fault width) => .error ⟨fault, position, width⟩

def read (octets : List UInt8) : Except FaultAt Text :=
  readFrom false octets.length 0 octets

/-- The text that octets encode when surrogates may be encoded too. -/
def readWithSurrogates (octets : List UInt8) : Except FaultAt Text :=
  readFrom true octets.length 0 octets

/-- Read octets with at most `fuel` encodings, U+FFFD in place of each fault. -/
def readReplacingFrom : Nat → List UInt8 → Text
  | 0, _ => []
  | fuel + 1, octets =>
      match step? false octets with
      | none => []
      | some (.found c width) => c :: readReplacingFrom fuel (octets.drop width)
      | some (.faulty _ width) => 0xFFFD :: readReplacingFrom fuel (octets.drop width)

def readReplacing (octets : List UInt8) : Text := readReplacingFrom octets.length octets

end Utf8

end RuleDraft
