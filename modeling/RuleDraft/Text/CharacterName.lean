import RuleDraft.Text.CharacterName.Aliases
import RuleDraft.Text.CharacterName.Alphabets
import RuleDraft.Text.CharacterName.Forms
import RuleDraft.Text.CharacterName.Historic
import RuleDraft.Text.CharacterName.Notations
import RuleDraft.Text.CharacterName.Pictures
import RuleDraft.Text.CharacterName.Signs
import RuleDraft.Text.CharacterName.Syllabaries
import RuleDraft.Text.CharacterName.Symbols
import RuleDraft.Text.CodePoint

/-!
# Character names

The code point with a Unicode name or a formal alias, by the names of Unicode 14.
Listed names are found in any case of their ASCII letters. The names of unified
ideographs and of Hangul syllables follow from the code point by a rule, and
these are found in capitals only.
-/

namespace RuleDraft
namespace CharacterName

/-! ## Names by rule -/

/-- The value of an upper-case hexadecimal digit. -/
def hexValue? (c : CodePoint) : Option Nat :=
  if 97 ≤ c.val then none else c.hexValue?

def hexNumber? (t : Text) : Option Nat :=
  t.foldl (fun n c => n.bind fun n => (hexValue? c).map fun d => n * 16 + d) (some 0)

def ideographs : List (Nat × Nat) :=
  [(0x3400, 0x4DBF), (0x4E00, 0x9FFF), (0x20000, 0x2A6DF), (0x2A700, 0x2B738),
   (0x2B740, 0x2B81D), (0x2B820, 0x2CEA1), (0x2CEB0, 0x2EBE0), (0x30000, 0x3134A)]

def inRanges (ranges : List (Nat × Nat)) (n : Nat) : Bool :=
  ranges.any fun r => r.1 ≤ n && n ≤ r.2

/-- The unified ideograph with four or five hexadecimal digits. -/
def ideograph? (digits : Text) : Option Nat :=
  if digits.length = 4 ∨ digits.length = 5 then (hexNumber? digits).filter (inRanges ideographs)
  else none

def initials : List String :=
  ["G", "GG", "N", "D", "DD", "R", "M", "B", "BB", "S", "SS", "", "J", "JJ", "C", "K", "T", "P",
   "H"]

def vowels : List String :=
  ["A", "AE", "YA", "YAE", "EO", "E", "YEO", "YE", "O", "WA", "WAE", "OE", "YO", "U", "WEO",
   "WE", "WI", "YU", "EU", "YI", "I"]

/-- The names of final consonants, the absent one first. -/
def finals : List String :=
  ["", "G", "GG", "GS", "N", "NJ", "NH", "D", "L", "LG", "LM", "LB", "LS", "LT", "LP", "LH", "M",
   "B", "BS", "S", "SS", "NG", "J", "C", "K", "T", "P", "H"]

/-- The longest of some parts that a text starts with: its index, and the rest. -/
def longestPart? (parts : List String) (t : Text) : Option (Nat × Text) :=
  let fitting := parts.zipIdx.filterMap fun (part, i) =>
    (t.dropStart? part).map fun rest => (i, rest)
  fitting.foldl
    (fun best found =>
      match best with
      | none => some found
      | some b => if found.2.length < b.2.length then some found else some b)
    none

def syllable? (t : Text) : Option Nat := do
  let (initial, t) ← longestPart? initials t
  let (vowel, t) ← longestPart? vowels t
  let (final, t) ← longestPart? finals t
  if t.isEmpty then some (0xAC00 + (initial * 21 + vowel) * 28 + final) else none

/-! ## Listed names -/

/-- Names that end in the number of their code point, with the ranges that have them. -/
def numbered : List (String × List (Nat × Nat)) :=
  [("CJK COMPATIBILITY IDEOGRAPH-", [(0xF900, 0xFA6D), (0xFA70, 0xFAD9), (0x2F800, 0x2FA1D)]),
   ("KHITAN SMALL SCRIPT CHARACTER-", [(0x18B00, 0x18CD5)]),
   ("NUSHU CHARACTER-", [(0x1B170, 0x1B2FB)])]

/-- The code point whose number a name ends in; no zero stands before the number. -/
def numbered? (name : Text) : Option Nat :=
  numbered.findSome? fun (stem, ranges) => do
    let digits ← name.dropStart? stem
    let n ← hexNumber? digits
    if inRanges ranges n ∧ digits.head? ≠ some (CodePoint.ofChar '0') then some n else none

/-- Search the lines of a table from a code point on. -/
def searchLines (name : String) : List String → Nat → Option Nat
  | [], _ => none
  | line :: rest, next =>
      match line.toList with
      | '@' :: digits =>
          searchLines name rest
            ((hexNumber? (digits.map CodePoint.ofChar)).getD next)
      | _ => if line = name then some next else searchLines name rest (next + 1)

def tables : List String :=
  alphabets ++ syllabaries ++ symbols ++ forms ++ historic ++ signs ++ notations ++ pictures

def listed? (name : String) : Option Nat :=
  tables.findSome? fun table => searchLines name (table.splitOn "\n") 0

def alias? (name : String) : Option Nat :=
  (aliases.find? fun a => a.2 = name).map Prod.fst

def find? (name : Text) : Option Nat :=
  match name.dropStart? "HANGUL SYLLABLE ", name.dropStart? "CJK UNIFIED IDEOGRAPH-" with
  | some parts, _ => syllable? parts
  | none, some digits => ideograph? digits
  | none, none =>
      let name := name.asciiUpper
      (numbered? name).or ((alias? name.toString).or (listed? name.toString))

end CharacterName
end RuleDraft
