import RuleDraft.Number.Numeral
import RuleDraft.Text.Quoted

/-!
# Faults in patterns

What can be wrong with a regular expression, and the sentence for it. Most
faults are found at a position; where the pattern spans several lines, the line
and the column are named too.
-/

namespace RuleDraft
namespace Pattern

inductive Greed where
  | greedy
  | lazy
  | possessive
  deriving DecidableEq, Repr

def Greed.name : Greed → String
  | greedy => "MAX_REPEAT"
  | lazy => "MIN_REPEAT"
  | possessive => "POSSESSIVE_REPEAT"

inductive Fault where
  | danglingBackslash
  | missing (what : String)
  | missingEndOf (terminator : Char)
  | badNameCharacter (name : Text)
  | unknownGroupName (name : Text)
  | groupRedefined (name : Text) (group previous : Nat)
  | openGroup
  | groupInSameLookbehind
  | badGroupNumber
  | invalidReference (group : Nat)
  | tooManyBranches
  | incompleteEscape (escape : Text)
  | badEscape (escape : Text)
  | octalTooLarge (escape : Text)
  | undefinedCharacter (name : Text)
  | unterminatedSet
  | badRange (low high : Text)
  | unterminatedComment
  | unterminatedGroup
  | unbalancedParenthesis
  | unexpectedEnd
  | unknownExtension (extension : Text)
  | nothingToRepeat
  | multipleRepeat
  | minAboveMax
  | unknownFlag
  | misplacedGlobalFlags
  | localeFlag
  | incompatibleFlags
  | typeFlagOff
  | globalFlagOn
  | globalFlagOff
  | flagOnAndOff
  | lookbehindWidth
  | templateOperator (greed : Greed)
  deriving DecidableEq, Repr

namespace Fault

/-- The sentence for a fault, without its position. -/
def message : Fault → Text
  | danglingBackslash => "bad escape (end of pattern)"
  | missing what => Text.join ["missing ", what]
  | missingEndOf c =>
      Text.join ["missing ", [CodePoint.ofChar c], ", unterminated name"]
  | badNameCharacter name => Text.join ["bad character in group name ", name.quoted]
  | unknownGroupName name => Text.join ["unknown group name ", name.quoted]
  | groupRedefined name group previous =>
      Text.join ["redefinition of group name ", name.quoted, " as group ", Text.ofNat group,
        "; was group ", Text.ofNat previous]
  | openGroup => "cannot refer to an open group"
  | groupInSameLookbehind =>
      "cannot refer to group defined in the same lookbehind subpattern"
  | badGroupNumber => "bad group number"
  | invalidReference group => Text.join ["invalid group reference ", Text.ofNat group]
  | tooManyBranches => "conditional backref with more than two branches"
  | incompleteEscape escape => Text.join ["incomplete escape ", escape]
  | badEscape escape => Text.join ["bad escape ", escape]
  | octalTooLarge escape =>
      Text.join ["octal escape value ", escape, " outside of range 0-0o377"]
  | undefinedCharacter name => Text.join ["undefined character name ", name.quoted]
  | unterminatedSet => "unterminated character set"
  | badRange low high => Text.join ["bad character range ", low, "-", high]
  | unterminatedComment => "missing ), unterminated comment"
  | unterminatedGroup => "missing ), unterminated subpattern"
  | unbalancedParenthesis => "unbalanced parenthesis"
  | unexpectedEnd => "unexpected end of pattern"
  | unknownExtension extension => Text.join ["unknown extension ", extension]
  | nothingToRepeat => "nothing to repeat"
  | multipleRepeat => "multiple repeat"
  | minAboveMax => "min repeat greater than max repeat"
  | unknownFlag => "unknown flag"
  | misplacedGlobalFlags => "global flags not at the start of the expression"
  | localeFlag => "bad inline flags: cannot use 'L' flag with a str pattern"
  | incompatibleFlags => "bad inline flags: flags 'a', 'u' and 'L' are incompatible"
  | typeFlagOff => "bad inline flags: cannot turn off flags 'a', 'u' and 'L'"
  | globalFlagOn => "bad inline flags: cannot turn on global flag"
  | globalFlagOff => "bad inline flags: cannot turn off global flag"
  | flagOnAndOff => "bad inline flags: flag turned on and off"
  | lookbehindWidth => "look-behind requires fixed-width pattern"
  | templateOperator greed =>
      Text.join ["internal: unsupported template operator ", greed.name]

end Fault

inductive Rejection where
  /-- The pattern is malformed, mostly at a known position. -/
  | malformed (fault : Fault) (position : Option Nat)
  /-- The pattern asks for ASCII and for Unicode matching at once. -/
  | clashingFlags
  /-- A repetition count has too many digits to be read. -/
  | countTooLong (digits : Nat)
  /-- A repetition count is beyond what the matcher can count. -/
  | countTooLarge
  /-- The number of an escaped character does not fit a machine word. -/
  | characterTooLarge
  /-- Groups stand in groups more often than the reader can follow. -/
  | nestedTooDeeply
  /-- A lookbehind is wider than the matcher can step back. -/
  | reachTooLarge
  deriving DecidableEq, Repr

def describe (pattern : Text) (fault : Fault) (position : Option Nat) : Text :=
  match position with
  | none => fault.message
  | some p =>
      let newline := CodePoint.ofChar '\n'
      let before := pattern.take p
      let line := before.count newline + 1
      let column := (before.reverse.takeWhile (· ≠ newline)).length + 1
      let lineAndColumn : Text :=
        if pattern.contains newline then
          Text.join [" (line ", Text.ofNat line, ", column ", Text.ofNat column, ")"]
        else []
      Text.join [fault.message, " at position ", Text.ofNat p, lineAndColumn]

end Pattern
end RuleDraft
