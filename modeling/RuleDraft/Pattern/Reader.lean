import RuleDraft.Pattern.Node
import RuleDraft.Pattern.Token
import RuleDraft.Text.CharacterName
import RuleDraft.Text.Identifier
import RuleDraft.Text.Letter

/-!
# Reading patterns

A pattern is read from left to right with one token of lookahead. A fault is
reported at the first place where the pattern cannot be right, counted back from
the lookahead. Reading keeps the names and widths of the groups so far, since
references may only point to groups that are already closed.
-/

namespace RuleDraft
namespace Pattern

inductive Flag where
  | ignoreCase
  | locale
  | multiline
  | dotAll
  | verbose
  | ascii
  | template
  | unicode
  deriving DecidableEq, Repr

namespace Flag

def ofLetter? : Char → Option Flag
  | 'i' => some ignoreCase
  | 'L' => some locale
  | 'm' => some multiline
  | 's' => some dotAll
  | 'x' => some verbose
  | 'a' => some ascii
  | 't' => some template
  | 'u' => some unicode
  | _ => none

/-- Flags that choose what a letter or a digit is; at most one of them is on. -/
def isType : Flag → Bool
  | locale | ascii | unicode => true
  | _ => false

end Flag

/-- What is known while a pattern is read. -/
structure Progress where
  /-- The tokens ahead. -/
  ahead : List Token
  /-- The length of the pattern. -/
  finish : Nat
  /-- Whether a backslash is left over at the end. -/
  dangling : Bool
  /-- Group names with their numbers. -/
  names : List (Text × Nat)
  /-- Widths of the groups by number; an open group has none. -/
  widths : List (Option Width)
  /-- The number of groups at the start of the outermost lookbehind. -/
  fence : Option Nat
  /-- Groups that conditions refer to by number, with the first position. -/
  awaited : List (Nat × Nat)
  /-- Flags for the whole pattern. -/
  flags : List Flag
  /-- How many levels deep the reader is. -/
  depth : Nat

/-- How many levels deep a reader may be, and how many levels a tree may have. -/
def maxDepth : Nat := 983

abbrev Reading (α : Type) := StateT Progress (Except Rejection) α

namespace Reading

def peek : Reading (Option Token) := do return (← get).ahead.head?

/-- The position of the token ahead, or of the end. -/
def position : Reading Nat := do
  let s ← get
  return match s.ahead with
    | t :: _ => t.position
    | [] => s.finish

/-- Fail at a number of code points before the token ahead. -/
def failBefore {α : Type} (fault : Fault) (offset : Nat) : Reading α := do
  throw (.malformed fault (some ((← position) - offset)))

def failAt {α : Type} (fault : Fault) (p : Nat) : Reading α :=
  throw (.malformed fault (some p))

def advance : Reading Unit := do
  let s ← get
  match s.ahead.tail with
  | [] =>
      if s.dangling then failAt .danglingBackslash (s.finish - 1)
      else set { s with ahead := [] }
  | rest => set { s with ahead := rest }

def take : Reading (Option Token) := do
  let t ← peek
  advance
  return t

def isAhead (c : Char) : Reading Bool := do
  return match ← peek with
    | some t => t.sign = c
    | none => false

def skip? (c : Char) : Reading Bool := do
  if ← isAhead c then
    advance
    return true
  return false

def takeSome (cls : CodePoint → Bool) : Nat → Reading Text
  | 0 => return []
  | n + 1 => do
      match ← peek with
      | some t =>
          match t.single? with
          | some c =>
              if cls c then
                advance
                return c :: (← takeSome cls n)
              return []
          | none => return []
      | none => return []

def takeAll (cls : CodePoint → Bool) : Reading Text := do
  takeSome cls (← get).ahead.length

/-- Take the text up to a terminator, with at most `fuel` tokens. -/
def takeUntil (terminator : Char) (what : String) : Nat → Text → Reading Text
  | 0, found => return found
  | fuel + 1, found => do
      match ← take with
      | none =>
          if found.isEmpty then failBefore (.missing what) 0
          else failBefore (.missingEndOf terminator) found.length
      | some t =>
          if t.sign = terminator then
            if found.isEmpty then failBefore (.missing what) 1
            return found
          takeUntil terminator what fuel (found ++ t.text)

def takeName (terminator : Char) (what : String) : Reading Text := do
  takeUntil terminator what ((← get).ahead.length + 1) []

def isClosed (group : Nat) : Reading Bool := do
  return ((← get).widths[group]?.join).isSome

/-- Whether a lookbehind may refer to a group. -/
def checkLookbehind (group : Nat) : Reading Unit := do
  match (← get).fence with
  | none => return
  | some fence =>
      if ¬ (← isClosed group) then failBefore .openGroup 0
      if fence ≤ group then failBefore .groupInSameLookbehind 0

def backreference (group : Nat) : Reading Node := do
  return .backreference (((← get).widths[group]?.join).getD .zero)

def checkName (name : Text) : Reading Unit := do
  if ¬ name.isIdentifier then failBefore (.badNameCharacter name) (name.length + 1)

def openGroup (name : Option Text) : Reading Nat := do
  let s ← get
  let group := s.widths.length
  set { s with widths := s.widths ++ [none] }
  match name with
  | none => return group
  | some name =>
      match s.names.lookup name with
      | some previous => failBefore (.groupRedefined name group previous) (name.length + 1)
      | none =>
          modify fun s => { s with names := s.names ++ [(name, group)] }
          return group

def closeGroup (group : Nat) (body : List Node) : Reading Unit :=
  modify fun s => { s with widths := s.widths.set group (some (width body)) }

def valueIn (base : Nat) (digits : Text) : Nat :=
  digits.foldl (fun n c => base * n + c.hexValue?.getD 0) 0

def isOctal (c : CodePoint) : Bool := 48 ≤ c.val && c.val ≤ 55

def hexEscape (escape : Text) (count : Nat) : Reading Nat := do
  let digits ← takeSome (fun c => c.hexValue?.isSome) count
  if digits.length ≠ count then
    failBefore (.incompleteEscape (escape ++ digits)) (2 + digits.length)
  let value := valueIn 16 digits
  if 0x80000000 ≤ value then throw .characterTooLarge
  if 0x110000 ≤ value then failBefore (.badEscape (escape ++ digits)) (2 + digits.length)
  return value

def namedEscape (escape : Text) : Reading Nat := do
  if ¬ (← skip? '\x7b') then failBefore (.missing "\x7b") 0
  let name ← takeName '\x7d' "character name"
  if name.hasSurrogate then failBefore (.badEscape escape) 2
  match CharacterName.find? name with
  | some n => return n
  | none => failBefore (.undefinedCharacter name) (name.length + 4)

/-- The character of an escape that gives its number or its name. -/
def numberedEscape? (t : Token) : Reading (Option Nat) := do
  match t.escaped.toChar with
  | 'x' => return some (← hexEscape t.text 2)
  | 'u' => return some (← hexEscape t.text 4)
  | 'U' => return some (← hexEscape t.text 8)
  | 'N' => return some (← namedEscape t.text)
  | _ => return none

def letterEscape? : Char → Option Nat
  | 'a' => some 7
  | 'b' => some 8
  | 'f' => some 12
  | 'n' => some 10
  | 'r' => some 13
  | 't' => some 9
  | 'v' => some 11
  | '\\' => some 92
  | _ => none

/-- A letter that stands for a class of characters. -/
def isClassLetter (c : Char) : Bool := "dDsSwW".toList.contains c

/-- A letter that stands for a place. -/
def isAnchorLetter (c : Char) : Bool := "AbBZ".toList.contains c

/-- A member of a set: a single character or a class. -/
inductive Member where
  | character (n : Nat)
  | characterClass

def setEscape (t : Token) : Reading Member := do
  let e := t.escaped
  match letterEscape? e.toChar with
  | some n => return .character n
  | none =>
      if isClassLetter e.toChar then return .characterClass
      match ← numberedEscape? t with
      | some n => return .character n
      | none =>
          if isOctal e then
            let digits := e :: (← takeSome isOctal 2)
            let value := valueIn 8 digits
            if 0o377 < value then
              failBefore (.octalTooLarge (CodePoint.ofChar '\\' :: digits)) (digits.length + 1)
            return .character value
          if e.isAsciiDigit ∨ e.isAsciiLetter then failBefore (.badEscape t.text) 2
          return .character e.val

def numberReference (digits : Text) : Reading Node := do
  let group := digits.digitsValue
  if (← get).widths.length ≤ group then
    failBefore (.invalidReference group) digits.length
  if ¬ (← isClosed group) then failBefore .openGroup (digits.length + 1)
  checkLookbehind group
  backreference group

def digitEscape (first : CodePoint) : Reading Node := do
  match ← takeSome CodePoint.isAsciiDigit 1 with
  | second :: _ =>
      if isOctal first ∧ isOctal second then
        match ← takeSome isOctal 1 with
        | third :: _ =>
            let digits := [first, second, third]
            if 0o377 < valueIn 8 digits then
              failBefore (.octalTooLarge (CodePoint.ofChar '\\' :: digits)) 4
            return .unit
        | [] => numberReference [first, second]
      else numberReference [first, second]
  | [] => numberReference [first]

def escape (t : Token) : Reading Node := do
  let e := t.escaped
  if isAnchorLetter e.toChar then return .anchor
  if isClassLetter e.toChar ∨ (letterEscape? e.toChar).isSome then return .unit
  match ← numberedEscape? t with
  | some _ => return .unit
  | none =>
      if e = CodePoint.ofChar '0' then
        let _ ← takeSome isOctal 2
        return .unit
      if e.isAsciiDigit then digitEscape e
      else if e.isAsciiLetter then failBefore (.badEscape t.text) 2
      else return .unit

/-- The member that a token of a set starts. -/
def setMember (t : Token) : Reading Member :=
  match t.single? with
  | some c => return .character c.val
  | none => setEscape t

/-- The rest of a set whose bracket is at a position, with at most `fuel` members. -/
def setMembers (bracket : Nat) : Nat → Bool → Reading Unit
  | 0, _ => return
  | fuel + 1, isFirst => do
      match ← take with
      | none => failAt .unterminatedSet bracket
      | some this =>
          if this.sign = ']' ∧ ¬ isFirst then return
          let low ← setMember this
          if ← skip? '-' then
            match ← take with
            | none => failAt .unterminatedSet bracket
            | some that =>
                if that.sign = ']' then return
                let high ← setMember that
                let width := this.text.length + 1 + that.text.length
                match low, high with
                | .character a, .character b =>
                    if b < a then failBefore (.badRange this.text that.text) width
                | _, _ => failBefore (.badRange this.text that.text) width
          setMembers bracket fuel false

def readSet (bracket : Nat) : Reading Node := do
  let _ ← skip? '^'
  setMembers bracket ((← get).ahead.length + 1) true
  return .unit

def count (digits : Text) : Reading Nat := do
  if digitLimit < digits.length then throw (.countTooLong digits.length)
  let n := digits.digitsValue
  if maxRepeat ≤ n then throw .countTooLarge
  return n

/-- Bounds in braces, whose inside starts here; nothing when the brace is literal. -/
def bounds? : Reading (Option (Nat × Nat)) := do
  if ← isAhead '\x7d' then return none
  let s ← get
  let start ← position
  let low ← takeAll CodePoint.isAsciiDigit
  let high ← if ← skip? ',' then takeAll CodePoint.isAsciiDigit else pure low
  if ¬ (← skip? '\x7d') then
    set s
    return none
  let least ← if low.isEmpty then pure 0 else count low
  if high.isEmpty then return some (least, maxRepeat)
  let greatest ← count high
  if greatest < least then failAt .minAboveMax start
  return some (least, greatest)

/-- How greedily a repetition matches, by the mark that may follow its count. -/
def greed : Reading Greed := do
  if ← skip? '?' then return .lazy
  if ← skip? '+' then return .possessive
  return .greedy

/-- Repeat the last of some nodes, the latest first. -/
def repeatLast (quantifier least greatest : Nat) : List Node → Reading (List Node)
  | [] => failAt .nothingToRepeat quantifier
  | last :: before => do
      match last with
      | .anchor => failAt .nothingToRepeat quantifier
      | .repetition .. => failAt .multipleRepeat quantifier
      | _ =>
          return .repetition (← greed) least greatest last.parts :: before

/-- Skip to the end of a comment in a verbose pattern. -/
def skipLine : Nat → Reading Unit
  | 0 => return
  | fuel + 1 => do
      match ← take with
      | none => return
      | some t => if t.sign = '\n' then return else skipLine fuel

/-- Skip to the end of a comment in parentheses. -/
def skipComment (start : Nat) : Nat → Reading Unit
  | 0 => return
  | fuel + 1 => do
      match ← take with
      | none => failAt .unterminatedComment start
      | some t => if t.sign = ')' then return else skipComment start fuel

def flagFault (t : Token) (otherwise : String) : Fault :=
  if t.isIn CodePoint.isLetter then .unknownFlag else .missing otherwise

/-- Flags to turn on, from one on, and the token that ends them. -/
def flagsOn : Nat → Flag → List Flag → Reading (List Flag × Char)
  | 0, _, on => return (on, ')')
  | fuel + 1, flag, on => do
      if flag = .locale then failBefore .localeFlag 0
      let on := flag :: on
      if flag.isType ∧ on.any (fun f => f.isType && f ≠ flag) then
        failBefore .incompatibleFlags 0
      match ← take with
      | none => failBefore (.missing "-, : or )") 0
      | some t =>
          if t.sign = ')' ∨ t.sign = '-' ∨ t.sign = ':' then return (on, t.sign)
          match Flag.ofLetter? t.sign with
          | none => failBefore (flagFault t "-, : or )") t.text.length
          | some flag => flagsOn fuel flag on

/-- Flags to turn off, from one on, up to the colon. -/
def flagsOff : Nat → Flag → List Flag → Reading (List Flag)
  | 0, _, off => return off
  | fuel + 1, flag, off => do
      if flag.isType then failBefore .typeFlagOff 0
      let off := flag :: off
      match ← take with
      | none => failBefore (.missing ":") 0
      | some t =>
          if t.sign = ':' then return off
          match Flag.ofLetter? t.sign with
          | none => failBefore (flagFault t ":") t.text.length
          | some flag => flagsOff fuel flag off

def firstFlagOff : Reading Flag := do
  match ← take with
  | none => failBefore (.missing "flag") 0
  | some t =>
      match Flag.ofLetter? t.sign with
      | none => failBefore (flagFault t "flag") t.text.length
      | some flag => return flag

/-- Flags in parentheses: for the whole pattern, or on and off for one group. -/
inductive FlagScope where
  | whole
  | group (on off : List Flag)

/-- The flags that start with a flag, or with a minus when there is none. -/
def readFlags (first : Option Flag) : Reading FlagScope := do
  let fuel := (← get).ahead.length + 1
  let (on, ending) ←
    match first with
    | some flag => flagsOn fuel flag []
    | none => pure ([], '-')
  if ending = ')' then
    modify fun s => { s with flags := on ++ s.flags }
    return .whole
  if on.contains .template then failBefore .globalFlagOn 1
  let off ← if ending = '-' then flagsOff fuel (← firstFlagOff) [] else pure []
  if off.contains .template then failBefore .globalFlagOff 1
  if on.any off.contains then failBefore .flagOnAndOff 1
  return .group on off

def conditionGroup (name : Text) : Reading Nat := do
  let offset := name.length + 1
  if name.isIdentifier then
    match (← get).names.lookup name with
    | some group => return group
    | none => failBefore (.unknownGroupName name) offset
  else
    match name.looseInt? with
    | none => failBefore (.badNameCharacter name) offset
    | some i =>
        if i < 0 then failBefore (.badNameCharacter name) offset
        let group := i.toNat
        if group = 0 then failBefore .badGroupNumber offset
        if 1073741823 ≤ group then failBefore (.invalidReference group) offset
        let place := (← position) - offset
        modify fun s =>
          if (s.awaited.lookup group).isSome then s
          else { s with awaited := s.awaited ++ [(group, place)] }
        return group

def nameReference : Reading Node := do
  let name ← takeName ')' "group name"
  checkName name
  match (← get).names.lookup name with
  | none => failBefore (.unknownGroupName name) (name.length + 1)
  | some group =>
      if ¬ (← isClosed group) then failBefore .openGroup (name.length + 1)
      checkLookbehind group
      backreference group

def expectClose (start : Nat) : Reading Unit := do
  if ¬ (← skip? ')') then failAt .unterminatedGroup start

/-- Read some levels deeper. -/
def deeper {α : Type} (levels : Nat) (inner : Reading α) : Reading α := do
  let outer := (← get).depth
  if maxDepth < outer + levels then throw .nestedTooDeeply
  modify fun s => { s with depth := outer + levels }
  let x ← inner
  modify fun s => { s with depth := outer }
  return x

/-- The levels of a group: its alternatives, and the nodes of each. -/
def groupLevels : Nat := 2

/-- The levels of a condition, which has no more than two alternatives. -/
def conditionLevels : Nat := 1

def isVerboseBlank (c : Char) : Bool :=
  c = ' ' || c = '\t' || c = '\n' || c = '\r' || c = '\x0B' || c = '\x0C'

def hasFlag (f : Flag) : Reading Bool := do return (← get).flags.contains f

/-- What an opening parenthesis starts, after its options. -/
inductive Opening where
  /-- A finished part, if it is one that matches something. -/
  | done (node : Option Node)
  /-- Flags for the whole pattern. -/
  | wholeFlags
  | capture (name : Option Text)
  | plain (on off : List Flag)
  | atomic
  | look (behind : Bool)
  | condition (group : Nat)

def readOpening (start : Nat) : Reading Opening := do
  if ¬ (← skip? '?') then return .capture none
  match ← take with
  | none => failBefore .unexpectedEnd 0
  | some t =>
      match t.sign with
      | 'P' =>
          if ← skip? '<' then
            let name ← takeName '>' "group name"
            checkName name
            return .capture (some name)
          if ← skip? '=' then return .done (some (← nameReference))
          match ← take with
          | none => failBefore .unexpectedEnd 0
          | some u =>
              failBefore (.unknownExtension (Text.ofString "?P" ++ u.text)) (u.text.length + 2)
      | ':' => return .plain [] []
      | '#' =>
          skipComment start ((← get).ahead.length + 1)
          return .done none
      | '=' => return .look false
      | '!' => return .look false
      | '<' =>
          match ← take with
          | none => failBefore .unexpectedEnd 0
          | some u =>
              if u.sign = '=' ∨ u.sign = '!' then return .look true
              failBefore (.unknownExtension (Text.ofString "?<" ++ u.text)) (u.text.length + 2)
      | '(' =>
          let group ← conditionGroup (← takeName ')' "group name")
          checkLookbehind group
          return .condition group
      | '>' => return .atomic
      | c =>
          let first := Flag.ofLetter? c
          if first.isNone ∧ c ≠ '-' then
            failBefore (.unknownExtension (CodePoint.ofChar '?' :: t.text)) (t.text.length + 1)
          match ← readFlags first with
          | .whole => return .wholeFlags
          | .group on off => return .plain on off

mutual

/-- Alternatives up to the end of the pattern or of a group. -/
def alternatives : Nat → Bool → Bool → Bool → Reading (List (List Node))
  | 0, _, _, _ => return []
  | fuel + 1, verbose, isNested, isFirst => do
      let nodes ← sequence fuel verbose (isFirst && !isNested) []
      if ← skip? '|' then
        let verbose ← if isNested then pure verbose else hasFlag .verbose
        return nodes :: (← alternatives fuel verbose isNested false)
      return [nodes]

def body (fuel : Nat) (verbose : Bool) : Reading (List Node) := do
  match fuel with
  | 0 => return []
  | fuel + 1 =>
      match ← alternatives fuel verbose true true with
      | [nodes] => return nodes
      | many => return [.branch many]

/--
Nodes one after the other, after those already found, the latest first. Only the
first part of a pattern may start with flags for the whole of it.
-/
def sequence : Nat → Bool → Bool → List Node → Reading (List Node)
  | 0, _, _, found => return found.reverse
  | fuel + 1, verbose, isFirst, found => do
      match ← peek with
      | none => return found.reverse
      | some t =>
          if t.sign = '|' ∨ t.sign = ')' then return found.reverse
          advance
          if verbose ∧ isVerboseBlank t.sign then sequence fuel verbose isFirst found
          else if verbose ∧ t.sign = '#' then
            skipLine ((← get).ahead.length + 1)
            sequence fuel verbose isFirst found
          else
            match t.sign with
            | '\\' => sequence fuel verbose isFirst ((← escape t) :: found)
            | '[' => sequence fuel verbose isFirst ((← readSet t.position) :: found)
            | '*' =>
                sequence fuel verbose isFirst (← repeatLast t.position 0 maxRepeat found)
            | '+' =>
                sequence fuel verbose isFirst (← repeatLast t.position 1 maxRepeat found)
            | '?' => sequence fuel verbose isFirst (← repeatLast t.position 0 1 found)
            | '\x7b' =>
                -- A brace that starts no bounds stands for itself.
                match ← bounds? with
                | none => sequence fuel verbose isFirst (.unit :: found)
                | some (least, greatest) =>
                    sequence fuel verbose isFirst
                      (← repeatLast t.position least greatest found)
            | '^' => sequence fuel verbose isFirst (.anchor :: found)
            | '$' => sequence fuel verbose isFirst (.anchor :: found)
            | '(' =>
                match ← readOpening t.position with
                | .done none => sequence fuel verbose isFirst found
                | .done (some node) => sequence fuel verbose isFirst (node :: found)
                | .wholeFlags =>
                    if ¬ isFirst ∨ ¬ found.isEmpty then
                      failAt .misplacedGlobalFlags t.position
                    sequence fuel (← hasFlag .verbose) isFirst found
                | .capture name =>
                    let group ← openGroup name
                    let nodes ← deeper groupLevels (body fuel verbose)
                    expectClose t.position
                    closeGroup group nodes
                    sequence fuel verbose isFirst (.group true nodes :: found)
                | .plain on off =>
                    let inner := (verbose || on.contains .verbose) && !off.contains .verbose
                    let nodes ← deeper groupLevels (body fuel inner)
                    expectClose t.position
                    let marked := ¬ (on.isEmpty ∧ off.isEmpty)
                    sequence fuel verbose isFirst (.group marked nodes :: found)
                | .atomic =>
                    let nodes ← deeper groupLevels (body fuel verbose)
                    expectClose t.position
                    sequence fuel verbose isFirst (.atomic nodes :: found)
                | .look behind =>
                    -- Inside, no group that is opened from here on may be referred to.
                    let fence := (← get).fence
                    if behind ∧ fence.isNone then
                      modify fun s => { s with fence := some s.widths.length }
                    let nodes ← deeper groupLevels (body fuel verbose)
                    modify fun s => { s with fence }
                    expectClose t.position
                    sequence fuel verbose isFirst (.look behind nodes :: found)
                | .condition _ =>
                    let yes ← deeper conditionLevels (sequence fuel verbose false [])
                    if ← skip? '|' then
                      let no ← deeper conditionLevels (sequence fuel verbose false [])
                      if ← isAhead '|' then failBefore .tooManyBranches 0
                      expectClose t.position
                      sequence fuel verbose isFirst (.conditional yes (some no) :: found)
                    else
                      expectClose t.position
                      sequence fuel verbose isFirst (.conditional yes none :: found)
            | _ => sequence fuel verbose isFirst (.unit :: found)

end

def pattern : Reading (List Node) := do
  let nodes ←
    match ← alternatives (4 * (← get).ahead.length + 4) false false true with
    | [nodes] => pure nodes
    | many => pure [Node.branch many]
  if (← hasFlag .ascii) ∧ (← hasFlag .unicode) then throw .clashingFlags
  if (← peek).isSome then failBefore .unbalancedParenthesis 0
  let s ← get
  match s.awaited.find? fun a => s.widths.length ≤ a.1 with
  | some (group, place) => failAt (.invalidReference group) place
  | none => return nodes

end Reading

def read (t : Text) : Except Rejection (List Node × List Flag) := do
  let (ahead, dangling) := tokens 0 t
  if ahead.isEmpty ∧ dangling then
    throw (.malformed .danglingBackslash (some (t.length - 1)))
  let start : Progress :=
    { ahead, finish := t.length, dangling, names := [], widths := [none], fence := none,
      awaited := [], flags := [], depth := 0 }
  let (nodes, s) ← Reading.pattern.run start
  return (nodes, s.flags)

def rejection? (t : Text) : Option Rejection :=
  match read t with
  | .error r => some r
  | .ok (nodes, flags) =>
      if maxDepth < height nodes then some .nestedTooDeeply
      else
        match buildFault? (flags.contains .template) nodes with
        | some fault => some (.malformed fault none)
        | none => if (reaches nodes).any (reachBound ≤ ·) then some .reachTooLarge else none

end Pattern
end RuleDraft
