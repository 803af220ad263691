import RuleDraft.Text.Digit
import RuleDraft.Text.Quoted

/-!
# Grammars of command lines

A command line is a list of words. A word that starts with a dash names an
option, in full or by the start of a long name; its value follows after an equal
sign, right after a short name, or as the next word. Two dashes alone end the
options. Words that belong to no option fill the places of the grammar in order.

Options are carried out from left to right, so a request for help is granted
even if what follows it is wrong, but not if a name before or after it is
ambiguous.
-/

namespace RuleDraft
namespace CommandLine

/-- Why a command line is not carried out. -/
inductive Stop where
  | help
  | misuse (message : Text)
  deriving DecidableEq, Repr

/-- An option that may be given, and what it does to the arguments. -/
structure OptionRule (α : Type) where
  names : List String
  takesValue : Bool
  take : Text → α → Except Stop α

/-- A place for a word that belongs to no option. -/
structure PlaceRule (α : Type) where
  name : String
  required : Bool
  take : Text → α → Except Stop α

/-- What may stand in a command line. -/
structure Grammar (α : Type) where
  options : List (OptionRule α)
  places : List (PlaceRule α)

variable {α : Type}

def OptionRule.label (r : OptionRule α) : Text :=
  Text.joinWith "/" (r.names.map fun n => Text.ofString n)

def misuseOf (label message : Text) : Stop :=
  .misuse (Text.join ["argument ", label, ": ", message])

def notAmong (place : String) (choices : List String) (t : Text) : Stop :=
  misuseOf place (Text.join ["invalid choice: ", t.quoted, " (choose from ",
    Text.joinWith ", " (choices.map fun c => (Text.ofString c).quoted), ")"])

/-! ## Words -/

/-- How a word is read; the value of an option may stand in the same word as its name. -/
inductive Word (α : Type) where
  | plain (t : Text)
  /-- The two dashes that end the options. -/
  | mark
  | named (written : Text) (rule : OptionRule α) (name : Text) (value : Option Text)
  | unknown (written : Text)

def dash : CodePoint := CodePoint.ofChar '-'

/-- The word that ends the options. -/
def markText : Text := [dash, dash]

def Word.written : Word α → Text
  | plain t => t
  | mark => markText
  | named t _ _ _ => t
  | unknown t => t

/-- Whether a word names an option, known or not. -/
def Word.isOption : Word α → Bool
  | named _ _ _ _ => true
  | unknown _ => true
  | _ => false

namespace Grammar

def named (g : Grammar α) : List (Text × OptionRule α) :=
  g.options.flatMap fun r => r.names.map fun n => (Text.ofString n, r)

def find? (g : Grammar α) (name : Text) : Option (OptionRule α) :=
  (g.named.find? fun n => n.1 = name).map Prod.snd

/-- The part of a word before an equal sign, and what follows it. -/
def divide (t : Text) : Text × Option Text := t.cutAt (CodePoint.ofChar '=')

/-- The options that a word may mean that is no full name. -/
def candidates (g : Grammar α) (t : Text) : List (Text × OptionRule α × Option Text) :=
  if markText.isPrefixOf t then
    let (start, value) := divide t
    (g.named.filter fun n => start.isPrefixOf n.1).map fun n => (n.1, n.2, value)
  else
    (g.named.filter fun n => n.1 = t.take 2).map fun n => (n.1, n.2, some (t.drop 2))

def isDigits (t : Text) : Bool := !t.isEmpty && t.all CodePoint.isDigit

/-- Whether a text is a number without a sign: digits, or a point before digits. -/
def isUnsigned (t : Text) : Bool :=
  isDigits t ||
    match Text.cutAt (CodePoint.ofChar '.') t with
    | (whole, some fraction) => (whole.isEmpty || isDigits whole) && isDigits fraction
    | _ => false

/-- Whether a word is a negative number. A line break at its end does not matter. -/
def isNegativeNumber (t : Text) : Bool :=
  match t with
  | [] => false
  | c :: number =>
      c = dash &&
        (isUnsigned number ||
          (number.getLast? = some (CodePoint.ofChar '\n') && isUnsigned number.dropLast))

/-- The reading of a word that starts with a dash and is no full name. -/
def readInexact (g : Grammar α) (t : Text) : Except Stop (Word α) :=
  let exact : Option (Word α) :=
    match divide t with
    | (name, some value) => (g.find? name).map fun r => .named t r name (some value)
    | _ => none
  match exact with
  | some w => .ok w
  | none =>
      match g.candidates t with
      | [(name, r, value)] => .ok (.named t r name value)
      | [] =>
          if isNegativeNumber t || t.contains (CodePoint.ofChar ' ') then .ok (.plain t)
          else .ok (.unknown t)
      | several =>
          .error (.misuse (Text.join ["ambiguous option: ", t, " could match ",
            Text.joinWith ", " (several.map fun c => c.1)]))

def readWord (g : Grammar α) (t : Text) : Except Stop (Word α) :=
  if t.head? ≠ some dash ∨ t = [dash] then .ok (.plain t)
  else
    match g.find? t with
    | some r => .ok (.named t r t none)
    | none => g.readInexact t

def readWords (g : Grammar α) : List Text → Except Stop (List (Word α))
  | [] => .ok []
  | t :: rest =>
      if t = markText then .ok (.mark :: rest.map .plain)
      else do
        let w ← g.readWord t
        return w :: (← readWords g rest)

end Grammar

/-! ## Options -/

/-- Options with their values in order, and the words that follow. -/
structure Run (α : Type) where
  taken : List (OptionRule α × Text)
  rest : List (Word α)

/-- A flag was given a value. -/
def ignoredValue (r : OptionRule α) (value : Text) : Stop :=
  misuseOf r.label (Text.join ["ignored explicit argument ", value.quoted])

/-- An option whose value, if it takes one, is the next word. -/
def readOpen (r : OptionRule α) (following : List (Word α)) : Except Stop (Run α) :=
  if r.takesValue then
    match following with
    | .plain t :: rest => .ok ⟨[(r, t)], rest⟩
    | _ => .error (misuseOf r.label "expected one argument")
  else .ok ⟨[(r, [])], following⟩

/-- A value that is the mark alone is none. -/
def attachedValue (t : Text) : Text := if t = markText then [] else t

/--
An option with a text attached to its short name: its value, or the short names
of more options.
-/
def readJoined (g : Grammar α) (following : List (Word α)) (r : OptionRule α) :
    Text → Except Stop (Run α)
  | [] => readOpen r following
  | c :: more =>
      if r.takesValue then .ok ⟨[(r, attachedValue (c :: more))], following⟩
      else
        match g.find? [dash, c] with
        | none => .error (ignoredValue r (c :: more))
        | some next =>
            (readJoined g following next more).map fun run =>
              { run with taken := (r, []) :: run.taken }

def readOption (g : Grammar α) (r : OptionRule α) (name : Text) (value : Option Text)
    (following : List (Word α)) : Except Stop (Run α) :=
  match value with
  | none => readOpen r following
  | some t =>
      if r.takesValue then .ok ⟨[(r, attachedValue t)], following⟩
      else if t.isEmpty ∨ markText.isPrefixOf name then .error (ignoredValue r t)
      else readJoined g following r t

/-! ## Places -/

/-- Split off marks at the front. -/
def splitMarks : List (Word α) → List Text × List (Word α)
  | .mark :: rest =>
      let (marks, rest) := splitMarks rest
      (markText :: marks, rest)
  | ws => ([], ws)

/-- The words for a place, if it can be filled, and the words after them. -/
def fillPlace (required : Bool) (ws : List (Word α)) : Option (List Text × List (Word α)) :=
  let (before, ws) := splitMarks ws
  match ws with
  | .plain t :: rest =>
      let (after, rest) := splitMarks rest
      some (before ++ t :: after, rest)
  | ws => if required then none else some (before, ws)

/-- The words for as many places as can be filled. -/
def fillPlaces : List (PlaceRule α) → List (Word α) →
    List (PlaceRule α × List Text) × List (PlaceRule α) × List (Word α)
  | [], ws => ([], [], ws)
  | p :: places, ws =>
      match fillPlace p.required ws with
      | none => ([], p :: places, ws)
      | some (texts, rest) =>
          let (filled, open_, rest) := fillPlaces places rest
          ((p, texts) :: filled, open_, rest)

/-- Carry out the filling of a place; one mark among its words does not count. -/
def takePlace (arguments : α) (p : PlaceRule α × List Text) : Except Stop α :=
  match p.2.erase markText with
  | t :: _ => p.1.take t arguments
  | [] => .ok arguments

/-! ## Command lines -/

/-- How far a command line has been carried out. -/
structure State (α : Type) where
  arguments : α
  places : List (PlaceRule α)
  left : List Text

namespace Grammar

/-- Carry out the words of a command line, at most `fuel` steps. -/
def carryOut (g : Grammar α) : Nat → List (Word α) → State α → Except Stop (State α)
  | 0, _, s => .ok s
  | _, [], s => .ok s
  | fuel + 1, w :: rest, s =>
      match w with
      | .unknown t => g.carryOut fuel rest { s with left := s.left ++ [t] }
      | .named _ r name value => do
          let run ← readOption g r name value rest
          let arguments ← run.taken.foldlM (fun a o => o.1.take o.2 a) s.arguments
          g.carryOut fuel run.rest { s with arguments }
      | w => do
          let (filled, places, after) := fillPlaces s.places (w :: rest)
          let arguments ← filled.foldlM takePlace s.arguments
          if filled.isEmpty then
            let (extra, after) := (w :: rest).span fun w => ¬ w.isOption
            g.carryOut fuel after { s with left := s.left ++ extra.map Word.written }
          else g.carryOut fuel after { s with arguments, places }

/-- Read a command line, starting from arguments of which none is given. -/
def read (g : Grammar α) (nothing : α) (words : List Text) : Except Stop α := do
  let ws ← g.readWords words
  let s ← g.carryOut (ws.length + g.places.length) ws ⟨nothing, g.places, []⟩
  match s.places.filter fun p => p.required with
  | [] => pure ()
  | missing =>
      throw (.misuse (Text.join ["the following arguments are required: ",
        Text.joinWith ", " (missing.map fun p => Text.ofString p.name)]))
  if s.left.isEmpty then return s.arguments
  else throw (.misuse (Text.join ["unrecognized arguments: ", Text.joinWith " " s.left]))

end Grammar

end CommandLine
end RuleDraft
