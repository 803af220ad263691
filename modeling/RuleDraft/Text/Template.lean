import RuleDraft.Number.Places
import RuleDraft.Value.Shown

/-!
# Message templates

A message is a template with directives that start with a percent sign: an
optional key in parentheses, flags, a width, a precision and a conversion. Each
directive takes the next argument, or the one under its key, and lays it out.
-/

namespace RuleDraft
namespace Template

inductive Fault where
  | incomplete
  | incompleteKey
  | mappingRequired
  | unknownKey (key : Text)
  | keyInList
  | tooFewArguments
  | unusedArguments
  | starWantsInteger
  | widthTooLarge
  | precisionTooLarge
  | starWidthRange
  | starPrecisionRange
  | unsupported (conversion : CodePoint) (index : Nat)
  | integerRequired (conversion : CodePoint) (kind : String)
  | realRequired (conversion : CodePoint) (kind : String)
  | notReal (kind : String)
  | infinityToInteger
  | nanToInteger
  | integerTooLarge
  | characterRequired
  | characterRange
  deriving DecidableEq, Repr

namespace Fault

def name : Fault → String
  | incomplete | incompleteKey | widthTooLarge | precisionTooLarge | unsupported _ _
  | nanToInteger => "ValueError"
  | unknownKey _ => "KeyError"
  | infinityToInteger | integerTooLarge | characterRange | starWidthRange
  | starPrecisionRange => "OverflowError"
  | _ => "TypeError"

def message : Fault → Text
  | incomplete => "incomplete format"
  | incompleteKey => "incomplete format key"
  | mappingRequired => "format requires a mapping"
  | unknownKey key => key.quoted
  | keyInList => "list indices must be integers or slices, not str"
  | tooFewArguments => "not enough arguments for format string"
  | unusedArguments => "not all arguments converted during string formatting"
  | starWantsInteger => "* wants int"
  | widthTooLarge => "width too big"
  | precisionTooLarge => "precision too big"
  | starWidthRange => "Python int too large to convert to C ssize_t"
  | starPrecisionRange => "Python int too large to convert to C int"
  | unsupported c index =>
      Text.join ["unsupported format character '",
        [if 31 ≤ c.val ∧ c.val < 127 then c else CodePoint.ofChar '?'], "' (0x",
        hexText c.val, ") at index ", Text.ofNat index]
  | integerRequired c kind =>
      Text.join ["%", [c], " format: an integer is required, not ", kind]
  | realRequired c kind =>
      Text.join ["%", [c], " format: a real number is required, not ", kind]
  | notReal kind => Text.join ["must be real number, not ", kind]
  | infinityToInteger => "cannot convert float infinity to integer"
  | nanToInteger => "cannot convert float NaN to integer"
  | integerTooLarge => "int too large to convert to float"
  | characterRequired => "%c requires int or char"
  | characterRange => "%c arg not in range(0x110000)"
where
  /-- Hexadecimal digits without padding. -/
  hexText (n : Nat) : Text :=
    let digits := Text.hexPadded CodePoint.hexDigit 8 n
    let significant := digits.dropWhile (· = CodePoint.ofChar '0')
    if significant.isEmpty then [CodePoint.ofChar '0'] else significant

end Fault

inductive Arguments where
  /-- One value per directive. -/
  | inOrder (values : List Value)
  /-- Values under keys; the whole mapping serves one directive without a key. -/
  | underKeys (fields : List (Text × Value))
  /-- A single value. -/
  | single (v : Value)

/-- What the key of a directive is looked up in. -/
inductive Lookup where
  | nothing
  /-- A list, which takes the place of a mapping but has no keys. -/
  | list
  | fields (fields : List (Text × Value))

/-- Arguments that are still to be used. -/
structure Supply where
  rest : List Value
  lookup : Lookup

namespace Arguments

def supply : Arguments → Supply
  | inOrder values => ⟨values, .nothing⟩
  | underKeys fields => ⟨[.object fields], .fields fields⟩
  | single (.list values) => ⟨[.list values], .list⟩
  | single v => ⟨[v], .nothing⟩

end Arguments

structure Flags where
  left : Bool := false
  sign : Bool := false
  blank : Bool := false
  alternate : Bool := false
  zero : Bool := false

structure Directive where
  flags : Flags
  width : Nat
  precision : Option Nat
  conversion : CodePoint

/-- A value laid out, with its sign and marker apart from its digits. -/
structure Piece where
  sign : Text
  marker : Text
  body : Text
  isNumber : Bool

def Directive.layOut (d : Directive) (p : Piece) : Text :=
  let padding := d.width - (p.sign.length + p.marker.length + p.body.length)
  if d.flags.left then
    p.sign ++ p.marker ++ p.body ++ List.replicate padding (CodePoint.ofChar ' ')
  else if p.isNumber ∧ d.flags.zero then
    p.sign ++ p.marker ++ List.replicate padding (CodePoint.ofChar '0') ++ p.body
  else List.replicate padding (CodePoint.ofChar ' ') ++ p.sign ++ p.marker ++ p.body

def signText (flags : Flags) (negative : Bool) : Text :=
  if negative then [CodePoint.ofChar '-']
  else if flags.sign then [CodePoint.ofChar '+']
  else if flags.blank then [CodePoint.ofChar ' ']
  else []

def baseDigits (base : Nat) (digit : Nat → CodePoint) (n : Nat) : Text :=
  go (n.log2 + 1) n []
where
  /-- Digits in front of a tail. -/
  go : Nat → Nat → Text → Text
    | 0, _, tail => tail
    | fuel + 1, n, tail =>
        if n < base then digit n :: tail else go fuel (n / base) (digit (n % base) :: tail)

/-- The integer that an integer conversion shows. -/
def integerOf (conversion : CodePoint) (v : Value) : Except Fault Int :=
  let wantsInteger := "oxX".toList.contains conversion.toChar
  match v with
  | .int i => .ok i
  | .bool b => .ok (if b then 1 else 0)
  | .float x =>
      if wantsInteger then .error (.integerRequired conversion v.kindName)
      else match x with
        | .infinite _ => .error .infinityToInteger
        | .nan => .error .nanToInteger
        | x => .ok (x.truncate?.getD 0)
  | v =>
      if wantsInteger then .error (.integerRequired conversion v.kindName)
      else .error (.realRequired conversion v.kindName)

def integerPiece (d : Directive) (v : Value) : Except Fault Piece := do
  let i ← integerOf d.conversion v
  let (marker, digits) : Text × Text :=
    match d.conversion.toChar with
    | 'o' => ("0o", baseDigits 8 CodePoint.hexDigit i.natAbs)
    | 'x' => ("0x", baseDigits 16 CodePoint.hexDigit i.natAbs)
    | 'X' => ("0X", baseDigits 16 CodePoint.upperHexDigit i.natAbs)
    | _ => ([], Text.ofNat i.natAbs)
  let zeros := (d.precision.getD 0) - digits.length
  return { sign := signText d.flags (i < 0)
           marker := if d.flags.alternate then marker else []
           body := List.replicate zeros (CodePoint.ofChar '0') ++ digits
           isNumber := true }

def floatOf (v : Value) : Except Fault Binary64 :=
  match v with
  | .float x => .ok x
  | .bool b => .ok (Binary64.ofInt (if b then 1 else 0))
  | .int i =>
      let x := Binary64.ofInt i
      if x.isFinite then .ok x else .error .integerTooLarge
  | v => .error (.notReal v.kindName)

def floatPiece (d : Directive) (v : Value) : Except Fault Piece := do
  let x ← floatOf v
  let places := d.precision.getD 6
  let keep := d.flags.alternate
  let body : Text :=
    match x.magnitude? with
    | none => if x = .nan then "nan" else "inf"
    | some (num, den) =>
        match d.conversion.toChar with
        | 'e' | 'E' => Binary64.scientificText num den places keep
        | 'f' | 'F' => Binary64.fixedText num den places keep
        | _ => Binary64.generalText num den places keep
  let isCapital := "EFG".toList.contains d.conversion.toChar
  return { sign := signText d.flags x.isNegative
           marker := []
           body := if isCapital then body.asciiUpper else body
           isNumber := true }

/-- A text with everything outside ASCII shown by its number. -/
def asciiOnly (t : Text) : Text :=
  t.flatMap fun c => if c.isAscii then [c] else Text.numberEscape c

def textPiece (d : Directive) (t : Text) : Piece :=
  { sign := [], marker := [], isNumber := false
    body := match d.precision with
      | some n => t.take n
      | none => t }

def characterPiece (v : Value) : Except Fault Piece :=
  let of (c : CodePoint) : Piece := ⟨[], [], [c], false⟩
  match v with
  | .text [c] => .ok (of c)
  | .int i =>
      if 0 ≤ i ∧ i < 0x110000 then .ok (of (CodePoint.ofNat i.toNat))
      else .error .characterRange
  | .bool b => .ok (of (CodePoint.ofNat b.toNat))
  | _ => .error .characterRequired

/-- The text of a directive for a value; `index` is the place of its conversion. -/
def Directive.fill (d : Directive) (index : Nat) (v : Value) : Except Fault Text := do
  let piece ←
    match d.conversion.toChar with
    | 's' => pure (textPiece d v.shown)
    | 'r' => pure (textPiece d v.inner)
    | 'a' => pure (textPiece d (asciiOnly v.inner))
    | 'd' | 'i' | 'u' | 'o' | 'x' | 'X' => integerPiece d v
    | 'e' | 'E' | 'f' | 'F' | 'g' | 'G' => floatPiece d v
    | 'c' => characterPiece v
    | _ => throw (.unsupported d.conversion index)
  return d.layOut piece

def Supply.next (s : Supply) : Except Fault (Value × Supply) :=
  match s.rest with
  | v :: rest => .ok (v, { s with rest })
  | [] => .error .tooFewArguments

def Lookup.find (key : Text) : Lookup → Except Fault Value
  | nothing => .error .mappingRequired
  | list => .error .keyInList
  | fields fs =>
      match Keyed.get? key fs with
      | some v => .ok v
      | none => .error (.unknownKey key)

/-- Whether there is something to look up in. It need not be used up. -/
def Lookup.isSome : Lookup → Bool
  | nothing => false
  | _ => true

/-- The key of a directive: up to the parenthesis that closes it. -/
def readKey : Nat → Text → Option (Text × Text)
  | _, [] => none
  | depth, c :: rest =>
      if c = CodePoint.ofChar ')' then
        if depth = 0 then some ([], rest)
        else (readKey (depth - 1) rest).map fun r => (c :: r.1, r.2)
      else
        let depth := if c = CodePoint.ofChar '(' then depth + 1 else depth
        (readKey depth rest).map fun r => (c :: r.1, r.2)

def readFlags (f : Flags) : Text → Flags × Text
  | [] => (f, [])
  | c :: rest =>
      match c.toChar with
      | '-' => readFlags { f with left := true } rest
      | '+' => readFlags { f with sign := true } rest
      | ' ' => readFlags { f with blank := true } rest
      | '#' => readFlags { f with alternate := true } rest
      | '0' => readFlags { f with zero := true } rest
      | _ => (f, c :: rest)

/-- What bounds a width or a precision, and how each way to exceed it is refused. -/
structure CountLimit where
  bound : Nat
  tooLarge : Fault
  starRange : Fault

/-- A width is a signed word of 64 bits. -/
def CountLimit.width : CountLimit := ⟨0x8000000000000000, .widthTooLarge, .starWidthRange⟩

/-- A precision is a signed word of 32 bits. -/
def CountLimit.precision : CountLimit := ⟨0x80000000, .precisionTooLarge, .starPrecisionRange⟩

def CountLimit.admit (limit : CountLimit) (i : Int) : Except Fault Int :=
  if -(limit.bound : Int) ≤ i ∧ i < limit.bound then .ok i else .error limit.starRange

/-- A number within a limit in the directive, or the next argument for an asterisk. -/
def readCount (limit : CountLimit) (t : Text) (s : Supply) :
    Except Fault (Option Int × Text × Supply) :=
  match t with
  | [] => .ok (none, [], s)
  | c :: rest =>
      if c = CodePoint.ofChar '*' then do
        let (v, s) ← s.next
        match v with
        | .int i => return (some (← limit.admit i), rest, s)
        | .bool b => return (some (if b then 1 else 0), rest, s)
        | _ => throw .starWantsInteger
      else
        let (digits, rest) := t.span CodePoint.isAsciiDigit
        if digits.isEmpty then .ok (none, t, s)
        else
          let n := Text.digitsValue digits
          if limit.bound ≤ n then .error limit.tooLarge else .ok (some n, rest, s)

/-- The letters that may stand before a conversion without any effect. -/
def dropSize : Text → Text
  | [] => []
  | c :: rest => if "hlL".toList.contains c.toChar then rest else c :: rest

/-- A directive after its percent sign, filled in, with what follows it. A percent sign is
no conversion: only one right behind another stands for itself (`fillFrom`). -/
def fillOne (length : Nat) (t : Text) (s : Supply) : Except Fault (Text × Text × Supply) := do
  let (t, s) ←
    match t with
    | c :: rest =>
        if c = CodePoint.ofChar '(' then
          if ¬ s.lookup.isSome then throw .mappingRequired
          match readKey 0 rest with
          | none => throw .incompleteKey
          | some (key, rest) => pure (rest, { s with rest := [← s.lookup.find key] })
        else pure (t, s)
    | [] => pure ([], s)
  let (flags, t) := readFlags {} t
  let (width, t, s) ← readCount .width t s
  let width := width.getD 0
  -- A negative width can only come from an argument, and means the flag for the left.
  let flags := if width < 0 then { flags with left := true } else flags
  let (precision, t, s) ←
    match t with
    | c :: rest =>
        if c = CodePoint.ofChar '.' then do
          let (n, t, s) ← readCount .precision rest s
          pure (some (n.getD 0).toNat, t, s)
        else pure (none, t, s)
    | [] => pure (none, [], s)
  match dropSize t with
  | [] => throw .incomplete
  | c :: rest =>
      let (v, s) ← s.next
      let d : Directive := ⟨flags, width.natAbs, precision, c⟩
      return (← d.fill (length - (rest.length + 1)) v, rest, s)

/-- The rest of a template of a length filled in, with at most `fuel` steps. -/
def fillFrom (length : Nat) : Nat → Text → Supply → Except Fault (Text × Supply)
  | 0, _, s => .ok ([], s)
  | _, [], s => .ok ([], s)
  | fuel + 1, c :: rest, s =>
      if c = CodePoint.ofChar '%' ∧ rest.head? = some c then
        (fillFrom length fuel rest.tail s).map fun r => (c :: r.1, r.2)
      else if c = CodePoint.ofChar '%' then do
        let (filled, rest, s) ← fillOne length rest s
        let (more, s) ← fillFrom length fuel rest s
        return (filled ++ more, s)
      else (fillFrom length fuel rest s).map fun r => (c :: r.1, r.2)

/-- A template filled in with arguments, all of which have to be used. -/
def fill (t : Text) (args : Arguments) : Except Fault Text := do
  let (filled, s) ← fillFrom t.length t.length t args.supply
  if ¬ s.rest.isEmpty ∧ ¬ s.lookup.isSome then throw .unusedArguments
  return filled

end Template
end RuleDraft
