import RuleDraft.Text.Blank
import RuleDraft.Text.Digit

/-!
# Decimal numerals

Natural numbers and integers as decimal digits, and digits read back as a
number. A numeral that is too long to be read at all is a reading limit of the
format, kept here as `digitLimit`.
-/

namespace RuleDraft

/-- The longest run of digits that is read as an integer. -/
def digitLimit : Nat := 4300

namespace Text

def natThen (n : Nat) (tail : Text) : Text :=
  if h : n < 10 then CodePoint.hexDigit n :: tail
  else natThen (n / 10) (CodePoint.hexDigit (n % 10) :: tail)
termination_by n

def ofNat (n : Nat) : Text := natThen n []

def ofInt : Int → Text
  | .ofNat n => ofNat n
  | .negSucc n => CodePoint.ofChar '-' :: ofNat (n + 1)

/-- The decimal digits of a natural number, padded with zeros to a width. -/
def ofNatPadded (width n : Nat) : Text :=
  let digits := ofNat n
  List.replicate (width - digits.length) (CodePoint.ofChar '0') ++ digits

/-- The number that digits of any script stand for; others count as zero. -/
def digitsValue (t : Text) : Nat :=
  t.foldl (fun n c => 10 * n + c.digitValue?.getD 0) 0

/-- Digits of any script with single low lines among them, without the low lines. -/
def joinedDigits? : Text → Option Text
  | [] => none
  | [c] => if c.isDigit then some [c] else none
  | c :: d :: rest =>
      if ¬ c.isDigit then none
      else if d = CodePoint.ofChar '_' then (joinedDigits? rest).map (c :: ·)
      else (joinedDigits? (d :: rest)).map (c :: ·)

/-- An integer numeral with blanks around it and low lines among its digits. -/
def looseInt? (t : Text) : Option Int :=
  let body := t.trim
  let (negative, digits) :=
    match body with
    | c :: rest =>
        if c = CodePoint.ofChar '-' then (true, rest)
        else if c = CodePoint.ofChar '+' then (false, rest)
        else (false, body)
    | [] => (false, [])
  match joinedDigits? digits with
  | none => none
  | some digits =>
      if digitLimit < digits.length then none
      else
        let n : Int := digits.digitsValue
        some (if negative then -n else n)

end Text

end RuleDraft
