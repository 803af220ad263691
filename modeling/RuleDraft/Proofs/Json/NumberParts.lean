import RuleDraft.Json.Reader
import RuleDraft.Proofs.Number.Digits
import RuleDraft.Proofs.Text.Runs

/-!
# The parts of a number

A number is read as a whole part, a fraction and an exponent.  What follows a number
must not go on with it; then each part that was written is the part that is read.
-/

namespace RuleDraft
namespace Json

open Text

/-- The code point goes on with a number that has been written so far. -/
def continuesNumber (c : CodePoint) : Bool :=
  c.isAsciiDigit || c = CodePoint.ofChar '.' || c = CodePoint.ofChar 'e' ||
    c = CodePoint.ofChar 'E'

def signed (negative : Bool) (body : Text) : Text :=
  if negative then CodePoint.ofChar '-' :: body else body

structure AsciiDigits (t : Text) : Prop where
  ne_nil : t ≠ []
  digits : ∀ c ∈ t, c.isAsciiDigit = true

theorem asciiDigits_ofNat (n : Nat) : AsciiDigits (ofNat n) :=
  ⟨ofNat_ne_nil n, isAsciiDigit_of_mem_ofNat⟩

theorem AsciiDigits.append {s t : Text} (hs : ∀ c ∈ s, c.isAsciiDigit = true)
    (ht : AsciiDigits t) : AsciiDigits (s ++ t) := by
  refine ⟨List.append_ne_nil_of_right_ne_nil s ht.ne_nil, ?_⟩
  intro c hc
  rcases List.mem_append.mp hc with hc | hc
  · exact hs c hc
  · exact ht.digits c hc

theorem isAsciiDigit_of_mem_zeros {k : Nat} :
    ∀ c ∈ List.replicate k (CodePoint.ofChar '0'), c.isAsciiDigit = true := by
  intro c hc
  rw [List.eq_of_mem_replicate hc]
  decide

theorem asciiDigits_zero : AsciiDigits [CodePoint.ofChar '0'] :=
  ⟨List.cons_ne_nil _ _, isAsciiDigit_of_mem_zeros (k := 1)⟩

/-!
# What does not go on
-/

theorem continuesNumber_eq_false_iff {c : CodePoint} :
    continuesNumber c = false ↔
      c.isAsciiDigit = false ∧ c ≠ CodePoint.ofChar '.' ∧ c ≠ CodePoint.ofChar 'e' ∧
        c ≠ CodePoint.ofChar 'E' := by
  simp only [continuesNumber, Bool.or_eq_false_iff, decide_eq_false_iff_not, and_assoc]

theorem stops_isAsciiDigit {tail : Text} (h : Stops continuesNumber tail) :
    Stops CodePoint.isAsciiDigit tail := by
  intro c hc
  exact (continuesNumber_eq_false_iff.mp (h c hc)).left

theorem fractionPart?_eq_none {tail : Text} (h : Stops continuesNumber tail) :
    fractionPart? tail = none := by
  cases tail with
  | nil => rfl
  | cons c tail =>
      have hc := continuesNumber_eq_false_iff.mp (h c rfl)
      rw [fractionPart?, if_neg hc.right.left]

theorem exponentPart?_eq_none {tail : Text} (h : Stops continuesNumber tail) :
    exponentPart? tail = none := by
  cases tail with
  | nil => rfl
  | cons c tail =>
      have hc := continuesNumber_eq_false_iff.mp (h c rfl)
      have hletter : ¬ (c = CodePoint.ofChar 'e' ∨ c = CodePoint.ofChar 'E') := by
        rintro (heq | heq)
        · exact hc.right.right.left heq
        · exact hc.right.right.right heq
      rw [exponentPart?, if_neg hletter]

/-!
# What is read
-/

theorem digits?_append {run rest : Text} (hrun : AsciiDigits run)
    (hrest : Stops CodePoint.isAsciiDigit rest) : digits? (run ++ rest) = some (run, rest) := by
  unfold digits?
  rw [span_append hrun.digits hrest]
  cases run with
  | nil => exact absurd rfl hrun.ne_nil
  | cons c run => rfl

theorem wholePart?_zero (rest : Text) :
    wholePart? (CodePoint.ofChar '0' :: rest) = some ([CodePoint.ofChar '0'], rest) := by
  rw [wholePart?, if_pos rfl]

theorem wholePart?_append {run rest : Text} (hrun : AsciiDigits run)
    (hhead : run.head? ≠ some (CodePoint.ofChar '0'))
    (hrest : Stops CodePoint.isAsciiDigit rest) :
    wholePart? (run ++ rest) = some (run, rest) := by
  cases run with
  | nil => exact absurd rfl hrun.ne_nil
  | cons c run =>
      have hzero : c ≠ CodePoint.ofChar '0' := by
        rintro rfl
        exact hhead rfl
      rw [List.cons_append, wholePart?, if_neg hzero, ← List.cons_append]
      exact digits?_append hrun hrest

theorem wholePart?_ofNat (n : Nat) {rest : Text} (hrest : Stops CodePoint.isAsciiDigit rest) :
    wholePart? (ofNat n ++ rest) = some (ofNat n, rest) := by
  rcases Nat.eq_zero_or_pos n with rfl | hpos
  · rw [ofNat_of_lt (by decide)]
    exact wholePart?_zero rest
  · exact wholePart?_append (asciiDigits_ofNat n) (ofNat_head_ne_zero hpos) hrest

theorem fractionPart?_append {run rest : Text} (hrun : AsciiDigits run)
    (hrest : Stops CodePoint.isAsciiDigit rest) :
    fractionPart? (CodePoint.ofChar '.' :: (run ++ rest)) = some (run, rest) := by
  rw [fractionPart?, if_pos rfl]
  exact digits?_append hrun hrest

theorem exponentPart?_append {run rest : Text} (negative : Bool) (hrun : AsciiDigits run)
    (hrest : Stops CodePoint.isAsciiDigit rest) :
    exponentPart? (CodePoint.ofChar 'e' ::
      CodePoint.ofChar (if negative then '-' else '+') :: (run ++ rest)) =
        some (if negative then -(digitsValue run : Int) else digitsValue run, rest) := by
  cases negative with
  | true =>
      simp only [exponentPart?, true_or, if_true]
      change (digits? (run ++ rest)).map _ = _
      rw [digits?_append hrun hrest]
      rfl
  | false =>
      simp only [exponentPart?, true_or, if_true, Bool.false_eq_true, if_false]
      change (digits? (run ++ rest)).map _ = _
      rw [digits?_append hrun hrest]
      rfl

/-!
# Whole numbers
-/

theorem head_of_wholePart? {body : Text} {found : Text × Text}
    (h : wholePart? body = some found) : ∃ c rest, body = c :: rest ∧ c.isAsciiDigit = true := by
  cases body with
  | nil => cases h
  | cons c rest =>
      refine ⟨c, rest, rfl, ?_⟩
      rw [wholePart?] at h
      by_cases hzero : c = CodePoint.ofChar '0'
      · rw [hzero]
        decide
      · rw [if_neg hzero] at h
        by_contra hdigit
        rw [Bool.not_eq_true] at hdigit
        have hstop : Stops CodePoint.isAsciiDigit (c :: rest) := stops_cons.mpr hdigit
        have hnone : ∀ d ∈ ([] : Text), d.isAsciiDigit = true := by
          intro d hd
          cases hd
        have hspan : (c :: rest).span CodePoint.isAsciiDigit = ([], c :: rest) :=
          span_append hnone hstop
        rw [digits?, hspan] at h
        cases h

/-- A number behind its whole part: an integer, if neither a fraction nor an exponent follows. -/
def readBehind (negative : Bool) (whole rest : Text) : Except ReadError (Value × Text) :=
  match fractionPart? rest, exponentPart? rest with
  | none, none =>
      if digitLimit < whole.length then .error (.integerTooLong whole.length)
      else .ok (.int (if negative then -(digitsValue whole : Int) else digitsValue whole), rest)
  | some (fraction, rest), _ =>
      .ok (.float (Decimal.toBinary64 ⟨negative, digitsValue (whole ++ fraction),
        ((exponentPart? rest).getD (0, rest)).1 - fraction.length⟩),
          ((exponentPart? rest).getD (0, rest)).2)
  | none, some (e, rest) =>
      .ok (.float (Decimal.toBinary64 ⟨negative, digitsValue whole, e⟩), rest)

theorem readNumber_signed {body whole rest : Text} (negative : Bool)
    (hwhole : wholePart? body = some (whole, rest)) :
    readNumber (signed negative body) = readBehind negative whole rest := by
  cases negative with
  | true =>
      simp only [signed, readNumber, if_true, hwhole]
      rfl
  | false =>
      rcases head_of_wholePart? hwhole with ⟨c, more, rfl, hdigit⟩
      have hminus : c ≠ CodePoint.ofChar '-' := by
        rintro rfl
        exact absurd hdigit (by decide)
      simp only [signed, readNumber, Bool.false_eq_true, if_false, if_neg hminus, hwhole]
      rfl

/-- A text is no number at once, or it has a whole part behind a sign or not. -/
theorem readNumber_cases (t : Text) :
    readNumber t = .error (.malformed .expectedValue t.length) ∨
      ∃ negative body whole rest, t = signed negative body ∧
        wholePart? body = some (whole, rest) := by
  cases t with
  | nil => exact Or.inl rfl
  | cons c t =>
      by_cases hminus : c = CodePoint.ofChar '-'
      · cases hwhole : wholePart? t with
        | none => exact Or.inl (by simp only [readNumber, if_pos hminus, hwhole])
        | some found => exact Or.inr ⟨true, t, found.1, found.2, by rw [hminus]; rfl, hwhole⟩
      · cases hwhole : wholePart? (c :: t) with
        | none => exact Or.inl (by simp only [readNumber, if_neg hminus, hwhole])
        | some found => exact Or.inr ⟨false, c :: t, found.1, found.2, rfl, hwhole⟩

theorem ofInt_eq_signed (i : Int) : ofInt i = signed (i < 0) (ofNat i.natAbs) := by
  cases i with
  | ofNat n =>
      have hpos : ¬ Int.ofNat n < 0 := by
        exact Int.not_lt.mpr (Int.natCast_nonneg n)
      rw [decide_eq_false hpos]
      rfl
  | negSucc n =>
      rw [decide_eq_true (Int.negSucc_lt_zero n)]
      rfl

theorem ofInt_append (i : Int) (tail : Text) :
    ofInt i ++ tail = signed (i < 0) (ofNat i.natAbs ++ tail) := by
  rw [ofInt_eq_signed]
  cases decide (i < 0) with
  | true => rfl
  | false => rfl

theorem readNumber_ofInt {i : Int} {tail : Text} (hsize : i.natAbs < 10 ^ digitLimit)
    (htail : Stops continuesNumber tail) :
    readNumber (ofInt i ++ tail) = .ok (.int i, tail) := by
  have hlength : ¬ digitLimit < (ofNat i.natAbs).length :=
    Nat.not_lt.mpr (ofNat_length_le (by decide) hsize)
  rw [ofInt_append, readNumber_signed _ (wholePart?_ofNat _ (stops_isAsciiDigit htail)),
    readBehind, fractionPart?_eq_none htail, exponentPart?_eq_none htail]
  simp only [if_neg hlength, digitsValue_ofNat, decide_eq_true_eq]
  by_cases hneg : i < 0
  · have hvalue : -(i.natAbs : Int) = i := by
      omega
    rw [if_pos hneg, hvalue]
  · have hvalue : (i.natAbs : Int) = i := by
      omega
    rw [if_neg hneg, hvalue]

end Json
end RuleDraft
