import RuleDraft.Proofs.Json.NumberParts
import RuleDraft.Proofs.Number.Shortest

/-!
# Numbers read back

The text of a decimal, with the point at its place or with an exponent, is read as
the number that the decimal stands for.  The text of a floating-point number is that
of the shortest decimal, so the number itself is read.
-/

namespace RuleDraft
namespace Json

open Text FloatLayout

/-!
# Zeros at the end
-/

theorem exists_dropZeros (t : Text) :
    ∃ k, t = dropZeros t ++ List.replicate k (CodePoint.ofChar '0') := by
  generalize hzero : (fun c : CodePoint => decide (c = CodePoint.ofChar '0')) = isZero
  have hrev : t.reverse = t.reverse.takeWhile isZero ++ t.reverse.dropWhile isZero :=
    List.takeWhile_append_dropWhile.symm
  have hall : t.reverse.takeWhile isZero =
      List.replicate (t.reverse.takeWhile isZero).length (CodePoint.ofChar '0') := by
    rw [List.eq_replicate_iff]
    refine ⟨rfl, ?_⟩
    intro c hc
    have hmem := List.mem_takeWhile_imp hc
    rw [← hzero] at hmem
    exact of_decide_eq_true hmem
  refine ⟨(t.reverse.takeWhile isZero).length, ?_⟩
  have happend := congrArg List.reverse hrev
  rw [List.reverse_reverse, List.reverse_append, hall, List.reverse_replicate] at happend
  rw [dropZeros, trimEndOf, hzero]
  exact happend

/-- The digits of a positive number, as its leading digits and zeros. -/
theorem leading_digits {c : Nat} (hc : 0 < c) :
    ∃ k, ofNat c = dropZeros (ofNat c) ++ List.replicate k (CodePoint.ofChar '0') ∧
      AsciiDigits (dropZeros (ofNat c)) ∧
        (dropZeros (ofNat c)).head? ≠ some (CodePoint.ofChar '0') ∧
          c = digitsValue (dropZeros (ofNat c)) * 10 ^ k := by
  rcases exists_dropZeros (ofNat c) with ⟨k, hsplit⟩
  generalize dropZeros (ofNat c) = digits at hsplit ⊢
  have hvalue : c = digitsValue digits * 10 ^ k := by
    rw [← digitsValue_append_zeros, ← hsplit, digitsValue_ofNat]
  have hne : digits ≠ [] := by
    rintro rfl
    change c = 0 * 10 ^ k at hvalue
    omega
  refine ⟨k, hsplit, ⟨hne, ?_⟩, ?_, hvalue⟩
  · intro d hd
    apply isAsciiDigit_of_mem_ofNat (n := c)
    rw [hsplit]
    exact List.mem_append_left _ hd
  · have hhead := ofNat_head_ne_zero hc
    rw [hsplit] at hhead
    cases digits with
    | nil => exact absurd rfl hne
    | cons d digits => exact hhead

/-!
# A point at its place
-/

variable {tail : Text}

theorem readNumber_fraction {whole fraction : Text} {body : Text} (negative : Bool)
    (hwhole : wholePart? body = some (whole, CodePoint.ofChar '.' :: (fraction ++ tail)))
    (hfraction : AsciiDigits fraction) (htail : Stops continuesNumber tail) :
    readNumber (signed negative body) =
      .ok (.float (Decimal.toBinary64
        ⟨negative, digitsValue (whole ++ fraction), -(fraction.length : Int)⟩), tail) := by
  rw [readNumber_signed negative hwhole, readBehind,
    fractionPart?_append hfraction (stops_isAsciiDigit htail)]
  simp only [exponentPart?_eq_none htail, Option.getD_none, Int.zero_sub]

theorem stops_point (rest : Text) :
    Stops CodePoint.isAsciiDigit (CodePoint.ofChar '.' :: rest) :=
  stops_cons.mpr (by decide)

theorem readNumber_zeros {digits : Text} (negative : Bool) (k : Nat)
    (hdigits : AsciiDigits digits) (htail : Stops continuesNumber tail) :
    readNumber (signed negative ([CodePoint.ofChar '0', CodePoint.ofChar '.'] ++
        List.replicate k (CodePoint.ofChar '0') ++ digits ++ tail)) =
      .ok (.float (Decimal.toBinary64
        ⟨negative, digitsValue digits, -((k + digits.length : Nat) : Int)⟩), tail) := by
  generalize hzeros : List.replicate k (CodePoint.ofChar '0') = zeros
  have hfraction : AsciiDigits (zeros ++ digits) := by
    rw [← hzeros]
    exact AsciiDigits.append isAsciiDigit_of_mem_zeros hdigits
  have hwhole := wholePart?_zero (CodePoint.ofChar '.' :: (zeros ++ digits ++ tail))
  have hbody : [CodePoint.ofChar '0', CodePoint.ofChar '.'] ++ zeros ++ digits ++ tail =
      CodePoint.ofChar '0' :: CodePoint.ofChar '.' :: (zeros ++ digits ++ tail) := by
    simp only [List.cons_append, List.nil_append, List.append_assoc]
  have hvalue : digitsValue ([CodePoint.ofChar '0'] ++ (zeros ++ digits)) =
      digitsValue digits := by
    rw [← hzeros, digitsValue_append, digitsValue_zeros_append]
    exact (congrArg (· + digitsValue digits) (Nat.zero_mul _)).trans (Nat.zero_add _)
  have hlength : (zeros ++ digits).length = k + digits.length := by
    rw [← hzeros, List.length_append, List.length_replicate]
  rw [hbody, readNumber_fraction negative hwhole hfraction htail, hvalue, hlength]

theorem readNumber_whole {digits : Text} (negative : Bool) (k : Nat)
    (hdigits : AsciiDigits digits) (hhead : digits.head? ≠ some (CodePoint.ofChar '0'))
    (htail : Stops continuesNumber tail) :
    readNumber (signed negative (digits ++ List.replicate k (CodePoint.ofChar '0') ++
        CodePoint.ofChar '.' :: ([CodePoint.ofChar '0'] ++ tail))) =
      .ok (.float (Decimal.toBinary64 ⟨negative, digitsValue digits, k⟩), tail) := by
  have hwholeDigits : AsciiDigits (digits ++ List.replicate k (CodePoint.ofChar '0')) := by
    refine ⟨List.append_ne_nil_of_left_ne_nil hdigits.ne_nil _, ?_⟩
    intro c hc
    rcases List.mem_append.mp hc with hc | hc
    · exact hdigits.digits c hc
    · exact isAsciiDigit_of_mem_zeros c hc
  have hwholeHead : (digits ++ List.replicate k (CodePoint.ofChar '0')).head? ≠
      some (CodePoint.ofChar '0') := by
    cases digits with
    | nil => exact absurd rfl hdigits.ne_nil
    | cons d digits => exact hhead
  have hwhole := wholePart?_append hwholeDigits hwholeHead
    (stops_point ([CodePoint.ofChar '0'] ++ tail))
  have hvalue : digitsValue (digits ++ List.replicate k (CodePoint.ofChar '0') ++
      [CodePoint.ofChar '0']) = digitsValue digits * 10 ^ (k + 1) := by
    rw [List.append_assoc, ← List.replicate_succ', digitsValue_append_zeros]
  have hexp : -([CodePoint.ofChar '0'].length : Int) + (k + 1 : Nat) = k := by
    rw [List.length_singleton]
    omega
  rw [readNumber_fraction negative hwhole asciiDigits_zero htail, hvalue,
    Decimal.toBinary64_mul_pow, hexp]

theorem readNumber_pointed {digits : Text} (negative : Bool) {k : Nat} (hpos : 0 < k)
    (hshort : k < digits.length) (hdigits : AsciiDigits digits)
    (hhead : digits.head? ≠ some (CodePoint.ofChar '0')) (htail : Stops continuesNumber tail) :
    (digits.drop k).isEmpty = false ∧
      readNumber (signed negative (digits.take k ++
          CodePoint.ofChar '.' :: (digits.drop k ++ tail))) =
        .ok (.float (Decimal.toBinary64
          ⟨negative, digitsValue digits, (k : Int) - digits.length⟩), tail) := by
  have hfraction : AsciiDigits (digits.drop k) := by
    refine ⟨?_, fun c hc => hdigits.digits c (List.mem_of_mem_drop hc)⟩
    rw [← List.length_pos_iff, List.length_drop]
    omega
  have hwholeDigits : AsciiDigits (digits.take k) := by
    refine ⟨?_, fun c hc => hdigits.digits c (List.mem_of_mem_take hc)⟩
    rw [← List.length_pos_iff, List.length_take]
    omega
  have hwholeHead : (digits.take k).head? ≠ some (CodePoint.ofChar '0') := by
    rw [List.head?_take, if_neg (Nat.ne_of_gt hpos)]
    exact hhead
  have hwhole := wholePart?_append hwholeDigits hwholeHead (stops_point (digits.drop k ++ tail))
  have hexp : -((digits.drop k).length : Int) = k - digits.length := by
    rw [List.length_drop]
    omega
  constructor
  · rw [List.isEmpty_eq_false_iff]
    exact hfraction.ne_nil
  · rw [readNumber_fraction negative hwhole hfraction htail, List.take_append_drop, hexp]

theorem readNumber_positional {digits : Text} {e : Int} (negative : Bool)
    (hdigits : AsciiDigits digits) (hhead : digits.head? ≠ some (CodePoint.ofChar '0'))
    (htail : Stops continuesNumber tail) :
    readNumber (signed negative (positional digits e ++ tail)) =
      .ok (.float (Decimal.toBinary64
        ⟨negative, digitsValue digits, e + 1 - digits.length⟩), tail) := by
  unfold positional
  by_cases he : e < 0
  · -- Zeros stand between the point and the digits.
    have hexp : -(((-e - 1).toNat + digits.length : Nat) : Int) = e + 1 - digits.length := by
      omega
    rw [if_pos he, readNumber_zeros negative _ hdigits htail, hexp]
  · rw [if_neg he]
    dsimp only
    by_cases hlong : digits.length ≤ e.toNat + 1
    · -- The digits end before the point, or right at it.
      have hexp : ((e.toNat + 1 - digits.length : Nat) : Int) = e + 1 - digits.length := by
        omega
      have hread := readNumber_whole negative (e.toNat + 1 - digits.length) hdigits hhead htail
      rw [List.take_of_length_le hlong, List.drop_of_length_le hlong, List.append_assoc]
      rw [hexp] at hread
      exact hread
    · -- The point stands among the digits.
      have hnone : e.toNat + 1 - digits.length = 0 := by
        omega
      have hexp : ((e.toNat + 1 : Nat) : Int) - digits.length = e + 1 - digits.length := by
        omega
      rcases readNumber_pointed negative (Nat.succ_pos e.toNat) (Nat.lt_of_not_le hlong) hdigits
        hhead htail with ⟨hempty, hread⟩
      rw [hnone, List.replicate_zero, List.append_nil, hempty, if_neg Bool.false_ne_true,
        List.append_assoc, List.cons_append, hread, hexp]

/-!
# An exponent
-/

theorem exponentPart?_exponentText (layout : FloatLayout) (e : Int)
    (htail : Stops continuesNumber tail) :
    exponentPart? (layout.exponentText e ++ tail) = some (e, tail) := by
  have hdigits : AsciiDigits (ofNatPadded layout.exponentWidth e.natAbs) :=
    AsciiDigits.append isAsciiDigit_of_mem_zeros (asciiDigits_ofNat e.natAbs)
  have hvalue : digitsValue (ofNatPadded layout.exponentWidth e.natAbs) = e.natAbs := by
    rw [ofNatPadded, digitsValue_zeros_append, digitsValue_ofNat]
  have hread := exponentPart?_append (e < 0) hdigits (stops_isAsciiDigit htail)
  simp only [hvalue, decide_eq_true_eq] at hread
  have hsign : (if e < 0 then -(e.natAbs : Int) else e.natAbs) = e := by
    by_cases he : e < 0
    · rw [if_pos he]
      omega
    · rw [if_neg he]
      omega
  rw [hsign] at hread
  exact hread

theorem readNumber_scientific (layout : FloatLayout) {digits : Text} {e : Int} (negative : Bool)
    (hdigits : AsciiDigits digits) (hhead : digits.head? ≠ some (CodePoint.ofChar '0'))
    (htail : Stops continuesNumber tail) :
    readNumber (signed negative (pointAfterFirst digits ++ layout.exponentText e ++ tail)) =
      .ok (.float (Decimal.toBinary64
        ⟨negative, digitsValue digits, e + 1 - digits.length⟩), tail) := by
  have hexponent := exponentPart?_exponentText layout e htail
  have hletter : ∃ rest, layout.exponentText e ++ tail = CodePoint.ofChar 'e' :: rest :=
    ⟨_, rfl⟩
  rw [List.append_assoc]
  generalize layout.exponentText e ++ tail = exponent at hexponent hletter ⊢
  rcases hletter with ⟨rest, rfl⟩
  have hstops : Stops CodePoint.isAsciiDigit (CodePoint.ofChar 'e' :: rest) :=
    stops_cons.mpr (by decide)
  cases digits with
  | nil => exact absurd rfl hdigits.ne_nil
  | cons d fraction =>
      have hfirst : AsciiDigits [d] := by
        refine ⟨List.cons_ne_nil d [], ?_⟩
        intro c hc
        rw [List.mem_singleton.mp hc]
        exact hdigits.digits d List.mem_cons_self
      cases fraction with
      | nil =>
          have hwhole := wholePart?_append hfirst hhead hstops
          have hexp : e + 1 - ([d].length : Int) = e := by
            rw [List.length_singleton]
            omega
          change readNumber (signed negative ([d] ++ CodePoint.ofChar 'e' :: rest)) = _
          rw [readNumber_signed negative hwhole, readBehind, hexponent, hexp]
          rfl
      | cons d' fraction =>
          have hfraction : AsciiDigits (d' :: fraction) :=
            ⟨List.cons_ne_nil d' fraction,
              fun c hc => hdigits.digits c (List.mem_cons_of_mem d hc)⟩
          have hwhole := wholePart?_append hfirst hhead
            (stops_point (d' :: fraction ++ CodePoint.ofChar 'e' :: rest))
          have hexp : e - ((d' :: fraction).length : Int) =
              e + 1 - ((d :: d' :: fraction).length : Int) := by
            rw [List.length_cons, List.length_cons, List.length_cons]
            omega
          change readNumber (signed negative ([d] ++ CodePoint.ofChar '.' ::
            (d' :: fraction ++ CodePoint.ofChar 'e' :: rest))) = _
          rw [readNumber_signed negative hwhole, readBehind, fractionPart?_append hfraction hstops]
          simp only [hexponent, Option.getD_some]
          rw [hexp]
          rfl

/-!
# Floating-point numbers
-/

theorem readNumber_decimalText (layout : FloatLayout) {c : Nat} (e : Int) (negative : Bool)
    (hc : 0 < c) (htail : Stops continuesNumber tail) :
    readNumber (signed negative (layout.decimalText ⟨false, c, e⟩ ++ tail)) =
      .ok (.float (Decimal.toBinary64 ⟨negative, c, e⟩), tail) := by
  rcases leading_digits hc with ⟨k, hsplit, hdigits, hhead, hvalue⟩
  have hnonempty : (dropZeros (ofNat c)).isEmpty = false := by
    rw [List.isEmpty_eq_false_iff]
    exact hdigits.ne_nil
  have hlength : ((ofNat c).length : Int) = (dropZeros (ofNat c)).length + k := by
    have h := congrArg List.length hsplit
    rw [List.length_append, List.length_replicate] at h
    omega
  have hnumber : Decimal.toBinary64 ⟨negative, c, e⟩ =
      Decimal.toBinary64 ⟨negative, digitsValue (dropZeros (ofNat c)),
        e + (ofNat c).length - 1 + 1 - (dropZeros (ofNat c)).length⟩ := by
    conv_lhs => rw [hvalue]
    rw [Decimal.toBinary64_mul_pow]
    congr 2
    omega
  simp only [decimalText, hnonempty, Bool.false_eq_true, if_false]
  have hexp : e + ((ofNat c).length - 1 : Int) = e + (ofNat c).length - 1 := by
    omega
  rw [hnumber, hexp]
  generalize e + ((ofNat c).length : Int) - 1 = place
  by_cases hplain : layout.pointFrom ≤ place ∧ place ≤ layout.pointTo
  · rw [if_pos hplain]
    exact readNumber_positional negative hdigits hhead htail
  · rw [if_neg hplain]
    exact readNumber_scientific layout negative hdigits hhead htail

theorem readNumber_zero (layout : FloatLayout) (negative : Bool)
    (htail : Stops continuesNumber tail) :
    readNumber (signed negative (layout.decimalText ⟨false, 0, 0⟩ ++ tail)) =
      .ok (.float (Binary64.ofOrdinal negative 0), tail) := by
  have htext : layout.decimalText ⟨false, 0, 0⟩ ++ tail =
      CodePoint.ofChar '0' :: CodePoint.ofChar '.' :: ([CodePoint.ofChar '0'] ++ tail) := by
    simp only [decimalText, ofNat_of_lt (by decide : 0 < 10)]
    rfl
  rw [htext, readNumber_fraction negative (wholePart?_zero _) asciiDigits_zero htail]
  change Except.ok (Value.float (Decimal.toBinary64 ⟨negative, 0, _⟩), tail) = _
  rw [Decimal.toBinary64_zero]

/-- The text of a finite number is read as the number. -/
theorem readNumber_finite (layout : FloatLayout) (negative : Bool)
    (m : Fin Binary64.ordinalBound) (htail : Stops continuesNumber tail) :
    readNumber (layout.write (.finite negative m) ++ tail) =
      .ok (.float (.finite negative m), tail) := by
  have hsigned (d : Decimal) : (if negative = true then
      CodePoint.ofChar '-' :: layout.decimalText d else layout.decimalText d) ++ tail =
        signed negative (layout.decimalText d ++ tail) := by
    cases negative with
    | true => rfl
    | false => rfl
  simp only [FloatLayout.write]
  rw [hsigned]
  rcases Nat.eq_zero_or_pos m.val with hzero | hpos
  · rw [if_pos hzero, readNumber_zero layout negative htail, Binary64.ofOrdinal,
      dif_pos (by decide)]
    have hm : m = ⟨0, by decide⟩ := Fin.ext hzero
    rw [hm]
  · rw [if_neg (Nat.ne_of_gt hpos)]
    have hshortest : Binary64.shortest m.val =
        ⟨false, (Binary64.shortest m.val).coefficient, (Binary64.shortest m.val).exponent⟩ := by
      rw [← (Binary64.toBinary64_shortest hpos m.isLt).right]
    rw [hshortest, readNumber_decimalText layout _ negative
      (Binary64.shortest_coefficient_pos hpos m.isLt) htail,
      Binary64.toBinary64_shortest_signed hpos m.isLt]

end Json
end RuleDraft
