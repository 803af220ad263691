import RuleDraft.Proofs.Document.StrictOutcomes
import RuleDraft.Proofs.Intake.Accepted
import RuleDraft.Proofs.Number.Digits

/-!
# Ranges of lengths

A range of lengths is taken from a text exactly when it is written as one and its bounds
are in order.  The ways to write two bounds, in a text or in a list, all give one range.
-/

namespace RuleDraft
namespace Comparison

open Text

/-- The ways to write a range with two bounds. -/
def notations (a b : Nat) : List Value :=
  (separators.map fun separator => .text (ofNat a ++ (separator ++ ofNat b))) ++
    [.list [.nat a, .nat b], .list [.text (ofNat a), .text (ofNat b)]]

/-!
# Bounds
-/

theorem readBound_nat (n : Nat) : readBound (.nat n) = .ok n := by
  have hcheck : ¬ (n : Int) < 0 := by
    omega
  simp only [readBound, Value.nat, Checked.integer, Checked.guarded, if_neg hcheck]
  rfl

theorem readBound_null {n : Nat} : readBound .null ≠ .ok n :=
  nofun

theorem apply_pair_eq_ok {α β : Type} {r : Checked α} {s : Checked β} {x : α} {y : β} :
    Checked.apply (r.map Prod.mk) s = .ok (x, y) ↔ r = .ok x ∧ s = .ok y := by
  rw [Checked.apply_eq_ok]
  constructor
  · rintro ⟨make, y', hmake, hs, hpair⟩
    rcases map_eq_ok.mp hmake with ⟨x', hr, rfl⟩
    cases hpair
    exact ⟨hr, hs⟩
  · rintro ⟨hr, hs⟩
    exact ⟨_, y, map_eq_ok.mpr ⟨x, hr, rfl⟩, hs, rfl⟩

/-- A range is read from two bounds that are natural numbers in order. -/
theorem readRange_eq_ok_iff {v : Value} {r : LengthRange} :
    readRange v = .ok r ↔
      ∃ low high, rangeBounds v = .ok (low, high) ∧ readBound low = .ok r.least ∧
        readBound high = .ok r.greatest := by
  unfold readRange
  rw [bind_eq_ok]
  constructor
  · rintro ⟨⟨low, high⟩, hbounds, hread⟩
    rcases bind_eq_ok.mp hread with ⟨⟨least, greatest⟩, hchecked, hrange⟩
    rcases apply_pair_eq_ok.mp (ofChecked_eq_ok.mp hchecked) with ⟨hlow, hhigh⟩
    dsimp only at hrange
    split at hrange
    · cases hrange
      exact ⟨low, high, hbounds, hlow, hhigh⟩
    · cases hrange
  · rintro ⟨low, high, hbounds, hlow, hhigh⟩
    refine ⟨(low, high), hbounds, bind_eq_ok.mpr ⟨(r.least, r.greatest), ?_, ?_⟩⟩
    · exact ofChecked_eq_ok.mpr (apply_pair_eq_ok.mpr ⟨hlow, hhigh⟩)
    · exact dif_pos r.least_le_greatest

section NaturalBounds

variable {v : Value} {a b : Nat}

theorem readRange_of_le (h : rangeBounds v = .ok (.nat a, .nat b)) (hle : a ≤ b) :
    readRange v = .ok ⟨a, b, hle⟩ :=
  readRange_eq_ok_iff.mpr ⟨_, _, h, readBound_nat a, readBound_nat b⟩

theorem bounds_of_readRange {r : LengthRange} (h : rangeBounds v = .ok (.nat a, .nat b))
    (hread : readRange v = .ok r) : a = r.least ∧ b = r.greatest := by
  rcases readRange_eq_ok_iff.mp hread with ⟨low, high, hbounds, hlow, hhigh⟩
  rw [h] at hbounds
  cases hbounds
  rw [readBound_nat] at hlow hhigh
  exact ⟨Except.ok.inj hlow, Except.ok.inj hhigh⟩

/-- Bounds out of order are a refusal, and nothing breaks. -/
theorem readRange_of_lt (h : rangeBounds v = .ok (.nat a, .nat b)) (hlt : b < a) :
    ∃ reasons, readRange v = .error (.unfit reasons) := by
  cases hread : readRange v with
  | ok r =>
      have hsame := bounds_of_readRange h hread
      have hle := r.least_le_greatest
      omega
  | error m =>
      cases m with
      | unfit reasons => exact ⟨reasons, rfl⟩
      | broken f =>
          rcases readRange_eq_broken_iff.mp hread with ⟨n, hn, _⟩
          rw [rangeBounds_eq_error_iff.mpr ⟨n, hn, rfl⟩] at h
          cases h

end NaturalBounds

/-!
# Ranges in a text
-/

theorem WrittenRange.length_le {t low high : Text} (h : WrittenRange t low high) :
    low.length ≤ t.length ∧ high.length ≤ t.length := by
  rcases h with ⟨_, _, before, afterLow, separator, beforeHigh, after, _, _, _, _, _, rfl⟩
  simp only [List.length_append]
  omega

theorem rangeBounds_written {t low high : Text} (h : WrittenRange t low high)
    (hlow : low.length ≤ digitLimit) (hhigh : high.length ≤ digitLimit) :
    rangeBounds (.text t) = .ok (.nat low.digitsValue, .nat high.digitsValue) := by
  rw [rangeBounds_text (rangeDigits?_eq_some_iff.mpr h), readDigits, if_neg (Nat.not_lt.mpr hlow),
    readDigits, if_neg (Nat.not_lt.mpr hhigh)]
  rfl

/-- The second bound of a text that is no range is missing. -/
theorem exists_writtenRange {t : Text} {r : LengthRange} (h : readRange (.text t) = .ok r) :
    ∃ low high, WrittenRange t low high := by
  cases hdigits : rangeDigits? t with
  | some bounds => exact ⟨bounds.1, bounds.2, rangeDigits?_eq_some_iff.mp hdigits⟩
  | none =>
      rcases readRange_eq_ok_iff.mp h with ⟨low, high, hbounds, _, hhigh⟩
      rw [rangeBounds_other (fun u hu => Value.text.inj hu ▸ hdigits) nofun] at hbounds
      cases hbounds
      exact absurd hhigh readBound_null

theorem readRange_text_iff {t : Text} (hlength : t.length ≤ digitLimit) {r : LengthRange} :
    readRange (.text t) = .ok r ↔
      ∃ low high, WrittenRange t low high ∧ low.digitsValue = r.least ∧
        high.digitsValue = r.greatest := by
  have hbounds {low high : Text} (h : WrittenRange t low high) :
      rangeBounds (.text t) = .ok (.nat low.digitsValue, .nat high.digitsValue) :=
    rangeBounds_written h (Nat.le_trans h.length_le.left hlength)
      (Nat.le_trans h.length_le.right hlength)
  constructor
  · intro h
    rcases exists_writtenRange h with ⟨low, high, hwritten⟩
    exact ⟨low, high, hwritten, bounds_of_readRange (hbounds hwritten) h⟩
  · rintro ⟨low, high, hwritten, hlow, hhigh⟩
    have hread := hbounds hwritten
    rw [hlow, hhigh] at hread
    exact readRange_of_le hread r.least_le_greatest

/-!
# The ways to write a range
-/

theorem digits_ofNat (n : Nat) : Digits (ofNat n) :=
  ⟨ofNat_ne_nil n, fun c hc => CodePoint.isDigit_of_isAsciiDigit (isAsciiDigit_of_mem_ofNat c hc)⟩

theorem Digits.trim {digits : Text} (h : Digits digits) : digits.trim = digits :=
  trimOf_of_forall fun c hc => CodePoint.isBlank_of_isDigit (h.right c hc)

theorem Digits.numeral {digits : Text} (h : Digits digits) :
    Numeral digits (.int digits.digitsValue) :=
  Numeral.integer (IntegerLiteral.mk Sign.none h)

theorem numericForm_ofNat {n : Nat} (h : (ofNat n).length ≤ digitLimit) :
    numericForm (.text (ofNat n)) = .ok (.nat n) := by
  have hnumeral := numeral?_of_numeral (digits_ofNat n).numeral h
  rw [digitsValue_ofNat, ← (digits_ofNat n).trim] at hnumeral
  exact numericForm_numeral hnumeral

theorem writtenRange_append {low high separator : Text} (hlow : Digits low) (hhigh : Digits high)
    (hseparator : separator ∈ separators) :
    WrittenRange (low ++ (separator ++ high)) low high := by
  refine ⟨hlow, hhigh, [], [], separator, [], [], nofun, nofun, hseparator, nofun, nofun, ?_⟩
  rw [List.append_nil]
  rfl

theorem rangeBounds_of_mem_notations {a b : Nat} (ha : (ofNat a).length ≤ digitLimit)
    (hb : (ofNat b).length ≤ digitLimit) {v : Value} (hv : v ∈ notations a b) :
    rangeBounds v = .ok (.nat a, .nat b) := by
  rcases List.mem_append.mp hv with htext | hlist
  · rcases List.mem_map.mp htext with ⟨separator, hseparator, rfl⟩
    have hwritten := writtenRange_append (digits_ofNat a) (digits_ofNat b) hseparator
    rw [rangeBounds_written hwritten ha hb, digitsValue_ofNat, digitsValue_ofNat]
  · simp only [List.mem_cons, List.not_mem_nil, or_false] at hlist
    rcases hlist with rfl | rfl
    · rfl
    · rw [rangeBounds_pair, numericForm_ofNat ha, numericForm_ofNat hb]
      rfl

/-!
# Comparisons with a range
-/

theorem parseNamed_range_iff {v : Value} {c : Comparison} :
    parseNamed (.text "str_len_range") v = .ok c ↔
      ∃ r, readRange v = .ok r ∧ lengthRange r = c := by
  change parseNamed (.text ConditionType.lengthRange.name) v = .ok c ↔ _
  rw [parseNamed_name, parse_eq_ok_iff]
  exact map_eq_ok

theorem parseNamed_range_isOk_iff {t : Text} (hlength : t.length ≤ digitLimit) :
    (∃ c, parseNamed (.text "str_len_range") (.text t) = .ok c) ↔
      ∃ low high, WrittenRange t low high ∧ low.digitsValue ≤ high.digitsValue := by
  constructor
  · rintro ⟨c, hc⟩
    rcases parseNamed_range_iff.mp hc with ⟨r, hr, _⟩
    rcases (readRange_text_iff hlength).mp hr with ⟨low, high, hwritten, hlow, hhigh⟩
    have hle := r.least_le_greatest
    exact ⟨low, high, hwritten, by omega⟩
  · rintro ⟨low, high, hwritten, hle⟩
    have hread := (readRange_text_iff (r := ⟨_, _, hle⟩) hlength).mpr
      ⟨low, high, hwritten, rfl, rfl⟩
    exact ⟨_, parseNamed_range_iff.mpr ⟨_, hread, rfl⟩⟩

theorem toValue_of_parseNamed_range {t low high : Text} (hlength : t.length ≤ digitLimit)
    {c : Comparison} (h : parseNamed (.text "str_len_range") (.text t) = .ok c)
    (hwritten : WrittenRange t low high) :
    c.toValue = .list [.nat low.digitsValue, .nat high.digitsValue] := by
  rcases parseNamed_range_iff.mp h with ⟨r, hr, rfl⟩
  rcases (readRange_text_iff hlength).mp hr with ⟨low', high', hwritten', hlow, hhigh⟩
  have hsame := rangeDigits?_eq_some_iff.mpr hwritten
  rw [rangeDigits?_eq_some_iff.mpr hwritten'] at hsame
  cases hsame
  rw [toValue, hlow, hhigh]
  rfl

theorem parseNamed_range_of_lt {v : Value} {a b : Nat}
    (h : rangeBounds v = .ok (.nat a, .nat b)) (hlt : b < a) :
    ∃ refusal, parseNamed (.text "str_len_range") v = .error (.refused refusal) ∧
      refusal.kind = .validation := by
  rcases readRange_of_lt h hlt with ⟨reasons, hread⟩
  refine ⟨.unfitValue .lengthRange v reasons, ?_, rfl⟩
  change parseNamed (.text ConditionType.lengthRange.name) v = _
  rw [parseNamed_name, parse, read, hread]
  rfl

/--
A text is taken as a range exactly when it is written as one and its bounds are in order, and
it gives these bounds.  All ways to write two bounds give one range, or all are refused.
Whatever is taken gives two natural numbers in order.
-/
theorem takes_ranges :
    (∀ t : Text, t.length ≤ digitLimit →
      ((∃ c, parseNamed (.text "str_len_range") (.text t) = .ok c) ↔
        ∃ low high, WrittenRange t low high ∧ low.digitsValue ≤ high.digitsValue) ∧
      ∀ c low high, parseNamed (.text "str_len_range") (.text t) = .ok c →
        WrittenRange t low high →
          c.toValue = .list [.nat low.digitsValue, .nat high.digitsValue]) ∧
    (∀ a b : Nat, (ofNat a).length ≤ digitLimit → (ofNat b).length ≤ digitLimit →
      (∀ hle : a ≤ b, ∀ v ∈ notations a b,
        parseNamed (.text "str_len_range") v = .ok (.lengthRange ⟨a, b, hle⟩)) ∧
      (b < a → ∀ v ∈ notations a b, ∃ refusal,
        parseNamed (.text "str_len_range") v = .error (.refused refusal) ∧
          refusal.kind = .validation)) ∧
    ∀ v c, parseNamed (.text "str_len_range") v = .ok c →
      ∃ m n : Nat, m ≤ n ∧ c.toValue = .list [.int m, .int n] := by
  refine ⟨?_, ?_, ?_⟩
  · intro t hlength
    refine ⟨parseNamed_range_isOk_iff hlength, ?_⟩
    intro c low high hc hwritten
    exact toValue_of_parseNamed_range hlength hc hwritten
  · intro a b ha hb
    refine ⟨?_, ?_⟩
    · intro hle v hv
      have hread := readRange_of_le (rangeBounds_of_mem_notations ha hb hv) hle
      exact parseNamed_range_iff.mpr ⟨_, hread, rfl⟩
    · intro hlt v hv
      exact parseNamed_range_of_lt (rangeBounds_of_mem_notations ha hb hv) hlt
  · intro v c hc
    rcases parseNamed_range_iff.mp hc with ⟨r, _, rfl⟩
    exact ⟨r.least, r.greatest, r.least_le_greatest, rfl⟩

theorem takes_ranges_three_ten :
    (WrittenRange " 3 .. 10" "3" "10" ∧ (" 3 .. 10" : Text).length ≤ digitLimit) ∧
      (∃ c, parseNamed (.text "str_len_range") (.text " 3 .. 10") = .ok c) ∧
      parseNamed (.text "str_len_range") (.list [.text (ofNat 3), .text (ofNat 10)]) =
        .ok (.lengthRange ⟨3, 10, by decide⟩) ∧
      ∃ refusal, parseNamed (.text "str_len_range") (.list [.nat 10, .nat 3]) =
        .error (.refused refusal) ∧ refusal.kind = .validation := by
  have hshort {n : Nat} (h : n < 10 ^ 2) : (ofNat n).length ≤ digitLimit :=
    Nat.le_trans (ofNat_length_le (by decide) h) (by decide)
  have hlength : (" 3 .. 10" : Text).length ≤ digitLimit := by
    decide
  have hwritten : WrittenRange " 3 .. 10" "3" "10" :=
    rangeDigits?_eq_some_iff.mp (by rfl)
  have htext := (takes_ranges.left " 3 .. 10" hlength).left.mpr ⟨"3", "10", hwritten, by decide⟩
  have hthree := hshort (n := 3) (by decide)
  have hten := hshort (n := 10) (by decide)
  refine ⟨⟨hwritten, hlength⟩, htext, ?_, ?_⟩
  · exact (takes_ranges.right.left 3 10 hthree hten).left (by decide) _ (by simp [notations])
  · exact (takes_ranges.right.left 10 3 hten hthree).right (by decide) _ (by simp [notations])

end Comparison
end RuleDraft
