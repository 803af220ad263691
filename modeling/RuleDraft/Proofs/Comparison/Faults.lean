import RuleDraft.Proofs.Comparison.Numerals
import RuleDraft.Proofs.Outcome

/-!
# Values that no reading is prepared for

Reading a typed value ends in a comparison or in a refusal, but for three kinds of
values: an integer numeral with more digits than are read, a range with such a
bound, and a pattern that cannot be compiled for another reason than its syntax.
-/

namespace RuleDraft
namespace Comparison

open Text

/-- The text is a sign or none and then these digits. -/
def SignedDigits (t digits : Text) : Prop :=
  Digits digits ∧ ∃ sign ∈ ([[], "-", "+"] : List Text), t = sign ++ digits

/-- The value is an integer numeral with this many digits, too many to be read. -/
def TooLong (v : Value) (n : Nat) : Prop :=
  ∃ t digits, v = .text t ∧ SignedDigits t.trim digits ∧ digits.length = n ∧ digitLimit < n

/-- The value is a range with a bound of this many digits, the first that is too long. -/
def RangeTooLong (v : Value) (n : Nat) : Prop :=
  (∃ t low high, v = .text t ∧ WrittenRange t low high ∧
    (low.length = n ∧ digitLimit < n ∨
      low.length ≤ digitLimit ∧ high.length = n ∧ digitLimit < n)) ∨
    ∃ a b, v = .list [a, b] ∧ (TooLong a n ∨ (¬ ∃ m, TooLong a m) ∧ TooLong b n)

/-- What breaks when a pattern is rejected for another reason than its syntax. -/
def patternFault? : Pattern.Rejection → Option Fault
  | .countTooLarge => some .countTooLarge
  | .characterTooLarge => some .characterTooLarge
  | .nestedTooDeeply => some .patternTooDeep
  | .reachTooLarge => some .reachTooLarge
  | _ => none

/-- Reading the value for a condition type breaks. -/
def Breaks (v : Value) (f : Fault) : ConditionType → Prop
  | .greaterThan => ∃ n, TooLong v n ∧ f = .integerTooLong n
  | .lessThan => ∃ n, TooLong v n ∧ f = .integerTooLong n
  | .lengthRange => ∃ n, RangeTooLong v n ∧ f = .integerTooLong n
  | .matching =>
      ∃ t r, v = .text t ∧ Pattern.rejection? t = some r ∧ patternFault? r = some f
  | _ => False

/-!
# Refusals
-/

theorem ofChecked_eq_ok {α : Type} {r : Checked α} {x : α} : ofChecked r = .ok x ↔ r = .ok x := by
  cases r with
  | ok y => exact ⟨fun h => congrArg _ (Except.ok.inj h), fun h => congrArg _ (Except.ok.inj h)⟩
  | error issues => exact iff_of_false nofun nofun

theorem ofChecked_ne_broken {α : Type} {r : Checked α} {f : Fault} :
    ofChecked r ≠ .error (.broken f) := by
  intro h
  cases r with
  | ok x => cases h
  | error issues => cases h

theorem unfit_ne_broken {α : Type} {causes : List Cause} {f : Fault} :
    (unfit causes : Reading α) ≠ .error (.broken f) := by
  intro h
  cases h

/-!
# Numerals
-/

theorem Sign.mem {sign : Text} {negative : Bool} (h : Sign sign negative) :
    sign ∈ ([[], "-", "+"] : List Text) := by
  cases h with
  | none => decide
  | plus => decide
  | minus => decide

theorem exists_sign_of_mem {sign : Text} (h : sign ∈ ([[], "-", "+"] : List Text)) :
    ∃ negative, Sign sign negative := by
  simp only [List.mem_cons, List.not_mem_nil, or_false] at h
  rcases h with rfl | rfl | rfl
  · exact ⟨false, Sign.none⟩
  · exact ⟨true, Sign.minus⟩
  · exact ⟨false, Sign.plus⟩

theorem takeSign_of_signedDigits {t digits : Text} (h : SignedDigits t digits) :
    (Decimal.takeSign t).2 = digits := by
  rcases h with ⟨hdigits, sign, hmem, rfl⟩
  rcases exists_sign_of_mem hmem with ⟨negative, hsign⟩
  rw [hdigits.takeSign hsign]

theorem signedDigits_of_takeSign {t : Text} (h : Digits (Decimal.takeSign t).2) :
    SignedDigits t (Decimal.takeSign t).2 := by
  rcases exists_sign t with ⟨sign, hsign, ht⟩
  exact ⟨h, sign, hsign.mem, ht⟩

theorem numeral?_eq_error_iff {t : Text} {m : Misfit} :
    numeral? t = some (.error m) ↔
      ∃ digits, SignedDigits t digits ∧ digitLimit < digits.length ∧
        m = .broken (.integerTooLong digits.length) := by
  by_cases hdigits : Digits (Decimal.takeSign t).2
  · rw [numeral?_digits hdigits]
    by_cases hlong : digitLimit < (Decimal.takeSign t).2.length
    · rw [if_pos hlong]
      constructor
      · intro h
        cases h
        exact ⟨_, signedDigits_of_takeSign hdigits, hlong, rfl⟩
      · rintro ⟨digits, hsigned, _, hm⟩
        rw [takeSign_of_signedDigits hsigned, hm]
    · rw [if_neg hlong]
      constructor
      · intro h
        cases h
      · rintro ⟨digits, hsigned, hlong', _⟩
        rw [takeSign_of_signedDigits hsigned] at hlong
        exact absurd hlong' hlong
  · rw [numeral?_other hdigits]
    constructor
    · intro h
      rcases Option.map_eq_some_iff.mp h with ⟨d, _, hd⟩
      cases hd
    · rintro ⟨digits, hsigned, _, _⟩
      rw [takeSign_of_signedDigits hsigned] at hdigits
      exact absurd hsigned.left hdigits

theorem numericForm_eq_error_iff {v : Value} {m : Misfit} :
    numericForm v = .error m ↔ ∃ n, TooLong v n ∧ m = .broken (.integerTooLong n) := by
  cases v with
  | text t =>
      simp only [numericForm]
      constructor
      · intro h
        cases hnumeral : numeral? t.trim with
        | none =>
            rw [hnumeral] at h
            cases h
        | some r =>
            rw [hnumeral] at h
            rw [map_eq_error.mp h] at hnumeral
            rcases numeral?_eq_error_iff.mp hnumeral with ⟨digits, hsigned, hlong, hm⟩
            exact ⟨digits.length, ⟨t, digits, rfl, hsigned, rfl, hlong⟩, hm⟩
      · rintro ⟨n, ⟨t', digits, ht, hsigned, hlength, hlong⟩, hm⟩
        cases ht
        cases hlength
        rw [numeral?_eq_error_iff.mpr ⟨digits, hsigned, hlong, hm⟩]
        rfl
  | _ =>
      constructor
      · intro h
        cases h
      · rintro ⟨n, ⟨t, digits, ht, _⟩, _⟩
        cases ht

theorem readQuantity_eq_broken_iff {v : Value} {f : Fault} :
    readQuantity v = .error (.broken f) ↔ ∃ n, TooLong v n ∧ f = .integerTooLong n := by
  unfold readQuantity
  rw [bind_eq_error]
  constructor
  · rintro (h | ⟨w, _, h⟩)
    · rcases numericForm_eq_error_iff.mp h with ⟨n, hn, hf⟩
      cases hf
      exact ⟨n, hn, rfl⟩
    · cases w with
      | int i => cases h
      | float x => cases h
      | _ => exact absurd h ofChecked_ne_broken
  · rintro ⟨n, hn, hf⟩
    exact Or.inl (numericForm_eq_error_iff.mpr ⟨n, hn, by rw [hf]⟩)

/-!
# Ranges
-/

theorem readDigits_eq_error_iff {digits : Text} {m : Misfit} :
    readDigits digits = .error m ↔
      digitLimit < digits.length ∧ m = .broken (.integerTooLong digits.length) := by
  unfold readDigits
  by_cases hlong : digitLimit < digits.length
  · rw [if_pos hlong]
    constructor
    · intro h
      cases h
      exact ⟨hlong, rfl⟩
    · rintro ⟨_, hm⟩
      rw [hm]
  · rw [if_neg hlong]
    constructor
    · intro h
      cases h
    · rintro ⟨h, _⟩
      exact absurd h hlong

/-- Two readings in a row break with the first of them that breaks. -/
theorem pair_eq_error_iff {α β : Type} {a : Reading α} {b : Reading β} {m : Misfit} :
    (a >>= fun x => b >>= fun y => (Except.ok (x, y) : Reading (α × β))) = .error m ↔
      a = .error m ∨ (∃ x, a = .ok x) ∧ b = .error m := by
  rw [bind_eq_error]
  constructor
  · rintro (h | ⟨x, hx, h⟩)
    · exact Or.inl h
    · rcases bind_eq_error.mp h with hb | ⟨y, _, hy⟩
      · exact Or.inr ⟨⟨x, hx⟩, hb⟩
      · cases hy
  · rintro (h | ⟨⟨x, hx⟩, hb⟩)
    · exact Or.inl h
    · exact Or.inr ⟨x, hx, bind_eq_error.mpr (Or.inl hb)⟩

theorem rangeBounds_text {t low high : Text} (h : rangeDigits? t = some (low, high)) :
    rangeBounds (.text t) =
      readDigits low >>= fun x => readDigits high >>= fun y => .ok (x, y) := by
  simp only [rangeBounds, h]
  rfl

theorem rangeBounds_pair (a b : Value) :
    rangeBounds (.list [a, b]) =
      numericForm a >>= fun x => numericForm b >>= fun y => .ok (x, y) := by
  rfl

theorem rangeBounds_other {v : Value}
    (htext : ∀ t, v = .text t → rangeDigits? t = none) (hpair : ∀ a b, v ≠ .list [a, b]) :
    rangeBounds v = .ok (v, .null) := by
  unfold rangeBounds
  split
  · rename_i t
    rw [htext t rfl]
    rfl
  · exact absurd rfl (hpair _ _)
  · rfl

theorem numericForm_isOk_iff {v : Value} :
    (∃ w, numericForm v = .ok w) ↔ ¬ ∃ n, TooLong v n := by
  cases h : numericForm v with
  | ok w =>
      refine iff_of_true ⟨w, rfl⟩ ?_
      rintro ⟨n, hn⟩
      rw [numericForm_eq_error_iff.mpr ⟨n, hn, rfl⟩] at h
      cases h
  | error m =>
      rcases numericForm_eq_error_iff.mp h with ⟨n, hn, _⟩
      refine iff_of_false ?_ (fun hnone => hnone ⟨n, hn⟩)
      rintro ⟨w, hw⟩
      cases hw

theorem readDigits_isOk_iff {digits : Text} :
    (∃ v, readDigits digits = .ok v) ↔ digits.length ≤ digitLimit := by
  unfold readDigits
  by_cases hlong : digitLimit < digits.length
  · rw [if_pos hlong]
    refine iff_of_false ?_ (Nat.not_le.mpr hlong)
    rintro ⟨v, hv⟩
    cases hv
  · rw [if_neg hlong]
    exact iff_of_true ⟨_, rfl⟩ (Nat.not_lt.mp hlong)

theorem rangeTooLong_text_iff {t low high : Text} (h : WrittenRange t low high) {n : Nat} :
    RangeTooLong (.text t) n ↔
      low.length = n ∧ digitLimit < n ∨
        low.length ≤ digitLimit ∧ high.length = n ∧ digitLimit < n := by
  constructor
  · rintro (⟨t', low', high', ht, hwritten, hlong⟩ | ⟨a, b, hab, _⟩)
    · cases ht
      have hsame := rangeDigits?_eq_some_iff.mpr hwritten
      rw [rangeDigits?_eq_some_iff.mpr h] at hsame
      cases hsame
      exact hlong
    · cases hab
  · intro hlong
    exact Or.inl ⟨t, low, high, rfl, h, hlong⟩

theorem rangeTooLong_pair_iff {a b : Value} {n : Nat} :
    RangeTooLong (.list [a, b]) n ↔ TooLong a n ∨ (¬ ∃ m, TooLong a m) ∧ TooLong b n := by
  constructor
  · rintro (⟨t, low, high, ht, _⟩ | ⟨a', b', hab, hlong⟩)
    · cases ht
    · cases hab
      exact hlong
  · intro hlong
    exact Or.inr ⟨a, b, rfl, hlong⟩

theorem rangeBounds_eq_error_iff {v : Value} {m : Misfit} :
    rangeBounds v = .error m ↔ ∃ n, RangeTooLong v n ∧ m = .broken (.integerTooLong n) := by
  by_cases hpair : ∃ a b, v = .list [a, b]
  · rcases hpair with ⟨a, b, rfl⟩
    rw [rangeBounds_pair, pair_eq_error_iff, numericForm_eq_error_iff, numericForm_eq_error_iff,
      numericForm_isOk_iff]
    constructor
    · rintro (⟨n, hn, hm⟩ | ⟨hfirst, n, hn, hm⟩)
      · exact ⟨n, rangeTooLong_pair_iff.mpr (Or.inl hn), hm⟩
      · exact ⟨n, rangeTooLong_pair_iff.mpr (Or.inr ⟨hfirst, hn⟩), hm⟩
    · rintro ⟨n, hn, hm⟩
      rcases rangeTooLong_pair_iff.mp hn with hfirst | ⟨hfirst, hsecond⟩
      · exact Or.inl ⟨n, hfirst, hm⟩
      · exact Or.inr ⟨hfirst, n, hsecond, hm⟩
  · by_cases htext : ∃ t low high, v = .text t ∧ WrittenRange t low high
    · rcases htext with ⟨t, low, high, rfl, hwritten⟩
      rw [rangeBounds_text (rangeDigits?_eq_some_iff.mpr hwritten), pair_eq_error_iff,
        readDigits_eq_error_iff, readDigits_eq_error_iff, readDigits_isOk_iff]
      constructor
      · rintro (⟨hlong, hm⟩ | ⟨hlow, hlong, hm⟩)
        · exact ⟨_, (rangeTooLong_text_iff hwritten).mpr (Or.inl ⟨rfl, hlong⟩), hm⟩
        · exact ⟨_, (rangeTooLong_text_iff hwritten).mpr (Or.inr ⟨hlow, rfl, hlong⟩), hm⟩
      · rintro ⟨n, hn, hm⟩
        rcases (rangeTooLong_text_iff hwritten).mp hn with ⟨hlength, hlong⟩ |
          ⟨hlow, hlength, hlong⟩
        · cases hlength
          exact Or.inl ⟨hlong, hm⟩
        · cases hlength
          exact Or.inr ⟨hlow, hlong, hm⟩
    · have hother : rangeBounds v = .ok (v, .null) := by
        apply rangeBounds_other
        · intro t ht
          cases hdigits : rangeDigits? t with
          | none => rfl
          | some bounds =>
              exact absurd ⟨t, bounds.1, bounds.2, ht, rangeDigits?_eq_some_iff.mp hdigits⟩ htext
        · intro a b hab
          exact hpair ⟨a, b, hab⟩
      rw [hother]
      refine iff_of_false (fun h => by cases h) ?_
      rintro ⟨n, ⟨t, low, high, ht, hwritten, _⟩ | ⟨a, b, hab, _⟩, _⟩
      · exact htext ⟨t, low, high, ht, hwritten⟩
      · exact hpair ⟨a, b, hab⟩

theorem readRange_eq_broken_iff {v : Value} {f : Fault} :
    readRange v = .error (.broken f) ↔ ∃ n, RangeTooLong v n ∧ f = .integerTooLong n := by
  unfold readRange
  rw [bind_eq_error, rangeBounds_eq_error_iff]
  constructor
  · rintro (⟨n, hn, hf⟩ | ⟨bounds, _, h⟩)
    · cases hf
      exact ⟨n, hn, rfl⟩
    · rcases bind_eq_error.mp h with hchecked | ⟨pair, _, hpair⟩
      · exact absurd hchecked ofChecked_ne_broken
      · dsimp only at hpair
        split at hpair
        · cases hpair
        · exact absurd hpair unfit_ne_broken
  · rintro ⟨n, hn, hf⟩
    exact Or.inl ⟨n, hn, by rw [hf]⟩

/-!
# All condition types
-/

theorem readPattern_eq_broken_iff {v : Value} {f : Fault} :
    readPattern v = .error (.broken f) ↔
      ∃ t r, v = .text t ∧ Pattern.rejection? t = some r ∧ patternFault? r = some f := by
  cases v with
  | text t =>
      simp only [readPattern]
      cases hrejection : Pattern.rejection? t with
      | none =>
          refine iff_of_false (fun h => by cases h) ?_
          rintro ⟨t', r, ht, hr, _⟩
          cases ht
          rw [hrejection] at hr
          cases hr
      | some r =>
          have hsame : (∃ t' r', Value.text t = .text t' ∧ Pattern.rejection? t' = some r' ∧
              patternFault? r' = some f) ↔ patternFault? r = some f := by
            constructor
            · rintro ⟨t', r', ht, hr, hf⟩
              cases ht
              rw [hrejection] at hr
              cases hr
              exact hf
            · intro hf
              exact ⟨t, r, rfl, hrejection, hf⟩
          rw [hsame]
          cases r with
          | malformed fault position =>
              exact iff_of_false unfit_ne_broken (fun h => by cases h)
          | clashingFlags => exact iff_of_false unfit_ne_broken (fun h => by cases h)
          | countTooLong digits => exact iff_of_false unfit_ne_broken (fun h => by cases h)
          | _ => simp [patternFault?]
  | _ =>
      refine iff_of_false unfit_ne_broken ?_
      rintro ⟨t, r, ht, _⟩
      cases ht

theorem readScalar_ne_broken {v : Value} {f : Fault} :
    readScalar v ≠ .error (.broken f) := by
  unfold readScalar
  split
  · intro h
    cases h
  · exact unfit_ne_broken

theorem readContained_ne_broken {v : Value} {f : Fault} :
    readContained v ≠ .error (.broken f) := by
  unfold readContained
  split
  · split
    · intro h
      cases h
    · intro h
      cases h
  · split
    · intro h
      cases h
    · intro h
      cases h

theorem read_eq_broken_iff {type : ConditionType} {v : Value} {f : Fault} :
    read type v = .error (.broken f) ↔ Breaks v f type := by
  cases type with
  | equals => exact iff_of_false (fun h => readScalar_ne_broken (map_eq_error.mp h)) id
  | matching => exact map_eq_error.trans readPattern_eq_broken_iff
  | greaterThan => exact map_eq_error.trans readQuantity_eq_broken_iff
  | lessThan => exact map_eq_error.trans readQuantity_eq_broken_iff
  | contains => exact iff_of_false readContained_ne_broken id
  | lengthRange => exact map_eq_error.trans readRange_eq_broken_iff
  | dataType => exact iff_of_false (fun h => ofChecked_ne_broken (map_eq_error.mp h)) id

end Comparison
end RuleDraft
