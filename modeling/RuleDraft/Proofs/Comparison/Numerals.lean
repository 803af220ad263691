import RuleDraft.Proofs.Comparison.Ranges

/-!
# Numerals as they are written

A numeral is an optional sign, digits with at most one point among or around them, and
an optional exponent.  The readers take exactly these texts.  A numeral without point
and exponent stands for an integer, any other for the nearest floating-point number.
-/

namespace RuleDraft
namespace Comparison

open Text

/-- A sign or none, and whether it is a minus. -/
inductive Sign : Text → Bool → Prop
  | none : Sign [] false
  | plus : Sign "+" false
  | minus : Sign "-" true

def withSign (negative : Bool) (n : Nat) : Int :=
  if negative then -n else n

/-- Digits and at most one point, the number without the point, and the digits behind it. -/
inductive Mantissa : Text → Nat → Nat → Prop
  | whole {digits : Text} : Digits digits → Mantissa digits digits.digitsValue 0
  | pointed {whole fraction : Text} :
      Digits whole → (∀ c ∈ fraction, c.isDigit = true) →
        Mantissa (whole ++ CodePoint.ofChar '.' :: fraction) (whole ++ fraction).digitsValue
          fraction.length
  | fraction {fraction : Text} :
      Digits fraction →
        Mantissa (CodePoint.ofChar '.' :: fraction) fraction.digitsValue fraction.length

/-- An exponent or none, and the power of ten that it is. -/
inductive Power : Text → Int → Prop
  | none : Power [] 0
  | exponent {mark : CodePoint} {sign digits : Text} {negative : Bool} :
      mark = CodePoint.ofChar 'e' ∨ mark = CodePoint.ofChar 'E' → Sign sign negative →
        Digits digits → Power (mark :: (sign ++ digits)) (withSign negative digits.digitsValue)

inductive Literal : Text → Decimal → Prop
  | mk {sign mantissa power : Text} {negative : Bool} {coefficient places : Nat}
      {exponent : Int} :
      Sign sign negative → Mantissa mantissa coefficient places → Power power exponent →
        Literal (sign ++ (mantissa ++ power)) ⟨negative, coefficient, exponent - places⟩

/-- A numeral without point and exponent, and the integer that it is. -/
inductive IntegerLiteral : Text → Int → Prop
  | mk {sign digits : Text} {negative : Bool} :
      Sign sign negative → Digits digits →
        IntegerLiteral (sign ++ digits) (withSign negative digits.digitsValue)

inductive Numeral : Text → Quantity → Prop
  | integer {t : Text} {i : Int} : IntegerLiteral t i → Numeral t (.int i)
  | decimal {t : Text} {d : Decimal} :
      Literal t d → (¬ ∃ i, IntegerLiteral t i) → Numeral t (.float d.toBinary64)

/-!
# Signs
-/

def isSign (c : CodePoint) : Bool :=
  c = CodePoint.ofChar '-' || c = CodePoint.ofChar '+'

theorem isSign_eq_false_iff {c : CodePoint} :
    isSign c = false ↔ c ≠ CodePoint.ofChar '-' ∧ c ≠ CodePoint.ofChar '+' := by
  simp only [isSign, Bool.or_eq_false_iff, decide_eq_false_iff_not, ne_eq]

theorem isSign_of_isDigit {c : CodePoint} (h : c.isDigit = true) : isSign c = false := by
  rw [isSign_eq_false_iff]
  constructor
  · rintro rfl
    exact absurd h (by decide)
  · rintro rfl
    exact absurd h (by decide)

theorem takeSign_of_stops {t : Text} (h : Stops isSign t) :
    Decimal.takeSign t = (false, t) := by
  cases t with
  | nil => rfl
  | cons c t =>
      have hc := isSign_eq_false_iff.mp (stops_cons.mp h)
      rw [Decimal.takeSign, if_neg hc.left, if_neg hc.right]

theorem takeSign_append {sign body : Text} {negative : Bool} (h : Sign sign negative)
    (hbody : Stops isSign body) : Decimal.takeSign (sign ++ body) = (negative, body) := by
  cases h with
  | none => exact takeSign_of_stops hbody
  | plus => rfl
  | minus => rfl

theorem exists_sign (t : Text) :
    ∃ sign, Sign sign (Decimal.takeSign t).1 ∧ t = sign ++ (Decimal.takeSign t).2 := by
  cases t with
  | nil => exact ⟨[], Sign.none, rfl⟩
  | cons c t =>
      by_cases hminus : c = CodePoint.ofChar '-'
      · rw [Decimal.takeSign, if_pos hminus, hminus]
        exact ⟨"-", Sign.minus, rfl⟩
      · by_cases hplus : c = CodePoint.ofChar '+'
        · rw [Decimal.takeSign, if_neg hminus, if_pos hplus, hplus]
          exact ⟨"+", Sign.plus, rfl⟩
        · rw [Decimal.takeSign, if_neg hminus, if_neg hplus]
          exact ⟨[], Sign.none, rfl⟩

theorem Digits.stops_isSign {digits : Text} (h : Digits digits) (rest : Text) :
    Stops isSign (digits ++ rest) := by
  cases digits with
  | nil => exact absurd rfl h.left
  | cons c digits => exact stops_cons.mpr (isSign_of_isDigit (h.right c List.mem_cons_self))

theorem Digits.takeSign {sign digits : Text} {negative : Bool} (hsign : Sign sign negative)
    (h : Digits digits) : Decimal.takeSign (sign ++ digits) = (negative, digits) := by
  refine takeSign_append hsign ?_
  simpa using h.stops_isSign []

theorem digits_iff {t : Text} :
    Digits t ↔ ¬ t.isEmpty = true ∧ t.all CodePoint.isDigit = true := by
  rw [List.isEmpty_iff, List.all_eq_true]
  rfl

/-!
# Integers
-/

theorem integerLiteral_iff {t : Text} {i : Int} :
    IntegerLiteral t i ↔
      Digits (Decimal.takeSign t).2 ∧
        i = withSign (Decimal.takeSign t).1 (Decimal.takeSign t).2.digitsValue := by
  constructor
  · rintro ⟨hsign, hdigits⟩
    rw [hdigits.takeSign hsign]
    exact ⟨hdigits, rfl⟩
  · rintro ⟨hdigits, rfl⟩
    rcases exists_sign t with ⟨sign, hsign, ht⟩
    have hliteral := IntegerLiteral.mk hsign hdigits
    rwa [← ht] at hliteral

theorem IntegerLiteral.literal {t : Text} {i : Int} (h : IntegerLiteral t i) :
    ∃ d, Literal t d := by
  rcases h with ⟨hsign, hdigits⟩
  have hliteral := Literal.mk hsign (Mantissa.whole hdigits) Power.none
  rw [List.append_nil] at hliteral
  exact ⟨_, hliteral⟩

/-!
# Decimals
-/

theorem power_of_readExponent? {t : Text} {e : Int} (h : Decimal.readExponent? t = some e) :
    Power t e := by
  cases t with
  | nil =>
      cases h
      exact Power.none
  | cons c rest =>
      rcases exists_sign rest with ⟨sign, hsign, hrest⟩
      rw [Decimal.readExponent?] at h
      generalize Decimal.takeSign rest = signed at hsign hrest h
      rcases signed with ⟨negative, digits⟩
      simp only [Option.ite_none_right_eq_some, Option.ite_none_left_eq_some, not_or, not_not,
        ← digits_iff] at h
      rcases h with ⟨hmark, hdigits, hexponent⟩
      cases hexponent
      rw [hrest]
      exact Power.exponent hmark hsign hdigits

theorem readExponent?_of_power {t : Text} {e : Int} (h : Power t e) :
    Decimal.readExponent? t = some e := by
  cases h with
  | none => rfl
  | exponent hmark hsign hdigits =>
      have hread := digits_iff.mp hdigits
      rw [Decimal.readExponent?, if_pos hmark, hdigits.takeSign hsign]
      dsimp only
      rw [if_neg (by rw [not_or, not_not]; exact hread)]
      rfl

theorem Power.stops_isDigit {t : Text} {e : Int} (h : Power t e) : Stops CodePoint.isDigit t := by
  cases h with
  | none => exact stops_nil
  | exponent hmark _ _ =>
      rw [stops_cons]
      rcases hmark with rfl | rfl
      · decide
      · decide

theorem Power.head_ne_point {t : Text} {e : Int} (h : Power t e) :
    t.head? ≠ some (CodePoint.ofChar '.') := by
  cases h with
  | none => exact nofun
  | exponent hmark _ _ =>
      rcases hmark with rfl | rfl
      · exact fun h => absurd (Option.some.inj h) (by decide)
      · exact fun h => absurd (Option.some.inj h) (by decide)

theorem Mantissa.stops_isSign {t : Text} {coefficient places : Nat}
    (h : Mantissa t coefficient places) (rest : Text) : Stops isSign (t ++ rest) := by
  cases h with
  | whole hdigits => exact hdigits.stops_isSign rest
  | pointed hwhole _ =>
      rw [List.append_assoc]
      exact hwhole.stops_isSign _
  | fraction _ => exact stops_cons.mpr (by decide)

section Splits

variable {t body whole fraction more rest : Text} {negative : Bool}

theorem read?_whole (hsign : Decimal.takeSign t = (negative, body))
    (hwhole : body.span CodePoint.isDigit = (whole, rest))
    (hrest : rest.head? ≠ some (CodePoint.ofChar '.')) :
    Decimal.read? t =
      if whole = [] then none
      else (Decimal.readExponent? rest).map fun e => ⟨negative, whole.digitsValue, e⟩ := by
  simp only [Decimal.read?, hsign, hwhole]
  cases rest with
  | nil => simp
  | cons c rest =>
      have hc : c ≠ CodePoint.ofChar '.' := by
        rintro rfl
        exact hrest rfl
      simp [hc]

theorem read?_pointed (hsign : Decimal.takeSign t = (negative, body))
    (hwhole : body.span CodePoint.isDigit = (whole, CodePoint.ofChar '.' :: more))
    (hfraction : more.span CodePoint.isDigit = (fraction, rest)) :
    Decimal.read? t =
      if whole = [] ∧ fraction = [] then none
      else (Decimal.readExponent? rest).map fun e =>
        ⟨negative, (whole ++ fraction).digitsValue, e - fraction.length⟩ := by
  simp only [Decimal.read?, hsign, hwhole, hfraction, if_true, List.isEmpty_iff]

end Splits

theorem mantissa_of_point {whole fraction : Text} (hwhole : ∀ c ∈ whole, c.isDigit = true)
    (hfraction : ∀ c ∈ fraction, c.isDigit = true) (hfilled : ¬ (whole = [] ∧ fraction = [])) :
    Mantissa (whole ++ CodePoint.ofChar '.' :: fraction) (whole ++ fraction).digitsValue
      fraction.length := by
  cases whole with
  | nil => exact Mantissa.fraction ⟨fun h => hfilled ⟨rfl, h⟩, hfraction⟩
  | cons c whole => exact Mantissa.pointed ⟨List.cons_ne_nil c whole, hwhole⟩ hfraction

theorem read?_of_literal {t : Text} {d : Decimal} (h : Literal t d) :
    Decimal.read? t = some d := by
  have hpoint (rest : Text) : Stops CodePoint.isDigit (CodePoint.ofChar '.' :: rest) :=
    stops_cons.mpr (by decide)
  rcases h with @⟨sign, mantissa, power, _, _, _, _, hsign, hmantissa, hpower⟩
  have hexponent := readExponent?_of_power hpower
  have htake := takeSign_append hsign (hmantissa.stops_isSign power)
  cases hmantissa with
  | whole hdigits =>
      rw [read?_whole htake (span_append hdigits.right hpower.stops_isDigit) hpower.head_ne_point,
        if_neg hdigits.left, hexponent]
      simp
  | @pointed whole fraction hwhole hfraction =>
      have hbody : (whole ++ CodePoint.ofChar '.' :: fraction ++ power).span CodePoint.isDigit =
          (whole, CodePoint.ofChar '.' :: (fraction ++ power)) := by
        rw [List.append_assoc]
        exact span_append hwhole.right (hpoint _)
      rw [read?_pointed htake hbody (span_append hfraction hpower.stops_isDigit),
        if_neg (fun h => hwhole.left h.left), hexponent]
      rfl
  | @fraction fraction hfraction =>
      have hbody : (CodePoint.ofChar '.' :: fraction ++ power).span CodePoint.isDigit =
          ([], CodePoint.ofChar '.' :: (fraction ++ power)) :=
        span_append (nofun : ∀ c ∈ ([] : Text), c.isDigit = true) (hpoint _)
      rw [read?_pointed htake hbody (span_append hfraction.right hpower.stops_isDigit),
        if_neg (fun h => hfraction.left h.right), hexponent]
      rfl

theorem literal_of_read? {t : Text} {d : Decimal} (h : Decimal.read? t = some d) :
    Literal t d := by
  rcases exists_sign t with ⟨sign, hsign, ht⟩
  generalize htake : Decimal.takeSign t = signed at hsign ht
  rcases signed with ⟨negative, body⟩
  generalize hsplit : body.span CodePoint.isDigit = parts
  rcases parts with ⟨whole, rest⟩
  rcases span_eq_iff.mp hsplit with ⟨hbody, hwhole, _⟩
  by_cases hpoint : rest.head? = some (CodePoint.ofChar '.')
  · rcases List.head?_eq_some_iff.mp hpoint with ⟨more, rfl⟩
    generalize hmore : more.span CodePoint.isDigit = parts'
    rcases parts' with ⟨fraction, rest'⟩
    rcases span_eq_iff.mp hmore with ⟨hmoreEq, hfraction, _⟩
    rw [read?_pointed htake hsplit hmore, Option.ite_none_left_eq_some,
      Option.map_eq_some_iff] at h
    rcases h with ⟨hfilled, e, hexponent, rfl⟩
    have hliteral := Literal.mk hsign (mantissa_of_point hwhole hfraction hfilled)
      (power_of_readExponent? hexponent)
    rwa [List.append_assoc, List.cons_append, ← hmoreEq, ← hbody, ← ht] at hliteral
  · rw [read?_whole htake hsplit hpoint, Option.ite_none_left_eq_some,
      Option.map_eq_some_iff] at h
    rcases h with ⟨hfilled, e, hexponent, rfl⟩
    have hliteral := Literal.mk hsign (Mantissa.whole ⟨hfilled, hwhole⟩)
      (power_of_readExponent? hexponent)
    rw [← hbody, ← ht] at hliteral
    simpa using hliteral

theorem read?_eq_some_iff {t : Text} {d : Decimal} :
    Decimal.read? t = some d ↔ Literal t d :=
  ⟨literal_of_read?, read?_of_literal⟩

/-!
# Numerals
-/

section Numerals

variable {t : Text}

theorem numeral?_digits (h : Digits (Decimal.takeSign t).2) :
    numeral? t =
      if digitLimit < (Decimal.takeSign t).2.length then
        some (.error (.broken (.integerTooLong (Decimal.takeSign t).2.length)))
      else
        some (.ok (.int (withSign (Decimal.takeSign t).1 (Decimal.takeSign t).2.digitsValue))) := by
  simp only [numeral?, if_pos (digits_iff.mp h), withSign]

theorem numeral?_other (h : ¬ Digits (Decimal.takeSign t).2) :
    numeral? t = (Decimal.read? t).map fun d => .ok (.float d.toBinary64) := by
  rw [digits_iff] at h
  simp only [numeral?, if_neg h]

theorem exists_integerLiteral_iff :
    (∃ i, IntegerLiteral t i) ↔ Digits (Decimal.takeSign t).2 := by
  constructor
  · rintro ⟨i, h⟩
    exact (integerLiteral_iff.mp h).left
  · intro h
    exact ⟨_, integerLiteral_iff.mpr ⟨h, rfl⟩⟩

theorem length_takeSign_le : (Decimal.takeSign t).2.length ≤ t.length := by
  rcases exists_sign t with ⟨sign, _, ht⟩
  have hlength := congrArg List.length ht
  rw [List.length_append] at hlength
  omega

theorem numeral?_of_numeral {q : Quantity} (h : Numeral t q) (hlength : t.length ≤ digitLimit) :
    numeral? t = some (.ok q) := by
  cases h with
  | integer hinteger =>
      rcases integerLiteral_iff.mp hinteger with ⟨hdigits, rfl⟩
      have hbody := length_takeSign_le (t := t)
      rw [numeral?_digits hdigits, if_neg (by omega)]
  | decimal hliteral hnone =>
      rw [exists_integerLiteral_iff] at hnone
      rw [numeral?_other hnone, read?_of_literal hliteral]
      rfl

theorem numeral_of_numeral? {q : Quantity} (h : numeral? t = some (.ok q)) : Numeral t q := by
  by_cases hdigits : Digits (Decimal.takeSign t).2
  · rw [numeral?_digits hdigits] at h
    split at h
    · cases h
    · cases h
      exact Numeral.integer (integerLiteral_iff.mpr ⟨hdigits, rfl⟩)
  · rw [numeral?_other hdigits, Option.map_eq_some_iff] at h
    rcases h with ⟨d, hread, hq⟩
    cases hq
    exact Numeral.decimal (literal_of_read? hread) (mt exists_integerLiteral_iff.mp hdigits)

/-- Whatever is no numeral is left as it is. -/
theorem numeral?_eq_none_iff : numeral? t = none ↔ ¬ ∃ d, Literal t d := by
  by_cases hdigits : Digits (Decimal.takeSign t).2
  · rcases exists_integerLiteral_iff.mpr hdigits with ⟨i, hinteger⟩
    rw [numeral?_digits hdigits]
    refine iff_of_false ?_ (not_not.mpr hinteger.literal)
    split
    · exact nofun
    · exact nofun
  · rw [numeral?_other hdigits, Option.map_eq_none_iff, Option.eq_none_iff_forall_ne_some]
    simp only [ne_eq, read?_eq_some_iff, not_exists]

theorem exists_numeral_iff : (∃ q, Numeral t q) ↔ ∃ d, Literal t d := by
  constructor
  · rintro ⟨q, hnumeral⟩
    cases hnumeral with
    | integer hinteger => exact hinteger.literal
    | decimal hliteral _ => exact ⟨_, hliteral⟩
  · rintro ⟨d, hliteral⟩
    by_cases hinteger : ∃ i, IntegerLiteral t i
    · rcases hinteger with ⟨i, hi⟩
      exact ⟨.int i, Numeral.integer hi⟩
    · exact ⟨.float d.toBinary64, Numeral.decimal hliteral hinteger⟩

end Numerals

theorem numericForm_numeral {t : Text} {q : Quantity} (h : numeral? t.trim = some (.ok q)) :
    numericForm (.text t) = .ok q.toValue := by
  simp only [numericForm, h]
  rfl

end Comparison
end RuleDraft
