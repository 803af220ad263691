import RuleDraft.Proofs.Json.NumberParts

/-!
# The grammar of JSON documents

The grammar of RFC 8259, as a relation between a text and what follows a part of a
document at its start.  Other than the reader, it has no words for numbers that are
infinite or not a number, and the parts of numbers and strings are spelt out.

Outside of its strings a document of the grammar has no capital `I` and no capital
`N`, so none of the words for such numbers.
-/

namespace RuleDraft
namespace Json

open Text

/-!
# Tokens
-/

def Blanks (w : Text) : Prop := ∀ c ∈ w, isSpace c = true

/-- A zero, or digits of which the first is not zero. -/
def WholePart (t : Text) : Prop :=
  t = ofString "0" ∨ AsciiDigits t ∧ t.head? ≠ some (CodePoint.ofChar '0')

/-- Nothing, or a point and digits. -/
def FractionPart (t : Text) : Prop :=
  t = [] ∨ ∃ digits, AsciiDigits digits ∧ t = CodePoint.ofChar '.' :: digits

/-- Nothing, or a mark, a sign if there is one, and digits. -/
def ExponentPart (t : Text) : Prop :=
  t = [] ∨ ∃ mark sign digits,
    (mark = CodePoint.ofChar 'e' ∨ mark = CodePoint.ofChar 'E') ∧
      (sign = [] ∨ sign = [CodePoint.ofChar '+'] ∨ sign = [CodePoint.ofChar '-']) ∧
        AsciiDigits digits ∧ t = mark :: (sign ++ digits)

/-- A number: a minus if there is one, a whole part, a fraction and an exponent. -/
def Number (t : Text) : Prop :=
  ∃ negative whole fraction exponent, WholePart whole ∧ FractionPart fraction ∧
    ExponentPart exponent ∧ t = signed negative (whole ++ (fraction ++ exponent))

/-- The content of a string: code points that stand for themselves, and escapes. -/
inductive Chars : Text → Prop
  | nil : Chars []
  | plain {c : CodePoint} {t : Text} (hcontrol : 0x20 ≤ c.val)
      (hquote : c ≠ CodePoint.ofChar '\x22') (hbackslash : c ≠ CodePoint.ofChar '\\')
      (ht : Chars t) : Chars (c :: t)
  | letter {c : CodePoint} {t : Text} (hc : c ∈ ofString "\x22\\/bfnrt") (ht : Chars t) :
      Chars (CodePoint.ofChar '\\' :: c :: t)
  | unit {digits t : Text} (hlength : digits.length = 4)
      (hdigits : ∀ d ∈ digits, d.hexValue?.isSome = true) (ht : Chars t) :
      Chars (CodePoint.ofChar '\\' :: CodePoint.ofChar 'u' :: (digits ++ t))

/-!
# Documents
-/

/-- The parts of a document that can hold parts of a document. -/
inductive Part where
  | value
  | member
  | several (p : Part)

/-- The text starts with a part of a document, and the rest is what follows it. -/
inductive Starts : Part → Text → Text → Prop
  | word {w : String} {rest : Text} (hw : w ∈ ["null", "true", "false"]) :
      Starts .value (ofString w ++ rest) rest
  | number {t rest : Text} (ht : Number t) : Starts .value (t ++ rest) rest
  | string {t rest : Text} (ht : Chars t) :
      Starts .value (CodePoint.ofChar '\x22' :: (t ++ CodePoint.ofChar '\x22' :: rest)) rest
  | emptyList {w rest : Text} (hw : Blanks w) :
      Starts .value (CodePoint.ofChar '[' :: (w ++ CodePoint.ofChar ']' :: rest)) rest
  | list {w t w' rest : Text} (hw : Blanks w) (hw' : Blanks w')
      (ht : Starts (.several .value) t (w' ++ CodePoint.ofChar ']' :: rest)) :
      Starts .value (CodePoint.ofChar '[' :: (w ++ t)) rest
  | emptyObject {w rest : Text} (hw : Blanks w) :
      Starts .value (CodePoint.ofChar '\x7b' :: (w ++ CodePoint.ofChar '\x7d' :: rest)) rest
  | object {w t w' rest : Text} (hw : Blanks w) (hw' : Blanks w')
      (ht : Starts (.several .member) t (w' ++ CodePoint.ofChar '\x7d' :: rest)) :
      Starts .value (CodePoint.ofChar '\x7b' :: (w ++ t)) rest
  | member {key w w' t rest : Text} (hkey : Chars key) (hw : Blanks w) (hw' : Blanks w')
      (ht : Starts .value t rest) :
      Starts .member (CodePoint.ofChar '\x22' :: (key ++ CodePoint.ofChar '\x22' ::
        (w ++ CodePoint.ofChar ':' :: (w' ++ t)))) rest
  | last {p : Part} {t rest : Text} (ht : Starts p t rest) : Starts (.several p) t rest
  | more {p : Part} {t w w' u rest : Text} (hw : Blanks w) (hw' : Blanks w')
      (ht : Starts p t (w ++ CodePoint.ofChar ',' :: (w' ++ u)))
      (hu : Starts (.several p) u rest) : Starts (.several p) t rest

/-- The text is a document of the grammar: a value, with blanks around it. -/
def Standard (t : Text) : Prop :=
  ∃ w u w', Blanks w ∧ Blanks w' ∧ t = w ++ u ∧ Starts .value u w'

theorem blanks_nil : Blanks [] := by
  intro c hc
  cases hc

/-!
# Numbers that the reader takes

What the reader takes for a number, or for a part of one, is one of the grammar.
-/

section Numbers

variable {t rest : Text}

theorem eq_of_digits? {digits : Text} (h : digits? t = some (digits, rest)) :
    AsciiDigits digits ∧ t = digits ++ rest := by
  unfold digits? at h
  cases hspan : t.span CodePoint.isAsciiDigit with
  | mk run more =>
      rw [hspan] at h
      rcases span_eq_iff.mp hspan with ⟨ht, hrun, _⟩
      cases run with
      | nil => cases h
      | cons c run =>
          cases h
          exact ⟨⟨List.cons_ne_nil c run, hrun⟩, ht⟩

theorem eq_of_wholePart? {whole : Text} (h : wholePart? t = some (whole, rest)) :
    WholePart whole ∧ t = whole ++ rest := by
  cases t with
  | nil => cases h
  | cons c t =>
      rw [wholePart?] at h
      by_cases hzero : c = CodePoint.ofChar '0'
      · rw [if_pos hzero] at h
        cases h
        rw [hzero]
        exact ⟨Or.inl rfl, rfl⟩
      · rw [if_neg hzero] at h
        rcases eq_of_digits? h with ⟨hdigits, ht⟩
        refine ⟨Or.inr ⟨hdigits, ?_⟩, ht⟩
        cases whole with
        | nil => exact absurd rfl hdigits.ne_nil
        | cons d whole =>
            rw [(List.cons.inj ht).left] at hzero
            exact fun hhead => hzero (Option.some.inj hhead)

theorem eq_of_fractionPart? {digits : Text} (h : fractionPart? t = some (digits, rest)) :
    AsciiDigits digits ∧ t = CodePoint.ofChar '.' :: digits ++ rest := by
  cases t with
  | nil => cases h
  | cons c t =>
      rw [fractionPart?] at h
      by_cases hpoint : c = CodePoint.ofChar '.'
      · rw [if_pos hpoint] at h
        rcases eq_of_digits? h with ⟨hdigits, ht⟩
        rw [hpoint, ht]
        exact ⟨hdigits, rfl⟩
      · rw [if_neg hpoint] at h
        cases h

theorem eq_of_takeSign {negative : Bool} (h : Decimal.takeSign t = (negative, rest)) :
    ∃ sign, (sign = [] ∨ sign = [CodePoint.ofChar '+'] ∨ sign = [CodePoint.ofChar '-']) ∧
      t = sign ++ rest := by
  cases t with
  | nil =>
      cases h
      exact ⟨[], Or.inl rfl, rfl⟩
  | cons c t =>
      rw [Decimal.takeSign] at h
      by_cases hminus : c = CodePoint.ofChar '-'
      · rw [if_pos hminus] at h
        cases h
        exact ⟨[c], Or.inr (Or.inr (by rw [hminus])), rfl⟩
      · rw [if_neg hminus] at h
        by_cases hplus : c = CodePoint.ofChar '+'
        · rw [if_pos hplus] at h
          cases h
          exact ⟨[c], Or.inr (Or.inl (by rw [hplus])), rfl⟩
        · rw [if_neg hplus] at h
          cases h
          exact ⟨[], Or.inl rfl, rfl⟩

theorem eq_of_exponentPart? {e : Int} (h : exponentPart? t = some (e, rest)) :
    ∃ exponent, ExponentPart exponent ∧ t = exponent ++ rest := by
  cases t with
  | nil => cases h
  | cons c t =>
      rw [exponentPart?] at h
      by_cases hmark : c = CodePoint.ofChar 'e' ∨ c = CodePoint.ofChar 'E'
      · rw [if_pos hmark] at h
        cases hsign : Decimal.takeSign t with
        | mk negative body =>
            rw [hsign] at h
            rcases Option.map_eq_some_iff.mp h with ⟨⟨digits, more⟩, hdigits, hrest⟩
            rcases eq_of_takeSign hsign with ⟨sign, hsigns, ht⟩
            rcases eq_of_digits? hdigits with ⟨hrun, hbody⟩
            cases hrest
            refine ⟨c :: (sign ++ digits), Or.inr ⟨c, sign, digits, hmark, hsigns, hrun, rfl⟩, ?_⟩
            rw [ht, hbody, List.cons_append, List.append_assoc]
      · rw [if_neg hmark] at h
        cases h

theorem eq_of_readBehind {negative : Bool} {whole : Text} {v : Value}
    (h : readBehind negative whole t = .ok (v, rest)) :
    ∃ fraction exponent, FractionPart fraction ∧ ExponentPart exponent ∧
      t = fraction ++ (exponent ++ rest) := by
  unfold readBehind at h
  cases hfraction : fractionPart? t with
  | none =>
      cases hexponent : exponentPart? t with
      | none =>
          rw [hfraction, hexponent] at h
          dsimp only at h
          by_cases hlong : digitLimit < whole.length
          · rw [if_pos hlong] at h
            cases h
          · rw [if_neg hlong] at h
            cases h
            exact ⟨[], [], Or.inl rfl, Or.inl rfl, rfl⟩
      | some found =>
          rw [hfraction, hexponent] at h
          cases h
          rcases eq_of_exponentPart? hexponent with ⟨exponent, hpart, ht⟩
          exact ⟨[], exponent, Or.inl rfl, hpart, ht⟩
  | some found =>
      rcases eq_of_fractionPart? hfraction with ⟨hdigits, ht⟩
      have hpart : FractionPart (CodePoint.ofChar '.' :: found.1) :=
        Or.inr ⟨found.1, hdigits, rfl⟩
      rw [hfraction] at h
      cases hexponent : exponentPart? found.2 with
      | none =>
          dsimp only at h
          rw [hexponent] at h
          cases h
          exact ⟨_, [], hpart, Or.inl rfl, ht⟩
      | some behind =>
          dsimp only at h
          rw [hexponent] at h
          cases h
          rcases eq_of_exponentPart? hexponent with ⟨exponent, hexp, hmore⟩
          refine ⟨_, exponent, hpart, hexp, ?_⟩
          rw [ht, hmore]
          rfl

theorem number_of_readNumber {v : Value} (h : readNumber t = .ok (v, rest)) :
    ∃ n, Number n ∧ t = n ++ rest := by
  rcases readNumber_cases t with hnone | ⟨negative, body, whole, more, ht, hwhole⟩
  · rw [hnone] at h
    cases h
  rw [ht, readNumber_signed negative hwhole] at h
  rcases eq_of_wholePart? hwhole with ⟨hpart, hbody⟩
  rcases eq_of_readBehind h with ⟨fraction, exponent, hfraction, hexponent, hmore⟩
  refine ⟨_, ⟨negative, whole, fraction, exponent, hpart, hfraction, hexponent, rfl⟩, ?_⟩
  rw [ht, hbody, hmore]
  cases negative with
  | true => simp only [signed, if_true, List.cons_append, List.append_assoc]
  | false => simp only [signed, Bool.false_eq_true, if_false, List.append_assoc]

end Numbers

/-!
# Outside of strings
-/

inductive Place where
  | outside
  | inString
  | escaped

/-- The code points outside of strings, with the quotes around the strings. -/
def outsideFrom : Place → Text → Text
  | _, [] => []
  | .outside, c :: t =>
      c :: outsideFrom (if c = CodePoint.ofChar '\x22' then .inString else .outside) t
  | .inString, c :: t =>
      if c = CodePoint.ofChar '\x22' then c :: outsideFrom .outside t
      else outsideFrom (if c = CodePoint.ofChar '\\' then .escaped else .inString) t
  | .escaped, _ :: t => outsideFrom .inString t

def outside (t : Text) : Text := outsideFrom .outside t

/-- Outside of strings, what stands before the rest has a property. -/
def Passes (P : Text → Prop) (t rest : Text) : Prop :=
  ∃ front, P front ∧ outside t = front ++ outside rest

theorem Passes.trans {P Q R : Text → Prop} {t u rest : Text} (ht : Passes P t u)
    (hu : Passes Q u rest) (h : ∀ a b, P a → Q b → R (a ++ b)) : Passes R t rest := by
  rcases ht with ⟨a, ha, hta⟩
  rcases hu with ⟨b, hb, hub⟩
  exact ⟨a ++ b, h a b ha hb, by rw [hta, hub, List.append_assoc]⟩

theorem Passes.mono {P Q : Text → Prop} {t rest : Text} (ht : Passes P t rest)
    (h : ∀ a, P a → Q a) : Passes Q t rest := by
  rcases ht with ⟨a, ha, hta⟩
  exact ⟨a, h a ha, hta⟩

theorem passes_unquoted {w : Text} (hw : ∀ c ∈ w, c ≠ CodePoint.ofChar '\x22') (rest : Text) :
    Passes (· = w) (w ++ rest) rest := by
  refine ⟨w, rfl, ?_⟩
  induction w with
  | nil => rfl
  | cons c w ih =>
      have hc := hw c List.mem_cons_self
      have hrest := ih fun d hd => hw d (List.mem_cons_of_mem c hd)
      rw [List.cons_append, outside, outsideFrom, if_neg hc, List.cons_append, ← hrest]
      rfl

theorem outsideFrom_inString {w : Text}
    (hw : ∀ c ∈ w, c ≠ CodePoint.ofChar '\x22' ∧ c ≠ CodePoint.ofChar '\\') (rest : Text) :
    outsideFrom .inString (w ++ rest) = outsideFrom .inString rest := by
  induction w with
  | nil => rfl
  | cons c w ih =>
      have hc := hw c List.mem_cons_self
      rw [List.cons_append, outsideFrom, if_neg hc.left, if_neg hc.right]
      exact ih fun d hd => hw d (List.mem_cons_of_mem c hd)

theorem outsideFrom_chars {t : Text} (ht : Chars t) (rest : Text) :
    outsideFrom .inString (t ++ rest) = outsideFrom .inString rest := by
  induction ht with
  | nil => rfl
  | plain hcontrol hquote hbackslash _ ih =>
      rw [List.cons_append, outsideFrom, if_neg hquote, if_neg hbackslash]
      exact ih
  | letter hc _ ih => exact ih
  | @unit digits t hlength hdigits _ ih =>
      have hplain : ∀ d ∈ digits, d ≠ CodePoint.ofChar '\x22' ∧ d ≠ CodePoint.ofChar '\\' := by
        intro d hd
        constructor
        · rintro rfl
          exact absurd (hdigits _ hd) (by decide)
        · rintro rfl
          exact absurd (hdigits _ hd) (by decide)
      have hescape : outsideFrom .inString
          (CodePoint.ofChar '\\' :: CodePoint.ofChar 'u' :: (digits ++ t) ++ rest) =
            outsideFrom .inString (digits ++ (t ++ rest)) := by
        rw [← List.append_assoc]
        rfl
      rw [hescape, outsideFrom_inString hplain, ih]

theorem passes_string {t : Text} (ht : Chars t) (rest : Text) :
    Passes (· = ofString "\x22\x22")
      (CodePoint.ofChar '\x22' :: (t ++ CodePoint.ofChar '\x22' :: rest)) rest := by
  refine ⟨_, rfl, ?_⟩
  rw [outside, outsideFrom, if_pos rfl, outsideFrom_chars ht, outsideFrom, if_pos rfl]
  rfl

/-!
# No foreign words

A document of the grammar has no word for a number that is infinite or not a number.
-/

/-- The words for numbers that are no numbers of the grammar. -/
def foreignWords : List String := ["Infinity", "-Infinity", "NaN"]

def Foreign (t : Text) : Prop := ∃ word ∈ foreignWords, ofString word <:+: t

/-- The text has none of the capitals that the foreign words have. -/
def Plain (t : Text) : Prop := ∀ c ∈ t, c ≠ CodePoint.ofChar 'I' ∧ c ≠ CodePoint.ofChar 'N'

theorem Plain.append {s t : Text} (hs : Plain s) (ht : Plain t) : Plain (s ++ t) := by
  intro c hc
  rcases List.mem_append.mp hc with hc | hc
  · exact hs c hc
  · exact ht c hc

theorem Plain.not_foreign {t : Text} (h : Plain t) : ¬ Foreign t := by
  rintro ⟨word, hword, hstands⟩
  simp only [foreignWords, List.mem_cons, List.not_mem_nil, or_false] at hword
  rcases hword with rfl | rfl | rfl
  · exact (h _ (hstands.mem (by decide : CodePoint.ofChar 'I' ∈ ofString "Infinity"))).left rfl
  · exact (h _ (hstands.mem (by decide : CodePoint.ofChar 'I' ∈ ofString "-Infinity"))).left rfl
  · exact (h _ (hstands.mem (by decide : CodePoint.ofChar 'N' ∈ ofString "NaN"))).right rfl

section Plain

variable {t u w rest : Text}

theorem Passes.plain_trans (ht : Passes Plain t u) (hu : Passes Plain u rest) :
    Passes Plain t rest :=
  ht.trans hu fun _ _ => Plain.append

theorem passes_plain_unquoted
    (hw : ∀ c ∈ w, c ≠ CodePoint.ofChar '\x22' ∧ c ≠ CodePoint.ofChar 'I' ∧
      c ≠ CodePoint.ofChar 'N') (rest : Text) : Passes Plain (w ++ rest) rest := by
  apply (passes_unquoted (fun c hc => (hw c hc).left) rest).mono
  rintro _ rfl c hc
  exact (hw c hc).right

theorem passes_plain_blanks (hw : Blanks w) (rest : Text) : Passes Plain (w ++ rest) rest := by
  apply passes_plain_unquoted
  intro c hc
  have hspace := hw c hc
  refine ⟨?_, ?_, ?_⟩
  all_goals
    rintro rfl
    exact absurd hspace (by decide)

theorem passes_plain_mark {mark : CodePoint} (h : mark ∈ ofString "[]\x7b\x7d,:")
    (rest : Text) : Passes Plain (mark :: rest) rest := by
  apply passes_plain_unquoted (w := [mark])
  intro c hc
  rw [List.mem_singleton.mp hc]
  refine ⟨?_, ?_, ?_⟩
  all_goals
    rintro rfl
    exact absurd h (by decide)

theorem passes_plain_string (ht : Chars t) (rest : Text) :
    Passes Plain (CodePoint.ofChar '\x22' :: (t ++ CodePoint.ofChar '\x22' :: rest)) rest := by
  apply (passes_string ht rest).mono
  rintro _ rfl c hc
  constructor
  all_goals
    rintro rfl
    exact absurd hc (by decide)

def InNumber (c : CodePoint) : Prop := c.isAsciiDigit = true ∨ c ∈ ofString "-+.eE"

theorem WholePart.inNumber (h : WholePart t) : ∀ c ∈ t, InNumber c := by
  intro c hc
  rcases h with rfl | ⟨hdigits, _⟩
  · rw [List.mem_singleton.mp hc]
    exact Or.inl (by decide)
  · exact Or.inl (hdigits.digits c hc)

theorem FractionPart.inNumber (h : FractionPart t) : ∀ c ∈ t, InNumber c := by
  intro c hc
  rcases h with rfl | ⟨digits, hdigits, rfl⟩
  · cases hc
  · rcases List.mem_cons.mp hc with rfl | hc
    · exact Or.inr (by decide)
    · exact Or.inl (hdigits.digits c hc)

theorem ExponentPart.inNumber (h : ExponentPart t) : ∀ c ∈ t, InNumber c := by
  intro c hc
  rcases h with rfl | ⟨mark, sign, digits, hmark, hsign, hdigits, rfl⟩
  · cases hc
  · rcases List.mem_cons.mp hc with rfl | hc
    · rcases hmark with rfl | rfl
      · exact Or.inr (by decide)
      · exact Or.inr (by decide)
    · rcases List.mem_append.mp hc with hc | hc
      · rcases hsign with rfl | rfl | rfl
        · cases hc
        · exact Or.inr (by rw [List.mem_singleton.mp hc]; decide)
        · exact Or.inr (by rw [List.mem_singleton.mp hc]; decide)
      · exact Or.inl (hdigits.digits c hc)

theorem WholePart.ne_nil (h : WholePart t) : t ≠ [] := by
  rcases h with rfl | ⟨hdigits, _⟩
  · exact List.cons_ne_nil _ _
  · exact hdigits.ne_nil

theorem Number.ne_nil (h : Number t) : t ≠ [] := by
  rcases h with ⟨negative, whole, fraction, exponent, hwhole, _, _, rfl⟩
  cases negative with
  | true => exact List.cons_ne_nil _ _
  | false => exact List.append_ne_nil_of_left_ne_nil hwhole.ne_nil _

theorem Number.inNumber (h : Number t) : ∀ c ∈ t, InNumber c := by
  rcases h with ⟨negative, whole, fraction, exponent, hwhole, hfraction, hexponent, rfl⟩
  have hbody : ∀ c ∈ whole ++ (fraction ++ exponent), InNumber c := by
    intro c hc
    rcases List.mem_append.mp hc with hc | hc
    · exact hwhole.inNumber c hc
    · rcases List.mem_append.mp hc with hc | hc
      · exact hfraction.inNumber c hc
      · exact hexponent.inNumber c hc
  cases negative with
  | false => exact hbody
  | true =>
      intro c hc
      rcases List.mem_cons.mp hc with rfl | hc
      · exact Or.inr (by decide)
      · exact hbody c hc

theorem passes_plain_number (ht : Number t) (rest : Text) : Passes Plain (t ++ rest) rest := by
  apply passes_plain_unquoted
  intro c hc
  have hnumber := ht.inNumber c hc
  refine ⟨?_, ?_, ?_⟩
  all_goals
    rintro rfl
    exact absurd hnumber (by unfold InNumber; decide)

theorem passes_plain_word (word : String) (hw : word ∈ ["null", "true", "false"])
    (rest : Text) : Passes Plain (ofString word ++ rest) rest := by
  apply passes_plain_unquoted
  intro c hc
  simp only [List.mem_cons, List.not_mem_nil, or_false] at hw
  rcases hw with rfl | rfl | rfl
  all_goals
    refine ⟨?_, ?_, ?_⟩
    all_goals
      rintro rfl
      exact absurd hc (by decide)

theorem Starts.passes_plain {p : Part} (h : Starts p t rest) : Passes Plain t rest := by
  induction h with
  | word hw => exact passes_plain_word _ hw _
  | number ht => exact passes_plain_number ht _
  | string ht => exact passes_plain_string ht _
  | emptyList hw =>
      exact ((passes_plain_mark (by decide) _).plain_trans (passes_plain_blanks hw _)).plain_trans
        (passes_plain_mark (by decide) _)
  | list hw hw' _ ih =>
      exact ((((passes_plain_mark (by decide) _).plain_trans (passes_plain_blanks hw _)).plain_trans
        ih).plain_trans (passes_plain_blanks hw' _)).plain_trans (passes_plain_mark (by decide) _)
  | emptyObject hw =>
      exact ((passes_plain_mark (by decide) _).plain_trans (passes_plain_blanks hw _)).plain_trans
        (passes_plain_mark (by decide) _)
  | object hw hw' _ ih =>
      exact ((((passes_plain_mark (by decide) _).plain_trans (passes_plain_blanks hw _)).plain_trans
        ih).plain_trans (passes_plain_blanks hw' _)).plain_trans (passes_plain_mark (by decide) _)
  | member hkey hw hw' _ ih =>
      exact ((((passes_plain_string hkey _).plain_trans (passes_plain_blanks hw _)).plain_trans
        (passes_plain_mark (by decide) _)).plain_trans (passes_plain_blanks hw' _)).plain_trans ih
  | last _ ih => exact ih
  | more hw hw' _ _ iht ihu =>
      exact (((iht.plain_trans (passes_plain_blanks hw _)).plain_trans
        (passes_plain_mark (by decide) _)).plain_trans (passes_plain_blanks hw' _)).plain_trans ihu

end Plain

theorem Standard.plain {t : Text} (h : Standard t) : Plain (outside t) := by
  rcases h with ⟨w, u, w', hw, hw', rfl, hu⟩
  have hend := passes_plain_blanks hw' []
  rw [List.append_nil] at hend
  rcases ((passes_plain_blanks hw u).plain_trans hu.passes_plain).plain_trans hend with
    ⟨front, hfront, heq⟩
  rw [heq]
  exact hfront.append fun c hc => by cases hc

end Json
end RuleDraft
