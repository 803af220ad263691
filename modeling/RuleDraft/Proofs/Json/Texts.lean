import RuleDraft.Json.Reader
import RuleDraft.Json.Writer
import RuleDraft.Proofs.Text.Characters

/-!
# Strings read back

Each code point of a string is written as itself or as an escape, and is read back
in front of whatever follows, which is at least the closing quote.
-/

namespace RuleDraft
namespace Json

variable {opening n : Nat} {a b c d e p : CodePoint} {t rest : Text}

/-- A code point goes in front of the content that is read after it. -/
def inFront (c : CodePoint) (r : Text × Text) : Text × Text :=
  (c :: r.1, r.2)

/-!
# Steps of the reader
-/

theorem readText_quote (rest : Text) :
    readText opening (CodePoint.ofChar '\x22' :: rest) = .ok ([], rest) := by
  rw [readText.eq_def]
  exact if_pos rfl

theorem readText_escaped (he : e ≠ CodePoint.ofChar 'u') (hp : shortEscaped? e = some p)
    (hrest : rest ≠ []) :
    readText opening (CodePoint.ofChar '\\' :: e :: rest) =
      (readText opening rest).map (inFront p) := by
  cases rest with
  | nil => exact absurd rfl hrest
  | cons a more =>
      rw [readText.eq_def]
      dsimp only
      rw [if_neg (by decide), if_pos rfl, if_neg he, hp]
      rfl

theorem readText_unit (hhex : hex4? a b c d = some n)
    (halone : 0xD800 ≤ n → n ≤ 0xDBFF → pairing n rest = .apart) (hrest : rest ≠ []) :
    readText opening
        (CodePoint.ofChar '\\' :: CodePoint.ofChar 'u' :: a :: b :: c :: d :: rest) =
      (readText opening rest).map (inFront (CodePoint.ofNat n)) := by
  cases rest with
  | nil => exact absurd rfl hrest
  | cons y more =>
      rw [readText.eq_def]
      dsimp only
      rw [if_neg (by decide), if_pos rfl, if_pos rfl, hhex]
      dsimp only
      by_cases hhigh : 0xD800 ≤ n ∧ n ≤ 0xDBFF
      · rw [if_pos hhigh, halone hhigh.left hhigh.right]
        rfl
      · rw [if_neg hhigh]
        rfl

theorem readText_pair {f g h i low : CodePoint} {more : Text} (hhex : hex4? a b c d = some n)
    (hhigh : 0xD800 ≤ n ∧ n ≤ 0xDBFF)
    (hpair : pairing n (e :: f :: g :: h :: i :: low :: more) = .joined p) :
    readText opening (CodePoint.ofChar '\\' :: CodePoint.ofChar 'u' :: a :: b :: c :: d ::
        e :: f :: g :: h :: i :: low :: more) =
      (readText opening more).map (inFront p) := by
  rw [readText.eq_def]
  dsimp only
  rw [if_neg (by decide), if_pos rfl, if_pos rfl, hhex]
  dsimp only
  rw [if_pos hhigh, hpair]
  rfl

theorem readText_ordinary (hquote : c ≠ CodePoint.ofChar '\x22')
    (hbackslash : c ≠ CodePoint.ofChar '\\') (hsize : ¬ c.val < 0x20) (rest : Text) :
    readText opening (c :: rest) = (readText opening rest).map (inFront c) := by
  rw [readText.eq_def]
  dsimp only
  rw [if_neg hquote, if_neg hbackslash, if_neg hsize]
  rfl

/-- The text starts with an escaped unit, and does not end with it. -/
def StartsUnit (t : Text) : Prop :=
  ∃ a b c d y more,
    t = CodePoint.ofChar '\\' :: CodePoint.ofChar 'u' :: a :: b :: c :: d :: y :: more

theorem pairing_apart (h : ¬ StartsUnit t) (n : Nat) : pairing n t = .apart := by
  unfold pairing
  split
  · rename_i s u a b c d y more
    rw [if_neg]
    rintro ⟨rfl, rfl⟩
    exact h ⟨a, b, c, d, y, more, rfl⟩
  · rfl

/-!
# Escapes of two characters
-/

theorem shortEscaped?_of_shortEscape? {c : CodePoint} {letter : Char}
    (h : shortEscape? c = some letter) :
    CodePoint.ofChar letter ≠ CodePoint.ofChar 'u' ∧
      shortEscaped? (CodePoint.ofChar letter) = some c := by
  unfold shortEscape? at h
  split at h
  case h_8 => cases h
  all_goals
    rename_i hchar
    cases h
    rw [CodePoint.eq_ofChar_of_toChar (by decide) hchar]
    exact ⟨by decide, rfl⟩

theorem readText_shortEscape {c : CodePoint} {letter : Char}
    (h : shortEscape? c = some letter) (hrest : rest ≠ []) :
    readText opening (CodePoint.ofChar '\\' :: CodePoint.ofChar letter :: rest) =
      (readText opening rest).map (inFront c) :=
  readText_escaped (shortEscaped?_of_shortEscape? h).left (shortEscaped?_of_shortEscape? h).right
    hrest

/-!
# Escaped units
-/

theorem hexValue?_hexDigit {d : Nat} (h : d < 16) : (CodePoint.hexDigit d).hexValue? = some d := by
  revert d
  decide

theorem hex4?_hexPadded {n : Nat} (h : n < 0x10000) :
    ∃ a b c d, Text.hexPadded CodePoint.hexDigit 4 n = [a, b, c, d] ∧
      hex4? a b c d = some n := by
  refine ⟨CodePoint.hexDigit (n / 16 / 16 / 16 % 16), CodePoint.hexDigit (n / 16 / 16 % 16),
    CodePoint.hexDigit (n / 16 % 16), CodePoint.hexDigit (n % 16), rfl, ?_⟩
  have hless (m : Nat) : m % 16 < 16 := Nat.mod_lt m (by decide)
  simp only [hex4?, hexValue?_hexDigit (hless _), Option.bind_eq_bind, Option.bind_some,
    Option.some.injEq]
  omega

/-- An escaped unit that starts no pair is read as its code point. -/
theorem readText_escapedUnit (hn : n < 0x10000)
    (halone : 0xD800 ≤ n → n ≤ 0xDBFF → pairing n rest = .apart) (hrest : rest ≠ []) :
    readText opening (escapedUnit n ++ rest) =
      (readText opening rest).map (inFront (CodePoint.ofNat n)) := by
  rcases hex4?_hexPadded hn with ⟨a, b, c, d, hpadded, hvalue⟩
  rw [escapedUnit, hpadded]
  exact readText_unit hvalue halone hrest

theorem readText_control {c : CodePoint} (h : c.val < 0x20) (hrest : rest ≠ []) :
    readText opening (escapedUnit c.val ++ rest) =
      (readText opening rest).map (inFront c) := by
  rw [readText_escapedUnit (by omega) (fun _ _ => by omega) hrest, CodePoint.ofNat_val]

/-!
# Strings
-/

theorem readText_plain {c : CodePoint} (h : shortEscape? c = none) (hsize : ¬ c.val < 0x20) :
    readText opening (c :: rest) = (readText opening rest).map (inFront c) := by
  have hquote : c ≠ CodePoint.ofChar '\x22' := by
    rintro rfl
    cases h
  have hbackslash : c ≠ CodePoint.ofChar '\\' := by
    rintro rfl
    cases h
  exact readText_ordinary hquote hbackslash hsize rest

theorem readText_escape (c : CodePoint) (hrest : rest ≠ []) :
    readText opening (escape false c ++ rest) = (readText opening rest).map (inFront c) := by
  unfold escape
  cases hshort : shortEscape? c with
  | some letter => exact readText_shortEscape hshort hrest
  | none =>
      by_cases hsize : c.val < 0x20
      · simp only [if_pos hsize]
        exact readText_control hsize hrest
      · simp only [if_neg hsize, Bool.false_and, Bool.false_eq_true, if_false]
        exact readText_plain hshort hsize

/-- The inside of a string, with the closing quote. -/
def inside (t : Text) (tail : Text) : Text :=
  t.foldr (fun c rest => escape false c ++ rest) (CodePoint.ofChar '\x22' :: tail)

def insideAs (asciiOnly : Bool) (t : Text) (tail : Text) : Text :=
  t.foldr (fun c rest => escape asciiOnly c ++ rest) (CodePoint.ofChar '\x22' :: tail)

theorem insideAs_ne_nil (asciiOnly : Bool) (t tail : Text) : insideAs asciiOnly t tail ≠ [] := by
  induction t with
  | nil => exact List.cons_ne_nil _ _
  | cons c t ih => exact List.append_ne_nil_of_right_ne_nil _ ih

theorem insideAs_false : insideAs false = inside :=
  rfl

theorem inside_ne_nil (t tail : Text) : inside t tail ≠ [] :=
  insideAs_ne_nil false t tail

/-- A written string is read back, and what follows it is left. -/
theorem readText_inside (opening : Nat) (t tail : Text) :
    readText opening (inside t tail) = .ok (t, tail) := by
  induction t with
  | nil => exact readText_quote tail
  | cons c t ih =>
      change readText opening (escape false c ++ inside t tail) = _
      rw [readText_escape c (inside_ne_nil t tail), ih]
      rfl

theorem writeText_eq (t tail : Text) :
    writeText false t tail = CodePoint.ofChar '\x22' :: inside t tail :=
  rfl

end Json
end RuleDraft
