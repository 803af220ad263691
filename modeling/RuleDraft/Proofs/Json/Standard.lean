import RuleDraft.Proofs.Json.Grammar
import RuleDraft.Proofs.Json.Layout

/-!
# Written values and the grammar

In every layout without escapes of its own, a value is written as a document of the
grammar exactly when all of its floating-point numbers are finite.  Any other number
is written as a foreign word, outside of all strings.
-/

namespace RuleDraft
namespace Value

mutual

/-- Every floating-point number in the value is finite. -/
def IsFinite : Value → Prop
  | .float x => x.isFinite = true
  | .list vs => ItemsFinite vs
  | .object fs => FieldsFinite fs
  | _ => True

def ItemsFinite : List Value → Prop
  | [] => True
  | v :: vs => v.IsFinite ∧ ItemsFinite vs

def FieldsFinite : List (Text × Value) → Prop
  | [] => True
  | (_, v) :: fs => v.IsFinite ∧ FieldsFinite fs

end

@[simp] theorem isFinite_bool (b : Bool) : (Value.bool b).IsFinite := trivial

@[simp] theorem isFinite_text (t : Text) : (Value.text t).IsFinite := trivial

theorem itemsFinite_iff {vs : List Value} : ItemsFinite vs ↔ ∀ v ∈ vs, v.IsFinite := by
  induction vs with
  | nil => simp [ItemsFinite]
  | cons v vs ih => rw [ItemsFinite, ih, List.forall_mem_cons]

theorem fieldsFinite_iff {fs : List (Text × Value)} :
    FieldsFinite fs ↔ ∀ f ∈ fs, f.2.IsFinite := by
  induction fs with
  | nil => simp [FieldsFinite]
  | cons f fs ih => rw [FieldsFinite, ih, List.forall_mem_cons]

end Value

namespace Json

open Text Value

variable {s : Style} {t : Text}

/-!
# Strings
-/

theorem length_hexPadded (digit : Nat → CodePoint) (width n : Nat) :
    (hexPadded digit width n).length = width := by
  induction width generalizing n with
  | zero => rfl
  | succ width ih => rw [hexPadded, List.length_append, ih, List.length_singleton]

theorem isSome_hexValue?_of_mem_hexPadded {width n : Nat} :
    ∀ d ∈ hexPadded CodePoint.hexDigit width n, d.hexValue?.isSome = true := by
  induction width generalizing n with
  | zero =>
      intro d hd
      cases hd
  | succ width ih =>
      intro d hd
      rcases List.mem_append.mp hd with hd | hd
      · exact ih d hd
      · rw [List.mem_singleton.mp hd, hexValue?_hexDigit (Nat.mod_lt n (by decide))]
        rfl

theorem mem_of_shortEscape? {c : CodePoint} {letter : Char} (h : shortEscape? c = some letter) :
    CodePoint.ofChar letter ∈ ofString "\x22\\/bfnrt" := by
  unfold shortEscape? at h
  split at h
  case h_8 => cases h
  all_goals
    cases h
    decide

theorem chars_escape (c : CodePoint) (ht : Chars t) : Chars (escape false c ++ t) := by
  unfold escape
  cases hshort : shortEscape? c with
  | some letter => exact .letter (mem_of_shortEscape? hshort) ht
  | none =>
      by_cases hsize : c.val < 0x20
      · simp only [if_pos hsize]
        exact .unit (length_hexPadded _ 4 c.val) isSome_hexValue?_of_mem_hexPadded ht
      · simp only [if_neg hsize, Bool.false_and, Bool.false_eq_true, if_false]
        refine .plain (Nat.le_of_not_lt hsize) ?_ ?_ ht
        · rintro rfl
          cases hshort
        · rintro rfl
          cases hshort

/-- The inside of a string is a content of the grammar, with the closing quote. -/
theorem inside_eq (t : Text) :
    ∃ content, Chars content ∧
      ∀ tail, inside t tail = content ++ CodePoint.ofChar '\x22' :: tail := by
  induction t with
  | nil => exact ⟨[], .nil, fun _ => rfl⟩
  | cons c t ih =>
      rcases ih with ⟨content, hcontent, heq⟩
      refine ⟨escape false c ++ content, chars_escape c hcontent, ?_⟩
      intro tail
      change escape false c ++ inside t tail = _
      rw [heq tail, List.append_assoc]

/-!
# Numbers
-/

theorem number_ofInt (i : Int) : Number (ofInt i) := by
  have hread := wholePart?_ofNat i.natAbs stops_nil
  rw [List.append_nil] at hread
  refine ⟨decide (i < 0), ofNat i.natAbs, [], [], (eq_of_wholePart? hread).left, Or.inl rfl,
    Or.inl rfl, ?_⟩
  rw [ofInt_eq_signed, List.append_nil, List.append_nil]

theorem number_write_finite (negative : Bool) (m : Fin Binary64.ordinalBound) :
    Number (FloatLayout.document.write (.finite negative m)) := by
  have hread := readNumber_finite FloatLayout.document negative m stops_nil
  rw [List.append_nil] at hread
  rcases number_of_readNumber hread with ⟨n, hn, heq⟩
  rw [heq, List.append_nil]
  exact hn

/-- A property of all that numbers are written with, and the words for no number, floats have. -/
theorem forall_mem_write_float {P : CodePoint → Prop} (hnumber : ∀ c, InNumber c → P c)
    (hwords : ∀ c ∈ ofString "-InfinityNaN", P c) (x : Binary64) :
    ∀ c ∈ FloatLayout.document.write x, P c := by
  cases x with
  | finite negative m =>
      exact fun c hc => hnumber c ((number_write_finite negative m).inNumber c hc)
  | infinite negative =>
      cases negative with
      | true =>
          exact fun c hc =>
            hwords c ((by decide : ofString "-Infinity" ⊆ ofString "-InfinityNaN") hc)
      | false =>
          exact fun c hc =>
            hwords c ((by decide : ofString "Infinity" ⊆ ofString "-InfinityNaN") hc)
  | nan =>
      exact fun c hc => hwords c ((by decide : ofString "NaN" ⊆ ofString "-InfinityNaN") hc)

/-!
# Finite values are documents of the grammar
-/

mutual

-- The tail of the writer is what the grammar says follows the part.
theorem starts_write (hs : s.Spaced) : ∀ (v : Value) (depth : Nat) (tail : Text),
    v.IsFinite → Starts .value (write s depth v tail) tail
  | .null, _, _, _ => .word (w := "null") (by decide)
  | .bool true, _, _, _ => .word (w := "true") (by decide)
  | .bool false, _, _, _ => .word (w := "false") (by decide)
  | .int i, _, _, _ => by
      rw [write]
      exact .number (number_ofInt i)
  | .float x, _, _, hfinite => by
      rw [write]
      cases x with
      | finite negative m => exact .number (number_write_finite negative m)
      | infinite negative => cases hfinite
      | nan => cases hfinite
  | .text t, _, tail, _ => by
      rcases inside_eq t with ⟨content, hcontent, heq⟩
      rw [write, hs.asciiOnly, writeText_eq, heq]
      exact .string hcontent
  | .list [], _, _, _ => by
      rw [write]
      exact .emptyList blanks_nil
  | .list (v :: vs), depth, tail, hfinite => by
      rcases edge_eq s (depth + 1) with ⟨w, hw, hopening⟩
      rcases edge_eq s depth with ⟨w', hw', hclosing⟩
      rw [write_list, hopening, hclosing]
      exact .list hw hw'
        (starts_items hs (v :: vs) (depth + 1) _ (List.cons_ne_nil v vs) hfinite)
  | .object [], _, _, _ => by
      rw [write]
      exact .emptyObject blanks_nil
  | .object (f :: fs), depth, tail, hfinite => by
      rcases edge_eq s (depth + 1) with ⟨w, hw, hopening⟩
      rcases edge_eq s depth with ⟨w', hw', hclosing⟩
      rw [write_object, hopening, hclosing]
      exact .object hw hw'
        (starts_fields hs (f :: fs) (depth + 1) _ (List.cons_ne_nil f fs) hfinite)

theorem starts_items (hs : s.Spaced) : ∀ (vs : List Value) (depth : Nat) (tail : Text),
    vs ≠ [] → ItemsFinite vs → Starts (.several .value) (itemsText s depth vs tail) tail
  | [], _, _, hne, _ => absurd rfl hne
  | [v], depth, tail, _, hfinite => by
      rw [itemsText, writeItems]
      exact .last (starts_write hs v depth tail hfinite.left)
  | v :: w :: ws, depth, tail, _, hfinite => by
      rw [itemsText, writeItems_cons]
      rcases comma_eq hs.airy depth (itemsText s depth (w :: ws) tail)
        with ⟨spaces, hspaces, hcomma⟩
      have hfirst := starts_write hs v depth (s.comma depth (itemsText s depth (w :: ws) tail))
        hfinite.left
      rw [hcomma] at hfirst ⊢
      exact .more blanks_nil hspaces hfirst
        (starts_items hs (w :: ws) depth tail (List.cons_ne_nil w ws) hfinite.right)

theorem starts_fields (hs : s.Spaced) :
    ∀ (fs : List (Text × Value)) (depth : Nat) (tail : Text),
      fs ≠ [] → FieldsFinite fs → Starts (.several .member) (fieldsText s depth fs tail) tail
  | [], _, _, hne, _ => absurd rfl hne
  | [(k, v)], depth, tail, _, hfinite => by
      rcases inside_eq k with ⟨content, hcontent, heq⟩
      rw [fieldsText_eq hs, writeFields, heq]
      exact .last (.member hcontent blanks_nil hs.afterColon
        (starts_write hs v depth tail hfinite.left))
  | (k, v) :: g :: gs, depth, tail, _, hfinite => by
      rcases inside_eq k with ⟨content, hcontent, heq⟩
      rw [fieldsText_eq hs, writeFields_cons, heq]
      rcases comma_eq hs.airy depth (fieldsText s depth (g :: gs) tail)
        with ⟨spaces, hspaces, hcomma⟩
      have hfirst := starts_write hs v depth (s.comma depth (fieldsText s depth (g :: gs) tail))
        hfinite.left
      rw [hcomma] at hfirst ⊢
      exact .more blanks_nil hspaces (.member hcontent blanks_nil hs.afterColon hfirst)
        (starts_fields hs (g :: gs) depth tail (List.cons_ne_nil g gs) hfinite.right)

end

/-!
# Other values show a foreign word

A number that is infinite or not a number stands outside of the strings of the text.
-/

/-- Outside of strings, a foreign word stands before the rest unless the condition holds. -/
def Shows (p : Prop) (t rest : Text) : Prop := Passes (fun front => p ∨ Foreign front) t rest

section Shows

variable {p q : Prop} {u rest : Text}

theorem Shows.trans (ht : Shows p t u) (hu : Shows q u rest) : Shows (p ∧ q) t rest := by
  refine Passes.trans ht hu ?_
  rintro a b (hp | ⟨word, hword, ha⟩) (hq | ⟨word', hword', hb⟩)
  · exact Or.inl ⟨hp, hq⟩
  · exact Or.inr ⟨word', hword', hb.trans (List.suffix_append a b).isInfix⟩
  · exact Or.inr ⟨word, hword, ha.trans (List.prefix_append a b).isInfix⟩
  · exact Or.inr ⟨word, hword, ha.trans (List.prefix_append a b).isInfix⟩

theorem Shows.of_passes {P : Text → Prop} (h : Passes P t rest) : Shows True t rest :=
  Passes.mono h fun _ _ => Or.inl trivial

theorem Shows.before {P : Text → Prop} (h : Passes P t u) (hu : Shows q u rest) :
    Shows q t rest :=
  Passes.mono ((Shows.of_passes h).trans hu) fun _ => Or.imp_left And.right

theorem Shows.behind {P : Text → Prop} (ht : Shows p t u) (h : Passes P u rest) :
    Shows p t rest :=
  Passes.mono (ht.trans (Shows.of_passes h)) fun _ => Or.imp_left And.left

theorem shows_foreign (word : String) (hword : word ∈ foreignWords) (rest : Text) :
    Shows p (ofString word ++ rest) rest := by
  have hquote : ∀ c ∈ ofString word, c ≠ CodePoint.ofChar '\x22' := by
    intro c hc
    simp only [foreignWords, List.mem_cons, List.not_mem_nil, or_false] at hword
    rcases hword with rfl | rfl | rfl
    all_goals
      rintro rfl
      exact absurd hc (by decide)
  apply (passes_unquoted hquote rest).mono
  rintro _ rfl
  exact Or.inr ⟨word, hword, List.infix_refl _⟩

end Shows

theorem passes_opening {mark : CodePoint} (h : mark ∈ ofString "[]\x7b\x7d,:") (s : Style)
    (depth : Nat) (rest : Text) : Passes Plain (mark :: s.edge depth rest) rest := by
  rcases edge_eq s depth with ⟨spaces, hspaces, heq⟩
  rw [heq]
  exact (passes_plain_mark h _).plain_trans (passes_plain_blanks hspaces rest)

theorem passes_closing {mark : CodePoint} (h : mark ∈ ofString "[]\x7b\x7d,:") (s : Style)
    (depth : Nat) (rest : Text) : Passes Plain (s.edge depth (mark :: rest)) rest := by
  rcases edge_eq s depth with ⟨spaces, hspaces, heq⟩
  rw [heq]
  exact (passes_plain_blanks hspaces _).plain_trans (passes_plain_mark h rest)

theorem passes_comma (hs : s.Spaced) (depth : Nat) (rest : Text) :
    Passes Plain (s.comma depth rest) rest := by
  rcases comma_eq hs.airy depth rest with ⟨spaces, hspaces, heq⟩
  rw [heq]
  exact (passes_plain_mark (by decide) _).plain_trans (passes_plain_blanks hspaces rest)

theorem passes_inside (t rest : Text) :
    Passes Plain (CodePoint.ofChar '\x22' :: inside t rest) rest := by
  rcases inside_eq t with ⟨content, hcontent, heq⟩
  rw [heq]
  exact passes_plain_string hcontent rest

theorem passes_key (hs : s.Spaced) (k rest : Text) :
    Passes Plain
      (CodePoint.ofChar '\x22' :: inside k (CodePoint.ofChar ':' ::
        (ofString s.afterColon ++ rest))) rest :=
  ((passes_inside k _).plain_trans (passes_plain_mark (by decide) _)).plain_trans
    (passes_plain_blanks hs.afterColon rest)

mutual

-- The recursion is that of the writer; of all that it writes, only a number that is not
-- finite can show a foreign word.
theorem shows_write (hs : s.Spaced) : ∀ (v : Value) (depth : Nat) (tail : Text),
    Shows v.IsFinite (write s depth v tail) tail
  | .null, _, tail => .of_passes (passes_plain_word "null" (by decide) tail)
  | .bool true, _, tail => .of_passes (passes_plain_word "true" (by decide) tail)
  | .bool false, _, tail => .of_passes (passes_plain_word "false" (by decide) tail)
  | .int i, _, tail => by
      rw [write]
      exact .of_passes (passes_plain_number (number_ofInt i) tail)
  | .float x, _, tail => by
      rw [write]
      cases x with
      | finite negative m =>
          exact (Shows.of_passes (passes_plain_number (number_write_finite negative m) tail)).mono
            fun _ => Or.imp_left fun _ => rfl
      | infinite negative =>
          cases negative with
          | true => exact shows_foreign "-Infinity" (by decide) tail
          | false => exact shows_foreign "Infinity" (by decide) tail
      | nan => exact shows_foreign "NaN" (by decide) tail
  | .text t, _, tail => by
      rw [write, hs.asciiOnly, writeText_eq]
      exact .of_passes (passes_inside t tail)
  | .list [], _, tail => by
      rw [write]
      exact .of_passes ((passes_plain_mark (by decide) _).plain_trans
        (passes_plain_mark (by decide) tail))
  | .list (v :: vs), depth, tail => by
      rw [write_list]
      exact ((shows_items hs (v :: vs) (depth + 1) _).before
        (passes_opening (by decide) s (depth + 1) _)).behind
          (passes_closing (by decide) s depth tail)
  | .object [], _, tail => by
      rw [write]
      exact .of_passes ((passes_plain_mark (by decide) _).plain_trans
        (passes_plain_mark (by decide) tail))
  | .object (f :: fs), depth, tail => by
      rw [write_object]
      exact ((shows_fields hs (f :: fs) (depth + 1) _).before
        (passes_opening (by decide) s (depth + 1) _)).behind
          (passes_closing (by decide) s depth tail)

theorem shows_items (hs : s.Spaced) : ∀ (vs : List Value) (depth : Nat) (tail : Text),
    Shows (ItemsFinite vs) (itemsText s depth vs tail) tail
  | [], _, _ => ⟨[], Or.inl trivial, rfl⟩
  | [v], depth, tail => by
      rw [itemsText, writeItems]
      exact (shows_write hs v depth tail).mono fun _ => Or.imp_left fun h => ⟨h, trivial⟩
  | v :: w :: ws, depth, tail => by
      rw [itemsText, writeItems_cons]
      exact (shows_write hs v depth _).trans
        ((shows_items hs (w :: ws) depth tail).before (passes_comma hs depth _))

theorem shows_fields (hs : s.Spaced) :
    ∀ (fs : List (Text × Value)) (depth : Nat) (tail : Text),
      Shows (FieldsFinite fs) (fieldsText s depth fs tail) tail
  | [], _, _ => ⟨[], Or.inl trivial, rfl⟩
  | [(k, v)], depth, tail => by
      rw [fieldsText_eq hs, writeFields]
      exact ((shows_write hs v depth tail).before (passes_key hs k _)).mono
        fun _ => Or.imp_left fun h => ⟨h, trivial⟩
  | (k, v) :: g :: gs, depth, tail => by
      rw [fieldsText_eq hs, writeFields_cons]
      exact ((shows_write hs v depth _).before (passes_key hs k _)).trans
        ((shows_fields hs (g :: gs) depth tail).before (passes_comma hs depth _))

end

/-!
# The exact condition
-/

theorem standard_render_iff (hs : s.Spaced) (v : Value) : Standard (render s v) ↔ v.IsFinite := by
  constructor
  · intro hstandard
    rcases shows_write hs v 0 [] with ⟨front, hfinite | hforeign, heq⟩
    · exact hfinite
    · have hplain := hstandard.plain
      rw [render, heq] at hplain
      exact absurd hforeign (Plain.not_foreign fun c hc => hplain c (List.mem_append_left _ hc))
  · intro hfinite
    exact ⟨[], render s v, [], blanks_nil, blanks_nil, rfl, starts_write hs v 0 [] hfinite⟩

theorem foreign_render_iff (hs : s.Spaced) (v : Value) :
    Foreign (outside (render s v)) ↔ ¬ v.IsFinite := by
  constructor
  · intro hforeign hfinite
    exact ((standard_render_iff hs v).mpr hfinite).plain.not_foreign hforeign
  · intro hother
    rcases shows_write hs v 0 [] with ⟨front, hfinite | ⟨word, hword, hstands⟩, heq⟩
    · exact absurd hfinite hother
    · refine ⟨word, hword, ?_⟩
      rw [render, heq]
      exact hstands.trans (List.prefix_append front _).isInfix

end Json
end RuleDraft
