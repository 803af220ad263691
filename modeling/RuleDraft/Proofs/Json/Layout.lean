import RuleDraft.Proofs.Json.Tokens

/-!
# The layout of written values

A written value starts with a code point that opens a value, and is longer than what
follows it.  The items of a list and the fields of an object are written one after
the other, each but the first behind a comma.
-/

namespace RuleDraft
namespace Json

open Text

/-- The style puts nothing but spaces after commas and colons, and escapes what it must. -/
structure Style.Spaced (s : Style) : Prop where
  afterComma : ∀ c ∈ ofString s.afterComma, isSpace c = true
  afterColon : ∀ c ∈ ofString s.afterColon, isSpace c = true
  asciiOnly : s.asciiOnly = false

structure Style.Airy (s : Style) : Prop where
  afterComma : ∀ c ∈ ofString s.afterComma, isSpace c = true
  afterColon : ∀ c ∈ ofString s.afterColon, isSpace c = true

theorem Style.Spaced.airy {s : Style} (hs : s.Spaced) : s.Airy :=
  ⟨hs.afterComma, hs.afterColon⟩

theorem Style.compact_spaced : Style.compact.Spaced := by
  refine ⟨?_, ?_, rfl⟩
  · intro c hc
    cases hc
  · intro c hc
    cases hc

theorem isSpace_of_mem_space : ∀ c ∈ ofString " ", isSpace c = true := by
  intro c hc
  have hspace : ofString " " = [CodePoint.ofChar ' '] := rfl
  rw [hspace] at hc
  rw [List.mem_singleton.mp hc]
  decide

theorem Style.pretty_spaced (indent : Int) : (Style.pretty indent).Spaced := by
  refine ⟨?_, isSpace_of_mem_space, rfl⟩
  intro c hc
  cases hc

theorem Style.asciiLine_airy : Style.asciiLine.Airy :=
  ⟨isSpace_of_mem_space, isSpace_of_mem_space⟩

/-- Items from the first on, in front of a tail. -/
def itemsText (s : Style) (depth : Nat) : List Value → Text → Text
  | [], tail => tail
  | v :: vs, tail => write s depth v (writeItems s depth vs tail)

def fieldsText (s : Style) (depth : Nat) : List (Text × Value) → Text → Text
  | [], tail => tail
  | (k, v) :: fs, tail =>
      writeText s.asciiOnly k (CodePoint.ofChar ':' ::
        (ofString s.afterColon ++ write s depth v (writeFields s depth fs tail)))

variable {s : Style} {depth : Nat} {rest tail : Text}

theorem write_list (v : Value) (vs : List Value) :
    write s depth (.list (v :: vs)) tail =
      CodePoint.ofChar '[' :: s.edge (depth + 1)
        (itemsText s (depth + 1) (v :: vs) (s.edge depth (CodePoint.ofChar ']' :: tail))) := by
  rw [write]
  rfl

theorem write_object (f : Text × Value) (fs : List (Text × Value)) :
    write s depth (.object (f :: fs)) tail =
      CodePoint.ofChar '\x7b' :: s.edge (depth + 1)
        (fieldsText s (depth + 1) (f :: fs)
          (s.edge depth (CodePoint.ofChar '\x7d' :: tail))) := by
  rw [write]
  rfl

theorem writeItems_cons (v : Value) (vs : List Value) :
    writeItems s depth (v :: vs) tail = s.comma depth (itemsText s depth (v :: vs) tail) := by
  rw [writeItems]
  rfl

theorem writeFields_cons (f : Text × Value) (fs : List (Text × Value)) :
    writeFields s depth (f :: fs) tail = s.comma depth (fieldsText s depth (f :: fs) tail) := by
  rw [writeFields]
  rfl

/-!
# Lengths
-/

theorem length_le_edge (s : Style) (depth : Nat) (tail : Text) :
    tail.length ≤ (s.edge depth tail).length := by
  rcases edge_eq s depth with ⟨spaces, _, heq⟩
  rw [heq, List.length_append]
  exact Nat.le_add_left _ _

theorem length_lt_comma (s : Style) (depth : Nat) (tail : Text) :
    tail.length < (s.comma depth tail).length := by
  cases hindent : s.indent with
  | none =>
      simp only [Style.comma, hindent, List.length_cons, List.length_append]
      omega
  | some n =>
      have hedge : tail.length ≤ (s.edge depth tail).length := length_le_edge s depth tail
      simp only [Style.comma, hindent, List.length_cons]
      omega

theorem length_lt_writeText (asciiOnly : Bool) (t tail : Text) :
    tail.length < (writeText asciiOnly t tail).length := by
  have hfold : tail.length <
      (t.foldr (fun c rest => escape asciiOnly c ++ rest)
        (CodePoint.ofChar '\x22' :: tail)).length := by
    induction t with
    | nil => exact Nat.lt_succ_self _
    | cons c t ih =>
        rw [List.foldr_cons, List.length_append]
        omega
  exact Nat.lt_succ_of_lt hfold

theorem length_lt_append {t : Text} (h : t ≠ []) : tail.length < (t ++ tail).length := by
  have hpos := List.length_pos_iff.mpr h
  rw [List.length_append]
  omega

theorem signed_ne_nil {negative : Bool} {c : CodePoint} {rest : Text} :
    signed negative (c :: rest) ≠ [] := by
  cases negative with
  | true => exact List.cons_ne_nil _ _
  | false => exact List.cons_ne_nil _ _

/-- A finite number is written with digits, behind a sign or not. -/
theorem write_finite_eq (negative : Bool) (m : Fin Binary64.ordinalBound) :
    ∃ negative' c rest,
      FloatLayout.document.write (.finite negative m) = signed negative' (c :: rest) ∧
        c.isAsciiDigit = true := by
  have hread := readNumber_finite FloatLayout.document negative m stops_nil
  rw [List.append_nil] at hread
  exact head_of_readNumber hread

theorem ofInt_eq (i : Int) :
    ∃ negative c rest, ofInt i = signed negative (c :: rest) ∧ c.isAsciiDigit = true := by
  cases hdigits : ofNat i.natAbs with
  | nil => exact absurd hdigits (ofNat_ne_nil _)
  | cons c rest =>
      refine ⟨decide (i < 0), c, rest, ?_, ?_⟩
      · rw [ofInt_eq_signed, hdigits]
      · apply isAsciiDigit_of_mem_ofNat (n := i.natAbs)
        rw [hdigits]
        exact List.mem_cons_self

/-!
# The first code point
-/

def Opens (t : Text) : Prop :=
  ∃ c rest, t = c :: rest ∧ 0x20 < c.val ∧ c.val < 0x7F ∧
    c ≠ CodePoint.ofChar ']' ∧ c ≠ CodePoint.ofChar '\x7d'

theorem Opens.append {t : Text} (h : Opens t) (rest : Text) : Opens (t ++ rest) := by
  rcases h with ⟨c, more, rfl, hc⟩
  exact ⟨c, more ++ rest, rfl, hc⟩

theorem opens_signed {negative : Bool} {c : CodePoint} {rest : Text}
    (hdigit : c.isAsciiDigit = true) : Opens (signed negative (c :: rest)) := by
  cases negative with
  | true => exact ⟨CodePoint.ofChar '-', c :: rest, rfl, by decide⟩
  | false =>
      have hrange := CodePoint.isAsciiDigit_iff.mp hdigit
      refine ⟨c, rest, rfl, by omega, by omega, ?_, ?_⟩
      · exact ne_ofChar_of_isAsciiDigit hdigit (by decide)
      · exact ne_ofChar_of_isAsciiDigit hdigit (by decide)

theorem opens_float (x : Binary64) : Opens (FloatLayout.document.write x) := by
  cases x with
  | finite negative m =>
      rcases write_finite_eq negative m with ⟨_, _, _, heq, hdigit⟩
      rw [heq]
      exact opens_signed hdigit
  | infinite negative =>
      cases negative with
      | true => exact ⟨_, _, rfl, by decide⟩
      | false => exact ⟨_, _, rfl, by decide⟩
  | nan => exact ⟨_, _, rfl, by decide⟩

theorem opens_write (s : Style) (depth : Nat) (v : Value) (tail : Text) :
    Opens (write s depth v tail) := by
  cases v with
  | null => exact ⟨CodePoint.ofChar 'n', _, rfl, by decide⟩
  | bool b =>
      cases b with
      | true => exact ⟨CodePoint.ofChar 't', _, rfl, by decide⟩
      | false => exact ⟨CodePoint.ofChar 'f', _, rfl, by decide⟩
  | int i =>
      rcases ofInt_eq i with ⟨_, _, _, heq, hdigit⟩
      rw [write, heq]
      exact (opens_signed hdigit).append tail
  | float x =>
      rw [write]
      exact (opens_float x).append tail
  | text t =>
      rw [write]
      exact ⟨CodePoint.ofChar '\x22', _, rfl, by decide⟩
  | list vs =>
      cases vs with
      | nil => exact ⟨CodePoint.ofChar '[', _, rfl, by decide⟩
      | cons v vs => exact ⟨CodePoint.ofChar '[', _, write_list v vs, by decide⟩
  | object fs =>
      cases fs with
      | nil => exact ⟨CodePoint.ofChar '\x7b', _, rfl, by decide⟩
      | cons f fs => exact ⟨CodePoint.ofChar '\x7b', _, write_object f fs, by decide⟩

theorem skipSpace_of_opens {t : Text} (h : Opens t) : skipSpace t = t := by
  rcases h with ⟨c, rest, rfl, hc, _⟩
  exact skipSpace_cons (isSpace_eq_false hc)

theorem Opens.ne_nil {t : Text} (h : Opens t) : t ≠ [] := by
  rcases h with ⟨c, rest, rfl, _⟩
  exact List.cons_ne_nil c rest

mutual

theorem length_lt_write (s : Style) : ∀ (v : Value) (depth : Nat) (tail : Text),
    tail.length < (write s depth v tail).length
  | .null, _, _ => length_lt_append (by decide)
  | .bool true, _, _ => length_lt_append (by decide)
  | .bool false, _, _ => length_lt_append (by decide)
  | .int i, _, _ => by
      rcases ofInt_eq i with ⟨_, _, _, heq, _⟩
      rw [write, heq]
      exact length_lt_append signed_ne_nil
  | .float x, _, _ => by
      rw [write]
      exact length_lt_append (opens_float x).ne_nil
  | .text t, _, _ => by
      rw [write]
      exact length_lt_writeText s.asciiOnly t _
  | .list [], _, tail => by
      rw [write, List.length_cons, List.length_cons]
      omega
  | .list (v :: vs), depth, tail => by
      rw [write, List.length_cons]
      calc tail.length ≤ (CodePoint.ofChar ']' :: tail).length := Nat.le_succ _
        _ ≤ (s.edge depth (CodePoint.ofChar ']' :: tail)).length := length_le_edge s depth _
        _ ≤ (writeItems s (depth + 1) vs _).length := length_le_writeItems s vs (depth + 1) _
        _ ≤ (write s (depth + 1) v _).length := Nat.le_of_lt (length_lt_write s v (depth + 1) _)
        _ ≤ (s.edge (depth + 1) _).length := length_le_edge s (depth + 1) _
        _ < _ := Nat.lt_succ_self _
  | .object [], _, tail => by
      rw [write, List.length_cons, List.length_cons]
      omega
  | .object ((k, v) :: fs), depth, tail => by
      rw [write, List.length_cons]
      calc tail.length ≤ (CodePoint.ofChar '\x7d' :: tail).length := Nat.le_succ _
        _ ≤ (s.edge depth (CodePoint.ofChar '\x7d' :: tail)).length := length_le_edge s depth _
        _ ≤ (writeFields s (depth + 1) fs _).length := length_le_writeFields s fs (depth + 1) _
        _ ≤ (write s (depth + 1) v _).length := Nat.le_of_lt (length_lt_write s v (depth + 1) _)
        _ ≤ (CodePoint.ofChar ':' :: (ofString s.afterColon ++ write s (depth + 1) v _)).length :=
            by
              rw [List.length_cons, List.length_append]
              omega
        _ ≤ (writeText s.asciiOnly k _).length := Nat.le_of_lt (length_lt_writeText _ k _)
        _ ≤ (s.edge (depth + 1) _).length := length_le_edge s (depth + 1) _
        _ < _ := Nat.lt_succ_self _

theorem length_le_writeItems (s : Style) : ∀ (vs : List Value) (depth : Nat) (tail : Text),
    tail.length ≤ (writeItems s depth vs tail).length
  | [], _, _ => Nat.le_refl _
  | v :: vs, depth, tail => by
      rw [writeItems]
      calc tail.length ≤ (writeItems s depth vs tail).length := length_le_writeItems s vs depth tail
        _ ≤ (write s depth v _).length := Nat.le_of_lt (length_lt_write s v depth _)
        _ ≤ (s.comma depth _).length := Nat.le_of_lt (length_lt_comma s depth _)

theorem length_le_writeFields (s : Style) :
    ∀ (fs : List (Text × Value)) (depth : Nat) (tail : Text),
      tail.length ≤ (writeFields s depth fs tail).length
  | [], _, _ => Nat.le_refl _
  | (k, v) :: fs, depth, tail => by
      rw [writeFields]
      calc tail.length ≤ (writeFields s depth fs tail).length :=
            length_le_writeFields s fs depth tail
        _ ≤ (write s depth v _).length := Nat.le_of_lt (length_lt_write s v depth _)
        _ ≤ (CodePoint.ofChar ':' :: (ofString s.afterColon ++ write s depth v _)).length := by
              rw [List.length_cons, List.length_append]
              omega
        _ ≤ (writeText s.asciiOnly k _).length := Nat.le_of_lt (length_lt_writeText _ k _)
        _ ≤ (s.comma depth _).length := Nat.le_of_lt (length_lt_comma s depth _)

end

/-!
# What stands between parts
-/

theorem comma_eq (hs : s.Airy) (depth : Nat) (rest : Text) :
    ∃ spaces, (∀ c ∈ spaces, isSpace c = true) ∧
      s.comma depth rest = CodePoint.ofChar ',' :: (spaces ++ rest) := by
  cases hindent : s.indent with
  | none =>
      refine ⟨ofString s.afterComma, hs.afterComma, ?_⟩
      simp only [Style.comma, hindent]
  | some n =>
      rcases edge_eq s depth with ⟨spaces, hspaces, heq⟩
      refine ⟨spaces, hspaces, ?_⟩
      simp only [Style.comma, hindent, heq]

theorem skipSpace_comma (hs : s.Airy) (depth : Nat) {rest : Text} (hrest : Opens rest) :
    ∃ more, skipSpace (s.comma depth rest) = CodePoint.ofChar ',' :: more ∧
      skipSpace more = rest := by
  rcases comma_eq hs depth rest with ⟨spaces, hspaces, heq⟩
  refine ⟨spaces ++ rest, ?_, ?_⟩
  · rw [heq]
    exact skipSpace_cons (by decide)
  · rw [skipSpace_append hspaces, skipSpace_of_opens hrest]

theorem stops_comma : Stops continuesNumber (s.comma depth rest) :=
  stops_cons.mpr (by decide)

theorem stops_edge (h : Stops continuesNumber rest) :
    Stops continuesNumber (s.edge depth rest) := by
  cases hindent : s.indent with
  | none =>
      simp only [Style.edge, hindent]
      exact h
  | some n =>
      simp only [Style.edge, hindent]
      exact stops_cons.mpr (by decide)

theorem stops_closing {close : CodePoint} (h : continuesNumber close = false) :
    Stops continuesNumber (s.edge depth (close :: rest)) :=
  stops_edge (stops_cons.mpr h)

theorem skipSpace_closing {close : CodePoint} (h : isSpace close = false) :
    skipSpace (s.edge depth (close :: rest)) = close :: rest := by
  rw [skipSpace_edge, skipSpace_cons h]

theorem opens_itemsText (v : Value) (vs : List Value) :
    Opens (itemsText s depth (v :: vs) tail) :=
  opens_write s depth v _

/-- The text of fields, from the first key on. -/
theorem fieldsText_cons (k : Text) (v : Value) (fs : List (Text × Value)) :
    fieldsText s depth ((k, v) :: fs) tail =
      CodePoint.ofChar '\x22' :: insideAs s.asciiOnly k (CodePoint.ofChar ':' ::
        (ofString s.afterColon ++ write s depth v (writeFields s depth fs tail))) :=
  rfl

theorem fieldsText_eq (hs : s.Spaced) (k : Text) (v : Value) (fs : List (Text × Value)) :
    fieldsText s depth ((k, v) :: fs) tail =
      CodePoint.ofChar '\x22' :: inside k (CodePoint.ofChar ':' ::
        (ofString s.afterColon ++ write s depth v (writeFields s depth fs tail))) := by
  rw [fieldsText_cons, hs.asciiOnly, insideAs_false]

theorem stops_writeItems (vs : List Value) (h : Stops continuesNumber rest) :
    Stops continuesNumber (writeItems s depth vs rest) := by
  cases vs with
  | nil => exact h
  | cons v vs =>
      rw [writeItems_cons]
      exact stops_comma

theorem stops_writeFields (fs : List (Text × Value)) (h : Stops continuesNumber rest) :
    Stops continuesNumber (writeFields s depth fs rest) := by
  cases fs with
  | nil => exact h
  | cons f fs =>
      rw [writeFields_cons]
      exact stops_comma

theorem opens_fieldsText (f : Text × Value) (fs : List (Text × Value)) :
    Opens (fieldsText s depth (f :: fs) tail) :=
  ⟨_, _, fieldsText_cons f.1 f.2 fs, by decide⟩

/-- What stands between a key and its value is skipped. -/
theorem skipSpace_colon (hs : s.Airy) (hrest : Opens rest) :
    skipSpace (ofString s.afterColon ++ rest) = rest := by
  rw [skipSpace_append hs.afterColon, skipSpace_of_opens hrest]

theorem length_lt_fieldsText (s : Style) (depth : Nat) (k : Text) (v : Value)
    (fs : List (Text × Value)) (tail : Text) :
    (write s depth v (writeFields s depth fs tail)).length + 1 <
      (fieldsText s depth ((k, v) :: fs) tail).length := by
  rw [fieldsText]
  have hkey := length_lt_writeText s.asciiOnly k (CodePoint.ofChar ':' ::
    (ofString s.afterColon ++ write s depth v (writeFields s depth fs tail)))
  rw [List.length_cons, List.length_append] at hkey
  omega

end Json
end RuleDraft
