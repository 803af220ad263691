import RuleDraft.Proofs.Json.Layout

/-!
# The text determines the value

No two values have the same text in one layout, whatever follows them: the first code
point tells the kind of a value, and each kind is told apart by what it is made of.
There is no limit on integers or on depth here.
-/

namespace RuleDraft
namespace Json

open Text

variable {s : Style} {depth : Nat} {t u rest : Text}

/-!
# Kinds
-/

/-- What the first code point of a written value tells. -/
inductive Kind where
  | null
  | bool (b : Bool)
  | number
  | text
  | list
  | object

def Kind.of : Value → Kind
  | .null => .null
  | .bool b => .bool b
  | .int _ => .number
  | .float _ => .number
  | .text _ => .text
  | .list _ => .list
  | .object _ => .object

def Kind.opened (c : CodePoint) : Kind :=
  if c = CodePoint.ofChar 'n' then .null
  else if c = CodePoint.ofChar 't' then .bool true
  else if c = CodePoint.ofChar 'f' then .bool false
  else if c = CodePoint.ofChar '\x22' then .text
  else if c = CodePoint.ofChar '[' then .list
  else if c = CodePoint.ofChar '\x7b' then .object
  else .number

theorem opened_digit {c : CodePoint} (hdigit : c.isAsciiDigit = true) :
    Kind.opened c = .number := by
  have hne (ch : Char) (hch : (CodePoint.ofChar ch).isAsciiDigit = false) :
      c ≠ CodePoint.ofChar ch :=
    ne_ofChar_of_isAsciiDigit hdigit hch
  rw [Kind.opened, if_neg (hne _ (by decide)), if_neg (hne _ (by decide)),
    if_neg (hne _ (by decide)), if_neg (hne _ (by decide)), if_neg (hne _ (by decide)),
    if_neg (hne _ (by decide))]

theorem opened_signed {negative : Bool} {c : CodePoint} (hdigit : c.isAsciiDigit = true)
    (rest tail : Text) :
    ∃ d more, signed negative (c :: rest) ++ tail = d :: more ∧ Kind.opened d = .number := by
  cases negative with
  | true => exact ⟨_, _, rfl, rfl⟩
  | false => exact ⟨_, _, rfl, opened_digit hdigit⟩

theorem opened_write (s : Style) (depth : Nat) (v : Value) (tail : Text) :
    ∃ c rest, write s depth v tail = c :: rest ∧ Kind.opened c = Kind.of v := by
  cases v with
  | null => exact ⟨CodePoint.ofChar 'n', _, rfl, rfl⟩
  | bool b =>
      cases b with
      | true => exact ⟨CodePoint.ofChar 't', _, rfl, rfl⟩
      | false => exact ⟨CodePoint.ofChar 'f', _, rfl, rfl⟩
  | int i =>
      rcases ofInt_eq i with ⟨_, _, _, heq, hdigit⟩
      rw [write, heq]
      exact opened_signed hdigit _ tail
  | float x =>
      rw [write]
      cases x with
      | finite negative m =>
          rcases write_finite_eq negative m with ⟨_, _, _, heq, hdigit⟩
          rw [heq]
          exact opened_signed hdigit _ tail
      | infinite negative =>
          cases negative with
          | true => exact ⟨CodePoint.ofChar '-', _, rfl, rfl⟩
          | false => exact ⟨CodePoint.ofChar 'I', _, rfl, rfl⟩
      | nan => exact ⟨CodePoint.ofChar 'N', _, rfl, rfl⟩
  | text t =>
      rw [write]
      exact ⟨CodePoint.ofChar '\x22', _, rfl, rfl⟩
  | list vs =>
      cases vs with
      | nil => exact ⟨CodePoint.ofChar '[', _, rfl, rfl⟩
      | cons v vs => exact ⟨CodePoint.ofChar '[', _, write_list v vs, rfl⟩
  | object fs =>
      cases fs with
      | nil => exact ⟨CodePoint.ofChar '\x7b', _, rfl, rfl⟩
      | cons f fs => exact ⟨CodePoint.ofChar '\x7b', _, write_object f fs, rfl⟩

theorem kind_eq_of_write_eq {v w : Value} (h : write s depth v t = write s depth w u) :
    Kind.of v = Kind.of w := by
  rcases opened_write s depth v t with ⟨c, more, hv, hc⟩
  rcases opened_write s depth w u with ⟨d, others, hw, hd⟩
  rw [hv, hw] at h
  rw [← hc, ← hd, (List.cons.inj h).left]

/-!
# Numbers
-/

theorem signed_inj {a b : Bool} {c d : CodePoint} {x y : Text} (hc : c.isAsciiDigit = true)
    (hd : d.isAsciiDigit = true) (h : signed a (c :: x) = signed b (d :: y)) :
    a = b ∧ c :: x = d :: y := by
  have hminus : (CodePoint.ofChar '-').isAsciiDigit = false := by
    decide
  cases a with
  | true =>
      cases b with
      | true => exact ⟨rfl, (List.cons.inj h).right⟩
      | false =>
          have hhead : CodePoint.ofChar '-' = d := (List.cons.inj h).left
          exact absurd hhead.symm (ne_ofChar_of_isAsciiDigit hd hminus)
  | false =>
      cases b with
      | true =>
          have hhead : c = CodePoint.ofChar '-' := (List.cons.inj h).left
          exact absurd hhead (ne_ofChar_of_isAsciiDigit hc hminus)
      | false => exact ⟨rfl, h⟩

theorem exists_digit (n : Nat) (tail : Text) :
    ∃ c rest, ofNat n ++ tail = c :: rest ∧ c.isAsciiDigit = true := by
  cases hdigits : ofNat n with
  | nil => exact absurd hdigits (ofNat_ne_nil n)
  | cons c digits =>
      refine ⟨c, digits ++ tail, rfl, isAsciiDigit_of_mem_ofNat (n := n) c ?_⟩
      rw [hdigits]
      exact List.mem_cons_self

theorem ofInt_append_inj {i j : Int} (ht : Stops continuesNumber t)
    (hu : Stops continuesNumber u) (h : ofInt i ++ t = ofInt j ++ u) : i = j ∧ t = u := by
  rw [ofInt_append, ofInt_append] at h
  rcases exists_digit i.natAbs t with ⟨c, x, hx, hc⟩
  rcases exists_digit j.natAbs u with ⟨d, y, hy, hd⟩
  rw [hx, hy] at h
  rcases signed_inj hc hd h with ⟨hsign, hbody⟩
  rw [← hx, ← hy] at hbody
  have hparts := wholePart?_ofNat i.natAbs (stops_isAsciiDigit ht)
  rw [hbody, wholePart?_ofNat j.natAbs (stops_isAsciiDigit hu)] at hparts
  rcases Prod.mk.inj (Option.some.inj hparts) with ⟨hdigits, htails⟩
  have habs : j.natAbs = i.natAbs := ofNat_injective hdigits
  have hneg : i < 0 ↔ j < 0 := decide_eq_decide.mp hsign
  exact ⟨by omega, htails.symm⟩

theorem float_append_inj {x y : Binary64} (ht : Stops continuesNumber t)
    (hu : Stops continuesNumber u)
    (h : FloatLayout.document.write x ++ t = FloatLayout.document.write y ++ u) :
    x = y ∧ t = u := by
  have hread : readValue 1 0 _ = _ := readValue_float x ht
  rw [h, readValue_float y hu] at hread
  rcases Prod.mk.inj (Except.ok.inj hread) with ⟨hvalue, htails⟩
  exact ⟨(Value.float.inj hvalue).symm, htails.symm⟩

/-- What is read in place of an integer is never a floating-point number. -/
theorem ofInt_append_ne_float {i : Int} {x : Binary64} (ht : Stops continuesNumber t)
    (hu : Stops continuesNumber u) : ofInt i ++ t ≠ FloatLayout.document.write x ++ u := by
  intro h
  have hread : readValue 1 0 _ = _ := readValue_float x hu
  rw [← h, ofInt_append] at hread
  rcases exists_digit i.natAbs t with ⟨c, rest, hc, hdigit⟩
  rw [hc, readValue_signed _ hdigit, ← hc,
    readNumber_signed _ (wholePart?_ofNat _ (stops_isAsciiDigit ht)), readBehind,
    fractionPart?_eq_none ht, exponentPart?_eq_none ht] at hread
  dsimp only at hread
  by_cases hlong : digitLimit < (ofNat i.natAbs).length
  · rw [if_pos hlong] at hread
    cases hread
  · rw [if_neg hlong] at hread
    have hvalue := (Prod.mk.inj (Except.ok.inj hread)).left
    cases hvalue

/-!
# Strings
-/

theorem writeText_inj {a b : Text} (h : writeText false a t = writeText false b u) :
    a = b ∧ t = u := by
  rw [writeText_eq, writeText_eq] at h
  have hread := readText_inside 0 a t
  rw [(List.cons.inj h).right, readText_inside] at hread
  rcases Prod.mk.inj (Except.ok.inj hread) with ⟨htext, htails⟩
  exact ⟨htext.symm, htails.symm⟩

/-!
# Layouts
-/

theorem edge_inj (h : s.edge depth t = s.edge depth u) : t = u := by
  cases hindent : s.indent with
  | none =>
      simp only [Style.edge, hindent] at h
      exact h
  | some n =>
      simp only [Style.edge, hindent] at h
      exact List.append_cancel_left (List.cons.inj h).right

theorem comma_inj (h : s.comma depth t = s.comma depth u) : t = u := by
  cases hindent : s.indent with
  | none =>
      simp only [Style.comma, hindent] at h
      exact List.append_cancel_left (List.cons.inj h).right
  | some n =>
      simp only [Style.comma, hindent] at h
      exact edge_inj (List.cons.inj h).right

/-- A closing bracket is no comma. -/
theorem closing_ne_comma (hs : s.Spaced) {outer : Nat} {close : CodePoint}
    (hspace : isSpace close = false) (hclose : close ≠ CodePoint.ofChar ',')
    (hu : Opens u) : s.edge outer (close :: t) ≠ s.comma depth u := by
  intro h
  have hskip := congrArg skipSpace h
  rcases skipSpace_comma hs.airy depth hu with ⟨more, hcomma, _⟩
  rw [skipSpace_edge, skipSpace_cons hspace, hcomma] at hskip
  exact hclose (List.cons.inj hskip).left

/-- An empty list is not the start of another. -/
theorem bracket_ne_edge (hu : Opens u) : CodePoint.ofChar ']' :: t ≠ s.edge depth u := by
  intro h
  have hskip := congrArg skipSpace h
  rw [skipSpace_edge, skipSpace_cons (by decide), skipSpace_of_opens hu] at hskip
  rcases hu with ⟨c, rest, rfl, _, _, hbracket, _⟩
  exact hbracket (List.cons.inj hskip).left.symm

/-- An empty object is not the start of another. -/
theorem brace_ne_edge (hs : s.Spaced) (f : Text × Value) (fs : List (Text × Value)) :
    CodePoint.ofChar '\x7d' :: t ≠ s.edge depth (fieldsText s depth (f :: fs) u) := by
  intro h
  have hskip := congrArg skipSpace h
  rw [skipSpace_edge, skipSpace_cons (by decide), skipSpace_of_opens (opens_fieldsText f fs),
    fieldsText_eq hs] at hskip
  exact absurd (List.cons.inj hskip).left (by decide)

/-- The key of the first field is determined, and so is what is written after the colon. -/
theorem fieldsText_inj (hs : s.Spaced) {f g : Text × Value} {fs gs : List (Text × Value)}
    (h : fieldsText s depth (f :: fs) t = fieldsText s depth (g :: gs) u) :
    f.1 = g.1 ∧
      write s depth f.2 (writeFields s depth fs t) =
        write s depth g.2 (writeFields s depth gs u) := by
  rw [fieldsText, fieldsText, hs.asciiOnly] at h
  rcases writeText_inj h with ⟨hkey, hcolon⟩
  exact ⟨hkey, List.append_cancel_left (List.cons.inj hcolon).right⟩

/-!
# Values
-/

mutual

-- The induction is on the first value while the other stays open: what is written first tells
-- its kind, so in every case only values of the same kind are left.
theorem write_inj (hs : s.Spaced) : ∀ (v w : Value) (depth : Nat) (t u : Text),
    Stops continuesNumber t → Stops continuesNumber u →
      write s depth v t = write s depth w u → v = w ∧ t = u
  | .null, w, _, t, u, _, _, h => by
      have hkind := kind_eq_of_write_eq h
      cases w with
      | null => exact ⟨rfl, List.append_cancel_left h⟩
      | _ => cases hkind
  | .bool b, w, _, t, u, _, _, h => by
      have hkind := kind_eq_of_write_eq h
      cases w with
      | bool b' =>
          cases hkind
          cases b with
          | true => exact ⟨rfl, List.append_cancel_left h⟩
          | false => exact ⟨rfl, List.append_cancel_left h⟩
      | _ => cases hkind
  | .int i, w, _, t, u, ht, hu, h => by
      have hkind := kind_eq_of_write_eq h
      cases w with
      | int j =>
          rw [write, write] at h
          rcases ofInt_append_inj ht hu h with ⟨hij, htails⟩
          exact ⟨congrArg Value.int hij, htails⟩
      | float y =>
          rw [write, write] at h
          exact absurd h (ofInt_append_ne_float ht hu)
      | _ => cases hkind
  | .float x, w, _, t, u, ht, hu, h => by
      have hkind := kind_eq_of_write_eq h
      cases w with
      | int j =>
          rw [write, write] at h
          exact absurd h.symm (ofInt_append_ne_float hu ht)
      | float y =>
          rw [write, write] at h
          rcases float_append_inj ht hu h with ⟨hxy, htails⟩
          exact ⟨congrArg Value.float hxy, htails⟩
      | _ => cases hkind
  | .text a, w, _, t, u, _, _, h => by
      have hkind := kind_eq_of_write_eq h
      cases w with
      | text b =>
          rw [write, write, hs.asciiOnly] at h
          rcases writeText_inj h with ⟨hab, htails⟩
          exact ⟨congrArg Value.text hab, htails⟩
      | _ => cases hkind
  | .list [], w, depth, t, u, _, _, h => by
      have hkind := kind_eq_of_write_eq h
      cases w with
      | list ws =>
          cases ws with
          | nil =>
              rw [write, write] at h
              exact ⟨rfl, (List.cons.inj (List.cons.inj h).right).right⟩
          | cons w ws =>
              rw [write_list, write] at h
              exact absurd (List.cons.inj h).right (bracket_ne_edge (opens_itemsText w ws))
      | _ => cases hkind
  | .list (v :: vs), w, depth, t, u, _, _, h => by
      have hkind := kind_eq_of_write_eq h
      cases w with
      | list ws =>
          cases ws with
          | nil =>
              rw [write_list, write] at h
              exact absurd (List.cons.inj h).right.symm (bracket_ne_edge (opens_itemsText v vs))
          | cons w ws =>
              rw [write_list, write_list] at h
              have hitems := edge_inj (List.cons.inj h).right
              rcases write_inj hs v w (depth + 1) _ _
                (stops_writeItems vs (stops_closing (by decide)))
                (stops_writeItems ws (stops_closing (by decide))) hitems with ⟨hfirst, hothers⟩
              rcases writeItems_inj hs vs ws (depth + 1) depth t u hothers with ⟨hrest, htails⟩
              exact ⟨by rw [hfirst, hrest], htails⟩
      | _ => cases hkind
  | .object [], w, depth, t, u, _, _, h => by
      have hkind := kind_eq_of_write_eq h
      cases w with
      | object gs =>
          cases gs with
          | nil =>
              rw [write, write] at h
              exact ⟨rfl, (List.cons.inj (List.cons.inj h).right).right⟩
          | cons g gs =>
              rw [write_object, write] at h
              exact absurd (List.cons.inj h).right (brace_ne_edge hs g gs)
      | _ => cases hkind
  | .object ((k, v) :: fs), w, depth, t, u, _, _, h => by
      have hkind := kind_eq_of_write_eq h
      cases w with
      | object gs =>
          cases gs with
          | nil =>
              rw [write_object, write] at h
              exact absurd (List.cons.inj h).right.symm (brace_ne_edge hs (k, v) fs)
          | cons g gs =>
              rw [write_object, write_object] at h
              rcases fieldsText_inj hs (edge_inj (List.cons.inj h).right) with ⟨hkey, hvalues⟩
              rcases write_inj hs v g.2 (depth + 1) _ _
                (stops_writeFields fs (stops_closing (by decide)))
                (stops_writeFields gs (stops_closing (by decide))) hvalues with ⟨hfirst, hothers⟩
              rcases writeFields_inj hs fs gs (depth + 1) depth t u hothers with
                ⟨hrest, htails⟩
              exact ⟨by rw [show k = g.1 from hkey, hfirst, hrest], htails⟩
      | _ => cases hkind

theorem writeItems_inj (hs : s.Spaced) :
    ∀ (vs ws : List Value) (depth outer : Nat) (t u : Text),
      writeItems s depth vs (s.edge outer (CodePoint.ofChar ']' :: t)) =
        writeItems s depth ws (s.edge outer (CodePoint.ofChar ']' :: u)) → vs = ws ∧ t = u
  | [], [], _, _, _, _, h => ⟨rfl, (List.cons.inj (edge_inj h)).right⟩
  | [], w :: ws, _, _, _, _, h => by
      rw [writeItems_cons] at h
      exact absurd h (closing_ne_comma hs (by decide) (by decide) (opens_itemsText w ws))
  | v :: vs, [], _, _, _, _, h => by
      rw [writeItems_cons] at h
      exact absurd h.symm (closing_ne_comma hs (by decide) (by decide) (opens_itemsText v vs))
  | v :: vs, w :: ws, depth, outer, t, u, h => by
      rw [writeItems_cons, writeItems_cons] at h
      have hitems := comma_inj h
      rcases write_inj hs v w depth _ _ (stops_writeItems vs (stops_closing (by decide)))
        (stops_writeItems ws (stops_closing (by decide))) hitems with ⟨hfirst, hothers⟩
      rcases writeItems_inj hs vs ws depth outer t u hothers with ⟨hrest, htails⟩
      exact ⟨by rw [hfirst, hrest], htails⟩

theorem writeFields_inj (hs : s.Spaced) :
    ∀ (fs gs : List (Text × Value)) (depth outer : Nat) (t u : Text),
      writeFields s depth fs (s.edge outer (CodePoint.ofChar '\x7d' :: t)) =
        writeFields s depth gs (s.edge outer (CodePoint.ofChar '\x7d' :: u)) → fs = gs ∧ t = u
  | [], [], _, _, _, _, h => ⟨rfl, (List.cons.inj (edge_inj h)).right⟩
  | [], g :: gs, _, _, _, _, h => by
      rw [writeFields_cons] at h
      exact absurd h (closing_ne_comma hs (by decide) (by decide) (opens_fieldsText g gs))
  | f :: fs, [], _, _, _, _, h => by
      rw [writeFields_cons] at h
      exact absurd h.symm (closing_ne_comma hs (by decide) (by decide) (opens_fieldsText f fs))
  | (k, v) :: fs, g :: gs, depth, outer, t, u, h => by
      rw [writeFields_cons, writeFields_cons] at h
      rcases fieldsText_inj hs (comma_inj h) with ⟨hkey, hvalues⟩
      rcases write_inj hs v g.2 depth _ _ (stops_writeFields fs (stops_closing (by decide)))
        (stops_writeFields gs (stops_closing (by decide))) hvalues with ⟨hfirst, hothers⟩
      rcases writeFields_inj hs fs gs depth outer t u hothers with ⟨hrest, htails⟩
      exact ⟨by rw [show k = g.1 from hkey, hfirst, hrest], htails⟩

end

/-- The text of a document determines the document. -/
theorem render_inj (hs : s.Spaced) {v w : Value} (h : render s v = render s w) : v = w :=
  (write_inj hs v w 0 [] [] stops_nil stops_nil h).left

end Json
end RuleDraft
