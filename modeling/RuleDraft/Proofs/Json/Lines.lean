import Mathlib.Data.Bool.AllAny
import RuleDraft.Proofs.Json.Standard
import RuleDraft.Document.Rendering

/-!
# The lines of a document

A document is read from the start with an eye on two things only: whether the place is in a
string, and how many containers are open.  In the pretty layout every line feed stands outside
of the strings, behind a visible code point, and in front of as many spaces as the containers
that are open ask for.  The writer puts a value in front of a tail, so this is said of what
is left of a document at some spot, and shown from the end to the start.
-/

namespace RuleDraft
namespace Json

open Text

def lineFeed : CodePoint := CodePoint.ofChar '\n'

/-- A place in a document, and how many containers are open there. -/
structure Spot where
  place : Place
  opened : Nat

/-- The open containers in front of a code point; one that it closes is counted as closed. -/
def Spot.level (p : Spot) (c : CodePoint) : Nat :=
  if c ∈ ofString "]\x7d" then p.opened - 1 else p.opened

def Spot.next (p : Spot) (c : CodePoint) : Spot :=
  match p.place with
  | .outside =>
      if c = CodePoint.ofChar '\x22' then ⟨.inString, p.opened⟩
      else if c ∈ ofString "[\x7b" then ⟨.outside, p.opened + 1⟩
      else ⟨.outside, p.level c⟩
  | .inString =>
      if c = CodePoint.ofChar '\x22' then ⟨.outside, p.opened⟩
      else if c = CodePoint.ofChar '\\' then ⟨.escaped, p.opened⟩
      else p
  | .escaped => ⟨.inString, p.opened⟩

def Spot.behind (p : Spot) (t : Text) : Spot := t.foldl Spot.next p

def Spot.start : Spot := ⟨.outside, 0⟩

def Spot.within (opened : Nat) : Spot := ⟨.outside, opened⟩

def Visible (c : CodePoint) : Prop := 0x20 < c.val ∧ c.val < 0x7F

instance (c : CodePoint) : Decidable (Visible c) :=
  inferInstanceAs (Decidable (0x20 < c.val ∧ c.val < 0x7F))

def EndsVisible (t : Text) : Prop := ∀ c, t.getLast? = some c → Visible c

/-- The text starts with spaces for the containers that are open, and then shows something. -/
def Indented (n : Nat) (p : Spot) (t : Text) : Prop :=
  ∃ c rest, t = List.replicate (n * p.level c) (CodePoint.ofChar ' ') ++ c :: rest ∧ Visible c

/-- At the spot, the lines of what is left of a document are as they should be. -/
structure Tidy (n : Nat) (p : Spot) (t : Text) : Prop where
  ends : EndsVisible t
  breaks : ∀ a b, t = a ++ lineFeed :: b →
    EndsVisible a ∧ (p.behind a).place = .outside ∧ Indented n (p.behind a) b

/-!
# Spots
-/

theorem Spot.behind_append (p : Spot) (t u : Text) : p.behind (t ++ u) = (p.behind t).behind u :=
  List.foldl_append

/-- A visible code point that neither opens nor closes anything. -/
def Inert (c : CodePoint) : Prop := Visible c ∧ c ∉ ofString "\x22[]\x7b\x7d"

instance (c : CodePoint) : Decidable (Inert c) :=
  inferInstanceAs (Decidable (Visible c ∧ c ∉ ofString "\x22[]\x7b\x7d"))

theorem Spot.next_of_not_mem {c : CodePoint} (h : c ∉ ofString "\x22[]\x7b\x7d") (d : Nat) :
    (within d).next c = within d := by
  have hquote : c ≠ CodePoint.ofChar '\x22' := by
    rintro rfl
    exact h (by decide)
  have hopens : c ∉ ofString "[\x7b" := fun hc =>
    h ((by decide : ofString "[\x7b" ⊆ ofString "\x22[]\x7b\x7d") hc)
  have hcloses : c ∉ ofString "]\x7d" := fun hc =>
    h ((by decide : ofString "]\x7d" ⊆ ofString "\x22[]\x7b\x7d") hc)
  rw [within, next, if_neg hquote, if_neg hopens, level, if_neg hcloses]

theorem Spot.behind_of_not_mem {t : Text} (h : ∀ c ∈ t, c ∉ ofString "\x22[]\x7b\x7d") (d : Nat) :
    (within d).behind t = within d := by
  induction t with
  | nil => rfl
  | cons c t ih =>
      rcases List.forall_mem_cons.mp h with ⟨hc, ht⟩
      rw [behind, List.foldl_cons, next_of_not_mem hc]
      exact ih ht

theorem Spot.next_plain {c : CodePoint} (hquote : c ≠ CodePoint.ofChar '\x22')
    (hbackslash : c ≠ CodePoint.ofChar '\\') (d : Nat) :
    (Spot.mk .inString d).next c = ⟨.inString, d⟩ := by
  rw [next]
  dsimp only
  rw [if_neg hquote, if_neg hbackslash]

theorem Spot.behind_plain {t : Text} {d : Nat}
    (h : ∀ c ∈ t, c ≠ CodePoint.ofChar '\x22' ∧ c ≠ CodePoint.ofChar '\\') :
    (Spot.mk .inString d).behind t = ⟨.inString, d⟩ := by
  induction t with
  | nil => rfl
  | cons c t ih =>
      rcases List.forall_mem_cons.mp h with ⟨hc, ht⟩
      rw [behind, List.foldl_cons, next_plain hc.left hc.right]
      exact ih ht

theorem ne_of_isSome_hexValue? {d e : CodePoint} (hd : d.hexValue?.isSome = true)
    (he : e.hexValue? = none) : d ≠ e := by
  rintro rfl
  rw [he] at hd
  cases hd

/-- The content of a string does not leave the string. -/
theorem Spot.behind_chars {t : Text} (ht : Chars t) (d : Nat) :
    (Spot.mk .inString d).behind t = ⟨.inString, d⟩ := by
  induction ht with
  | nil => rfl
  | plain hcontrol hquote hbackslash _ ih =>
      rw [behind, List.foldl_cons, next_plain hquote hbackslash]
      exact ih
  | letter hc _ ih => exact ih
  | @unit digits t hlength hdigits _ ih =>
      have hplain : ∀ e ∈ digits, e ≠ CodePoint.ofChar '\x22' ∧ e ≠ CodePoint.ofChar '\\' :=
        fun e he => ⟨ne_of_isSome_hexValue? (hdigits e he) (by decide),
          ne_of_isSome_hexValue? (hdigits e he) (by decide)⟩
      have hescape : (Spot.mk .inString d).behind
          (CodePoint.ofChar '\\' :: CodePoint.ofChar 'u' :: (digits ++ t)) =
            (Spot.mk .inString d).behind (digits ++ t) := rfl
      rw [hescape, behind_append, behind_plain hplain, ih]

/-- A line feed in a string is escaped. -/
theorem lineFeed_not_mem_chars {t : Text} (ht : Chars t) : lineFeed ∉ t := by
  induction ht with
  | nil => exact List.not_mem_nil
  | plain hcontrol _ _ _ ih =>
      rw [List.mem_cons, not_or]
      refine ⟨?_, ih⟩
      rintro rfl
      exact absurd hcontrol (by decide)
  | letter hc _ ih =>
      rw [List.mem_cons, List.mem_cons, not_or, not_or]
      refine ⟨by decide, ?_, ih⟩
      rintro rfl
      exact absurd hc (by decide)
  | unit _ hdigits _ ih =>
      rw [List.mem_cons, List.mem_cons, List.mem_append, not_or, not_or, not_or]
      refine ⟨by decide, by decide, ?_, ih⟩
      intro hmem
      exact absurd (hdigits _ hmem) (by decide)

/-!
# Tidy texts
-/

section Tidy

variable {n d : Nat} {p : Spot} {t w : Text}

theorem endsVisible_append (h : EndsVisible t) (ht : t ≠ []) (w : Text) :
    EndsVisible (w ++ t) := by
  intro c hc
  rw [List.getLast?_append, Option.or_of_isSome (List.getLast?_isSome.mpr ht)] at hc
  exact h c hc

/-- What does not stand in front stands in what follows. -/
theorem eq_append_of_not_mem {x : CodePoint} {a b : Text} (hw : x ∉ w)
    (h : w ++ t = a ++ x :: b) : ∃ a', a = w ++ a' ∧ t = a' ++ x :: b := by
  rcases List.append_eq_append_iff.mp h with ⟨a', ha, ht⟩ | ⟨w', hw', hb⟩
  · exact ⟨a', ha, ht⟩
  · cases w' with
    | nil =>
        rw [List.append_nil] at hw'
        exact ⟨[], by rw [hw', List.append_nil], hb.symm⟩
    | cons c w' =>
        exfalso
        apply hw
        rw [hw', (List.cons.inj hb).left]
        exact List.mem_append_right a List.mem_cons_self

theorem tidy_nil : Tidy n p [] where
  ends := by
    intro c hc
    cases hc
  breaks := by
    intro a b h
    cases a <;> cases h

/--
What has no line feed may stand in front, if it ends with a visible code point, or if what
follows starts with one.
-/
theorem Tidy.append (ht : Tidy n (p.behind w) t) (hw : lineFeed ∉ w)
    (hend : EndsVisible w ∨ Opens t) : Tidy n p (w ++ t) where
  ends := by
    by_cases hnil : t = []
    · rcases hend with hvisible | hopens
      · rw [hnil, List.append_nil]
        exact hvisible
      · exact absurd hnil hopens.ne_nil
    · exact endsVisible_append ht.ends hnil w
  breaks := by
    intro a b hab
    rcases eq_append_of_not_mem hw hab with ⟨a', rfl, hrest⟩
    rcases ht.breaks a' b hrest with ⟨hvisible, hplace⟩
    rw [Spot.behind_append]
    refine ⟨?_, hplace⟩
    by_cases hnil : a' = []
    · rw [hnil, List.nil_append] at hrest
      rcases hend with hw' | hopens
      · rw [hnil, List.append_nil]
        exact hw'
      · rcases hopens with ⟨c, rest, hc, hshows, _⟩
        rw [hc] at hrest
        rw [(List.cons.inj hrest).left] at hshows
        exact absurd hshows (by decide)
    · exact endsVisible_append hvisible hnil w

theorem tidy_mark {q : Spot} {c : CodePoint} (hnext : p.next c = q) (hc : Visible c)
    (ht : Tidy n q t) : Tidy n p (c :: t) := by
  have hbehind : p.behind [c] = q := hnext
  have hend : EndsVisible [c] := by
    intro e he
    cases he
    exact hc
  have hnofeed : lineFeed ∉ [c] := by
    rw [List.mem_singleton]
    rintro rfl
    exact absurd hc.left (by decide)
  rw [← hbehind] at ht
  exact ht.append hnofeed (Or.inl hend)

theorem tidy_inert (hw : ∀ c ∈ w, Inert c) (ht : Tidy n (.within d) t) :
    Tidy n (.within d) (w ++ t) := by
  have hbehind : (Spot.within d).behind w = .within d :=
    Spot.behind_of_not_mem (fun c hc => (hw c hc).right) d
  have hnofeed : lineFeed ∉ w := fun hmem =>
    absurd (hw _ hmem).left.left (by decide)
  rw [← hbehind] at ht
  exact ht.append hnofeed (Or.inl fun c hc => (hw c (List.mem_of_getLast? hc)).left)

theorem tidy_writeText (k : Text) (ht : Tidy n (.within d) t) :
    Tidy n (.within d) (writeText false k t) := by
  rcases inside_eq k with ⟨content, hcontent, heq⟩
  have hclosing : Tidy n ((Spot.mk .inString d).behind content) (CodePoint.ofChar '\x22' :: t) := by
    rw [Spot.behind_chars hcontent]
    exact tidy_mark rfl (by decide) ht
  have hopens : Opens (CodePoint.ofChar '\x22' :: t) := ⟨_, _, rfl, by decide⟩
  rw [writeText_eq, heq]
  exact tidy_mark rfl (by decide)
    (hclosing.append (lineFeed_not_mem_chars hcontent) (Or.inr hopens))

/-- What stands between a key and its value ends with a space, and the value shows. -/
theorem tidy_key (k : Text) (hopens : Opens t) (ht : Tidy n (.within d) t) :
    Tidy n (.within d)
      (writeText false k (CodePoint.ofChar ':' :: (ofString " " ++ t))) := by
  have hspace : Tidy n (.within d) (ofString " " ++ t) :=
    Tidy.append (p := .within d) ht (by decide) (Or.inr hopens)
  exact tidy_writeText k (tidy_mark rfl (by decide) hspace)

/-- A line may be broken in front of what shows, with spaces for the open containers. -/
theorem tidy_edge {indent : Int} {depth : Nat} {c : CodePoint} {rest : Text} (hc : Visible c)
    (hdepth : (Spot.within d).level c = depth) (ht : Tidy indent.toNat (.within d) (c :: rest)) :
    Tidy indent.toNat (.within d) ((Style.pretty indent).edge depth (c :: rest)) := by
  -- The break is the first one of the line; all others are those behind it.
  generalize hspaces : List.replicate (indent.toNat * depth) (CodePoint.ofChar ' ') = spaces
  have hspace : ∀ e ∈ spaces, e = CodePoint.ofChar ' ' := by
    intro e he
    rw [← hspaces] at he
    exact List.eq_of_mem_replicate he
  have hedge : (Style.pretty indent).edge depth (c :: rest) =
      lineFeed :: (spaces ++ c :: rest) := by
    rw [← hspaces]
    rfl
  have hnofeed : lineFeed ∉ spaces := fun hmem => absurd (hspace _ hmem) (by decide)
  have hkept : (Spot.within d).behind (lineFeed :: spaces) = .within d := by
    refine Spot.behind_of_not_mem (List.forall_mem_cons.mpr ⟨by decide, fun e he => ?_⟩) d
    rw [hspace e he]
    decide
  rw [hedge]
  constructor
  case ends => exact endsVisible_append ht.ends (List.cons_ne_nil c rest) (lineFeed :: spaces)
  case breaks =>
    intro a b hab
    cases a with
    | nil =>
        refine ⟨tidy_nil.ends (n := 0) (p := .start), rfl, c, rest, ?_, hc⟩
        have hlevel : ((Spot.within d).behind []).level c = depth := hdepth
        rw [← (List.cons.inj hab).right, hlevel, hspaces]
    | cons x a =>
        rcases List.cons.inj hab with ⟨rfl, hbehind⟩
        rcases eq_append_of_not_mem hnofeed hbehind with ⟨a', rfl, hrest⟩
        rcases ht.breaks a' b hrest with ⟨hvisible, hplace⟩
        have hshown : a' ≠ [] := by
          rintro rfl
          rw [(List.cons.inj hrest).left] at hc
          exact absurd hc.left (by decide)
        rw [← List.cons_append, Spot.behind_append, hkept]
        exact ⟨endsVisible_append hvisible hshown _, hplace⟩

theorem tidy_edge_opens {indent : Int} (hopens : Opens t) (ht : Tidy indent.toNat (.within d) t) :
    Tidy indent.toNat (.within d) ((Style.pretty indent).edge d t) := by
  rcases hopens with ⟨c, rest, rfl, hshows, hascii, hbracket, hbrace⟩
  have hcloses : c ∉ ofString "]\x7d" := by
    intro hc
    rcases List.mem_cons.mp hc with heq | hc
    · exact hbracket heq
    · exact hbrace (List.mem_singleton.mp hc)
  exact tidy_edge ⟨hshows, hascii⟩ (if_neg hcloses) ht

end Tidy

/-!
# Written values
-/

theorem inert_of_inNumber {c : CodePoint} (h : InNumber c) : Inert c := by
  rcases h with hdigit | hmark
  · have hrange := CodePoint.isAsciiDigit_iff.mp hdigit
    refine ⟨⟨by omega, by omega⟩, ?_⟩
    intro hmem
    have hmarks : (ofString "\x22[]\x7b\x7d").all (fun e => ! e.isAsciiDigit) = true := by decide
    rw [(Bool.not_eq_true' _).mp (List.all_eq_true.mp hmarks c hmem)] at hdigit
    cases hdigit
  · exact List.all_iff_forall_prop.mp (by decide) c hmark

mutual

-- The recursion is that of the writer: what it puts in front of a tidy tail keeps it tidy.
theorem tidy_write (indent : Int) : ∀ (v : Value) (d : Nat) {tail : Text},
    Tidy indent.toNat (.within d) tail →
      Tidy indent.toNat (.within d) (write (.pretty indent) d v tail)
  | .null, _, _, htail => tidy_inert (List.all_iff_forall_prop.mp (by decide)) htail
  | .bool true, _, _, htail => tidy_inert (List.all_iff_forall_prop.mp (by decide)) htail
  | .bool false, _, _, htail => tidy_inert (List.all_iff_forall_prop.mp (by decide)) htail
  | .int i, _, _, htail => by
      rw [write]
      exact tidy_inert (fun c hc => inert_of_inNumber ((number_ofInt i).inNumber c hc)) htail
  | .float x, _, _, htail => by
      rw [write]
      exact tidy_inert (forall_mem_write_float (fun _ => inert_of_inNumber)
        (List.all_iff_forall_prop.mp (by decide)) x) htail
  | .text t, _, _, htail => by
      rw [write]
      exact tidy_writeText t htail
  | .list [], _, _, htail => by
      rw [write]
      exact tidy_mark rfl (by decide) (tidy_mark rfl (by decide) htail)
  | .list (v :: vs), d, _, htail => by
      have hclosing := tidy_edge (d := d + 1) (by decide) rfl
        (tidy_mark (c := CodePoint.ofChar ']') rfl (by decide) htail)
      rw [write_list]
      exact tidy_mark rfl (by decide) (tidy_edge_opens (opens_itemsText v vs)
        (tidy_items indent (v :: vs) (d + 1) hclosing))
  | .object [], _, _, htail => by
      rw [write]
      exact tidy_mark rfl (by decide) (tidy_mark rfl (by decide) htail)
  | .object (f :: fs), d, _, htail => by
      have hclosing := tidy_edge (d := d + 1) (by decide) rfl
        (tidy_mark (c := CodePoint.ofChar '\x7d') rfl (by decide) htail)
      rw [write_object]
      exact tidy_mark rfl (by decide) (tidy_edge_opens
        (opens_fieldsText f fs)
        (tidy_fields indent (f :: fs) (d + 1) hclosing))

theorem tidy_items (indent : Int) : ∀ (vs : List Value) (d : Nat) {tail : Text},
    Tidy indent.toNat (.within d) tail →
      Tidy indent.toNat (.within d) (itemsText (.pretty indent) d vs tail)
  | [], _, _, htail => htail
  | [v], d, _, htail => by
      rw [itemsText, writeItems]
      exact tidy_write indent v d htail
  | v :: w :: ws, d, _, htail => by
      rw [itemsText, writeItems_cons]
      exact tidy_write indent v d (tidy_mark rfl (by decide)
        (tidy_edge_opens (opens_itemsText w ws) (tidy_items indent (w :: ws) d htail)))

theorem tidy_fields (indent : Int) : ∀ (fs : List (Text × Value)) (d : Nat) {tail : Text},
    Tidy indent.toNat (.within d) tail →
      Tidy indent.toNat (.within d) (fieldsText (.pretty indent) d fs tail)
  | [], _, _, htail => htail
  | [(k, v)], d, _, htail => by
      rw [fieldsText, writeFields]
      exact tidy_key k (opens_write _ d v _) (tidy_write indent v d htail)
  | (k, v) :: g :: gs, d, _, htail => by
      rw [fieldsText, writeFields_cons]
      refine tidy_key k (opens_write _ d v _) (tidy_write indent v d ?_)
      exact tidy_mark rfl (by decide) (tidy_edge_opens
        (opens_fieldsText g gs) (tidy_fields indent (g :: gs) d htail))

end

/-!
# Splitting at a code point
-/

theorem splitAt_cons (mark c : CodePoint) (t : Text) :
    Text.splitAt mark (c :: t) =
      if c = mark then [] :: Text.splitAt mark t
      else match Text.splitAt mark t with
        | [] => [[c]]
        | part :: rest => (c :: part) :: rest :=
  rfl

theorem splitAt_ne_nil (mark : CodePoint) (t : Text) : Text.splitAt mark t ≠ [] := by
  cases t with
  | nil => exact List.cons_ne_nil _ _
  | cons c t =>
      rw [splitAt_cons]
      by_cases hc : c = mark
      · rw [if_pos hc]
        exact List.cons_ne_nil _ _
      · rw [if_neg hc]
        cases Text.splitAt mark t with
        | nil => exact List.cons_ne_nil _ _
        | cons part rest => exact List.cons_ne_nil _ _

/-- The parts of a text, each with the mark behind it. -/
def marked (mark : CodePoint) (parts : List Text) : Text := parts.flatMap fun part => part ++ [mark]

/-- A part of a text is followed by the mark or by nothing. -/
theorem eq_of_splitAt {mark : CodePoint} {t line : Text} {earlier later : List Text}
    (h : Text.splitAt mark t = earlier ++ line :: later) :
    ∃ after, t = marked mark earlier ++ (line ++ after) ∧
      (after = [] ∨ ∃ rest, after = mark :: rest) := by
  induction t generalizing earlier line with
  | nil =>
      cases earlier with
      | nil =>
          cases h
          exact ⟨[], rfl, Or.inl rfl⟩
      | cons first earlier => exact absurd (List.cons.inj h).right (by simp)
  | cons c t ih =>
      rw [splitAt_cons] at h
      by_cases hc : c = mark
      · rw [if_pos hc] at h
        cases earlier with
        | nil =>
            cases h
            rw [hc]
            exact ⟨mark :: t, rfl, Or.inr ⟨t, rfl⟩⟩
        | cons first earlier =>
            rcases List.cons.inj h with ⟨rfl, hrest⟩
            rcases ih hrest with ⟨after, rfl, hafter⟩
            rw [hc]
            exact ⟨after, rfl, hafter⟩
      · rw [if_neg hc] at h
        cases hsplit : Text.splitAt mark t with
        | nil => exact absurd hsplit (splitAt_ne_nil mark t)
        | cons part rest =>
            rw [hsplit] at h ih
            -- The code point belongs to the first part of what follows it.
            cases earlier with
            | nil =>
                rcases List.cons.inj h with ⟨rfl, rfl⟩
                have hfirst : part :: rest = [] ++ part :: rest := rfl
                rcases ih hfirst with ⟨after, rfl, hafter⟩
                exact ⟨after, rfl, hafter⟩
            | cons first earlier =>
                rcases List.cons.inj h with ⟨rfl, rfl⟩
                have hfirst : part :: (earlier ++ line :: later) =
                    (part :: earlier) ++ line :: later := rfl
                rcases ih hfirst with ⟨after, rfl, hafter⟩
                exact ⟨after, rfl, hafter⟩

/-!
# Lines
-/

/--
The line behind a part of a document: it does not start in a string, it starts with so many
spaces for each container that is open, then with something else, and it does not end with a
blank.
-/
structure LaidOut (n : Nat) (before line : Text) : Prop where
  outside : (Spot.start.behind before).place = .outside
  starts : ∃ c rest,
    line = List.replicate (n * (Spot.start.behind before).level c) (CodePoint.ofChar ' ') ++
        c :: rest ∧ c.isBlank = false
  ends : ∃ front c, line = front ++ [c] ∧ c.isBlank = false

theorem Visible.isBlank {c : CodePoint} (h : Visible c) : c.isBlank = false := by
  rcases h with ⟨hshows, hascii⟩
  simp [CodePoint.isBlank, CodePoint.isWhiteSpace, CodePoint.within, CodePoint.whiteSpaceRanges]
  omega

theorem Spot.eq_within {p : Spot} (h : p.place = .outside) : p = within p.opened := by
  cases p with
  | mk place opened =>
      cases h
      rfl

section Lines

variable {n : Nat} {t before line after : Text}

/-- What stands at the start of a document, or behind a line feed, is indented. -/
theorem Tidy.indented (ht : Tidy n .start t) (hopens : Opens t) {rest : Text}
    (hbefore : before = [] ∨ ∃ front, before = front ++ [lineFeed]) (heq : t = before ++ rest) :
    (Spot.start.behind before).place = .outside ∧ Indented n (Spot.start.behind before) rest := by
  rcases hbefore with rfl | ⟨front, rfl⟩
  · rcases hopens with ⟨c, more, rfl, hshows, hascii, _⟩
    have hlevel : (Spot.start.behind []).level c = 0 := by
      simp [Spot.behind, Spot.start, Spot.level]
    refine ⟨rfl, c, more, ?_, hshows, hascii⟩
    rw [hlevel, ← List.nil_append rest, ← heq]
    rfl
  · rw [List.append_assoc] at heq
    rcases ht.breaks front rest heq with ⟨_, hplace, hindented⟩
    have hkept : Spot.start.behind (front ++ [lineFeed]) = Spot.start.behind front := by
      rw [Spot.behind_append, Spot.eq_within hplace]
      exact Spot.next_of_not_mem (c := lineFeed) (by decide) _
    rw [hkept]
    exact ⟨hplace, hindented⟩

theorem laidOut_of_tidy (ht : Tidy n .start t) (hopens : Opens t)
    (heq : t = before ++ (line ++ after))
    (hbefore : before = [] ∨ ∃ front, before = front ++ [lineFeed])
    (hafter : after = [] ∨ ∃ rest, after = lineFeed :: rest) : LaidOut n before line := by
  rcases ht.indented hopens hbefore heq with ⟨hplace, c, rest, hstarts, hc⟩
  -- A line feed ends the line behind its first visible code point, which is no line feed.
  have hshown : ∃ more, line =
      List.replicate (n * (Spot.start.behind before).level c) (CodePoint.ofChar ' ') ++
        c :: more := by
    rcases hafter with rfl | ⟨behind, rfl⟩
    · exact ⟨rest, by rw [← hstarts, List.append_nil]⟩
    · have hspaces : lineFeed ∉ List.replicate (n * (Spot.start.behind before).level c)
          (CodePoint.ofChar ' ') ++ [c] := by
        rw [List.mem_append, List.mem_singleton, not_or]
        constructor
        · intro hmem
          exact absurd (List.eq_of_mem_replicate hmem) (by decide)
        · rintro rfl
          exact absurd hc.left (by decide)
      rw [List.append_cons _ c rest] at hstarts
      rcases eq_append_of_not_mem hspaces hstarts.symm with ⟨more, hmore, _⟩
      exact ⟨more, by rw [hmore, List.append_cons _ c more]⟩
  have hends : EndsVisible (before ++ line) := by
    rcases hafter with rfl | ⟨behind, rfl⟩
    · rw [List.append_nil] at heq
      rw [← heq]
      exact ht.ends
    · rw [← List.append_assoc] at heq
      exact (ht.breaks (before ++ line) behind heq).left
  rcases hshown with ⟨more, hmore⟩
  refine ⟨hplace, ⟨c, more, hmore, hc.isBlank⟩, ?_⟩
  have hne : line ≠ [] := by
    rw [hmore]
    exact List.append_ne_nil_of_right_ne_nil _ (List.cons_ne_nil c more)
  refine ⟨line.dropLast, line.getLast hne, (List.dropLast_concat_getLast hne).symm, ?_⟩
  refine (hends _ ?_).isBlank
  rw [List.getLast?_append, List.getLast?_eq_some_getLast hne]
  rfl

end Lines

theorem marked_eq_nil_or_concat (mark : CodePoint) (parts : List Text) :
    marked mark parts = [] ∨ ∃ front, marked mark parts = front ++ [mark] := by
  induction parts with
  | nil => exact Or.inl rfl
  | cons part parts ih =>
      right
      rcases ih with hnil | ⟨front, hfront⟩
      · exact ⟨part, by rw [marked, List.flatMap_cons, ← marked, hnil, List.append_nil]⟩
      · refine ⟨part ++ [mark] ++ front, ?_⟩
        rw [marked, List.flatMap_cons, ← marked, hfront, List.append_assoc _ front]

/--
The pretty text of any value, split at its line feeds, gives lines as they should be, whatever
texts the value holds; and all its line feeds stand outside of strings.
-/
theorem pretty_lines (v : Value) (indent : Int) :
    let t := (Rendering.ofValue indent v).content
    (∀ earlier line later, Text.splitAt lineFeed t = earlier ++ line :: later →
        LaidOut indent.toNat (marked lineFeed earlier) line) ∧
      ∀ before after, t = before ++ lineFeed :: after →
        (Spot.start.behind before).place = .outside := by
  intro t
  have ht : Tidy indent.toNat .start t := tidy_write indent v 0 tidy_nil
  constructor
  · intro earlier line later hsplit
    rcases eq_of_splitAt hsplit with ⟨after, heq, hafter⟩
    exact laidOut_of_tidy ht (opens_write _ 0 v []) heq
      (marked_eq_nil_or_concat lineFeed earlier) hafter
  · intro before after heq
    exact (ht.breaks before after heq).right.left

/-- An object with a line feed in its key and one in a text, in a list with an empty one. -/
def brokenTexts : Value :=
  .object [("k\n", .list [.list [], .text " \n"])]

theorem pretty_lines_brokenTexts :
    let t := (Rendering.ofValue 2 brokenTexts).content
    let earlier : List Text := ["\x7b", "  \x22k\\n\x22: [", "    [],"]
    Text.splitAt lineFeed t =
        earlier ++ Text.ofString "    \x22 \\n\x22" :: ["  ]", "\x7d"] ∧
      LaidOut 2 (marked lineFeed earlier) "    \x22 \\n\x22" ∧
        (Spot.start.behind (marked lineFeed earlier)).opened = 2 := by
  intro t earlier
  have hsplit : Text.splitAt lineFeed t =
      earlier ++ Text.ofString "    \x22 \\n\x22" :: ["  ]", "\x7d"] := by
    decide
  exact ⟨hsplit, (pretty_lines brokenTexts 2).left _ _ _ hsplit, by decide⟩

end Json
end RuleDraft
