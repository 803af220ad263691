import RuleDraft.Proofs.CommandLine.Strings
import RuleDraft.Proofs.Outcome

/-!
# Documents with unified line breaks

A document says the same before and after its line breaks are unified: its two readings go along
the same recursion, and each of them needs fuel for its own text only.
-/

namespace RuleDraft
namespace Json

open Text CommandLine.Folder

variable {t rest : Text}

/-!
# Numbers and words
-/

theorem readBehind_unifyBreaks (negative : Bool) (whole rest : Text) :
    readBehind negative whole (unifyBreaks rest) =
      (readBehind negative whole rest).map (Prod.map id unifyBreaks) := by
  unfold readBehind
  rw [fractionPart?_unifyBreaks, exponentPart?_unifyBreaks]
  cases fractionPart? rest with
  | some found =>
      simp only [Option.map_some, Prod.map_fst, Prod.map_snd, id_eq, exponentPart?_unifyBreaks]
      cases exponentPart? found.2 <;> rfl
  | none =>
      cases exponentPart? rest with
      | some found => rfl
      | none =>
          simp only [Option.map_none]
          split_ifs <;> rfl

theorem length_lt_of_readNumber {v : Value} (h : readNumber t = .ok (v, rest)) :
    rest.length < t.length := by
  rcases number_of_readNumber h with ⟨n, hn, rfl⟩
  have hpos := List.length_pos_iff.mpr hn.ne_nil
  rw [List.length_append]
  omega

theorem length_lt_of_readWord? {v : Value} (h : readWord? t = some (v, rest)) :
    rest.length < t.length := by
  rcases eq_of_readWord? h with ⟨word, hmem, rfl⟩
  rcases word_head hmem with ⟨a, b, tail, hword, _, _⟩
  rw [hword, List.length_append, List.length_cons]
  omega

theorem carries_readNumber (t : Text) :
    Carries (unifyBreaks t).length (readNumber t) (readNumber (unifyBreaks t)) := by
  rcases readNumber_cases t with hnone | ⟨negative, body, whole, rest, rfl, hwhole⟩
  · rw [hnone]
    exact .malformed _ _ _
  · have hsigned : unifyBreaks (signed negative body) = signed negative (unifyBreaks body) := by
      cases negative with
      | true => exact unifyBreaks_cons (by decide) body
      | false => rfl
    have hunified := wholePart?_unifyBreaks body
    rw [hwhole] at hunified
    have heq : readNumber (unifyBreaks (signed negative body)) =
        (readNumber (signed negative body)).map (Prod.map id unifyBreaks) := by
      rw [hsigned, readNumber_signed negative hunified, readNumber_signed negative hwhole]
      exact readBehind_unifyBreaks negative whole rest
    cases hread : readNumber (signed negative body) with
    | ok r =>
        rw [hread] at heq
        rw [heq]
        exact .found r.1 r.2 (length_lt_of_readNumber heq)
    | error e =>
        rw [heq, hread]
        cases e with
        | malformed fault place => exact .malformed fault place _
        | integerTooLong digits => exact .tooLong digits
        | tooDeep container => exact .tooDeep container

/-- What stands in place of a string, a list or an object. -/
def readScalar (t : Text) : Except ReadError (Value × Text) :=
  match readWord? t with
  | some found => .ok found
  | none => readNumber t

theorem carries_readScalar (t : Text) :
    Carries (unifyBreaks t).length (readScalar t) (readScalar (unifyBreaks t)) := by
  have hunified := readWord?_unifyBreaks t
  unfold readScalar
  cases hword : readWord? t with
  | none =>
      rw [hword] at hunified
      rw [hunified]
      exact carries_readNumber t
  | some found =>
      rw [hword] at hunified
      rw [hunified]
      exact .found found.1 found.2 (length_lt_of_readWord? hunified)

/-- No value starts with a control character. -/
theorem readScalar_control {c : CodePoint} (hc : c.val < 0x20) (rest : Text) :
    readScalar (c :: rest) = .error (.malformed .expectedValue (rest.length + 1)) := by
  have hword : readWord? (c :: rest) = none := by
    by_contra hsome
    rcases Option.ne_none_iff_exists'.mp hsome with ⟨found, hfound⟩
    rcases head_of_readWord? hfound with ⟨a, b, more, heq, ha, _⟩
    rw [(List.cons.inj heq).left] at hc
    omega
  rw [readScalar, hword]
  rcases readNumber_cases (c :: rest) with hnone | ⟨negative, body, whole, more, hsigned, hwhole⟩
  · exact hnone
  · rcases head_of_wholePart? hwhole with ⟨d, tail, rfl, hdigit⟩
    have hrange := CodePoint.isAsciiDigit_iff.mp hdigit
    cases negative with
    | true =>
        rw [(List.cons.inj hsigned).left] at hc
        exact absurd hc (by decide)
    | false =>
        rw [(List.cons.inj hsigned).left] at hc
        omega

/-!
# Lists and objects
-/

section Containers

variable {α : Type} {close d : CodePoint} {more : Text}

/-- What stands inside a container: nothing, or something behind blanks. -/
def readInside (close : CodePoint) (fault : Fault) (empty : α)
    (others : Text → Except ReadError (α × Text)) (rest : Text) : Except ReadError (α × Text) :=
  match skipSpace rest with
  | d :: more => if d = close then .ok (empty, more) else others (d :: more)
  | [] => .error (.malformed fault 0)

/-- What stands behind a part of a container: its end, or a comma and another part. -/
def readBehindPart (close : CodePoint) (last : α) (others : Text → Except ReadError (α × Text))
    (rest : Text) : Except ReadError (α × Text) :=
  match skipSpace rest with
  | d :: more =>
      if d = close then .ok (last, more)
      else if d = CodePoint.ofChar ',' then others (skipSpace more)
      else .error (.malformed .expectedComma (more.length + 1))
  | [] => .error (.malformed .expectedComma 0)

theorem skipSpace_head (h : skipSpace t = d :: more) : isSpace d = false := by
  have hstops : Stops isSpace (skipSpace t) := stops_dropWhile t
  rw [h] at hstops
  exact stops_cons.mp hstops

theorem skipSpace_head_ne_return (h : skipSpace t = d :: more) : d.val ≠ 13 := by
  intro hd
  have hspace := skipSpace_head h
  rw [isSpace_of_val hd] at hspace
  cases hspace

theorem length_skipSpace_le (t : Text) : (skipSpace t).length ≤ t.length :=
  List.length_dropWhile_le isSpace t

theorem length_unified_of_skipSpace (h : skipSpace t = d :: more) :
    (unifyBreaks more).length < (unifyBreaks t).length := by
  have hle := length_skipSpace_le (unifyBreaks t)
  rw [skipSpace_unifyBreaks, h, unifyBreaks_cons (skipSpace_head_ne_return h)] at hle
  exact hle

variable {others others' : Text → Except ReadError (α × Text)}

theorem carries_readInside {n : Nat} (fault : Fault) (empty : α) (hn : (unifyBreaks t).length ≤ n)
    (h : ∀ u, (unifyBreaks u).length ≤ n → Carries n (others u) (others' (unifyBreaks u))) :
    Carries n (readInside close fault empty others t)
      (readInside close fault empty others' (unifyBreaks t)) := by
  unfold readInside
  rw [skipSpace_unifyBreaks]
  cases hskip : skipSpace t with
  | nil => exact .malformed _ _ _
  | cons d more =>
      have hless := length_unified_of_skipSpace hskip
      have hcons := unifyBreaks_cons (skipSpace_head_ne_return hskip) more
      rw [hcons]
      dsimp only
      by_cases hclose : d = close
      · rw [if_pos hclose, if_pos hclose]
        exact .found empty more (Nat.lt_of_lt_of_le hless hn)
      · rw [if_neg hclose, if_neg hclose, ← hcons]
        apply h
        rw [hcons, List.length_cons]
        omega

theorem carries_readBehindPart {n : Nat} (last : α) (hn : (unifyBreaks t).length ≤ n)
    (h : ∀ u, (unifyBreaks u).length < n → Carries n (others u) (others' (unifyBreaks u))) :
    Carries n (readBehindPart close last others t)
      (readBehindPart close last others' (unifyBreaks t)) := by
  unfold readBehindPart
  rw [skipSpace_unifyBreaks]
  cases hskip : skipSpace t with
  | nil => exact .malformed _ _ _
  | cons d more =>
      have hless := length_unified_of_skipSpace hskip
      rw [unifyBreaks_cons (skipSpace_head_ne_return hskip)]
      dsimp only
      by_cases hclose : d = close
      · rw [if_pos hclose, if_pos hclose]
        exact .found last more (Nat.lt_of_lt_of_le hless hn)
      · rw [if_neg hclose, if_neg hclose]
        by_cases hcomma : d = CodePoint.ofChar ','
        · rw [if_pos hcomma, if_pos hcomma, skipSpace_unifyBreaks]
          apply h
          have hle := length_skipSpace_le (unifyBreaks more)
          rw [skipSpace_unifyBreaks] at hle
          omega
        · rw [if_neg hcomma]
          exact .malformed _ _ _

end Containers

/-!
# Values

The readers along their recursion.  The second reading needs fuel for its own text only, which
may be shorter than the first.
-/

section Values

variable {fuel room : Nat}

theorem readValue_other {c : CodePoint} (hquote : c ≠ CodePoint.ofChar '\x22')
    (hbracket : c ≠ CodePoint.ofChar '[') (hbrace : c ≠ CodePoint.ofChar '\x7b') (rest : Text) :
    readValue (fuel + 1) room (c :: rest) = readScalar (c :: rest) :=
  readValue_scalar hquote hbracket hbrace

theorem readValue_control {c : CodePoint} (hc : c.val < 0x20) (rest : Text) :
    readValue (fuel + 1) room (c :: rest) =
      .error (.malformed .expectedValue (rest.length + 1)) := by
  have hne (mark : CodePoint) (hmark : 0x20 < mark.val) : c ≠ mark := by
    rintro rfl
    omega
  rw [readValue_other (hne _ (by decide)) (hne _ (by decide)) (hne _ (by decide)),
    readScalar_control hc]

theorem readValue_string (rest : Text) :
    readValue (fuel + 1) room (CodePoint.ofChar '\x22' :: rest) =
      (readText (rest.length + 1) rest).map fun r => (.text r.1, r.2) := rfl

theorem readValue_list (rest : Text) :
    readValue (fuel + 1) room (CodePoint.ofChar '[' :: rest) =
      if room = 0 then .error (.tooDeep .array)
      else readInside (CodePoint.ofChar ']') .expectedValue (.list [])
        (fun u => (readItems fuel (room - 1) u).map fun r => (.list r.1, r.2)) rest := rfl

theorem readValue_object (rest : Text) :
    readValue (fuel + 1) room (CodePoint.ofChar '\x7b' :: rest) =
      if room = 0 then .error (.tooDeep .object)
      else readInside (CodePoint.ofChar '\x7d') .expectedName (.object [])
        (fun u => (readFields fuel (room - 1) u).map fun r => (.object (Keyed.ofRows r.1), r.2))
        rest := rfl

theorem readItems_succ (t : Text) :
    readItems (fuel + 1) room t =
      readValue fuel room t >>= fun r =>
        readBehindPart (CodePoint.ofChar ']') [r.1]
          (fun u => (readItems fuel room u).map fun others => (r.1 :: others.1, others.2)) r.2 :=
  rfl

def readBehindKey (read : Text → Except ReadError (Value × Text)) (rest : Text) :
    Except ReadError (Value × Text) :=
  match skipSpace rest with
  | [] => .error (.malformed .expectedColon 0)
  | d :: more =>
      if d ≠ CodePoint.ofChar ':' then .error (.malformed .expectedColon (more.length + 1))
      else read (skipSpace more)

theorem readFields_succ (rest : Text) :
    readFields (fuel + 1) room (CodePoint.ofChar '\x22' :: rest) =
      readText (rest.length + 1) rest >>= fun k =>
        readBehindKey (readValue fuel room) k.2 >>= fun r =>
          readBehindPart (CodePoint.ofChar '\x7d') [(k.1, r.1)]
            (fun u => (readFields fuel room u).map fun others => ((k.1, r.1) :: others.1, others.2))
            r.2 := by
  rw [readFields, if_neg (by simp)]
  apply congrArg (readText (rest.length + 1) rest >>= ·)
  funext ⟨k, inner⟩
  unfold readBehindKey
  dsimp only
  cases skipSpace inner with
  | nil => rfl
  | cons d more =>
      dsimp only
      by_cases hcolon : d ≠ CodePoint.ofChar ':'
      · rw [if_pos hcolon, if_pos hcolon]
        rfl
      · rw [if_neg hcolon, if_neg hcolon]
        rfl

theorem carries_readBehindKey {read read' : Text → Except ReadError (Value × Text)} {n : Nat}
    (hn : (unifyBreaks t).length ≤ n)
    (h : ∀ u, (unifyBreaks u).length < n → Carries n (read u) (read' (unifyBreaks u))) :
    Carries n (readBehindKey read t) (readBehindKey read' (unifyBreaks t)) := by
  unfold readBehindKey
  rw [skipSpace_unifyBreaks]
  cases hskip : skipSpace t with
  | nil => exact .malformed _ _ _
  | cons d more =>
      have hless := length_unified_of_skipSpace hskip
      rw [unifyBreaks_cons (skipSpace_head_ne_return hskip)]
      dsimp only
      by_cases hcolon : d ≠ CodePoint.ofChar ':'
      · rw [if_pos hcolon]
        exact .malformed _ _ _
      · rw [if_neg hcolon, if_neg hcolon, skipSpace_unifyBreaks]
        apply h
        have hle := length_skipSpace_le (unifyBreaks more)
        rw [skipSpace_unifyBreaks] at hle
        omega

mutual

-- The first reading may run out of fuel, and then there is nothing to show; the second one has
-- enough for what it reads.
theorem carries_readValue : ∀ (fuel fuel' room : Nat) (t : Text),
    2 * (unifyBreaks t).length + 1 ≤ fuel' →
      Carries (unifyBreaks t).length (readValue fuel room t) (readValue fuel' room (unifyBreaks t))
  | 0, _, _, _, _ => .malformed _ _ _
  | _ + 1, _, _, [], _ => .malformed _ _ _
  | _ + 1, 0, _, _ :: _, h => absurd h (by omega)
  | fuel + 1, fuel' + 1, room, c :: rest, h => by
      by_cases hcontrol : c.val < 0x20
      · rw [readValue_control hcontrol]
        exact .malformed _ _ _
      have hreturn : c.val ≠ 13 := by omega
      have hscalar := carries_readScalar (c :: rest)
      rw [unifyBreaks_cons hreturn] at h hscalar ⊢
      rw [List.length_cons] at h
      by_cases hquote : c = CodePoint.ofChar '\x22'
      · rw [hquote, readValue_string, readValue_string]
        exact (carries_readText _ _ rest).map (Nat.le_succ _) fun x rest => ⟨_, rfl, rfl⟩
      by_cases hbracket : c = CodePoint.ofChar '['
      · rw [hbracket, readValue_list, readValue_list]
        by_cases hroom : room = 0
        · rw [if_pos hroom, if_pos hroom]
          exact .tooDeep .array
        · rw [if_neg hroom, if_neg hroom]
          refine (carries_readInside _ _ (Nat.le_refl _) fun u hu => ?_).mono (Nat.le_succ _)
          exact (carries_readItems fuel fuel' (room - 1) u (by omega)).map hu
            fun vs rest => ⟨_, rfl, rfl⟩
      by_cases hbrace : c = CodePoint.ofChar '\x7b'
      · rw [hbrace, readValue_object, readValue_object]
        by_cases hroom : room = 0
        · rw [if_pos hroom, if_pos hroom]
          exact .tooDeep .object
        · rw [if_neg hroom, if_neg hroom]
          refine (carries_readInside _ _ (Nat.le_refl _) fun u hu => ?_).mono (Nat.le_succ _)
          exact (carries_readFields fuel fuel' (room - 1) u (by omega)).map hu
            fun fs rest => ⟨_, rfl, rfl⟩
      · rw [readValue_other hquote hbracket hbrace, readValue_other hquote hbracket hbrace]
        exact hscalar

theorem carries_readItems : ∀ (fuel fuel' room : Nat) (t : Text),
    2 * (unifyBreaks t).length + 2 ≤ fuel' →
      Carries (unifyBreaks t).length (readItems fuel room t) (readItems fuel' room (unifyBreaks t))
  | 0, _, _, _, _ => .malformed _ _ _
  | _ + 1, 0, _, _, h => absurd h (by omega)
  | fuel + 1, fuel' + 1, room, t, h => by
      rw [readItems_succ, readItems_succ]
      refine (carries_readValue fuel fuel' room t (by omega)).bind fun v rest hrest => ?_
      refine carries_readBehindPart _ (Nat.le_of_lt hrest) fun u hu => ?_
      exact (carries_readItems fuel fuel' room u (by omega)).map (Nat.le_of_lt hu)
        fun vs rest => ⟨_, rfl, rfl⟩

theorem carries_readFields : ∀ (fuel fuel' room : Nat) (t : Text),
    2 * (unifyBreaks t).length + 2 ≤ fuel' →
      Carries (unifyBreaks t).length (readFields fuel room t)
        (readFields fuel' room (unifyBreaks t))
  | 0, _, _, _, _ => .malformed _ _ _
  | _ + 1, _, _, [], _ => .malformed _ _ _
  | _ + 1, 0, _, _ :: _, h => absurd h (by omega)
  | fuel + 1, fuel' + 1, room, q :: rest, h => by
      by_cases hquote : q = CodePoint.ofChar '\x22'
      · rw [hquote, unifyBreaks_cons (by decide)] at h ⊢
        rw [List.length_cons] at h
        rw [readFields_succ, readFields_succ]
        refine (carries_readText _ _ rest).bind fun k inner hinner => ?_
        refine (carries_readBehindKey (Nat.le_of_lt hinner) fun u hu => ?_).bind
          fun v behind hbehind => ?_
        · exact (carries_readValue fuel fuel' room u (by omega)).mono (Nat.le_of_lt hu)
        · refine (carries_readBehindPart _ (Nat.le_of_lt hbehind) fun u hu => ?_).mono
            (Nat.le_succ _)
          exact (carries_readFields fuel fuel' room u (by omega)).map (Nat.le_of_lt hu)
            fun fs rest => ⟨_, rfl, rfl⟩
      · rw [readFields, if_pos hquote]
        exact .malformed _ _ _

end

end Values

/-!
# Whole documents
-/

def Malformed {α : Type} (r : Except ReadError α) : Prop :=
  ∃ fault place, r = .error (.malformed fault place)

theorem Malformed.map {α β : Type} {r : Except ReadError α} (h : Malformed r) (f : α → β) :
    Malformed (r.map f) := by
  rcases h with ⟨fault, place, rfl⟩
  exact ⟨fault, place, rfl⟩

theorem Malformed.bind {α β : Type} {r : Except ReadError α} (h : Malformed r)
    (f : α → Except ReadError β) : Malformed (r >>= f) := by
  rcases h with ⟨fault, place, rfl⟩
  exact ⟨fault, place, rfl⟩

/-- The text is no malformed document: it is read, or what it holds is too large to be read. -/
def WellFormed (t : Text) : Prop := ¬ Malformed (readDocument t)

theorem WellFormed.of_ok {v : Value} (h : readDocument t = .ok v) : WellFormed t := by
  rintro ⟨fault, place, hfault⟩
  rw [h] at hfault
  cases hfault

theorem WellFormed.of_deep {container : Container}
    (h : readDocument t = .error (.tooDeep container)) : WellFormed t := by
  rintro ⟨fault, place, hfault⟩
  rw [h] at hfault
  cases hfault

def finishDocument (r : Value × Text) : Except ReadError Value :=
  match skipSpace r.2 with
  | [] => .ok r.1
  | rest => .error (.malformed .extraData rest.length)

theorem readFromStart_eq (h : t.head? ≠ some (CodePoint.ofNat 0xFEFF)) :
    readFromStart t =
      readValue (2 * t.length + 2) maxDepth (skipSpace t) >>= finishDocument := by
  rw [readFromStart, if_neg h]
  rfl

theorem wellFormed_iff : WellFormed t ↔ ¬ Malformed (readFromStart t) := by
  unfold WellFormed Malformed readDocument
  cases readFromStart t with
  | ok v => simp
  | error e =>
      cases e with
      | malformed fault left => simp
      | integerTooLong digits => simp
      | tooDeep container => simp

theorem WellFormed.head_ne_mark (h : WellFormed t) :
    t.head? ≠ some (CodePoint.ofNat 0xFEFF) := by
  intro hmark
  refine wellFormed_iff.mp h ⟨.byteOrderMark, t.length, ?_⟩
  rw [readFromStart, if_pos hmark]
  rfl

theorem head_unifyBreaks_ne_mark (h : t.head? ≠ some (CodePoint.ofNat 0xFEFF)) :
    (unifyBreaks t).head? ≠ some (CodePoint.ofNat 0xFEFF) := by
  intro hmark
  rcases List.head?_eq_some_iff.mp hmark with ⟨more, hmore⟩
  rcases eq_cons_of_unifyBreaks (by decide) (by decide) hmore with ⟨rest, rfl, _⟩
  exact h rfl

theorem readFromStart_unifyBreaks (h : ¬ Malformed (readFromStart t))
    (hmark : t.head? ≠ some (CodePoint.ofNat 0xFEFF)) :
    readFromStart (unifyBreaks t) = readFromStart t := by
  have hfuel : 2 * (unifyBreaks (skipSpace t)).length + 1 ≤ 2 * (unifyBreaks t).length + 2 := by
    have hle := length_skipSpace_le (unifyBreaks t)
    rw [skipSpace_unifyBreaks] at hle
    omega
  have hcarries := carries_readValue (2 * t.length + 2) _ maxDepth (skipSpace t) hfuel
  rw [readFromStart_eq hmark] at h ⊢
  rw [readFromStart_eq (head_unifyBreaks_ne_mark hmark), skipSpace_unifyBreaks]
  generalize readValue (2 * t.length + 2) maxDepth (skipSpace t) = first at h hcarries ⊢
  generalize readValue _ maxDepth (unifyBreaks (skipSpace t)) = second at hcarries ⊢
  cases hcarries with
  | malformed fault place r => exact absurd ⟨fault, place, rfl⟩ h
  | tooLong digits => rfl
  | tooDeep container => rfl
  | found v rest hrest =>
      change finishDocument (v, unifyBreaks rest) = finishDocument (v, rest)
      unfold finishDocument
      rw [skipSpace_unifyBreaks]
      cases hskip : skipSpace rest with
      | nil => rfl
      | cons d more =>
          refine absurd ⟨.extraData, (d :: more).length, ?_⟩ h
          change finishDocument (v, rest) = _
          simp only [finishDocument, hskip]

/-- A document says the same after its line breaks are unified. -/
theorem readDocument_unifyBreaks (h : WellFormed t) :
    readDocument (unifyBreaks t) = readDocument t := by
  have hstart := wellFormed_iff.mp h
  have heq := readFromStart_unifyBreaks hstart h.head_ne_mark
  unfold readDocument
  rw [heq]
  cases hread : readFromStart t with
  | ok v => rfl
  | error e =>
      cases e with
      | malformed fault left => exact absurd ⟨fault, left, hread⟩ hstart
      | integerTooLong digits => rfl
      | tooDeep container => rfl

end Json
end RuleDraft
