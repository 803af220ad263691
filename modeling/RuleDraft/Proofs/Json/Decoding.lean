import RuleDraft.Proofs.CommandLine.Documents
import RuleDraft.Proofs.Text.Encodings
import RuleDraft.Text.Encoding

/-!
# Documents read from octets

The encoding of a document shows in its first octets.  No document starts with a mark or has a
zero among its first two code points, so the octets of a document in UTF-8 are taken for what they
are, and the document is read back from them.
-/

namespace RuleDraft

open Text

/-!
# Octets and zeros
-/

namespace CodePoint

variable {c : CodePoint} {b : UInt8}

/-- An octet of a code point stands for all of it, or is none that a document can start with. -/
theorem octet_cases (h : b ∈ c.toOctets) : b.toNat < 0xFE ∧ (b.toNat = c.val ∨ 0x80 ≤ b.toNat) := by
  have hbound := c.isLt
  have hmem : b.toNat ∈ octetNumbers c.val := by
    rw [← toOctets_toNat]
    exact List.mem_map_of_mem h
  unfold octetNumbers at hmem
  split_ifs at hmem <;> simp only [List.mem_cons, List.not_mem_nil, or_false] at hmem <;> omega

theorem octet_ne_zero (hc : c.val ≠ 0) (h : b ∈ c.toOctets) : b ≠ 0 := by
  rintro rfl
  rcases octet_cases h with ⟨_, hzero | hlarge⟩
  · exact hc hzero.symm
  · exact absurd hlarge (by decide)

theorem exists_head_toOctets (c : CodePoint) : ∃ a rest, c.toOctets = a :: rest :=
  List.exists_cons_of_ne_nil c.toOctets_ne_nil

end CodePoint

namespace Encoding

variable {t : Text}

theorem nonzero_of_first (h : ∀ c ∈ t.take 2, c.val ≠ 0) : ∀ b ∈ t.toUtf8.take 2, b ≠ 0 := by
  cases t with
  | nil => exact nofun
  | cons c t =>
      have hc : ∀ b ∈ c.toOctets, b ≠ 0 :=
        fun b => CodePoint.octet_ne_zero (h c List.mem_cons_self)
      rw [toUtf8_cons]
      cases t with
      | nil => 
          intro b hb
          rcases List.mem_append.mp (List.mem_of_mem_take hb) with hb | hb
          · exact hc b hb
          · cases hb
      | cons d t =>
          have hd : ∀ b ∈ d.toOctets, b ≠ 0 :=
            fun b => CodePoint.octet_ne_zero (h d (List.mem_cons_of_mem c List.mem_cons_self))
          rcases c.exists_head_toOctets with ⟨a, as, hcs⟩
          rcases d.exists_head_toOctets with ⟨b, bs, hds⟩
          rw [hcs] at hc ⊢
          rw [toUtf8_cons, hds]
          rw [hds] at hd
          cases as with
          | nil => simpa using ⟨hc a List.mem_cons_self, hd b List.mem_cons_self⟩
          | cons a' as =>
              simpa using ⟨hc a List.mem_cons_self,
                hc a' (List.mem_cons_of_mem a List.mem_cons_self)⟩

theorem ofZeros_of_nonzero {octets : List UInt8} (h : ∀ b ∈ octets.take 2, b ≠ 0) :
    ofZeros octets = utf8 := by
  unfold ofZeros
  split
  · simp_all
  · simp_all
  · rfl

/-- The octets of a text start with no octet of a wide mark, and with no zero. -/
theorem first_octet (hzeros : ∀ c ∈ t.take 2, c.val ≠ 0) {a : UInt8} {front : List UInt8}
    (h : a :: front <+: t.toUtf8) : a ≠ 0 ∧ a.toNat < 0xFE := by
  cases t with
  | nil => exact absurd (List.prefix_nil.mp h) (List.cons_ne_nil a front)
  | cons c t =>
      rcases c.exists_head_toOctets with ⟨b, bs, hcs⟩
      have hb : b ∈ c.toOctets := hcs ▸ List.mem_cons_self
      rw [toUtf8_cons, hcs, List.cons_append, List.cons_prefix_cons] at h
      rw [h.left]
      exact ⟨CodePoint.octet_ne_zero (hzeros c List.mem_cons_self) hb,
        (CodePoint.octet_cases hb).left⟩

/-- Only a text with a mark in front starts with the octets of a mark. -/
theorem not_mark_prefix (hmark : t.head? ≠ some (CodePoint.ofNat 0xFEFF))
    (hzeros : ∀ c ∈ t.take 2, c.val ≠ 0) {m : List UInt8 × Encoding} (hm : m ∈ marks) :
    ¬ m.1 <+: t.toUtf8 := by
  intro hprefix
  simp only [marks, List.mem_cons, List.not_mem_nil, or_false] at hm
  rcases hm with rfl | rfl | rfl | rfl | rfl
  case inr.inr.inr.inr =>
    rcases hprefix with ⟨rest, hrest⟩
    cases t with
    | nil => cases hrest
    | cons c t =>
        rw [toUtf8_cons] at hrest
        have hsame : (CodePoint.ofNat 0xFEFF).toOctets ++ rest = c.toOctets ++ toUtf8 t := hrest
        rw [← (CodePoint.toOctets_append_inj hsame).left] at hmark
        exact hmark rfl
  all_goals
    have hfirst := first_octet hzeros hprefix
    exact absurd hfirst (by decide)

theorem detect_toUtf8 (hmark : t.head? ≠ some (CodePoint.ofNat 0xFEFF))
    (hzeros : ∀ c ∈ t.take 2, c.val ≠ 0) : detect t.toUtf8 = (utf8, t.toUtf8) := by
  have hnone : (marks.find? fun m => m.1.isPrefixOf t.toUtf8) = none := by
    rw [List.find?_eq_none]
    intro m hm hprefix
    exact not_mark_prefix hmark hzeros hm (List.isPrefixOf_iff_prefix.mp hprefix)
  rw [detect, hnone, ofZeros_of_nonzero (nonzero_of_first hzeros)]

end Encoding

/-!
# Zeros in documents
-/

namespace Json

variable {t : Text} {c d : CodePoint}

theorem isSpace_zero (hc : c.val = 0) : isSpace c = false := by
  have hzero : c = CodePoint.ofNat 0 := Fin.ext hc
  rw [hzero]
  decide

theorem skipSpace_zero (hc : c.val = 0) (rest : Text) : skipSpace (c :: rest) = c :: rest :=
  skipSpace_cons (isSpace_zero hc)

theorem ne_of_zero (hc : c.val = 0) {mark : CodePoint} (hmark : 0 < mark.val) : c ≠ mark := by
  rintro rfl
  omega

/-- No number and no word goes on with a zero. -/
theorem readScalar_zero_next (hd : d.val = 0) (rest : Text) :
    Malformed (readScalar (c :: d :: rest)) ∨
      ∃ v, readScalar (c :: d :: rest) = .ok (v, d :: rest) := by
  have hstop : Stops continuesNumber (d :: rest) := by
    have hzero : d = CodePoint.ofNat 0 := Fin.ext hd
    rw [stops_cons, hzero]
    decide
  have hword : readWord? (c :: d :: rest) = none := by
    by_contra hsome
    rcases Option.ne_none_iff_exists'.mp hsome with ⟨found, hfound⟩
    rcases head_of_readWord? hfound with ⟨a, b, more, heq, _, hb⟩
    rw [← (List.cons.inj (List.cons.inj heq).right).left] at hb
    omega
  rw [readScalar, hword]
  rcases readNumber_cases (c :: d :: rest) with
    hnone | ⟨negative, body, whole, more, hsigned, hwhole⟩
  · exact Or.inl ⟨_, _, hnone⟩
  · right
    rcases head_of_wholePart? hwhole with ⟨e, tail, rfl, hdigit⟩
    cases negative with
    | true =>
        have hde := (List.cons.inj (List.cons.inj hsigned).right).left
        have hrange := CodePoint.isAsciiDigit_iff.mp hdigit
        rw [← hde] at hrange
        omega
    | false =>
        rw [← (List.cons.inj hsigned).left] at hdigit
        have hone : wholePart? (c :: d :: rest) = some ([c], d :: rest) := by
          by_cases hzero : c = CodePoint.ofChar '0'
          · rw [hzero]
            exact wholePart?_zero _
          · have hrun : AsciiDigits [c] :=
              ⟨List.cons_ne_nil c [], List.forall_mem_singleton.mpr hdigit⟩
            exact wholePart?_append hrun (fun hhead => hzero (Option.some.inj hhead))
              (stops_isAsciiDigit hstop)
        have hnumber := readNumber_signed false hone
        simp only [readBehind, fractionPart?_eq_none hstop, exponentPart?_eq_none hstop,
          List.length_singleton] at hnumber
        rw [if_neg (by decide)] at hnumber
        exact ⟨_, hnumber⟩

/-- Nor does any other value, unless it ends before the zero. -/
theorem readValue_zero_next {fuel room : Nat} (hfuel : 3 ≤ fuel) (hroom : room ≠ 0)
    (hd : d.val = 0) (rest : Text) :
    Malformed (readValue fuel room (c :: d :: rest)) ∨
      ∃ v, readValue fuel room (c :: d :: rest) = .ok (v, d :: rest) := by
  rcases Nat.exists_eq_add_of_le' hfuel with ⟨fuel, rfl⟩
  have hcontrol : d.val < 0x20 := by omega
  have hquoteNext : d ≠ CodePoint.ofChar '\x22' := ne_of_zero hd (by decide)
  by_cases hquote : c = CodePoint.ofChar '\x22'
  · left
    rw [hquote, readValue_string]
    apply Malformed.map
    rw [readText.eq_def]
    dsimp only
    rw [if_neg hquoteNext, if_neg (ne_of_zero hd (by decide)), if_pos hcontrol]
    exact ⟨_, _, rfl⟩
  by_cases hbracket : c = CodePoint.ofChar '['
  · left
    rw [hbracket, readValue_list, if_neg hroom]
    unfold readInside
    rw [skipSpace_zero hd]
    dsimp only
    rw [if_neg (ne_of_zero hd (by decide)), readItems_succ, readValue_control hcontrol]
    exact ⟨_, _, rfl⟩
  by_cases hbrace : c = CodePoint.ofChar '\x7b'
  · left
    rw [hbrace, readValue_object, if_neg hroom]
    unfold readInside
    rw [skipSpace_zero hd]
    dsimp only
    rw [if_neg (ne_of_zero hd (by decide)), readFields, if_pos hquoteNext]
    exact ⟨_, _, rfl⟩
  · rw [readValue_other hquote hbracket hbrace]
    exact readScalar_zero_next hd rest

theorem WellFormed.nonzero (h : WellFormed t) : ∀ c ∈ t.take 2, c.val ≠ 0 := by
  have hvalue := wellFormed_iff.mp h
  rw [readFromStart_eq h.head_ne_mark] at hvalue
  have hmalformed : ¬ Malformed (readValue (2 * t.length + 2) maxDepth (skipSpace t)) := by
    exact fun hfails => hvalue (hfails.bind finishDocument)
  have hhead (c : CodePoint) (rest : Text) (hskip : skipSpace t = c :: rest) : c.val ≠ 0 := by
    intro hc
    rw [hskip] at hmalformed
    exact hmalformed ⟨_, _, readValue_control (by omega) rest⟩
  cases t with
  | nil => exact nofun
  | cons c t =>
      have hc : c.val ≠ 0 := fun hc => hhead c t (skipSpace_zero hc t) hc
      cases t with
      | nil => exact List.forall_mem_singleton.mpr hc
      | cons d rest =>
          refine List.forall_mem_cons.mpr ⟨hc, List.forall_mem_singleton.mpr fun hd => ?_⟩
          by_cases hspace : isSpace c = true
          · refine hhead d rest ?_ hd
            rw [skipSpace, List.dropWhile_cons_of_pos hspace]
            exact skipSpace_zero hd rest
          · rw [Bool.not_eq_true] at hspace
            rw [skipSpace_cons hspace] at hmalformed hvalue
            have hfuel : 3 ≤ 2 * (c :: d :: rest).length + 2 := by
              simp only [List.length_cons]
              omega
            have hroom : maxDepth ≠ 0 := by decide
            rcases readValue_zero_next (c := c) hfuel hroom hd rest with hfails | ⟨v, hread⟩
            · exact hmalformed hfails
            · refine hvalue ⟨.extraData, (d :: rest).length, ?_⟩
              rw [hread]
              change finishDocument (v, d :: rest) = _
              simp only [finishDocument, skipSpace_zero hd]

/-- A document is read back from its octets. -/
theorem readDocument_toUtf8 (hwell : WellFormed t) (hencodable : t.Encodable) :
    Encoding.readDocument t.toUtf8 = some t := by
  rw [Encoding.readDocument, Encoding.detect_toUtf8 hwell.head_ne_mark hwell.nonzero]
  dsimp only [Encoding.read]
  rw [Utf8.readWithSurrogates_toUtf8 hencodable]
  rfl

end Json
end RuleDraft
