import Mathlib.Data.Bool.AllAny
import RuleDraft.Proofs.Json.Documents
import RuleDraft.Proofs.Json.Standard

/-!
# The code points of a written value

Around texts the writer puts printable ASCII, what a style has after commas and colons, and
line feeds where it breaks lines.  So a property of these and of what texts are written with
is one of every code point of a written value.
-/

namespace RuleDraft
namespace Json

open Text Value

variable {s : Style} {kind : Text → Prop} {P : CodePoint → Prop} {tail : Text}

/-- A code point from the space to the tilde: no line break, nor any other control. -/
def PlainAscii (c : CodePoint) : Prop :=
  0x20 ≤ c.val ∧ c.val ≤ 0x7E

instance : DecidablePred PlainAscii := fun c =>
  inferInstanceAs (Decidable (0x20 ≤ c.val ∧ c.val ≤ 0x7E))

/-- What the style writes around texts of a kind, and takes over from them, has a property. -/
structure Style.Draws (s : Style) (kind : Text → Prop) (P : CodePoint → Prop) : Prop where
  texts : s.asciiOnly = false → ∀ t, kind t → ∀ c ∈ t, P c
  plain : ∀ c, PlainAscii c → P c
  lineFeed : s.indent ≠ none → P (CodePoint.ofChar '\n')
  afterComma : ∀ c ∈ ofString s.afterComma, P c
  afterColon : ∀ c ∈ ofString s.afterColon, P c

/-!
# Plain parts
-/

theorem plainAscii_of_inNumber {c : CodePoint} (h : InNumber c) : PlainAscii c := by
  rcases h with hdigit | hmark
  · have hrange := CodePoint.isAsciiDigit_iff.mp hdigit
    exact ⟨by omega, by omega⟩
  · exact List.all_iff_forall_prop.mp (by decide) c hmark

theorem plainAscii_escapedUnit (n : Nat) : ∀ c ∈ escapedUnit n, PlainAscii c := by
  refine List.forall_mem_cons.mpr ⟨by decide, List.forall_mem_cons.mpr ⟨by decide, ?_⟩⟩
  intro d hd
  have hdigit := isSome_hexValue?_of_mem_hexPadded d hd
  grind [CodePoint.hexValue?, CodePoint.isAsciiDigit, PlainAscii]

/-- What is escaped is written in plain ASCII, and nothing else stays as it is. -/
theorem plainAscii_or_eq_of_mem_escape {asciiOnly : Bool} {c d : CodePoint}
    (h : d ∈ escape asciiOnly c) : PlainAscii d ∨ asciiOnly = false ∧ d = c := by
  unfold escape at h
  cases hshort : shortEscape? c with
  | some letter =>
      rw [hshort] at h
      left
      rcases List.mem_cons.mp h with rfl | h
      · decide
      · rw [List.mem_singleton.mp h]
        exact List.all_iff_forall_prop.mp (by decide) _ (mem_of_shortEscape? hshort)
  | none =>
      simp only [hshort] at h
      split at h
      · exact Or.inl (plainAscii_escapedUnit _ d h)
      · rename_i hcontrol
        split at h
        · left
          unfold escapedCodePoint at h
          split at h
          · exact plainAscii_escapedUnit _ d h
          · exact (List.mem_append.mp h).elim (plainAscii_escapedUnit _ d)
              (plainAscii_escapedUnit _ d)
        · rename_i hescaped
          rw [List.mem_singleton.mp h]
          cases asciiOnly with
          | false => exact Or.inr ⟨rfl, rfl⟩
          | true =>
              left
              have hascii : c.val < 0x7F := by
                simpa using hescaped
              exact ⟨by omega, by omega⟩

/-!
# Written values

The recursion is that of the writer: what it puts in front of a tail of code points with the
property has the property too.
-/

namespace Style.Draws

theorem mark (hs : s.Draws kind P) {c : CodePoint} (hc : PlainAscii c) (htail : ∀ d ∈ tail, P d) :
    ∀ d ∈ c :: tail, P d :=
  List.forall_mem_cons.mpr ⟨hs.plain c hc, htail⟩

theorem word (hs : s.Draws kind P) {t : Text} (ht : ∀ c ∈ t, PlainAscii c)
    (htail : ∀ d ∈ tail, P d) : ∀ d ∈ t ++ tail, P d :=
  List.forall_mem_append.mpr ⟨fun c hc => hs.plain c (ht c hc), htail⟩

theorem text (hs : s.Draws kind P) {t : Text} (ht : kind t) (htail : ∀ d ∈ tail, P d) :
    ∀ d ∈ writeText s.asciiOnly t tail, P d := by
  have hescape : ∀ c ∈ t, ∀ d ∈ escape s.asciiOnly c, P d := by
    intro c hc d hd
    rcases plainAscii_or_eq_of_mem_escape hd with hplain | ⟨hkept, rfl⟩
    · exact hs.plain d hplain
    · exact hs.texts hkept t ht d hc
  refine hs.mark (by decide) ?_
  clear ht
  induction t with
  | nil => exact hs.mark (by decide) htail
  | cons c t ih =>
      rcases List.forall_mem_cons.mp hescape with ⟨hc, hrest⟩
      exact List.forall_mem_append.mpr ⟨hc, ih hrest⟩

theorem edge (hs : s.Draws kind P) (depth : Nat) (htail : ∀ d ∈ tail, P d) :
    ∀ d ∈ s.edge depth tail, P d := by
  cases hindent : s.indent with
  | none =>
      simp only [Style.edge, hindent]
      exact htail
  | some n =>
      simp only [Style.edge, hindent]
      have hbreaks : s.indent ≠ none := by
        rw [hindent]
        exact Option.some_ne_none n
      refine List.forall_mem_cons.mpr ⟨hs.lineFeed hbreaks, hs.word ?_ htail⟩
      intro c hc
      rw [List.eq_of_mem_replicate hc]
      decide

theorem comma (hs : s.Draws kind P) (depth : Nat) (htail : ∀ d ∈ tail, P d) :
    ∀ d ∈ s.comma depth tail, P d := by
  refine hs.mark (by decide) ?_
  split
  · exact List.forall_mem_append.mpr ⟨hs.afterComma, htail⟩
  · exact hs.edge depth htail

theorem colon (hs : s.Draws kind P) (htail : ∀ d ∈ tail, P d) :
    ∀ d ∈ CodePoint.ofChar ':' :: (ofString s.afterColon ++ tail), P d :=
  hs.mark (by decide) (List.forall_mem_append.mpr ⟨hs.afterColon, htail⟩)

mutual

theorem write (hs : s.Draws kind P) : ∀ (v : Value) (depth : Nat) {tail : Text},
    v.AllTexts kind → (∀ d ∈ tail, P d) → ∀ d ∈ Json.write s depth v tail, P d
  | .null, _, _, _, htail => hs.word (List.all_iff_forall_prop.mp (by decide)) htail
  | .bool true, _, _, _, htail => hs.word (List.all_iff_forall_prop.mp (by decide)) htail
  | .bool false, _, _, _, htail => hs.word (List.all_iff_forall_prop.mp (by decide)) htail
  | .int i, _, _, _, htail => by
      rw [Json.write]
      exact hs.word (fun c hc => plainAscii_of_inNumber ((number_ofInt i).inNumber c hc)) htail
  | .float x, _, _, _, htail => by
      rw [Json.write]
      exact hs.word (forall_mem_write_float (fun _ => plainAscii_of_inNumber)
        (List.all_iff_forall_prop.mp (by decide)) x) htail
  | .text t, _, _, ht, htail => by
      rw [Json.write]
      exact hs.text ht htail
  | .list [], _, _, _, htail => by
      rw [Json.write]
      exact hs.mark (by decide) (hs.mark (by decide) htail)
  | .list (v :: vs), depth, _, hitems, htail => by
      have hclosing := hs.edge depth (hs.mark (c := CodePoint.ofChar ']') (by decide) htail)
      rw [write_list]
      exact hs.mark (by decide) (hs.edge (depth + 1)
        (hs.items (v :: vs) (depth + 1) hitems hclosing))
  | .object [], _, _, _, htail => by
      rw [Json.write]
      exact hs.mark (by decide) (hs.mark (by decide) htail)
  | .object (f :: fs), depth, _, hfields, htail => by
      have hclosing := hs.edge depth (hs.mark (c := CodePoint.ofChar '\x7d') (by decide) htail)
      rw [write_object]
      exact hs.mark (by decide) (hs.edge (depth + 1)
        (hs.fields (f :: fs) (depth + 1) hfields hclosing))

theorem items (hs : s.Draws kind P) : ∀ (vs : List Value) (depth : Nat) {tail : Text},
    AllItems kind vs → (∀ d ∈ tail, P d) → ∀ d ∈ itemsText s depth vs tail, P d
  | [], _, _, _, htail => htail
  | [v], depth, _, hitems, htail => by
      rw [itemsText, writeItems]
      exact hs.write v depth hitems.left htail
  | v :: w :: ws, depth, _, hitems, htail => by
      rw [itemsText, writeItems_cons]
      exact hs.write v depth hitems.left
        (hs.comma depth (hs.items (w :: ws) depth hitems.right htail))

theorem fields (hs : s.Draws kind P) :
    ∀ (fs : List (Text × Value)) (depth : Nat) {tail : Text},
      AllFields kind fs → (∀ d ∈ tail, P d) → ∀ d ∈ fieldsText s depth fs tail, P d
  | [], _, _, _, htail => htail
  | [(k, v)], depth, _, hfields, htail => by
      rw [fieldsText, writeFields]
      exact hs.text hfields.left.left (hs.colon (hs.write v depth hfields.left.right htail))
  | (k, v) :: g :: gs, depth, _, hfields, htail => by
      rw [fieldsText, writeFields_cons]
      exact hs.text hfields.left.left (hs.colon (hs.write v depth hfields.left.right
        (hs.comma depth (hs.fields (g :: gs) depth hfields.right htail))))

end

theorem render (hs : s.Draws kind P) {v : Value} (h : v.AllTexts kind) :
    ∀ c ∈ Json.render s v, P c :=
  hs.write v 0 h (List.forall_mem_nil P)

end Style.Draws

theorem Style.asciiLine_draws : Style.asciiLine.Draws (fun _ => True) PlainAscii where
  texts h := nomatch h
  plain _ h := h
  lineFeed h := absurd rfl h
  afterComma := List.all_iff_forall_prop.mp (by decide)
  afterColon := List.all_iff_forall_prop.mp (by decide)

/-- A line of ASCII is one, whatever texts the value holds. -/
theorem plainAscii_render (v : Value) : ∀ c ∈ Json.render .asciiLine v, PlainAscii c :=
  Style.asciiLine_draws.render (allTexts_of_forall (fun _ => trivial) v)

end Json
end RuleDraft
