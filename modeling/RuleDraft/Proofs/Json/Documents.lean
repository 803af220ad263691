import RuleDraft.Document.Rendering
import RuleDraft.Proofs.Json.Layout
import RuleDraft.Proofs.KeyedRows
import RuleDraft.Proofs.Outcome

/-!
# Documents read back

A value that the reader can hold is read back from its text in every layout: its
integers are within the digit limit, the keys of its objects are distinct, and its
containers are nested no deeper than the reader goes.  A layout that escapes more than it
must may give back only some strings; then all texts of the value have to be such.
-/

namespace RuleDraft
namespace Value

mutual

/-- How many containers stand in each other. -/
def depth : Value → Nat
  | .list vs => depthOfItems vs + 1
  | .object fs => depthOfFields fs + 1
  | _ => 0

def depthOfItems : List Value → Nat
  | [] => 0
  | v :: vs => max v.depth (depthOfItems vs)

def depthOfFields : List (Text × Value) → Nat
  | [] => 0
  | (_, v) :: fs => max v.depth (depthOfFields fs)

end

mutual

/-- Integers have no more digits than are read, and objects have distinct keys. -/
def JsonReady : Value → Prop
  | .int i => i.natAbs < 10 ^ digitLimit
  | .list vs => ItemsReady vs
  | .object fs => (Keyed.keys fs).Nodup ∧ FieldsReady fs
  | _ => True

def ItemsReady : List Value → Prop
  | [] => True
  | v :: vs => v.JsonReady ∧ ItemsReady vs

def FieldsReady : List (Text × Value) → Prop
  | [] => True
  | (_, v) :: fs => v.JsonReady ∧ FieldsReady fs

end

theorem jsonReady_digit {i : Int} (h : i.natAbs < 10) : (Value.int i).JsonReady :=
  Nat.lt_of_lt_of_le h (Nat.le_self_pow (by decide) 10)

theorem fieldsReady_iff {fs : List (Text × Value)} :
    FieldsReady fs ↔ ∀ f ∈ fs, f.2.JsonReady := by
  induction fs with
  | nil => simp [FieldsReady]
  | cons f fs ih => rw [FieldsReady, ih, List.forall_mem_cons]

theorem jsonReady_object {fs : List (Text × Value)} :
    (Value.object fs).JsonReady ↔ (Keyed.keys fs).Nodup ∧ ∀ f ∈ fs, f.2.JsonReady :=
  and_congr_right fun _ => fieldsReady_iff

theorem keys_record (named : List (String × Value)) :
    Keyed.keys (named.map fun f => (Text.ofString f.1, f.2)) =
      (named.map Prod.fst).map Text.ofString := by
  rw [Keyed.keys, List.map_map, List.map_map]
  rfl

theorem jsonReady_record {named : List (String × Value)} (hnames : (named.map Prod.fst).Nodup)
    (h : ∀ f ∈ named, f.2.JsonReady) : (Value.record named).JsonReady := by
  refine jsonReady_object.mpr ⟨?_, List.forall_mem_map.mpr h⟩
  rw [keys_record]
  exact List.Pairwise.map _ (fun _ _ hne heq => hne (Text.ofString_inj heq)) hnames

mutual

/-- Every text and every object key in the value is of a kind. -/
def AllTexts (kind : Text → Prop) : Value → Prop
  | .text t => kind t
  | .list vs => AllItems kind vs
  | .object fs => AllFields kind fs
  | _ => True

def AllItems (kind : Text → Prop) : List Value → Prop
  | [] => True
  | v :: vs => v.AllTexts kind ∧ AllItems kind vs

def AllFields (kind : Text → Prop) : List (Text × Value) → Prop
  | [] => True
  | (k, v) :: fs => (kind k ∧ v.AllTexts kind) ∧ AllFields kind fs

end

section AllTexts

variable {kind : Text → Prop}

mutual

def decideAllTexts [DecidablePred kind] : ∀ v : Value, Decidable (v.AllTexts kind)
  | .null | .bool _ | .int _ | .float _ => .isTrue trivial
  | .text t => inferInstanceAs (Decidable (kind t))
  | .list vs => decideAllItems vs
  | .object fs => decideAllFields fs

def decideAllItems [DecidablePred kind] : ∀ vs : List Value, Decidable (AllItems kind vs)
  | [] => .isTrue trivial
  | v :: vs => @instDecidableAnd _ _ (decideAllTexts v) (decideAllItems vs)

def decideAllFields [DecidablePred kind] :
    ∀ fs : List (Text × Value), Decidable (AllFields kind fs)
  | [] => .isTrue trivial
  | (k, v) :: fs =>
      @instDecidableAnd _ _ (@instDecidableAnd (kind k) _ _ (decideAllTexts v))
        (decideAllFields fs)

end

instance [DecidablePred kind] (v : Value) : Decidable (v.AllTexts kind) := decideAllTexts v

mutual

theorem allTexts_of_forall (h : ∀ t, kind t) : ∀ v : Value, v.AllTexts kind
  | .null | .bool _ | .int _ | .float _ => trivial
  | .text t => h t
  | .list vs => allItems_of_forall h vs
  | .object fs => allFields_of_forall h fs

theorem allItems_of_forall (h : ∀ t, kind t) : ∀ vs : List Value, AllItems kind vs
  | [] => trivial
  | v :: vs => ⟨allTexts_of_forall h v, allItems_of_forall h vs⟩

theorem allFields_of_forall (h : ∀ t, kind t) :
    ∀ fs : List (Text × Value), AllFields kind fs
  | [] => trivial
  | (k, v) :: fs => ⟨⟨h k, allTexts_of_forall h v⟩, allFields_of_forall h fs⟩

end

end AllTexts

end Value

namespace Json

open Text Value

variable {fuel room depth : Nat} {s : Style} {kind : Text → Prop} {t rest tail more : Text}

/-- A string of a kind is read back from what the style makes of it. -/
structure Style.Restores (s : Style) (kind : Text → Prop) : Prop extends s.Airy where
  readText : ∀ {t}, kind t → ∀ opening tail,
    readText opening (insideAs s.asciiOnly t tail) = .ok (t, tail)

theorem Style.Spaced.restores (hs : s.Spaced) : s.Restores fun _ => True where
  toAiry := hs.airy
  readText _ opening tail := by
    rw [hs.asciiOnly, insideAs_false]
    exact readText_inside opening _ tail

/-!
# Steps of the reader
-/

theorem readItems_last {v : Value} (hv : readValue fuel room t = .ok (v, rest))
    (hrest : skipSpace rest = CodePoint.ofChar ']' :: tail) :
    readItems (fuel + 1) room t = .ok ([v], tail) := by
  rw [readItems, hv, ok_bind]
  dsimp only
  rw [hrest]
  exact if_pos rfl

theorem readItems_more {v : Value} {vs : List Value}
    (hv : readValue fuel room t = .ok (v, rest))
    (hrest : skipSpace rest = CodePoint.ofChar ',' :: more)
    (hvs : readItems fuel room (skipSpace more) = .ok (vs, tail)) :
    readItems (fuel + 1) room t = .ok (v :: vs, tail) := by
  rw [readItems, hv, ok_bind]
  dsimp only
  rw [hrest]
  dsimp only
  rw [if_neg (by decide), if_pos rfl, hvs]
  rfl

theorem readFields_last {k : Text} {v : Value} {inner : Text}
    (hk : readText (inner.length + 1) inner = .ok (k, rest))
    (hcolon : skipSpace rest = CodePoint.ofChar ':' :: more)
    (hv : readValue fuel room (skipSpace more) = .ok (v, t))
    (ht : skipSpace t = CodePoint.ofChar '\x7d' :: tail) :
    readFields (fuel + 1) room (CodePoint.ofChar '\x22' :: inner) = .ok ([(k, v)], tail) := by
  rw [readFields, if_neg (by decide), hk]
  dsimp only [pure_bind]
  rw [ok_bind]
  dsimp only
  rw [hcolon]
  dsimp only
  rw [if_neg (by decide), hv, ok_bind]
  dsimp only
  rw [ht]
  exact if_pos rfl

theorem readFields_more {k : Text} {v : Value} {fs : List (Text × Value)} {inner next : Text}
    (hk : readText (inner.length + 1) inner = .ok (k, rest))
    (hcolon : skipSpace rest = CodePoint.ofChar ':' :: more)
    (hv : readValue fuel room (skipSpace more) = .ok (v, t))
    (ht : skipSpace t = CodePoint.ofChar ',' :: next)
    (hfs : readFields fuel room (skipSpace next) = .ok (fs, tail)) :
    readFields (fuel + 1) room (CodePoint.ofChar '\x22' :: inner) =
      .ok ((k, v) :: fs, tail) := by
  rw [readFields, if_neg (by decide), hk]
  dsimp only [pure_bind]
  rw [ok_bind]
  dsimp only
  rw [hcolon]
  dsimp only
  rw [if_neg (by decide), hv, ok_bind]
  dsimp only
  rw [ht]
  dsimp only
  rw [if_neg (by decide), if_pos rfl, hfs]
  rfl

theorem readValue_items {vs : List Value} (hopens : Opens (skipSpace t))
    (hvs : readItems fuel room (skipSpace t) = .ok (vs, tail)) :
    readValue (fuel + 1) (room + 1) (CodePoint.ofChar '[' :: t) = .ok (.list vs, tail) := by
  rcases hopens with ⟨c, rest, heq, _, _, hbracket, _⟩
  rw [heq] at hvs
  rw [readValue]
  refine (if_neg (Nat.succ_ne_zero room)).trans ?_
  rw [heq]
  dsimp only
  rw [if_neg hbracket, Nat.add_sub_cancel, hvs]
  rfl

theorem readValue_fields {fs : List (Text × Value)} {inner : Text}
    (hquote : skipSpace t = CodePoint.ofChar '\x22' :: inner)
    (hfs : readFields fuel room (skipSpace t) = .ok (fs, tail))
    (hkeys : (Keyed.keys fs).Nodup) :
    readValue (fuel + 1) (room + 1) (CodePoint.ofChar '\x7b' :: t) =
      .ok (.object fs, tail) := by
  rw [hquote] at hfs
  rw [readValue]
  refine (if_neg (Nat.succ_ne_zero room)).trans ?_
  rw [hquote]
  dsimp only
  rw [if_neg (by decide), Nat.add_sub_cancel, hfs]
  change Except.ok (Value.object (Keyed.ofRows fs), tail) = _
  rw [Keyed.ofRows_of_nodup hkeys]

/-!
# Reading back
-/

mutual

-- The recursion is that of the writer.  The fuel that the reader has left is bounded by the length
-- of what it still has to read, so it never runs out.
theorem readValue_write (hs : s.Restores kind) :
    ∀ (v : Value) (depth room fuel : Nat) (tail : Text),
      v.AllTexts kind → v.JsonReady → v.depth ≤ room → Stops continuesNumber tail →
        2 * (write s depth v tail).length ≤ fuel →
          readValue (fuel + 1) room (write s depth v tail) = .ok (v, tail)
  | .null, _, _, _, _, _, _, _, _, _ => readValue_word "null" (by decide)
  | .bool true, _, _, _, _, _, _, _, _, _ => readValue_word "true" (by decide)
  | .bool false, _, _, _, _, _, _, _, _, _ => readValue_word "false" (by decide)
  | .int i, _, _, _, _, _, hready, _, htail, _ => by
      rw [write]
      exact readValue_number (readNumber_ofInt hready htail)
  | .float x, _, _, _, _, _, _, _, htail, _ => by
      rw [write]
      exact readValue_float x htail
  | .text t, _, _, _, _, ht, _, _, _, _ => by
      rw [write]
      exact readValue_text (hs.readText ht)
  | .list [], _, room, _, _, _, _, hdepth, _, _ => by
      have hroom : room ≠ 0 := by
        exact Nat.ne_of_gt hdepth
      rw [write, readValue]
      exact if_neg hroom
  | .list (v :: vs), depth, room, fuel, tail, hkind, hready, hdepth, _, hfuel => by
      rcases Nat.exists_eq_succ_of_ne_zero (Nat.ne_of_gt (Nat.lt_of_lt_of_le
        (Nat.succ_pos _) hdepth)) with ⟨r, rfl⟩
      rw [write_list] at hfuel ⊢
      have hclosing : skipSpace (s.edge depth (CodePoint.ofChar ']' :: tail)) =
          CodePoint.ofChar ']' :: tail := skipSpace_closing (by decide)
      have hstops : Stops continuesNumber (s.edge depth (CodePoint.ofChar ']' :: tail)) :=
        stops_closing (by decide)
      generalize s.edge depth (CodePoint.ofChar ']' :: tail) = closing at hfuel hclosing hstops ⊢
      have hopens : Opens (itemsText s (depth + 1) (v :: vs) closing) := opens_itemsText v vs
      have hlength := length_le_edge s (depth + 1) (itemsText s (depth + 1) (v :: vs) closing)
      rw [List.length_cons] at hfuel
      rcases Nat.exists_eq_add_of_le' (show 1 ≤ fuel by omega) with ⟨f, rfl⟩
      apply readValue_items
      · rw [skipSpace_edge, skipSpace_of_opens hopens]
        exact hopens
      · rw [skipSpace_edge, skipSpace_of_opens hopens]
        exact readItems_write hs (v :: vs) (depth + 1) r f closing tail (List.cons_ne_nil v vs)
          hkind hready (Nat.le_of_succ_le_succ hdepth) hclosing hstops (by omega)
  | .object [], _, room, _, _, _, _, hdepth, _, _ => by
      have hroom : room ≠ 0 := by
        exact Nat.ne_of_gt hdepth
      rw [write, readValue]
      exact if_neg hroom
  | .object (f :: fs), depth, room, fuel, tail, hkind, hready, hdepth, _, hfuel => by
      rcases Nat.exists_eq_succ_of_ne_zero (Nat.ne_of_gt (Nat.lt_of_lt_of_le
        (Nat.succ_pos _) hdepth)) with ⟨r, rfl⟩
      rw [write_object] at hfuel ⊢
      have hclosing : skipSpace (s.edge depth (CodePoint.ofChar '\x7d' :: tail)) =
          CodePoint.ofChar '\x7d' :: tail := skipSpace_closing (by decide)
      have hstops : Stops continuesNumber (s.edge depth (CodePoint.ofChar '\x7d' :: tail)) :=
        stops_closing (by decide)
      generalize s.edge depth (CodePoint.ofChar '\x7d' :: tail) = closing
        at hfuel hclosing hstops ⊢
      have hopens : Opens (fieldsText s (depth + 1) (f :: fs) closing) :=
        opens_fieldsText f fs
      have hlength := length_le_edge s (depth + 1) (fieldsText s (depth + 1) (f :: fs) closing)
      rw [List.length_cons] at hfuel
      rcases Nat.exists_eq_add_of_le' (show 1 ≤ fuel by omega) with ⟨n, rfl⟩
      apply readValue_fields
      · rw [skipSpace_edge, skipSpace_of_opens hopens]
        exact fieldsText_cons f.1 f.2 fs
      · rw [skipSpace_edge, skipSpace_of_opens hopens]
        exact readFields_write hs (f :: fs) (depth + 1) r n closing tail (List.cons_ne_nil f fs)
          hkind hready.right
          (Nat.le_of_succ_le_succ hdepth) hclosing hstops (by omega)
      · exact hready.left

theorem readItems_write (hs : s.Restores kind) :
    ∀ (vs : List Value) (depth room fuel : Nat) (closing tail : Text),
      vs ≠ [] → AllItems kind vs → ItemsReady vs → depthOfItems vs ≤ room →
        skipSpace closing = CodePoint.ofChar ']' :: tail → Stops continuesNumber closing →
          2 * (itemsText s depth vs closing).length + 1 ≤ fuel →
            readItems (fuel + 1) room (itemsText s depth vs closing) = .ok (vs, tail)
  | [], _, _, _, _, _, hne, _, _, _, _, _, _ => absurd rfl hne
  | [v], depth, room, fuel, closing, tail, _, hkind, hready, hdepth, hclosing, hstops, hfuel => by
      rcases Nat.exists_eq_add_of_le' (show 1 ≤ fuel by omega) with ⟨f, rfl⟩
      rw [itemsText, writeItems] at hfuel ⊢
      exact readItems_last
        (readValue_write hs v depth room f closing hkind.left hready.left
          (Nat.le_trans (Nat.le_max_left _ _) hdepth) hstops (by omega))
        hclosing
  | v :: w :: ws, depth, room, fuel, closing, tail, _, hkind, hready, hdepth, hclosing, hstops,
      hfuel => by
      rcases Nat.exists_eq_add_of_le' (show 1 ≤ fuel by omega) with ⟨f, rfl⟩
      rw [itemsText, writeItems_cons] at hfuel ⊢
      have hopens : Opens (itemsText s depth (w :: ws) closing) := opens_itemsText w ws
      have hvs := readItems_write hs (w :: ws) depth room f closing tail
        (List.cons_ne_nil w ws) hkind.right hready.right
        (Nat.le_trans (Nat.le_max_right _ _) hdepth) hclosing hstops
      generalize itemsText s depth (w :: ws) closing = others at hfuel hopens hvs ⊢
      have hfirst := length_lt_write s v depth (s.comma depth others)
      have hcomma := length_lt_comma s depth others
      rcases skipSpace_comma hs.toAiry depth hopens with ⟨more, hskip, hmore⟩
      refine readItems_more
        (readValue_write hs v depth room f (s.comma depth others) hkind.left hready.left
          (Nat.le_trans (Nat.le_max_left _ _) hdepth) stops_comma (by omega))
        hskip ?_
      rw [hmore]
      exact hvs (by omega)

theorem readFields_write (hs : s.Restores kind) :
    ∀ (fs : List (Text × Value)) (depth room fuel : Nat) (closing tail : Text),
      fs ≠ [] → AllFields kind fs → FieldsReady fs → depthOfFields fs ≤ room →
        skipSpace closing = CodePoint.ofChar '\x7d' :: tail → Stops continuesNumber closing →
          2 * (fieldsText s depth fs closing).length + 1 ≤ fuel →
            readFields (fuel + 1) room (fieldsText s depth fs closing) = .ok (fs, tail)
  | [], _, _, _, _, _, hne, _, _, _, _, _, _ => absurd rfl hne
  | [(k, v)], depth, room, fuel, closing, tail, _, hkind, hready, hdepth, hclosing, hstops,
      hfuel => by
      rcases Nat.exists_eq_add_of_le' (show 1 ≤ fuel by omega) with ⟨n, rfl⟩
      have hlength := length_lt_fieldsText s depth k v [] closing
      rw [fieldsText_cons]
      rw [writeFields] at hlength ⊢
      refine readFields_last (hs.readText hkind.left.left _ _) (skipSpace_cons (by decide)) ?_
        hclosing
      rw [skipSpace_colon hs.toAiry (opens_write s depth v closing)]
      exact readValue_write hs v depth room n closing hkind.left.right hready.left
        (Nat.le_trans (Nat.le_max_left _ _) hdepth) hstops (by omega)
  | (k, v) :: g :: gs, depth, room, fuel, closing, tail, _, hkind, hready, hdepth, hclosing, hstops,
      hfuel => by
      rcases Nat.exists_eq_add_of_le' (show 1 ≤ fuel by omega) with ⟨n, rfl⟩
      have hlength := length_lt_fieldsText s depth k v (g :: gs) closing
      rw [fieldsText_cons]
      rw [writeFields_cons] at hlength ⊢
      have hopens : Opens (fieldsText s depth (g :: gs) closing) := opens_fieldsText g gs
      have hfs := readFields_write hs (g :: gs) depth room n closing tail
        (List.cons_ne_nil g gs) hkind.right hready.right
        (Nat.le_trans (Nat.le_max_right _ _) hdepth) hclosing hstops
      generalize fieldsText s depth (g :: gs) closing = others at hlength hopens hfs ⊢
      have hfirst := length_lt_write s v depth (s.comma depth others)
      have hcomma := length_lt_comma s depth others
      rcases skipSpace_comma hs.toAiry depth hopens with ⟨more, hskip, hmore⟩
      refine readFields_more (hs.readText hkind.left.left _ _) (skipSpace_cons (by decide)) ?_
        hskip ?_
      · rw [skipSpace_colon hs.toAiry (opens_write s depth v _)]
        exact readValue_write hs v depth room n (s.comma depth others) hkind.left.right hready.left
          (Nat.le_trans (Nat.le_max_left _ _) hdepth) stops_comma (by omega)
      · rw [hmore]
        exact hfs (by omega)

end

/-- A whole document, with room for some number of open containers. -/
def readWithin (room : Nat) (t : Text) : Except ReadError Value := do
  if t.head? = some (CodePoint.ofNat 0xFEFF) then throw (.malformed .byteOrderMark t.length)
  let (v, rest) ← readValue (2 * t.length + 2) room (skipSpace t)
  match skipSpace rest with
  | [] => .ok v
  | rest => .error (.malformed .extraData rest.length)

theorem readFromStart_eq_readWithin : readFromStart = readWithin maxDepth :=
  rfl

/-- A ready value is read back with room for its depth from a layout that restores its texts. -/
theorem readWithin_render (hs : s.Restores kind) {v : Value} (hkind : v.AllTexts kind)
    (hready : v.JsonReady) (hdepth : v.depth ≤ room) : readWithin room (render s v) = .ok v := by
  have hopens := opens_write s 0 v []
  have hread := readValue_write hs v 0 room (2 * (write s 0 v []).length + 1) [] hkind hready
    hdepth stops_nil (Nat.le_succ _)
  have hmark : ¬ (write s 0 v []).head? = some (CodePoint.ofNat 0xFEFF) := by
    rcases hopens with ⟨c, rest, heq, _, hascii, _⟩
    rw [heq, List.head?_cons]
    intro hc
    rw [Option.some.inj hc] at hascii
    exact absurd hascii (by decide)
  rw [readWithin, render, if_neg hmark, skipSpace_of_opens hopens, hread]
  rfl

theorem readDocument_of_readWithin {v : Value} (h : readWithin maxDepth t = .ok v) :
    readDocument t = .ok v := by
  rw [readDocument, readFromStart_eq_readWithin, h]

/-- A ready value is read back from its text in every layout without escapes of its own. -/
theorem readDocument_render (hs : s.Spaced) {v : Value} (hready : v.JsonReady)
    (hdepth : v.depth ≤ maxDepth) : readDocument (render s v) = .ok v :=
  readDocument_of_readWithin
    (readWithin_render hs.restores (allTexts_of_forall (fun _ => trivial) v) hready hdepth)

end Json
end RuleDraft
