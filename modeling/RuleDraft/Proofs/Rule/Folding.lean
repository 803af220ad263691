import Mathlib.Data.List.Induction
import Mathlib.Data.List.Nodup
import RuleDraft.Proofs.KeyedRows
import RuleDraft.Proofs.LastItem
import RuleDraft.Rule.Row

/-!
# Folded rows

Rows are folded one after the other, and each is put in place if its key is there and last
if it is not.  So the first row with a key gives the place and the last row gives the value,
whatever rows stand between them.  The mapping remembers all that later rows need: its
entries can be folded in the place of the rows that made them.
-/

namespace RuleDraft

namespace Keyed

variable {κ ν : Type} [DecidableEq κ]

/-!
# One put
-/

theorem keys_put (k : κ) (v : ν) (m : Keyed κ ν) :
    keys (put k v m) = if k ∈ keys m then keys m else keys m ++ [k] := by
  by_cases hmem : k ∈ keys m
  · rw [if_pos hmem]
    induction m with
    | nil => cases hmem
    | cons e m ih =>
        rw [put]
        by_cases hkey : e.1 = k
        · rw [if_pos hkey, keys, keys, List.map_cons, List.map_cons, hkey]
        · rw [if_neg hkey]
          have hrest : k ∈ keys m := by
            rcases List.mem_cons.mp hmem with hhead | hrest
            · exact absurd hhead.symm hkey
            · exact hrest
          exact congrArg (List.cons e.1) (ih hrest)
  · rw [if_neg hmem, put_of_not_mem hmem, keys, List.map_append]
    rfl

theorem nodup_keys_put {k : κ} {v : ν} {m : Keyed κ ν} (h : (keys m).Nodup) :
    (keys (put k v m)).Nodup := by
  rw [keys_put]
  by_cases hmem : k ∈ keys m
  · rw [if_pos hmem]
    exact h
  · rw [if_neg hmem, List.nodup_append]
    refine ⟨h, List.nodup_singleton k, ?_⟩
    intro a ha b hb hab
    rw [hab, List.mem_singleton.mp hb] at ha
    exact hmem ha

/-!
# All rows

The rows behind are put into what the rows before have made, so each statement is proved
by taking rows off the end.
-/

theorem ofRows_append (rows more : List (κ × ν)) :
    ofRows (rows ++ more) = putAll more (ofRows rows) :=
  List.foldl_append

theorem ofRows_append_singleton (rows : List (κ × ν)) (row : κ × ν) :
    ofRows (rows ++ [row]) = put row.1 row.2 (ofRows rows) :=
  ofRows_append rows [row]

theorem nodup_keys_ofRows (rows : List (κ × ν)) : (keys (ofRows rows)).Nodup := by
  induction rows using List.reverseRecOn with
  | nil => exact List.nodup_nil
  | append_singleton rows row ih =>
      rw [ofRows_append_singleton]
      exact nodup_keys_put ih

/-- The keys are those of the rows, each in the place of its first row. -/
theorem keys_ofRows [BEq κ] [LawfulBEq κ] (rows : List (κ × ν)) :
    keys (ofRows rows) = (rows.map Prod.fst).eraseDups := by
  induction rows using List.reverseRecOn with
  | nil => rfl
  | append_singleton rows row ih =>
      rw [ofRows_append_singleton, keys_put, ih, List.map_append, List.map_singleton,
        List.eraseDups_append]
      by_cases hmem : row.1 ∈ rows.map Prod.fst
      · simp [List.removeAll, hmem]
      · simp [List.removeAll, hmem, List.eraseDups_cons]

/-- Under a key stands the value of its last row. -/
theorem get?_ofRows_eq_some_iff {rows : List (κ × ν)} {k : κ} {v : ν} :
    get? k (ofRows rows) = some v ↔ IsLast (fun row => row.1 = k) rows (k, v) := by
  induction rows using List.reverseRecOn with
  | nil =>
      constructor
      · intro h
        cases h
      · intro h
        cases h.mem
  | append_singleton rows row ih =>
      rw [ofRows_append_singleton, get?_put, isLast_append_singleton, ← ih]
      by_cases hkey : row.1 = k
      · simp [hkey, Prod.ext_iff, eq_comm]
      · simp [hkey]

theorem get?_eq_none_iff {k : κ} {m : Keyed κ ν} : get? k m = none ↔ k ∉ keys m := by
  induction m with
  | nil => simp [get?, keys]
  | cons e m ih =>
      rw [get?, keys, List.map_cons, List.mem_cons, not_or, ← keys]
      by_cases hkey : e.1 = k
      · simp [hkey]
      · simp [hkey, Ne.symm hkey, ih]

/-- Keyed lists with the same keys in order and the same values under them are the same. -/
theorem eq_of_get? {m n : Keyed κ ν} (hnodup : (keys m).Nodup) (hkeys : keys m = keys n)
    (hget : ∀ k, get? k m = get? k n) : m = n := by
  induction m generalizing n with
  | nil =>
      cases n with
      | nil => rfl
      | cons f n => cases hkeys
  | cons e m ih =>
      cases n with
      | nil => cases hkeys
      | cons f n =>
          rcases List.cons.inj hkeys with ⟨hkey, hrest⟩
          rcases List.nodup_cons.mp hnodup with ⟨hnew, hdistinct⟩
          have hvalue := hget e.1
          rw [get?, get?, if_pos rfl, if_pos hkey.symm] at hvalue
          have hothers : ∀ k, get? k m = get? k n := by
            intro k
            by_cases hk : e.1 = k
            · have hm : get? k m = none := get?_eq_none_iff.mpr (hk ▸ hnew)
              have hn : get? k n = none := by
                rw [get?_eq_none_iff, keys, ← hrest, ← hk]
                exact hnew
              rw [hm, hn]
            · have hrow := hget k
              rw [get?, get?, if_neg hk, if_neg (hkey ▸ hk)] at hrow
              exact hrow
          rw [Prod.ext hkey (Option.some.inj hvalue), ih hdistinct hrest hothers]

end Keyed

namespace Row

/-!
# Rows that count

A row without a key is left out, and so is one without a value where values are needed.
-/

/-- The row has a key, and a value if one is needed. -/
def Counts (needsValue : Bool) (r : Row) : Prop :=
  r.key ≠ [] ∧ (needsValue = true → r.value ≠ [])

instance (needsValue : Bool) : DecidablePred (Counts needsValue) := fun r =>
  inferInstanceAs (Decidable (r.key ≠ [] ∧ (needsValue = true → r.value ≠ [])))

def entry (r : Row) : Text × Text := (r.key, r.value)

/--
The mapping has the distinct keys of the rows in the order of their first rows, and under
each key the value of its last row.
-/
structure FoldsTo (rows : List Row) (m : Keyed Text Text) : Prop where
  keys : Keyed.keys m = (rows.map Row.key).eraseDups
  values : ∀ k v, Keyed.get? k m = some v ↔ ∃ r, IsLast (fun r => r.key = k) rows r ∧ r.value = v

section Folds

variable {needsValue : Bool} {rows entries : List Row} {m n : Keyed Text Text}

theorem isKept_eq (needsValue : Bool) :
    isKept needsValue = fun r => decide (Counts needsValue r) := by
  funext r
  rw [isKept, Bool.eq_iff_iff]
  cases needsValue <;> simp [Counts]

theorem fold_eq_ofRows (needsValue : Bool) (rows : List Row) :
    fold needsValue rows =
      Keyed.ofRows ((rows.filter fun r => Counts needsValue r).map entry) := by
  rw [fold, isKept_eq]
  rfl

theorem foldsTo_ofRows (rows : List Row) : FoldsTo rows (Keyed.ofRows (rows.map entry)) where
  keys := by
    rw [Keyed.keys_ofRows, List.map_map]
    rfl
  values := by
    intro k v
    rw [Keyed.get?_ofRows_eq_some_iff, isLast_map_iff]
    apply exists_congr
    intro r
    apply and_congr_right
    intro hr
    have hkey : r.key = k := hr.holds
    simp [entry, hkey]

/-- The rows determine the mapping. -/
theorem FoldsTo.unique (hm : FoldsTo rows m) (hn : FoldsTo rows n)
    (hnodup : (Keyed.keys m).Nodup) : m = n := by
  refine Keyed.eq_of_get? hnodup (hm.keys.trans hn.keys.symm) ?_
  intro k
  apply Option.ext
  intro v
  rw [hm.values, hn.values]

theorem fold_eq_iff :
    fold needsValue rows = m ↔ FoldsTo (rows.filter fun r => Counts needsValue r) m := by
  have hfolds := foldsTo_ofRows (rows.filter fun r => Counts needsValue r)
  rw [← fold_eq_ofRows] at hfolds
  constructor
  · intro h
    rw [← h]
    exact hfolds
  · intro hm
    refine hfolds.unique hm ?_
    rw [fold_eq_ofRows]
    exact Keyed.nodup_keys_ofRows _

/-!
# Entries as rows

The entries of a folded mapping all count, and their keys are distinct, so as rows they are
folded into the mapping they were taken from.
-/

theorem counts_of_mem_fold {e : Row} (h : e.entry ∈ fold needsValue rows) :
    Counts needsValue e := by
  rw [fold_eq_ofRows] at h
  rcases List.mem_map.mp (Keyed.mem_ofRows h) with ⟨r, hr, hentry⟩
  rcases Prod.mk.inj hentry with ⟨hkey, hvalue⟩
  have hcounts := of_decide_eq_true (List.mem_filter.mp hr).right
  unfold Counts at hcounts ⊢
  rw [← hkey, ← hvalue]
  exact hcounts

theorem fold_append_of_entries (hentries : entries.map entry = fold needsValue rows)
    (more : List Row) : fold needsValue (rows ++ more) = fold needsValue (entries ++ more) := by
  have hall : entries.filter (fun r => Counts needsValue r) = entries := by
    rw [List.filter_eq_self]
    intro e he
    have hmem : e.entry ∈ fold needsValue rows := by
      rw [← hentries]
      exact List.mem_map_of_mem he
    exact decide_eq_true (counts_of_mem_fold hmem)
  have hsame : Keyed.ofRows (entries.map entry) = fold needsValue rows := by
    rw [hentries, fold_eq_ofRows]
    exact Keyed.ofRows_of_nodup (Keyed.nodup_keys_ofRows _)
  rw [fold_eq_ofRows, fold_eq_ofRows, List.filter_append, List.filter_append, List.map_append,
    List.map_append, Keyed.ofRows_append, Keyed.ofRows_append, hall, hsame, fold_eq_ofRows]

end Folds

/--
Folding takes the place of a key from its first row and its value from its last one, and it
goes on from the entries of what was folded before as from the rows themselves.
-/
theorem fold_by_first_and_last (needsValue : Bool) (rows : List Row) :
    (∀ m, fold needsValue rows = m ↔ FoldsTo (rows.filter fun r => Counts needsValue r) m) ∧
      ∀ entries : List Row, entries.map entry = fold needsValue rows →
        (∀ more, fold needsValue (rows ++ more) = fold needsValue (entries ++ more)) ∧
          fold needsValue entries = fold needsValue rows := by
  constructor
  · intro m
    exact fold_eq_iff
  · intro entries hentries
    have hmore := fold_append_of_entries hentries
    refine ⟨hmore, ?_⟩
    have hnone := hmore []
    rw [List.append_nil, List.append_nil] at hnone
    exact hnone.symm

/-- A key that comes twice, with other keys between, and rows that do not count. -/
def repeatedRows : List Row :=
  [⟨"1", "b", "x"⟩, ⟨"2", "", "y"⟩, ⟨"3", "a", "u"⟩, ⟨"4", "a", ""⟩, ⟨"5", "b", "z"⟩]

theorem fold_by_first_and_last_repeated :
    let entries : List Row := [⟨"6", "b", "z"⟩, ⟨"7", "a", "u"⟩]
    let more : List Row := [⟨"8", "c", "w"⟩, ⟨"9", "a", "v"⟩]
    entries.map entry = fold true repeatedRows ∧
      fold true (repeatedRows ++ more) = fold true (entries ++ more) ∧
        fold true entries = fold true repeatedRows := by
  intro entries more
  have hentries : entries.map entry = fold true repeatedRows := by decide
  have hgoesOn := (fold_by_first_and_last true repeatedRows).right entries hentries
  exact ⟨hentries, hgoesOn.left more, hgoesOn.right⟩

end Row

end RuleDraft
