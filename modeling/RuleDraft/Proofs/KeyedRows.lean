import RuleDraft.Keyed

/-!
# Keyed lists of rows

Rows whose keys are distinct are a keyed list as they stand, only no rows at all give an
empty one, and every entry is one of the rows.
-/

namespace RuleDraft
namespace Keyed

variable {κ ν : Type} [DecidableEq κ]

theorem put_of_not_mem {k : κ} {v : ν} {m : Keyed κ ν} (h : k ∉ keys m) :
    put k v m = m ++ [(k, v)] := by
  induction m with
  | nil => rfl
  | cons e m ih =>
      have hkeys : k ≠ e.1 ∧ k ∉ keys m := by
        rw [keys, List.map_cons, List.mem_cons, not_or] at h
        exact h
      rw [put, if_neg (Ne.symm hkeys.left), ih hkeys.right]
      rfl

theorem putAll_of_nodup {rows : List (κ × ν)} {m : Keyed κ ν}
    (h : (keys (m ++ rows)).Nodup) : putAll rows m = m ++ rows := by
  induction rows generalizing m with
  | nil =>
      rw [List.append_nil]
      rfl
  | cons row rows ih =>
      have hnew : row.1 ∉ keys m := by
        rw [keys, List.map_append, List.map_cons] at h
        intro hmem
        exact (List.nodup_append.mp h).right.right row.1 hmem row.1 List.mem_cons_self rfl
      have hput : put row.1 row.2 m = m ++ [row] := put_of_not_mem hnew
      have hmoved : m ++ row :: rows = m ++ [row] ++ rows := by
        rw [List.append_assoc]
        rfl
      rw [hmoved] at h ⊢
      rw [← ih h, ← hput]
      rfl

theorem ofRows_of_nodup {rows : List (κ × ν)} (h : (keys rows).Nodup) : ofRows rows = rows :=
  putAll_of_nodup h

theorem put_ne_nil (k : κ) (v : ν) (m : Keyed κ ν) : put k v m ≠ [] := by
  cases m with
  | nil => exact List.cons_ne_nil _ _
  | cons e m =>
      rw [put]
      by_cases hkey : e.1 = k
      · rw [if_pos hkey]
        exact List.cons_ne_nil _ _
      · rw [if_neg hkey]
        exact List.cons_ne_nil _ _

theorem putAll_ne_nil (rows : List (κ × ν)) {m : Keyed κ ν} (h : m ≠ []) :
    putAll rows m ≠ [] := by
  induction rows generalizing m with
  | nil => exact h
  | cons row rows ih => exact ih (put_ne_nil row.1 row.2 m)

theorem ofRows_eq_nil_iff {rows : List (κ × ν)} : ofRows rows = [] ↔ rows = [] := by
  cases rows with
  | nil => exact iff_of_true rfl rfl
  | cons row rows =>
      exact iff_of_false (putAll_ne_nil rows (put_ne_nil row.1 row.2 []))
        (List.cons_ne_nil row rows)

theorem get?_put (k l : κ) (v : ν) (m : Keyed κ ν) :
    get? l (put k v m) = if k = l then some v else get? l m := by
  induction m with
  | nil => rfl
  | cons e m ih =>
      rw [put]
      by_cases hkey : e.1 = k
      · rw [if_pos hkey, get?, get?, hkey]
        by_cases hkl : k = l
        · rw [if_pos hkl, if_pos hkl]
        · rw [if_neg hkl, if_neg hkl, if_neg hkl]
      · rw [if_neg hkey, get?, get?, ih]
        by_cases hel : e.1 = l
        · have hkl : ¬ k = l := fun h => hkey (hel.trans h.symm)
          rw [if_pos hel, if_pos hel, if_neg hkl]
        · rw [if_neg hel, if_neg hel]

theorem mem_put {k : κ} {v : ν} {m : Keyed κ ν} {e : κ × ν} (h : e ∈ put k v m) :
    e = (k, v) ∨ e ∈ m := by
  induction m with
  | nil => exact Or.inl (List.mem_singleton.mp h)
  | cons d m ih =>
      rw [put] at h
      by_cases hkey : d.1 = k
      · rw [if_pos hkey] at h
        rcases List.mem_cons.mp h with rfl | hmem
        · exact Or.inl rfl
        · exact Or.inr (List.mem_cons_of_mem d hmem)
      · rw [if_neg hkey] at h
        rcases List.mem_cons.mp h with rfl | hmem
        · exact Or.inr List.mem_cons_self
        · exact (ih hmem).imp_right (List.mem_cons_of_mem d)

theorem mem_putAll {rows : List (κ × ν)} {m : Keyed κ ν} {e : κ × ν} (h : e ∈ putAll rows m) :
    e ∈ rows ∨ e ∈ m := by
  induction rows generalizing m with
  | nil => exact Or.inr h
  | cons row rows ih =>
      rcases ih h with hrows | hput
      · exact Or.inl (List.mem_cons_of_mem row hrows)
      · rcases mem_put hput with rfl | hm
        · exact Or.inl List.mem_cons_self
        · exact Or.inr hm

/-- Every entry is one of the rows. -/
theorem mem_ofRows {rows : List (κ × ν)} {e : κ × ν} (h : e ∈ ofRows rows) : e ∈ rows :=
  (mem_putAll h).resolve_right List.not_mem_nil

end Keyed
end RuleDraft
