import Mathlib.Data.List.Basic

/-!
# The last item with a property

Where later items of a list win over earlier ones, the last item with a property is the one
that counts.  A search from the end finds it, and an item put behind the list takes its
place if it has the property.
-/

namespace RuleDraft

variable {α β : Type} {p : α → Prop} {xs : List α} {x y : α}

/-- The item has the property, and no item behind it has. -/
def IsLast (p : α → Prop) (xs : List α) (x : α) : Prop :=
  ∃ before after, xs = before ++ x :: after ∧ p x ∧ ∀ y ∈ after, ¬ p y

theorem IsLast.mem (h : IsLast p xs x) : x ∈ xs := by
  rcases h with ⟨before, after, rfl, _, _⟩
  exact List.mem_append_right before List.mem_cons_self

theorem IsLast.holds (h : IsLast p xs x) : p x := by
  rcases h with ⟨_, _, _, hx, _⟩
  exact hx

section Search

variable [DecidablePred p]

theorem find?_reverse_eq_some_iff :
    xs.reverse.find? (fun x => p x) = some x ↔ IsLast p xs x := by
  rw [List.find?_eq_some_iff_append]
  constructor
  · intro h
    rcases h with ⟨hx, after, before, hxs, hafter⟩
    refine ⟨before.reverse, after.reverse, ?_, of_decide_eq_true hx, ?_⟩
    · rw [← List.reverse_reverse xs, hxs]
      simp
    · intro y hy
      simpa using hafter y (List.mem_reverse.mp hy)
  · intro h
    rcases h with ⟨before, after, hxs, hx, hafter⟩
    refine ⟨decide_eq_true hx, after.reverse, before.reverse, ?_, ?_⟩
    · rw [hxs]
      simp
    · intro y hy
      simpa using hafter y (List.mem_reverse.mp hy)

theorem find?_reverse_eq_none_iff :
    xs.reverse.find? (fun x => p x) = none ↔ ∀ x ∈ xs, ¬ p x := by
  simp

theorem IsLast.unique (hx : IsLast p xs x) (hy : IsLast p xs y) : x = y := by
  have hfound := find?_reverse_eq_some_iff.mpr hx
  rw [find?_reverse_eq_some_iff.mpr hy] at hfound
  exact (Option.some.inj hfound).symm

theorem isLast_append_singleton :
    IsLast p (xs ++ [y]) x ↔ p y ∧ x = y ∨ ¬ p y ∧ IsLast p xs x := by
  rw [← find?_reverse_eq_some_iff, List.reverse_append, List.reverse_singleton,
    List.singleton_append]
  by_cases hy : p y
  · simp [hy, eq_comm]
  · simp [hy, find?_reverse_eq_some_iff]

theorem isLast_map_iff {p : β → Prop} [DecidablePred p] {f : α → β} {y : β} :
    IsLast p (xs.map f) y ↔ ∃ x, IsLast (fun x => p (f x)) xs x ∧ f x = y := by
  rw [← find?_reverse_eq_some_iff, ← List.map_reverse, List.find?_map, Option.map_eq_some_iff]
  simp only [← find?_reverse_eq_some_iff]
  rfl

end Search

end RuleDraft
