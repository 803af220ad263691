import Mathlib.Data.List.Forall2

/-!
# Outcomes that may be errors

How a result or an error of a composed computation comes from its parts.
-/

namespace RuleDraft

variable {ε α β : Type}

theorem ok_bind (x : α) (f : α → Except ε β) : (Except.ok x >>= f) = f x := rfl

theorem bind_eq_ok {r : Except ε α} {f : α → Except ε β} {y : β} :
    r >>= f = .ok y ↔ ∃ x, r = .ok x ∧ f x = .ok y := by
  cases r with
  | error e =>
      constructor
      · intro h
        cases h
      · rintro ⟨x, hx, _⟩
        cases hx
  | ok x =>
      constructor
      · intro h
        exact ⟨x, rfl, h⟩
      · rintro ⟨x', hx, h⟩
        cases hx
        exact h

theorem bind_eq_error {r : Except ε α} {f : α → Except ε β} {e : ε} :
    r >>= f = .error e ↔ r = .error e ∨ ∃ x, r = .ok x ∧ f x = .error e := by
  cases r with
  | error e' =>
      constructor
      · intro h
        cases h
        exact Or.inl rfl
      · rintro (h | ⟨x, hx, _⟩)
        · cases h
          rfl
        · cases hx
  | ok x =>
      constructor
      · intro h
        exact Or.inr ⟨x, rfl, h⟩
      · rintro (h | ⟨x', hx, h⟩)
        · cases h
        · cases hx
          exact h

theorem map_eq_ok {r : Except ε α} {f : α → β} {y : β} :
    r.map f = .ok y ↔ ∃ x, r = .ok x ∧ f x = y := by
  cases r with
  | error e =>
      constructor
      · intro h
        cases h
      · rintro ⟨x, hx, _⟩
        cases hx
  | ok x =>
      constructor
      · intro h
        cases h
        exact ⟨x, rfl, rfl⟩
      · rintro ⟨x', hx, hy⟩
        cases hx
        rw [← hy]
        rfl

theorem map_eq_error {r : Except ε α} {f : α → β} {e : ε} :
    r.map f = .error e ↔ r = .error e := by
  cases r with
  | error e' =>
      constructor
      · intro h
        cases h
        rfl
      · intro h
        cases h
        rfl
  | ok x =>
      constructor
      · intro h
        cases h
      · intro h
        cases h

theorem map_isOk_iff {r : Except ε α} {f : α → β} :
    (∃ y, r.map f = .ok y) ↔ ∃ x, r = .ok x := by
  cases r with
  | error e => exact iff_of_false nofun nofun
  | ok x => exact iff_of_true ⟨f x, rfl⟩ ⟨x, rfl⟩

theorem exists_of_mem_right {R : α → β → Prop} {xs : List α} {ys : List β}
    (h : List.Forall₂ R xs ys) {y : β} (hy : y ∈ ys) : ∃ x ∈ xs, R x y := by
  induction h with
  | nil => cases hy
  | @cons x y' xs ys hhead _ ih =>
      rcases List.mem_cons.mp hy with rfl | hmem
      · exact ⟨x, List.mem_cons_self, hhead⟩
      · rcases ih hmem with ⟨x', hx', h'⟩
        exact ⟨x', List.mem_cons_of_mem x hx', h'⟩

theorem mapM_eq_ok {f : α → Except ε β} {xs : List α} {ys : List β} :
    xs.mapM f = .ok ys ↔ List.Forall₂ (fun x y => f x = .ok y) xs ys := by
  induction xs generalizing ys with
  | nil =>
      rw [List.forall₂_nil_left_iff]
      constructor
      · intro h
        cases h
        rfl
      · rintro rfl
        rfl
  | cons x xs ih =>
      rw [List.mapM_cons, List.forall₂_cons_left_iff, bind_eq_ok]
      constructor
      · rintro ⟨y, hy, hrest⟩
        rcases bind_eq_ok.mp hrest with ⟨zs, hzs, hys⟩
        cases hys
        exact ⟨y, zs, hy, ih.mp hzs, rfl⟩
      · rintro ⟨y, zs, hy, hzs, rfl⟩
        exact ⟨y, hy, bind_eq_ok.mpr ⟨zs, ih.mpr hzs, rfl⟩⟩

theorem mapM_isOk_iff {f : α → Except ε β} {xs : List α} :
    (∃ ys, xs.mapM f = .ok ys) ↔ ∀ x ∈ xs, ∃ y, f x = .ok y := by
  induction xs with
  | nil =>
      constructor
      · intro _ x hx
        cases hx
      · intro _
        exact ⟨[], rfl⟩
  | cons x xs ih =>
      rw [List.mapM_cons]
      constructor
      · rintro ⟨ys, hys⟩ x' hx'
        rcases bind_eq_ok.mp hys with ⟨y, hy, hrest⟩
        rcases bind_eq_ok.mp hrest with ⟨zs, hzs, _⟩
        rcases List.mem_cons.mp hx' with rfl | hmem
        · exact ⟨y, hy⟩
        · exact ih.mp ⟨zs, hzs⟩ x' hmem
      · intro hall
        rcases hall x List.mem_cons_self with ⟨y, hy⟩
        rcases ih.mpr (fun x' hx' => hall x' (List.mem_cons_of_mem x hx')) with ⟨ys, hys⟩
        exact ⟨y :: ys, bind_eq_ok.mpr ⟨y, hy, bind_eq_ok.mpr ⟨ys, hys, rfl⟩⟩⟩

theorem mapM_eq_error {f : α → Except ε β} {xs : List α} {e : ε} (h : xs.mapM f = .error e) :
    ∃ x ∈ xs, f x = .error e := by
  induction xs with
  | nil => cases h
  | cons x xs ih =>
      rw [List.mapM_cons] at h
      rcases bind_eq_error.mp h with hx | ⟨y, _, hrest⟩
      · exact ⟨x, List.mem_cons_self, hx⟩
      · rcases bind_eq_error.mp hrest with hxs | ⟨ys, _, hys⟩
        · rcases ih hxs with ⟨x', hx', he⟩
          exact ⟨x', List.mem_cons_of_mem x hx', he⟩
        · cases hys

end RuleDraft
