import Mathlib.Algebra.BigOperators.Group.List.Basic
import Mathlib.Algebra.Ring.Int.Defs
import RuleDraft.Metrics
import RuleDraft.Proofs.KeyedRows

/-!
# Counts as sums

Every change of the counts is a list of increments, each for one series.  What a series
has gained by some increments is the sum of those for it, in whatever order they come,
and so is what several series have gained together.
-/

namespace RuleDraft

/-- Amounts to add, each to one series. -/
abbrev Increments := List (Series × Int)

namespace Metrics

def addAll (increments : Increments) (m : Metrics) : Metrics :=
  increments.foldl (fun m i => m.add i.1.name i.1.labels i.2) m

def value (s : Series) (m : Metrics) : Int := (m.get? s).getD 0

/-- The sum of the counts of all series with a property. -/
def total (p : Series → Bool) (m : Metrics) : Int :=
  ((m.filter fun e => p e.1).map Prod.snd).sum

end Metrics

/-- What the series with a property gain together. -/
def gain (p : Series → Bool) (increments : Increments) : Int :=
  ((increments.filter fun i => p i.1).map Prod.snd).sum

section Gain

variable {p q : Series → Bool} {i : Series × Int} {is js : Increments}

@[simp] theorem gain_nil : gain p [] = 0 := rfl

@[simp] theorem gain_cons : gain p (i :: is) = (if p i.1 then i.2 else 0) + gain p is := by
  unfold gain
  by_cases hp : p i.1 = true
  · rw [List.filter_cons_of_pos (by simpa using hp), if_pos hp]
    rfl
  · rw [List.filter_cons_of_neg (by simpa using hp), if_neg hp, zero_add]

@[simp] theorem gain_append : gain p (is ++ js) = gain p is + gain p js := by
  induction is with
  | nil => rw [List.nil_append, gain_nil, zero_add]
  | cons i is ih => rw [List.cons_append, gain_cons, gain_cons, ih, add_assoc]

theorem gain_eq_zero (h : ∀ i ∈ is, p i.1 = false) : gain p is = 0 := by
  have hnone : is.filter (fun i => p i.1) = [] := by
    rw [List.filter_eq_nil_iff]
    intro i hi
    rw [h i hi]
    exact Bool.false_ne_true
  rw [gain, hnone]
  rfl

/-- If every part gains one or nothing, all of them gain the number of those that gain one. -/
theorem gain_flatMap {α : Type} {f : α → Increments} {one : α → Bool} {xs : List α}
    (h : ∀ x ∈ xs, gain p (f x) = if one x then 1 else 0) :
    gain p (xs.flatMap f) = xs.countP one := by
  induction xs with
  | nil => rfl
  | cons x xs ih =>
      rw [List.flatMap_cons, gain_append, h x List.mem_cons_self,
        ih fun y hy => h y (List.mem_cons_of_mem x hy), List.countP_cons]
      by_cases hone : one x = true
      · rw [if_pos hone, if_pos hone]
        push_cast
        rw [add_comm]
      · rw [if_neg hone, if_neg hone, zero_add]
        rfl

/-- Gains that agree on every part agree on all of them. -/
theorem gain_flatMap_congr {α : Type} {f : α → Increments} {xs : List α}
    (h : ∀ x ∈ xs, gain p (f x) = gain q (f x)) :
    gain p (xs.flatMap f) = gain q (xs.flatMap f) := by
  induction xs with
  | nil => rfl
  | cons x xs ih =>
      rw [List.flatMap_cons, gain_append, gain_append, h x List.mem_cons_self,
        ih fun y hy => h y (List.mem_cons_of_mem x hy)]

end Gain

namespace Metrics

variable {p : Series → Bool} {m : Metrics}

theorem addAll_append (is js : Increments) (m : Metrics) :
    m.addAll (is ++ js) = (m.addAll is).addAll js :=
  List.foldl_append

/-!
# One series
-/

theorem value_add (s : Series) (i : Series × Int) (m : Metrics) :
    (m.add i.1.name i.1.labels i.2).value s = m.value s + if i.1 = s then i.2 else 0 := by
  unfold value add
  rw [Keyed.get?_put]
  by_cases hs : i.1 = s
  · rw [if_pos hs, if_pos hs, ← hs]
    rfl
  · rw [if_neg hs, if_neg hs, add_zero]

theorem value_addAll (s : Series) (is : Increments) (m : Metrics) :
    (m.addAll is).value s = m.value s + gain (fun t => decide (t = s)) is := by
  induction is generalizing m with
  | nil =>
      rw [gain_nil, add_zero]
      rfl
  | cons i is ih =>
      have hstep : m.addAll (i :: is) = (m.add i.1.name i.1.labels i.2).addAll is := rfl
      rw [hstep, ih, value_add, gain_cons, add_assoc]
      simp only [decide_eq_true_eq]

/-!
# Several series
-/

theorem total_put (k : Series) (n : Int) (m : Metrics) :
    total p (Keyed.put k ((m.get? k).getD 0 + n) m) = total p m + if p k then n else 0 := by
  induction m with
  | nil =>
      by_cases hp : p k = true
      · simp [total, Keyed.put, Keyed.get?, hp]
      · simp [total, Keyed.put, hp]
  | cons e m ih =>
      have htotal (e : Series × Int) (m : Metrics) :
          total p (e :: m) = (if p e.1 then e.2 else 0) + total p m := gain_cons
      rw [Keyed.put, Keyed.get?]
      by_cases hkey : e.1 = k
      · rw [if_pos hkey, if_pos hkey, htotal, htotal, hkey, Option.getD_some]
        by_cases hp : p k = true
        · rw [if_pos hp, if_pos hp, if_pos hp]
          omega
        · rw [if_neg hp, if_neg hp, if_neg hp, add_zero]
      · rw [if_neg hkey, if_neg hkey, htotal, htotal, ih, add_assoc]

theorem total_addAll (is : Increments) (m : Metrics) :
    total p (m.addAll is) = total p m + gain p is := by
  induction is generalizing m with
  | nil =>
      rw [gain_nil, add_zero]
      rfl
  | cons i is ih =>
      have hstep : m.addAll (i :: is) = (m.add i.1.name i.1.labels i.2).addAll is := rfl
      rw [hstep, ih, add, total_put, gain_cons, add_assoc]

end Metrics

end RuleDraft
