import RuleDraft.Failure
import RuleDraft.Proofs.Outcome

/-!
# Rewriting at an id

Operations are independent if neither can tell whether the other one was carried out.
Operations that go through a list item by item are if they are on every item, and so are
operations that rewrite the items with two different ids, whatever number of items each
of them puts in the place of one.
-/

namespace RuleDraft
namespace Editor

open List

/--
Neither operation can tell whether the other one was carried out before: it fails for the
same reason or it succeeds, and what both of them give does not depend on their order.
-/
structure Independent {ε α : Type} (A B : α → Except ε α) (x : α) : Prop where
  left : ∀ y, A x = .ok y → ∀ e, B y = .error e ↔ B x = .error e
  right : ∀ y, B x = .ok y → ∀ e, A y = .error e ↔ A x = .error e
  both : ∀ y z, A x = .ok y → B x = .ok z → ∃ w, B y = .ok w ∧ A z = .ok w

/-!
# Independent operations
-/

section Operations

variable {ε α : Type} {A B : α → Except ε α} {x w : α}

theorem isOk_iff_of_error_iff {r r' : Except ε α} (h : ∀ e, r = .error e ↔ r' = .error e) :
    (∃ y, r = .ok y) ↔ ∃ y, r' = .ok y := by
  cases r with
  | error e =>
      rw [(h e).mp rfl]
  | ok y =>
      cases r' with
      | error e => cases (h e).mpr rfl
      | ok y' => exact iff_of_true ⟨y, rfl⟩ ⟨y', rfl⟩

theorem Independent.symm (h : Independent A B x) : Independent B A x where
  left := h.right
  right := h.left
  both := by
    intro y z hy hz
    rcases h.both z y hz hy with ⟨w, hA, hB⟩
    exact ⟨w, hB, hA⟩

theorem Independent.bind_of_bind (h : Independent A B x) (hw : A x >>= B = .ok w) :
    B x >>= A = .ok w := by
  rcases bind_eq_ok.mp hw with ⟨y, hy, hB⟩
  rcases (isOk_iff_of_error_iff (h.left y hy)).mp ⟨w, hB⟩ with ⟨z, hz⟩
  rcases h.both y z hy hz with ⟨w', hw', hA⟩
  rw [hw'] at hB
  rw [hz, ok_bind, hA, hB]

/-- Both orders succeed alike, with one result. -/
theorem Independent.bind_eq_ok_iff (h : Independent A B x) :
    A x >>= B = .ok w ↔ B x >>= A = .ok w :=
  ⟨h.bind_of_bind, h.symm.bind_of_bind⟩

/-- What never succeeds cannot be disturbed, and disturbs nothing. -/
theorem Independent.of_never {e : ε} (hA : ∀ x, A x = .error e) : Independent A B x where
  left y hy := by
    rw [hA] at hy
    cases hy
  right y _ e' := by rw [hA, hA]
  both y z hy := by
    rw [hA] at hy
    cases hy

/-- What leaves alone both an item and all that is made of it is not noticed. -/
theorem Independent.of_same (hx : B x = .ok x) (hy : ∀ y, A x = .ok y → B y = .ok y) :
    Independent A B x where
  left y hA e := by
    rw [hx, hy y hA]
    exact iff_of_false nofun nofun
  right y hB e := by
    rw [hx] at hB
    cases hB
    exact Iff.rfl
  both y z hA hB := by
    rw [hx] at hB
    cases hB
    exact ⟨y, hy y hA, hA⟩

/-- What the operation gives, or what there was before when it fails. -/
def orSame (A : α → Except ε α) (x : α) : α :=
  match A x with
  | .ok y => y
  | .error _ => x

theorem orSame_of_ok {y : α} (h : A x = .ok y) :
    orSame A x = y := by
  rw [orSame, h]

theorem orSame_of_error {e : ε} (h : A x = .error e) :
    orSame A x = x := by
  rw [orSame, h]

end Operations

/-!
# Item by item

Operations that go through a list item by item are independent if they are on every item.
-/

section Items

variable {ε α : Type} {F H : α → Except ε α} {A B : List α → Except ε (List α)}

/-- The operation goes through a list and puts one item in the place of another. -/
def ItemByItem (F : α → Except ε α) (A : List α → Except ε (List α)) : Prop :=
  A [] = .ok [] ∧
    ∀ x xs, A (x :: xs) = F x >>= fun y => A xs >>= fun ys => .ok (y :: ys)

theorem ItemByItem.cons_eq_ok {x : α} {xs zs : List α} (h : ItemByItem F A) :
    A (x :: xs) = .ok zs ↔ ∃ y ys, F x = .ok y ∧ A xs = .ok ys ∧ zs = y :: ys := by
  rw [h.right, bind_eq_ok]
  constructor
  · rintro ⟨y, hy, hrest⟩
    rcases bind_eq_ok.mp hrest with ⟨ys, hys, hzs⟩
    cases hzs
    exact ⟨y, ys, hy, hys, rfl⟩
  · rintro ⟨y, ys, hy, hys, rfl⟩
    exact ⟨y, hy, bind_eq_ok.mpr ⟨ys, hys, rfl⟩⟩

theorem ItemByItem.cons_eq_error {x : α} {xs : List α} {e : ε} (h : ItemByItem F A) :
    A (x :: xs) = .error e ↔
      F x = .error e ∨ (∃ y, F x = .ok y) ∧ A xs = .error e := by
  rw [h.right, bind_eq_error]
  refine or_congr_right ?_
  constructor
  · rintro ⟨y, hy, hrest⟩
    rcases bind_eq_error.mp hrest with hrest | ⟨ys, _, hys⟩
    · exact ⟨⟨y, hy⟩, hrest⟩
    · cases hys
  · rintro ⟨⟨y, hy⟩, hrest⟩
    exact ⟨y, hy, bind_eq_error.mpr (Or.inl hrest)⟩

theorem ItemByItem.eq_self {xs : List α} (h : ItemByItem F A) (hsame : ∀ x ∈ xs, F x = .ok x) :
    A xs = .ok xs := by
  induction xs with
  | nil => exact h.left
  | cons x xs ih =>
      rcases forall_mem_cons.mp hsame with ⟨hx, hxs⟩
      exact h.cons_eq_ok.mpr ⟨x, xs, hx, ih hxs, rfl⟩

/-- What follows an operation that goes item by item, if it does so too, is not disturbed. -/
theorem ItemByItem.error_iff (hA : ItemByItem F A) (hB : ItemByItem H B) {xs ys : List α}
    (h : ∀ x ∈ xs, Independent F H x) (hys : A xs = .ok ys) (e : ε) :
    B ys = .error e ↔ B xs = .error e := by
  induction xs generalizing ys with
  | nil =>
      rw [hA.left] at hys
      cases hys
      exact Iff.rfl
  | cons x xs ih =>
      rcases forall_mem_cons.mp h with ⟨hx, hxs⟩
      rcases hA.cons_eq_ok.mp hys with ⟨y, rest, hy, hrest, rfl⟩
      have hitem := hx.left y hy
      rw [hB.cons_eq_error, hB.cons_eq_error, hitem e, isOk_iff_of_error_iff hitem, ih hxs hrest]

theorem ItemByItem.independent (hA : ItemByItem F A) (hB : ItemByItem H B) {xs : List α}
    (h : ∀ x ∈ xs, Independent F H x) : Independent A B xs where
  left ys hys := hA.error_iff hB h hys
  right ys hys := hB.error_iff hA (fun x hx => (h x hx).symm) hys
  both := by
    induction xs with
    | nil =>
        intro ys zs hys hzs
        rw [hA.left] at hys
        rw [hB.left] at hzs
        cases hys
        cases hzs
        exact ⟨[], hB.left, hA.left⟩
    | cons x xs ih =>
        intro ys zs hys hzs
        rcases forall_mem_cons.mp h with ⟨hx, hxs⟩
        rcases hA.cons_eq_ok.mp hys with ⟨y, ys', hy, hys', rfl⟩
        rcases hB.cons_eq_ok.mp hzs with ⟨z, zs', hz, hzs', rfl⟩
        rcases hx.both y z hy hz with ⟨w, hyw, hzw⟩
        rcases ih hxs ys' zs' hys' hzs' with ⟨ws, hyws, hzws⟩
        exact ⟨w :: ws, hB.cons_eq_ok.mpr ⟨w, ws, hyw, hyws, rfl⟩,
          hA.cons_eq_ok.mpr ⟨w, ws, hzw, hzws, rfl⟩⟩

end Items

section Changes

variable {α : Type} {idOf : α → Text} {a b : Text} {f h : α → Except Failure α} {x : α}

def changeAt (idOf : α → Text) (id : Text) (f : α → Except Failure α) (x : α) :
    Except Failure α :=
  if idOf x = id then f x else .ok x

theorem changeAt_of_eq (hx : idOf x = a) : changeAt idOf a f x = f x := if_pos hx

theorem changeAt_of_ne (hx : idOf x ≠ a) : changeAt idOf a f x = .ok x := if_neg hx

theorem id_of_changeAt (hf : ∀ x y, f x = .ok y → idOf y = idOf x) {y : α}
    (hy : changeAt idOf a f x = .ok y) : idOf y = idOf x := by
  by_cases hx : idOf x = a
  · rw [changeAt_of_eq hx] at hy
    exact hf x y hy
  · rw [changeAt_of_ne hx] at hy
    cases hy
    rfl

-- A change keeps the id, so what it makes is passed over by a change at another id.
theorem independent_changeAt_of_ne (hab : a ≠ b) (hf : ∀ x y, f x = .ok y → idOf y = idOf x)
    (hh : ∀ x y, h x = .ok y → idOf y = idOf x) (x : α) :
    Independent (changeAt idOf a f) (changeAt idOf b h) x := by
  by_cases hxa : idOf x = a
  · have hxb : idOf x ≠ b := fun hxb => hab (hxa.symm.trans hxb)
    refine Independent.of_same (changeAt_of_ne hxb) fun y hy => changeAt_of_ne ?_
    rw [id_of_changeAt hf hy]
    exact hxb
  · refine Independent.symm ?_
    refine Independent.of_same (changeAt_of_ne hxa) fun y hy => changeAt_of_ne ?_
    rw [id_of_changeAt hh hy]
    exact hxa

theorem independent_changeAt (hf : ∀ x y, f x = .ok y → idOf y = idOf x)
    (hh : ∀ x y, h x = .ok y → idOf y = idOf x) (hind : Independent f h x) :
    Independent (changeAt idOf a f) (changeAt idOf a h) x := by
  by_cases hx : idOf x = a
  · constructor
    case left =>
      intro y hy e
      rw [changeAt_of_eq hx] at hy
      rw [changeAt_of_eq hx, changeAt_of_eq ((hf x y hy).trans hx)]
      exact hind.left y hy e
    case right =>
      intro z hz e
      rw [changeAt_of_eq hx] at hz
      rw [changeAt_of_eq hx, changeAt_of_eq ((hh x z hz).trans hx)]
      exact hind.right z hz e
    case both =>
      intro y z hy hz
      rw [changeAt_of_eq hx] at hy hz
      rw [changeAt_of_eq ((hf x y hy).trans hx), changeAt_of_eq ((hh x z hz).trans hx)]
      exact hind.both y z hy hz
  · refine Independent.of_same (changeAt_of_ne hx) fun y hy => ?_
    rw [changeAt_of_ne hx] at hy
    cases hy
    exact changeAt_of_ne hx

end Changes

/-!
# Rewriting at an id

Every edit that is aimed at a group rewrites the groups with its id, one after the other,
each by any number of groups.  What has been done so far may count for the next group, as
ids are drawn, but no other group counts.
-/

section Rewriting

variable {α σ τ : Type} {idOf : α → Text} {a b : Text}
  {f : σ → α → Except Failure (List α × σ)} {h : τ → α → Except Failure (List α × τ)}

/-- Put lists of items in the place of the items with an id. -/
def rewriteAt (idOf : α → Text) (id : Text) (f : σ → α → Except Failure (List α × σ)) :
    σ → List α → Except Failure (List α)
  | _, [] => .ok []
  | s, x :: rest =>
      if idOf x = id then
        f s x >>= fun made => rewriteAt idOf id f made.2 rest >>= fun ys => .ok (made.1 ++ ys)
      else rewriteAt idOf id f s rest >>= fun ys => .ok (x :: ys)

def KeepsId (idOf : α → Text) (id : Text) (f : σ → α → Except Failure (List α × σ)) : Prop :=
  ∀ s x made, idOf x = id → f s x = .ok made → ∀ y ∈ made.1, idOf y = id

section Cons

variable {s : σ} {x : α} {xs rest ys zs : List α} {e : Failure}

theorem rewriteAt_hit_eq_ok (hx : idOf x = a) :
    rewriteAt idOf a f s (x :: rest) = .ok zs ↔
      ∃ made ys, f s x = .ok made ∧ rewriteAt idOf a f made.2 rest = .ok ys ∧
        zs = made.1 ++ ys := by
  rw [rewriteAt, if_pos hx, bind_eq_ok]
  constructor
  · rintro ⟨made, hmade, hrest⟩
    rcases bind_eq_ok.mp hrest with ⟨ys, hys, hzs⟩
    cases hzs
    exact ⟨made, ys, hmade, hys, rfl⟩
  · rintro ⟨made, ys, hmade, hys, rfl⟩
    exact ⟨made, hmade, bind_eq_ok.mpr ⟨ys, hys, rfl⟩⟩

theorem rewriteAt_hit_eq_error (hx : idOf x = a) :
    rewriteAt idOf a f s (x :: rest) = .error e ↔
      f s x = .error e ∨ ∃ made, f s x = .ok made ∧ rewriteAt idOf a f made.2 rest = .error e := by
  rw [rewriteAt, if_pos hx, bind_eq_error]
  refine or_congr_right (exists_congr fun made => and_congr_right fun _ => ?_)
  rw [bind_eq_error]
  exact or_iff_left nofun

/-- Items with other ids are passed over. -/
theorem rewriteAt_append_of_miss (hxs : ∀ x ∈ xs, idOf x ≠ a) :
    rewriteAt idOf a f s (xs ++ rest) = (rewriteAt idOf a f s rest).map fun ys => xs ++ ys := by
  induction xs with
  | nil =>
      rw [nil_append]
      cases rewriteAt idOf a f s rest <;> rfl
  | cons x xs ih =>
      rcases forall_mem_cons.mp hxs with ⟨hx, hothers⟩
      rw [cons_append, rewriteAt, if_neg hx, ih hothers]
      cases rewriteAt idOf a f s rest <;> rfl

theorem rewriteAt_miss (hx : idOf x ≠ a) :
    rewriteAt idOf a f s (x :: rest) = (rewriteAt idOf a f s rest).map fun ys => x :: ys :=
  show rewriteAt idOf a f s ([x] ++ rest) = (rewriteAt idOf a f s rest).map fun ys => [x] ++ ys
    from rewriteAt_append_of_miss (forall_mem_singleton.mpr hx)

end Cons

/-- Rewriting at one id is not disturbed by an earlier rewriting at another one. -/
theorem rewriteAt_error_iff (hab : a ≠ b) (hf : KeepsId idOf a f) {s : σ} {xs ys : List α}
    (hys : rewriteAt idOf a f s xs = .ok ys) (t : τ) (e : Failure) :
    rewriteAt idOf b h t ys = .error e ↔ rewriteAt idOf b h t xs = .error e := by
  induction xs generalizing s t ys with
  | nil =>
      cases hys
      exact Iff.rfl
  | cons x xs ih =>
      by_cases hxa : idOf x = a
      · rcases (rewriteAt_hit_eq_ok hxa).mp hys with ⟨made, rest, hmade, hrest, rfl⟩
        have hmiss : ∀ y ∈ made.1, idOf y ≠ b := fun y hy hyb =>
          hab ((hf s x made hxa hmade y hy).symm.trans hyb)
        rw [rewriteAt_append_of_miss hmiss, rewriteAt_miss fun hxb => hab (hxa.symm.trans hxb),
          map_eq_error, map_eq_error, ih hrest]
      · rw [rewriteAt_miss hxa] at hys
        rcases map_eq_ok.mp hys with ⟨rest, hrest, rfl⟩
        by_cases hxb : idOf x = b
        · simp only [rewriteAt_hit_eq_error hxb, ih hrest]
        · rw [rewriteAt_miss hxb, rewriteAt_miss hxb, map_eq_error, map_eq_error, ih hrest]

/-- Of two rewritings that succeed, each goes through behind the other, to one result. -/
theorem rewriteAt_both (hab : a ≠ b) (hf : KeepsId idOf a f) (hh : KeepsId idOf b h) {s : σ}
    {t : τ} {xs ys zs : List α} (hys : rewriteAt idOf a f s xs = .ok ys)
    (hzs : rewriteAt idOf b h t xs = .ok zs) :
    ∃ ws, rewriteAt idOf b h t ys = .ok ws ∧ rewriteAt idOf a f s zs = .ok ws := by
  -- Each rewriting carries a state of its own along the list, so the states stay open.
  induction xs generalizing s t ys zs with
  | nil =>
      cases hys
      cases hzs
      exact ⟨[], rfl, rfl⟩
  | cons x xs ih =>
      by_cases hxa : idOf x = a
      · rw [rewriteAt_miss fun hxb => hab (hxa.symm.trans hxb)] at hzs
        rcases (rewriteAt_hit_eq_ok hxa).mp hys with ⟨made, restA, hmade, hrestA, rfl⟩
        rcases map_eq_ok.mp hzs with ⟨restB, hrestB, rfl⟩
        rcases ih hrestA hrestB with ⟨ws, hA, hB⟩
        have hmiss : ∀ y ∈ made.1, idOf y ≠ b := fun y hy hyb =>
          hab ((hf s x made hxa hmade y hy).symm.trans hyb)
        refine ⟨made.1 ++ ws, ?_, (rewriteAt_hit_eq_ok hxa).mpr ⟨made, ws, hmade, hB, rfl⟩⟩
        rw [rewriteAt_append_of_miss hmiss]
        exact map_eq_ok.mpr ⟨ws, hA, rfl⟩
      · rw [rewriteAt_miss hxa] at hys
        rcases map_eq_ok.mp hys with ⟨restA, hrestA, rfl⟩
        by_cases hxb : idOf x = b
        · rcases (rewriteAt_hit_eq_ok hxb).mp hzs with ⟨made, restB, hmade, hrestB, rfl⟩
          rcases ih hrestA hrestB with ⟨ws, hA, hB⟩
          have hmiss : ∀ y ∈ made.1, idOf y ≠ a := fun y hy hya =>
            hab (hya.symm.trans (hh t x made hxb hmade y hy))
          refine ⟨made.1 ++ ws, (rewriteAt_hit_eq_ok hxb).mpr ⟨made, ws, hmade, hA, rfl⟩, ?_⟩
          rw [rewriteAt_append_of_miss hmiss]
          exact map_eq_ok.mpr ⟨ws, hB, rfl⟩
        · rw [rewriteAt_miss hxb] at hzs
          rcases map_eq_ok.mp hzs with ⟨restB, hrestB, rfl⟩
          rcases ih hrestA hrestB with ⟨ws, hA, hB⟩
          refine ⟨x :: ws, ?_, ?_⟩
          · rw [rewriteAt_miss hxb]
            exact map_eq_ok.mpr ⟨ws, hA, rfl⟩
          · rw [rewriteAt_miss hxa]
            exact map_eq_ok.mpr ⟨ws, hB, rfl⟩

def dropping (_ : Unit) (_ : α) : Except Failure (List α × Unit) := .ok ([], ())

def replacing (change : α → Except Failure α) (_ : Unit) (x : α) :
    Except Failure (List α × Unit) :=
  (change x).map fun y => ([y], ())

theorem filter_eq_rewriteAt (idOf : α → Text) (id : Text) (xs : List α) :
    .ok (xs.filter fun x => ¬ idOf x = id) = rewriteAt idOf id dropping () xs := by
  induction xs with
  | nil => rfl
  | cons x rest ih =>
      by_cases hid : idOf x = id
      · rw [filter_cons_of_neg (by simpa using hid)]
        exact ((rewriteAt_hit_eq_ok hid).mpr ⟨_, _, rfl, ih.symm, rfl⟩).symm
      · rw [filter_cons_of_pos (by simpa using hid), rewriteAt_miss hid, ← ih]
        rfl

theorem ItemByItem.eq_rewriteAt {id : Text} {change : α → Except Failure α}
    {A : List α → Except Failure (List α)} (h : ItemByItem (changeAt idOf id change) A)
    (xs : List α) : A xs = rewriteAt idOf id (replacing change) () xs := by
  induction xs with
  | nil => exact h.left
  | cons x rest ih =>
      rw [h.right, rewriteAt, ih]
      by_cases hid : idOf x = id
      · rw [if_pos hid, changeAt_of_eq hid, replacing]
        cases change x <;> rfl
      · rw [if_neg hid, changeAt_of_ne hid]
        rfl

theorem keepsId_dropping (id : Text) : KeepsId idOf id dropping := by
  intro s x made _ hmade
  cases hmade
  exact forall_mem_nil _

theorem keepsId_replacing {id : Text} {change : α → Except Failure α}
    (hchange : ∀ x y, change x = .ok y → idOf y = idOf x) :
    KeepsId idOf id (replacing change) := by
  intro s x made hid hmade
  rcases map_eq_ok.mp hmade with ⟨y, hy, rfl⟩
  exact forall_mem_singleton.mpr ((hchange x y hy).trans hid)

/-- The operation never succeeds, or it rewrites the items with the id. -/
inductive ActsAt (idOf : α → Text) (id : Text) (A : List α → Except Failure (List α)) : Prop
  | never (e : Failure) (h : ∀ xs, A xs = .error e)
  | rewrites {σ : Type} (f : σ → α → Except Failure (List α × σ)) (s : σ)
      (hf : KeepsId idOf id f) (h : ∀ xs, A xs = rewriteAt idOf id f s xs)

theorem ActsAt.independent {A B : List α → Except Failure (List α)} (hA : ActsAt idOf a A)
    (hB : ActsAt idOf b B) (hab : a ≠ b) (xs : List α) : Independent A B xs := by
  cases hA with
  | never e hA => exact .of_never hA
  | rewrites f s hf hA =>
      cases hB with
      | never e hB => exact (Independent.of_never hB).symm
      | rewrites h t hh hB =>
          rw [funext hA, funext hB]
          exact ⟨fun ys hys => rewriteAt_error_iff hab hf hys t,
            fun zs hzs => rewriteAt_error_iff hab.symm hh hzs s,
            fun ys zs hys hzs => rewriteAt_both hab hf hh hys hzs⟩

/-- An operation at an id passes over the items in front that have other ids. -/
theorem ActsAt.append {A : List α → Except Failure (List α)} (hA : ActsAt idOf a A)
    {xs : List α} (hxs : ∀ x ∈ xs, idOf x ≠ a) (ys : List α) :
    A (xs ++ ys) = (A ys).map fun zs => xs ++ zs := by
  cases hA with
  | never e h =>
      rw [h, h]
      rfl
  | rewrites f s hf h => rw [h, h, rewriteAt_append_of_miss hxs]

/-- What an operation at an id makes of items with this id has it too. -/
theorem ActsAt.id_of_mem {A : List α → Except Failure (List α)} (hA : ActsAt idOf a A)
    {xs ys : List α} (hxs : ∀ x ∈ xs, idOf x = a) (hys : A xs = .ok ys) :
    ∀ y ∈ ys, idOf y = a := by
  cases hA with
  | never e h =>
      rw [h] at hys
      cases hys
  | rewrites f s hf h =>
      rw [h] at hys
      clear h
      induction xs generalizing s ys with
      | nil =>
          cases hys
          exact forall_mem_nil _
      | cons x xs ih =>
          rcases forall_mem_cons.mp hxs with ⟨hx, hrest⟩
          rcases (rewriteAt_hit_eq_ok hx).mp hys with ⟨made, zs, hmade, hzs, rfl⟩
          exact forall_mem_append.mpr ⟨hf s x made hx hmade, ih hrest made.2 hzs⟩

/-- A change of the items with an id is one of the only item that has it. -/
theorem ItemByItem.once {A : List α → Except Failure (List α)} {change : α → Except Failure α}
    (hA : ItemByItem (changeAt idOf a change) A) {before after : List α} {x : α}
    (hbefore : ∀ y ∈ before, idOf y ≠ a) (hx : idOf x = a) (hafter : ∀ y ∈ after, idOf y ≠ a) :
    A (before ++ x :: after) = (change x).map fun y => before ++ y :: after := by
  induction before with
  | nil =>
      have hrest : A after = .ok after := hA.eq_self fun y hy => changeAt_of_ne (hafter y hy)
      rw [nil_append, hA.right, changeAt_of_eq hx, hrest]
      cases change x <;> rfl
  | cons y before ih =>
      rcases forall_mem_cons.mp hbefore with ⟨hy, hothers⟩
      rw [cons_append, hA.right, changeAt_of_ne hy, ih hothers]
      cases change x <;> rfl

end Rewriting

end Editor
end RuleDraft
