import RuleDraft.Proofs.Settings
import RuleDraft.Service.Message

/-!
# Headers that are put

A header that is put is there once with its value, whatever was there under its name, and all
others stay.  Names are put in lower case, as all names of a reply are.
-/

namespace RuleDraft
namespace Service
namespace Headers

def values (name : Text) (headers : Headers) : List Text :=
  (headers.filter fun h => h.1.lower = name.lower).map Prod.snd

def Lowered (headers : Headers) : Prop := ∀ h ∈ headers, h.1.lower = h.1

section Values

variable {h : Text × Text} {headers more : Headers} {name value : Text}

theorem values_lower : headers.values name.lower = headers.values name := by
  unfold values
  rw [Text.lower_lower]

theorem values_cons_of_eq {n : Text} (hname : n.lower = name.lower) :
    values name ((n, value) :: headers) = value :: values name headers := by
  unfold values
  rw [List.filter_cons_of_pos (by simpa using hname)]
  rfl

theorem values_cons_of_ne (hname : h.1.lower ≠ name.lower) :
    values name (h :: headers) = values name headers := by
  unfold values
  rw [List.filter_cons_of_neg (by simpa using hname)]

theorem values_eq_nil (h : ∀ h ∈ headers, h.1.lower ≠ name.lower) : headers.values name = [] := by
  induction headers with
  | nil => rfl
  | cons g headers ih =>
      rw [values_cons_of_ne (h g List.mem_cons_self)]
      exact ih fun g hg => h g (List.mem_cons_of_mem _ hg)

theorem head?_values : (headers.values name).head? = headers.value? name := by
  unfold values value?
  rw [List.head?_map, List.head?_filter]

/-!
# One header
-/

theorem mem_put (hh : h ∈ headers.put name value) : h = (name, value) ∨ h ∈ headers := by
  induction headers with
  | nil => exact .inl (List.mem_singleton.mp hh)
  | cons g headers ih =>
      rw [put] at hh
      by_cases hg : g.1 = name
      · rw [if_pos hg] at hh
        rcases List.mem_cons.mp hh with rfl | hrest
        · exact .inl rfl
        · exact .inr (List.mem_cons_of_mem _ (List.mem_filter.mp hrest).left)
      · rw [if_neg hg] at hh
        rcases List.mem_cons.mp hh with rfl | hrest
        · exact .inr List.mem_cons_self
        · exact (ih hrest).imp_right (List.mem_cons_of_mem _)

theorem mem_put_self : (name, value) ∈ headers.put name value := by
  induction headers with
  | nil => exact List.mem_cons_self
  | cons g headers ih =>
      rw [put]
      by_cases hg : g.1 = name
      · rw [if_pos hg]
        exact List.mem_cons_self
      · rw [if_neg hg]
        exact List.mem_cons_of_mem _ ih

theorem mem_put_of_ne (hh : h ∈ headers) (hname : h.1 ≠ name) : h ∈ headers.put name value := by
  induction headers with
  | nil => cases hh
  | cons g headers ih =>
      rw [put]
      by_cases hg : g.1 = name
      · rw [if_pos hg]
        rcases List.mem_cons.mp hh with rfl | hrest
        · exact absurd hg hname
        · refine List.mem_cons_of_mem _ (List.mem_filter.mpr ⟨hrest, ?_⟩)
          simpa using hname
      · rw [if_neg hg]
        rcases List.mem_cons.mp hh with rfl | hrest
        · exact List.mem_cons_self
        · exact List.mem_cons_of_mem _ (ih hrest)

theorem Lowered.put (hlowered : headers.Lowered) (hname : name.lower = name) :
    (headers.put name value).Lowered := by
  intro h hh
  rcases mem_put hh with rfl | hold
  · exact hname
  · exact hlowered h hold

theorem values_put_self (hlowered : headers.Lowered) (hname : name.lower = name) :
    (headers.put name value).values name = [value] := by
  have hothers (rest : Headers) (hrest : rest.Lowered) (hne : ∀ h ∈ rest, h.1 ≠ name) :
      rest.values name = [] := by
    apply values_eq_nil
    intro h hh
    rw [hrest h hh, hname]
    exact hne h hh
  induction headers with
  | nil => exact values_cons_of_eq rfl
  | cons g headers ih =>
      have hrest : Lowered headers := fun h hh => hlowered h (List.mem_cons_of_mem _ hh)
      rw [Headers.put]
      by_cases hg : g.1 = name
      · rw [if_pos hg, values_cons_of_eq rfl, hothers]
        · exact fun h hh => hrest h (List.mem_filter.mp hh).left
        · intro h hh
          simpa using (List.mem_filter.mp hh).right
      · rw [if_neg hg, values_cons_of_ne, ih hrest]
        rw [hlowered g List.mem_cons_self, hname]
        exact hg

theorem values_put_of_ne {other : Text} (hother : name.lower ≠ other.lower) :
    (headers.put name value).values other = headers.values other := by
  induction headers with
  | nil => exact values_cons_of_ne hother
  | cons g headers ih =>
      rw [Headers.put]
      by_cases hg : g.1 = name
      · rw [if_pos hg, values_cons_of_ne hother, values_cons_of_ne (hg ▸ hother)]
        unfold values
        rw [List.filter_filter]
        congr 1
        apply List.filter_congr
        intro h _
        by_cases hh : h.1 = name
        · simp [hh, hother]
        · simp [hh]
      · rw [if_neg hg]
        by_cases hsame : g.1.lower = other.lower
        · rw [values_cons_of_eq hsame, values_cons_of_eq hsame, ih]
        · rw [values_cons_of_ne hsame, values_cons_of_ne hsame, ih]

/-!
# Several headers
-/

theorem putAll_cons : headers.putAll (h :: more) = (headers.put h.1 h.2).putAll more := rfl

theorem mem_putAll (hh : h ∈ headers.putAll more) : h ∈ more ∨ h ∈ headers := by
  induction more generalizing headers with
  | nil => exact .inr hh
  | cons g more ih =>
      rw [putAll_cons] at hh
      rcases ih hh with hmore | hput
      · exact .inl (List.mem_cons_of_mem _ hmore)
      · rcases mem_put hput with rfl | hold
        · exact .inl List.mem_cons_self
        · exact .inr hold

theorem mem_putAll_of_ne (hh : h ∈ headers) (hnames : ∀ g ∈ more, g.1 ≠ h.1) :
    h ∈ headers.putAll more := by
  induction more generalizing headers with
  | nil => exact hh
  | cons g more ih =>
      rw [putAll_cons]
      apply ih
      · exact mem_put_of_ne hh fun heq => hnames g List.mem_cons_self heq.symm
      · exact fun g hg => hnames g (List.mem_cons_of_mem _ hg)

theorem mem_putAll_self (hnodup : (more.map Prod.fst).Nodup) (hh : h ∈ more) :
    h ∈ headers.putAll more := by
  induction more generalizing headers with
  | nil => cases hh
  | cons g more ih =>
      rw [List.map_cons, List.nodup_cons] at hnodup
      rw [putAll_cons]
      rcases List.mem_cons.mp hh with rfl | hlater
      · apply mem_putAll_of_ne mem_put_self
        exact fun g hg heq => hnodup.left (List.mem_map.mpr ⟨g, hg, heq⟩)
      · exact ih hnodup.right hlater

theorem values_putAll_of_ne (hnames : ∀ g ∈ more, g.1.lower ≠ name.lower) :
    (headers.putAll more).values name = headers.values name := by
  induction more generalizing headers with
  | nil => rfl
  | cons g more ih =>
      rw [putAll_cons, ih fun g hg => hnames g (List.mem_cons_of_mem _ hg),
        values_put_of_ne (hnames g List.mem_cons_self)]

/-- Of headers with different names, each is there once. -/
theorem values_putAll_of_mem (hlowered : headers.Lowered) (hmore : more.Lowered)
    (hnodup : (more.map Prod.fst).Nodup) (hh : h ∈ more) :
    (headers.putAll more).values h.1 = [h.2] := by
  induction more generalizing headers with
  | nil => cases hh
  | cons g more ih =>
      have hrest : Lowered more := fun h hh => hmore h (List.mem_cons_of_mem _ hh)
      have hg : g.1.lower = g.1 := hmore g List.mem_cons_self
      rw [List.map_cons, List.nodup_cons] at hnodup
      rw [putAll_cons]
      rcases List.mem_cons.mp hh with rfl | hlater
      · rw [values_putAll_of_ne, values_put_self hlowered hg]
        intro g hmem heq
        rw [hrest g hmem, hg] at heq
        exact hnodup.left (List.mem_map.mpr ⟨g, hmem, heq⟩)
      · exact ih (hlowered.put hg) hrest hnodup.right hlater

/-!
# Lists
-/

theorem mem_extend (hh : h ∈ headers.extend name value) : h.1 = name ∨ h ∈ headers := by
  unfold extend at hh
  cases hlisted : headers.value? name with
  | none =>
      rw [hlisted] at hh
      exact (mem_put hh).imp_left (congrArg Prod.fst)
  | some listed =>
      rw [hlisted] at hh
      exact (mem_put hh).imp_left (congrArg Prod.fst)

theorem mem_extend_of_ne (hh : h ∈ headers) (hname : h.1 ≠ name) :
    h ∈ headers.extend name value := by
  unfold extend
  cases headers.value? name with
  | none => exact mem_put_of_ne hh hname
  | some listed => exact mem_put_of_ne hh hname

theorem Lowered.extend (hlowered : headers.Lowered) (hname : name.lower = name) :
    (headers.extend name value).Lowered := by
  intro h hh
  rcases mem_extend hh with hself | hold
  · rw [hself, hname]
  · exact hlowered h hold

theorem values_extend_of_ne {other : Text} (hother : name.lower ≠ other.lower) :
    (headers.extend name value).values other = headers.values other := by
  unfold extend
  cases headers.value? name with
  | none => exact values_put_of_ne hother
  | some listed => exact values_put_of_ne hother

theorem values_extend_self (hlowered : headers.Lowered) (hname : name.lower = name)
    {listed : Text} (hlisted : headers.values name = [listed]) :
    (headers.extend name value).values name = [Text.join [listed, ", ", value]] := by
  have hfirst : headers.value? name = some listed := by
    rw [← head?_values, hlisted]
    rfl
  unfold Headers.extend
  rw [hfirst]
  exact values_put_self hlowered hname

end Values

end Headers
end Service
end RuleDraft
