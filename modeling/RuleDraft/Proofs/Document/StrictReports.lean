import Mathlib.Data.List.Nodup
import RuleDraft.Proofs.Document.Forms
import RuleDraft.Proofs.Number.Digits

/-!
# What a strict generation reports

Every condition of a form has a place: the path of its list of groups, the index of its group
and its index in the group.  A strict generation without a value that breaks gives the document
of the plain generation, or reports the conditions whose values do not fit: each of them once, in
the order of the form, at a path that no other condition of the form has.
-/

namespace RuleDraft

instance (c : Condition) : Decidable c.Fits :=
  match h : Comparison.read c.type c.value.toValue with
  | .ok k => isTrue ⟨k, h⟩
  | .error _ => isFalse (by
      rintro ⟨k, hk⟩
      rw [h] at hk
      cases hk)

/-- What the refusal of the condition's value says, if its value is refused. -/
def Condition.reasons (c : Condition) : List Text :=
  match c.comparison with
  | .error (.refused (.unfitValue _ _ reasons)) => reasons
  | _ => []

theorem Condition.documented_comparison_iff {c : Condition} :
    Documented c.comparison ↔ ¬ c.Breaks := by
  constructor
  · rintro hdocumented ⟨f, hf⟩
    have hbroken : c.comparison = .error (.broken f) := Comparison.parse_eq_broken_iff.mpr hf
    rcases hdocumented with ⟨k, hk⟩ | ⟨r, hr⟩
    · rw [hbroken] at hk
      cases hk
    · rw [hbroken] at hr
      cases hr
  · intro hsafe
    rcases Comparison.parse_cases c.type c.value.toValue with ⟨k, hk⟩ | ⟨reasons, hr⟩ | ⟨f, hf⟩
    · exact Or.inl ⟨k, hk⟩
    · exact Or.inr ⟨_, hr⟩
    · exact absurd ⟨f, hf⟩ hsafe

/-!
# Places
-/

namespace Gate

/-- Where a condition stands in a form. -/
structure Place where
  /-- The path of the list of groups. -/
  list : Text
  /-- The index of the group in the list. -/
  group : Nat
  /-- The index of the condition in the group. -/
  condition : Nat
  deriving DecidableEq, Repr

def Place.path (p : Place) : Text := conditionPath p.list p.group p.condition

def placedConditions (list : Text) (group first : Nat) (conditions : List Condition) :
    List (Place × Condition) :=
  (conditions.zipIdx first).map fun c => (⟨list, group, c.2⟩, c.1)

def placedGroups (list : Text) (first : Nat) (groups : List (List Condition)) :
    List (Place × Condition) :=
  (groups.zipIdx first).flatMap fun g => placedConditions list g.2 0 g.1

/-- The conditions of several lists of groups at their paths, with their places. -/
def placed (lists : List (Text × List (List Condition))) : List (Place × Condition) :=
  lists.flatMap fun l => placedGroups l.1 0 l.2

theorem placedConditions_cons (list : Text) (i j : Nat) (c : Condition)
    (rest : List Condition) :
    placedConditions list i j (c :: rest) =
      (⟨list, i, j⟩, c) :: placedConditions list i (j + 1) rest := by
  rw [placedConditions, List.zipIdx_cons, List.map_cons]
  rfl

theorem placedGroups_cons (list : Text) (i : Nat) (conditions : List Condition)
    (rest : List (List Condition)) :
    placedGroups list i (conditions :: rest) =
      placedConditions list i 0 conditions ++ placedGroups list (i + 1) rest := by
  rw [placedGroups, List.zipIdx_cons, List.flatMap_cons]
  rfl

theorem placed_cons (l : Text × List (List Condition))
    (rest : List (Text × List (List Condition))) :
    placed (l :: rest) = placedGroups l.1 0 l.2 ++ placed rest :=
  List.flatMap_cons

theorem mem_placed_iff {lists : List (Text × List (List Condition))} {p : Place}
    {c : Condition} :
    (p, c) ∈ placed lists ↔
      ∃ groups conditions, (p.list, groups) ∈ lists ∧ groups[p.group]? = some conditions ∧
        conditions[p.condition]? = some c := by
  simp only [placed, placedGroups, placedConditions, List.mem_flatMap, List.mem_map,
    Prod.exists, List.mem_zipIdx_iff_getElem?]
  constructor
  · rintro ⟨list, groups, hlist, conditions, i, hgroup, c', j, hcondition, hp⟩
    cases hp
    exact ⟨groups, conditions, hlist, hgroup, hcondition⟩
  · rintro ⟨groups, conditions, hlist, hgroup, hcondition⟩
    exact ⟨p.list, groups, hlist, conditions, p.group, hgroup, c, p.condition, hcondition, rfl⟩

theorem forall_placed_iff {P : Condition → Prop} {lists : List (Text × List (List Condition))} :
    (∀ x ∈ placed lists, P x.2) ↔ ∀ l ∈ lists, ∀ conditions ∈ l.2, ∀ c ∈ conditions, P c := by
  constructor
  · intro h l hl conditions hconditions c hc
    rcases List.mem_iff_getElem?.mp hconditions with ⟨i, hi⟩
    rcases List.mem_iff_getElem?.mp hc with ⟨j, hj⟩
    exact h (⟨l.1, i, j⟩, c) (mem_placed_iff.mpr ⟨l.2, conditions, hl, hi, hj⟩)
  · rintro h ⟨p, c⟩ hx
    rcases mem_placed_iff.mp hx with ⟨groups, conditions, hlist, hgroup, hcondition⟩
    exact h _ hlist conditions (List.mem_of_getElem? hgroup) c (List.mem_of_getElem? hcondition)

theorem conditionPath_eq (list : Text) (i j : Nat) :
    conditionPath list i j =
      list ++ CodePoint.ofChar '[' :: (Text.ofNat i ++ CodePoint.ofChar ']' ::
        (Text.ofString ".conditions[" ++ (Text.ofNat j ++ [CodePoint.ofChar ']']))) := by
  rfl

theorem bracket_notMem_ofNat (n : Nat) : CodePoint.ofChar ']' ∉ Text.ofNat n := by
  intro hmem
  have hdigit := Text.isAsciiDigit_of_mem_ofNat _ hmem
  exact absurd hdigit (by decide)

/-- The path of a condition tells its list, its group and its index apart. -/
theorem conditionPath_inj {list list' : Text} {i i' j j' : Nat}
    (hlist : CodePoint.ofChar '[' ∉ list) (hlist' : CodePoint.ofChar '[' ∉ list')
    (h : conditionPath list i j = conditionPath list' i' j') :
    list = list' ∧ i = i' ∧ j = j' := by
  rw [conditionPath_eq, conditionPath_eq] at h
  rcases Text.append_mark_inj hlist hlist' h with ⟨hsame, hrest⟩
  rcases Text.append_mark_inj (bracket_notMem_ofNat i) (bracket_notMem_ofNat i') hrest with
    ⟨hi, htail⟩
  have hj := List.append_cancel_right (List.append_cancel_left htail)
  exact ⟨hsame, Text.ofNat_injective hi, Text.ofNat_injective hj⟩

/-!
# Reports
-/

def report (x : Place × Condition) : Mismatch := ⟨x.1.path, x.2.key, x.2.type, x.2.reasons⟩

/-- The reports of the conditions whose values do not fit, in order. -/
def reports (conditions : List (Place × Condition)) : List Mismatch :=
  (conditions.filter fun x => ¬ x.2.Fits).map report

theorem reports_cons (x : Place × Condition) (rest : List (Place × Condition)) :
    reports (x :: rest) = (if x.2.Fits then [] else [report x]) ++ reports rest := by
  by_cases hfits : x.2.Fits
  · simp [reports, hfits]
  · simp [reports, hfits]

theorem reports_append (first rest : List (Place × Condition)) :
    reports (first ++ rest) = reports first ++ reports rest := by
  rw [reports, List.filter_append, List.map_append]
  rfl

theorem reports_eq_nil_iff {conditions : List (Place × Condition)} :
    reports conditions = [] ↔ ∀ x ∈ conditions, x.2.Fits := by
  simp [reports]

variable {ν : Type}

theorem mismatch?_eq (p : Place) {c : Condition} (h : ¬ c.Breaks) :
    mismatch? p.path c = .ok (if c.Fits then none else some (report (p, c))) := by
  by_cases hfits : c.Fits
  · rw [if_pos hfits]
    exact (mismatch?_eq_none_iff p.path).mpr hfits
  · rw [if_neg hfits]
    cases hread : Comparison.read c.type c.value.toValue with
    | ok k => exact absurd ⟨k, hread⟩ hfits
    | error m =>
        cases m with
        | unfit reasons =>
            simp only [mismatch?, report, Condition.reasons, Condition.comparison,
              Comparison.parse, hread]
        | broken f => exact absurd ⟨f, Comparison.read_eq_broken_iff.mp hread⟩ h

theorem ofConditions_eq (list : Text) (i j : Nat) {conditions : List Condition}
    (h : ∀ c ∈ conditions, ¬ c.Breaks) :
    ofConditions list i j conditions = .ok (reports (placedConditions list i j conditions)) := by
  induction conditions generalizing j with
  | nil => rfl
  | cons c rest ih =>
      rcases List.forall_mem_cons.mp h with ⟨hc, hrest⟩
      rw [placedConditions_cons, reports_cons]
      refine bind_eq_ok.mpr ⟨_, mismatch?_eq ⟨list, i, j⟩ hc,
        bind_eq_ok.mpr ⟨_, ih (j + 1) hrest, ?_⟩⟩
      by_cases hfits : c.Fits
      · simp only [if_pos hfits]
        rfl
      · simp only [if_neg hfits]
        rfl

theorem ofGroups_eq (list : Text) (i : Nat) {groups : List (Group ν)}
    (h : ∀ g ∈ groups, ∀ c ∈ g.conditions, ¬ c.Breaks) :
    ofGroups list i groups =
      .ok (reports (placedGroups list i (groups.map Group.conditions))) := by
  induction groups generalizing i with
  | nil => rfl
  | cons g rest ih =>
      rcases List.forall_mem_cons.mp h with ⟨hg, hrest⟩
      rw [List.map_cons, placedGroups_cons, reports_append]
      exact bind_eq_ok.mpr ⟨_, ofConditions_eq list i 0 hg,
        bind_eq_ok.mpr ⟨_, ih (i + 1) hrest, rfl⟩⟩

def conditionLists (lists : List (Text × List (Group ν))) : List (Text × List (List Condition)) :=
  lists.map fun l => (l.1, l.2.map Group.conditions)

theorem map_snd_placed (lists : List (Text × List (Group ν))) :
    (placed (conditionLists lists)).map Prod.snd =
      lists.flatMap fun l => l.2.flatMap Group.conditions := by
  have hconditions (list : Text) (i j : Nat) (conditions : List Condition) :
      (placedConditions list i j conditions).map Prod.snd = conditions := by
    rw [placedConditions, List.map_map]
    exact List.zipIdx_map_fst j conditions
  have hgroups (list : Text) (i : Nat) (groups : List (Group ν)) :
      (placedGroups list i (groups.map Group.conditions)).map Prod.snd =
        groups.flatMap Group.conditions := by
    induction groups generalizing i with
    | nil => rfl
    | cons g rest ih =>
        rw [List.map_cons, placedGroups_cons, List.map_append, hconditions, ih,
          List.flatMap_cons]
  induction lists with
  | nil => rfl
  | cons l rest ih =>
      rw [conditionLists, List.map_cons, placed_cons, List.map_append, hgroups,
        List.flatMap_cons, ← ih]
      rfl

theorem check_eq {lists : List (Text × List (Group ν))}
    (h : ∀ x ∈ placed (conditionLists lists), ¬ x.2.Breaks) :
    check lists = refuse (reports (placed (conditionLists lists))) := by
  have hcollect : lists.mapM (fun l => collect l.1 l.2) =
      .ok (lists.map fun l => reports (placedGroups l.1 0 (l.2.map Group.conditions))) := by
    rw [mapM_eq_ok, List.forall₂_map_right_iff, List.forall₂_same]
    intro l hl
    refine ofGroups_eq l.1 0 fun g hg => ?_
    exact forall_placed_iff.mp h _ (List.mem_map_of_mem hl) _ (List.mem_map_of_mem hg)
  have hflat :
      (lists.map fun l => reports (placedGroups l.1 0 (l.2.map Group.conditions))).flatten =
        reports (placed (conditionLists lists)) := by
    clear h hcollect
    induction lists with
    | nil => rfl
    | cons l rest ih =>
        rw [List.map_cons, List.flatten_cons, ih, conditionLists, conditionLists, List.map_cons,
          placed_cons, reports_append]
  rw [← hflat]
  unfold check
  rw [hcollect]
  rfl

end Gate

/-!
# Forms
-/

namespace Form

def placed : Form → List (Gate.Place × Condition)
  | .vendor f => Gate.placed (Gate.conditionLists
      [("$.preconditions", f.preconditions), ("$.response_mappings", f.responseMappings)])
  | .config f => Gate.placed (Gate.conditionLists [("$.validations", f.validations)])

def unfit (f : Form) : List (Gate.Place × Condition) := f.placed.filter fun x => ¬ x.2.Fits

variable {f : Form}

/-- The conditions of a form stand in one or two lists, at paths that differ. -/
theorem placed_cases (f : Form) :
    ∃ lists, f.placed = Gate.placed lists ∧
      (lists.map Prod.fst = ["$.preconditions", "$.response_mappings"] ∨
        lists.map Prod.fst = ["$.validations"]) := by
  cases f with
  | vendor f => exact ⟨_, rfl, Or.inl rfl⟩
  | config f => exact ⟨_, rfl, Or.inr rfl⟩

/-- No two conditions of a form have the same path. -/
theorem eq_of_path_eq {x y : Gate.Place × Condition} (hx : x ∈ f.placed) (hy : y ∈ f.placed)
    (hpath : x.1.path = y.1.path) : x = y := by
  obtain ⟨lists, hplaced, hcases⟩ := placed_cases f
  have hpaths : (lists.map Prod.fst).Nodup ∧
      ∀ path ∈ lists.map Prod.fst, CodePoint.ofChar '[' ∉ path := by
    rcases hcases with h | h
    · rw [h]
      decide
    · rw [h]
      decide
  obtain ⟨p, c⟩ := x
  obtain ⟨q, d⟩ := y
  rw [hplaced] at hx hy
  rcases Gate.mem_placed_iff.mp hx with ⟨groups, conditions, hlist, hgroup, hcondition⟩
  rcases Gate.mem_placed_iff.mp hy with ⟨groups', conditions', hlist', hgroup', hcondition'⟩
  rcases Gate.conditionPath_inj (hpaths.right _ (List.mem_map_of_mem hlist))
    (hpaths.right _ (List.mem_map_of_mem hlist')) hpath with ⟨hsameList, hsameGroup, hsameIndex⟩
  have hplace : p = q := by
    cases p
    cases q
    cases hsameList
    cases hsameGroup
    cases hsameIndex
    rfl
  subst hplace
  cases List.inj_on_of_nodup_map hpaths.left hlist hlist' rfl
  rw [hgroup] at hgroup'
  cases hgroup'
  rw [hcondition] at hcondition'
  cases hcondition'
  rfl

theorem map_snd_placed (f : Form) : f.placed.map Prod.snd = f.conditions := by
  cases f with
  | vendor f =>
      rw [placed, Gate.map_snd_placed, conditions, List.flatMap_append, List.flatMap_cons,
        List.flatMap_singleton]
  | config f => rw [placed, Gate.map_snd_placed, conditions, List.flatMap_singleton]

theorem forall_placed_iff {P : Condition → Prop} :
    (∀ x ∈ f.placed, P x.2) ↔ ∀ c ∈ f.conditions, P c := by
  rw [← map_snd_placed, List.forall_mem_map]

theorem gate_eq (h : ∀ c ∈ f.conditions, ¬ c.Breaks) :
    f.gate = Gate.refuse (f.unfit.map Gate.report) := by
  have hplaced := forall_placed_iff.mpr h
  cases f with
  | vendor f => exact Gate.check_eq hplaced
  | config f => exact Gate.check_eq hplaced

theorem generate_true_of_unfit (h : f.Unfit) :
    f.generate true = .error (.refused (.unfitConditions (f.unfit.map Gate.report))) := by
  rcases h with ⟨hsafe, c, hc, hunfit⟩
  have hpresent : ¬ f.LacksValidation := by
    intro hlacks
    rw [conditions_of_lacks hlacks] at hc
    cases hc
  rw [generate_of_not_lacks hpresent, if_pos rfl, gate_eq hsafe]
  cases hreports : f.unfit.map Gate.report with
  | nil =>
      have hfits := forall_placed_iff.mp (Gate.reports_eq_nil_iff.mp hreports)
      exact absurd (hfits c hc) hunfit
  | cons m rest => rfl

theorem generate_true_of_fits (h : ∀ c ∈ f.conditions, c.Fits) :
    f.generate true = f.generate false := by
  by_cases hlacks : f.LacksValidation
  · rw [generate_of_lacks hlacks, generate_of_lacks hlacks]
  · rw [generate_of_not_lacks hlacks, generate_of_not_lacks hlacks, (gate_eq_ok_iff f).mpr h]
    rfl

/-!
# Plain and strict generation compared
-/

/--
Strictness decides only whether there is a document.  The report has one entry for each condition
whose value does not fit and no other, in the order of the form, and tells where each stands.
-/
theorem strictness_only_gates (f : Form)
    (hreadable : ∀ c ∈ f.conditions, Documented c.comparison) :
    (f.LacksValidation → ∀ strict, f.generate strict = .error (.refused .noValidation)) ∧
      (¬ f.LacksValidation → f.generate false = .ok f.document) ∧
        ((∀ c ∈ f.conditions, c.Fits) → f.generate true = f.generate false) ∧
          ((∃ c ∈ f.conditions, ¬ c.Fits) → ∃ r : Refusal,
            f.generate true = .error (.refused r) ∧ r.kind = .validation ∧
              r.details = Value.record
                [("errors", .list (f.unfit.map fun x => Refusal.mismatchValue (Gate.report x)))] ∧
                r.message = Text.join [Text.ofNat f.unfit.length,
                  " condition value(s) do not fit their comparison type"]) ∧
            f.placed.map Prod.snd = f.conditions ∧
              ∀ x ∈ f.placed, ∀ y ∈ f.placed, x.1.path = y.1.path → x = y := by
  refine ⟨fun hlacks strict => generate_of_lacks hlacks, generate_of_not_lacks,
    generate_true_of_fits, ?_, map_snd_placed f, ?_⟩
  · intro hunfit
    have hsafe : ∀ c ∈ f.conditions, ¬ c.Breaks := by
      intro c hc
      exact Condition.documented_comparison_iff.mp (hreadable c hc)
    refine ⟨_, generate_true_of_unfit ⟨hsafe, hunfit⟩, rfl, ?_, ?_⟩
    · rw [Refusal.details, List.map_map]
      rfl
    · rw [Refusal.message, List.length_map]
  · intro x hx y hy hpath
    exact eq_of_path_eq hx hy hpath

/-- A form whose lists both hold a value that fits and one that does not. -/
def mixedForm : Form :=
  .vendor
    { VendorForm.empty with
      preconditions :=
        [⟨"g", .all, [⟨"a", "age", .greaterThan, .text "old", none, none⟩,
          ⟨"b", "name", .equals, .text "old", none, none⟩], ()⟩]
      responseMappings :=
        [⟨"h", .any, [⟨"c", "code", .lengthRange, .text "3,10", none, none⟩,
          ⟨"d", "kind", .dataType, .text "decimal", none, none⟩], ()⟩] }

theorem strictness_only_gates_mixed :
    (∀ c ∈ mixedForm.conditions, Documented c.comparison) ∧
      (∃ r : Refusal, mixedForm.generate true = .error (.refused r) ∧ r.kind = .validation ∧
        r.message = "2 condition value(s) do not fit their comparison type") ∧
        mixedForm.unfit.map Prod.fst =
          [⟨"$.preconditions", 0, 0⟩, ⟨"$.response_mappings", 0, 1⟩] := by
  have hreadable : ∀ c ∈ mixedForm.conditions, Documented c.comparison := by
    refine List.forall_mem_cons.mpr ⟨Or.inr ⟨_, rfl⟩, ?_⟩
    refine List.forall_mem_cons.mpr ⟨Or.inl ⟨_, rfl⟩, ?_⟩
    refine List.forall_mem_cons.mpr ⟨Or.inl ⟨_, rfl⟩, ?_⟩
    exact List.forall_mem_singleton.mpr (Or.inr ⟨_, rfl⟩)
  have hunfit : ∃ c ∈ mixedForm.conditions, ¬ c.Fits :=
    ⟨_, List.mem_cons_self, by decide⟩
  have hlength : mixedForm.unfit.length = 2 := by
    decide
  rcases (strictness_only_gates mixedForm hreadable).right.right.right.left hunfit with
    ⟨r, hr, hkind, _, hmessage⟩
  rw [hlength, Text.ofNat_of_lt (by decide)] at hmessage
  exact ⟨hreadable, ⟨r, hr, hkind, hmessage⟩, by decide⟩

end Form

end RuleDraft
