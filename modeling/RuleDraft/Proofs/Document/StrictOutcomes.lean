import RuleDraft.Proofs.Comparison.Faults
import RuleDraft.Proofs.Document.Generated

/-!
# How strict readings end

A strict reading ends in a comparison or in a refusal, unless it meets a value that
breaks it.  One such value among the conditions of a form breaks the collection of
mismatches and the strict generation of the document; nothing else does.
-/

namespace RuleDraft

/-- The operation gives a result, or a refusal for the person who edits. -/
def Documented {α : Type} (r : Except Failure α) : Prop :=
  (∃ x, r = .ok x) ∨ ∃ refusal, r = .error (.refused refusal)

def Condition.Breaks (c : Condition) : Prop :=
  ∃ f, Comparison.Breaks c.value.toValue f c.type

/-!
# Types given by name
-/

namespace Comparison

theorem namedType?_eq_some_iff {name : Text} {type : ConditionType} :
    namedType? (.text name) = some type ↔ name = Text.ofString type.name := by
  constructor
  · intro h
    rcases Option.map_eq_some_iff.mp h with ⟨o, hfind, htype⟩
    have hname := List.find?_some hfind
    have hmem := List.mem_of_find?_eq_some hfind
    rcases List.mem_map.mp hmem with ⟨t, _, ht⟩
    rw [← ht] at hname htype
    cases htype
    exact (of_decide_eq_true hname).symm
  · rintro rfl
    cases type <;> rfl

theorem parseNamed_name (type : ConditionType) (v : Value) :
    parseNamed (.text type.name) v = parse type v := by
  rw [parseNamed, namedType?_eq_some_iff.mpr rfl]

theorem parse_eq_ok_iff {type : ConditionType} {v : Value} {c : Comparison} :
    parse type v = .ok c ↔ read type v = .ok c := by
  unfold parse
  cases hread : read type v with
  | ok k => exact ⟨fun h => congrArg _ (Except.ok.inj h), fun h => congrArg _ (Except.ok.inj h)⟩
  | error m =>
      cases m with
      | unfit reasons => exact iff_of_false nofun nofun
      | broken f => exact iff_of_false nofun nofun

theorem parse_eq_broken_iff {type : ConditionType} {v : Value} {f : Fault} :
    parse type v = .error (.broken f) ↔ Breaks v f type := by
  rw [← read_eq_broken_iff]
  unfold parse
  cases hread : read type v with
  | ok c =>
      constructor
      · intro h
        cases h
      · intro h
        cases h
  | error m =>
      cases m with
      | unfit reasons =>
          constructor
          · intro h
            cases h
          · intro h
            cases h
      | broken f' =>
          constructor
          · intro h
            cases h
            rfl
          · intro h
            cases h
            rfl

/-- A value that breaks nothing is a comparison or is refused as not fitting its type. -/
theorem parse_cases (type : ConditionType) (v : Value) :
    (∃ c, parse type v = .ok c) ∨
      (∃ reasons, parse type v = .error (.refused (.unfitValue type v reasons))) ∨
        ∃ f, Breaks v f type := by
  cases hread : read type v with
  | ok c => exact Or.inl ⟨c, by rw [parse, hread]⟩
  | error m =>
      cases m with
      | unfit reasons => exact Or.inr (Or.inl ⟨reasons, by rw [parse, hread]⟩)
      | broken f => exact Or.inr (Or.inr ⟨f, read_eq_broken_iff.mp hread⟩)

theorem parseNamed_documented_iff (name : Text) (v : Value) :
    ((∃ c, parseNamed (.text name) v = .ok c) ∨
      ∃ r, parseNamed (.text name) v = .error (.refused r) ∧ r.kind = .validation) ↔
        ¬ ∃ type f, name = Text.ofString type.name ∧ Breaks v f type := by
  unfold parseNamed
  cases hname : namedType? (.text name) with
  | none =>
      refine iff_of_true (Or.inr ⟨_, rfl, rfl⟩) ?_
      rintro ⟨type, f, htype, _⟩
      rw [namedType?_eq_some_iff.mpr htype] at hname
      cases hname
  | some type =>
      have htype := namedType?_eq_some_iff.mp hname
      constructor
      · rintro hend ⟨type', f, htype', hbreaks⟩
        have hsame := namedType?_eq_some_iff.mpr htype'
        rw [hname] at hsame
        cases hsame
        have hbroken := parse_eq_broken_iff.mpr hbreaks
        rcases hend with ⟨c, hc⟩ | ⟨r, hr, _⟩
        · change parse type v = .ok c at hc
          rw [hbroken] at hc
          cases hc
        · change parse type v = .error (.refused r) at hr
          rw [hbroken] at hr
          cases hr
      · intro hsafe
        rcases parse_cases type v with hc | ⟨reasons, hr⟩ | ⟨f, hf⟩
        · exact Or.inl hc
        · exact Or.inr ⟨_, hr, rfl⟩
        · exact absurd ⟨type, f, htype, hf⟩ hsafe

end Comparison

/-!
# Collecting mismatches
-/

namespace Gate

variable {ν : Type}

theorem mismatch?_isOk_iff (path : Text) {c : Condition} :
    (∃ found, mismatch? path c = .ok found) ↔ ¬ c.Breaks := by
  unfold mismatch?
  cases hread : Comparison.read c.type c.value.toValue with
  | ok k =>
      refine iff_of_true ⟨none, rfl⟩ ?_
      rintro ⟨f, hf⟩
      rw [Comparison.read_eq_broken_iff.mpr hf] at hread
      cases hread
  | error m =>
      cases m with
      | unfit reasons =>
          refine iff_of_true ⟨_, rfl⟩ ?_
          rintro ⟨f, hf⟩
          rw [Comparison.read_eq_broken_iff.mpr hf] at hread
          cases hread
      | broken f =>
          refine iff_of_false ?_ (fun hsafe => hsafe ⟨f, Comparison.read_eq_broken_iff.mp hread⟩)
          rintro ⟨found, hfound⟩
          cases hfound

theorem ofConditions_isOk_iff (path : Text) (i j : Nat) {conditions : List Condition} :
    (∃ found, ofConditions path i j conditions = .ok found) ↔
      ∀ c ∈ conditions, ¬ c.Breaks := by
  induction conditions generalizing j with
  | nil =>
      refine iff_of_true ⟨[], rfl⟩ ?_
      intro c hc
      cases hc
  | cons c rest ih =>
      rw [List.forall_mem_cons, ← ih (j + 1), ← mismatch?_isOk_iff (conditionPath path i j)]
      constructor
      · rintro ⟨found, hfound⟩
        rcases bind_eq_ok.mp hfound with ⟨one, hone, hrest⟩
        rcases bind_eq_ok.mp hrest with ⟨others, hothers, _⟩
        exact ⟨⟨one, hone⟩, ⟨others, hothers⟩⟩
      · rintro ⟨⟨one, hone⟩, ⟨others, hothers⟩⟩
        exact ⟨_, bind_eq_ok.mpr ⟨one, hone, bind_eq_ok.mpr ⟨others, hothers, rfl⟩⟩⟩

theorem ofGroups_isOk_iff {path : Text} {i : Nat} {groups : List (Group ν)} :
    (∃ found, ofGroups path i groups = .ok found) ↔
      ∀ g ∈ groups, ∀ c ∈ g.conditions, ¬ c.Breaks := by
  induction groups generalizing i with
  | nil =>
      refine iff_of_true ⟨[], rfl⟩ ?_
      intro g hg
      cases hg
  | cons g rest ih =>
      rw [List.forall_mem_cons, ← ih (i := i + 1), ← ofConditions_isOk_iff path i 0]
      constructor
      · rintro ⟨found, hfound⟩
        rcases bind_eq_ok.mp hfound with ⟨one, hone, hrest⟩
        rcases bind_eq_ok.mp hrest with ⟨others, hothers, _⟩
        exact ⟨⟨one, hone⟩, ⟨others, hothers⟩⟩
      · rintro ⟨⟨one, hone⟩, ⟨others, hothers⟩⟩
        exact ⟨_, bind_eq_ok.mpr ⟨one, hone, bind_eq_ok.mpr ⟨others, hothers, rfl⟩⟩⟩

theorem refuse_documented (found : List Mismatch) : Documented (refuse found) := by
  cases found with
  | nil => exact Or.inl ⟨(), rfl⟩
  | cons m rest => exact Or.inr ⟨_, rfl⟩

/-- A gate lets all pass, refuses what does not fit, or breaks. -/
theorem check_cases (lists : List (Text × List (Group ν))) :
    check lists = .ok () ∨
      (∃ found, check lists = .error (.refused (.unfitConditions found))) ∨
        ∃ f, check lists = .error (.broken f) := by
  unfold check
  cases lists.mapM (fun l => collect l.1 l.2) with
  | error f => exact Or.inr (Or.inr ⟨f, rfl⟩)
  | ok found =>
      change refuse found.flatten = .ok () ∨
        (∃ found', refuse found.flatten = .error (.refused (.unfitConditions found'))) ∨
          ∃ f, refuse found.flatten = .error (.broken f)
      cases found.flatten with
      | nil => exact Or.inl rfl
      | cons m rest => exact Or.inr (Or.inl ⟨m :: rest, rfl⟩)

theorem check_documented_iff {lists : List (Text × List (Group ν))} :
    Documented (check lists) ↔ ∀ l ∈ lists, ∀ g ∈ l.2, ∀ c ∈ g.conditions, ¬ c.Breaks := by
  have hcollect : (∃ found, lists.mapM (fun l => collect l.1 l.2) = .ok found) ↔
      ∀ l ∈ lists, ∀ g ∈ l.2, ∀ c ∈ g.conditions, ¬ c.Breaks := by
    rw [mapM_isOk_iff]
    constructor
    · intro h l hl
      exact ofGroups_isOk_iff.mp (h l hl)
    · intro h l hl
      exact ofGroups_isOk_iff.mpr (h l hl)
  rw [← hcollect]
  unfold check
  cases lists.mapM (fun l => collect l.1 l.2) with
  | ok found => exact iff_of_true (refuse_documented found.flatten) ⟨found, rfl⟩
  | error f =>
      refine iff_of_false ?_ (by rintro ⟨found, hfound⟩; cases hfound)
      rintro (⟨x, hx⟩ | ⟨r, hr⟩)
      · cases hx
      · cases hr

end Gate

/-!
# Strict generation
-/

theorem documented_bind_ok {α β : Type} {r : Except Failure α} {y : β} :
    Documented (r >>= fun _ => .ok y) ↔ Documented r := by
  cases r with
  | ok x => exact iff_of_true (Or.inl ⟨y, rfl⟩) (Or.inl ⟨x, rfl⟩)
  | error e =>
      constructor
      · rintro (⟨x, hx⟩ | ⟨k, hk⟩)
        · cases hx
        · cases hk
          exact Or.inr ⟨k, rfl⟩
      · rintro (⟨x, hx⟩ | ⟨k, hk⟩)
        · cases hx
        · cases hk
          exact Or.inr ⟨k, rfl⟩

theorem VendorForm.generate_documented_iff (f : VendorForm) :
    Documented (f.generate true) ↔
      ∀ g ∈ f.preconditions ++ f.responseMappings, ∀ c ∈ g.conditions, ¬ c.Breaks := by
  rw [generate_eq, if_pos rfl, documented_bind_ok]
  unfold gate
  rw [Gate.check_documented_iff, List.forall_mem_cons, List.forall_mem_singleton,
    List.forall_mem_append]

theorem ConfigForm.generate_documented_iff (f : ConfigForm) :
    Documented (f.generate true) ↔ ∀ g ∈ f.validations, ∀ c ∈ g.conditions, ¬ c.Breaks := by
  rw [generate_eq]
  by_cases hempty : f.validations.isEmpty = true
  · rw [if_pos hempty, List.isEmpty_iff.mp hempty]
    refine iff_of_true (Or.inr ⟨_, rfl⟩) ?_
    intro g hg
    cases hg
  · rw [if_neg hempty, if_pos rfl, documented_bind_ok]
    unfold gate
    rw [Gate.check_documented_iff, List.forall_mem_singleton]

/-!
# The exact condition
-/

theorem strict_readings_documented_iff (name : Text) (v : Value) (path : Text)
    (groups : List (Group ν)) (vendor : VendorForm) (config : ConfigForm) :
    (((∃ c, Comparison.parseNamed (.text name) v = .ok c) ∨
        ∃ r, Comparison.parseNamed (.text name) v = .error (.refused r) ∧
          r.kind = .validation) ↔
      ¬ ∃ type f, name = Text.ofString type.name ∧ Comparison.Breaks v f type) ∧
      ((∃ found, Gate.collect path groups = .ok found) ↔
        ∀ g ∈ groups, ∀ c ∈ g.conditions, ¬ c.Breaks) ∧
        (Documented (vendor.generate true) ↔
          ∀ g ∈ vendor.preconditions ++ vendor.responseMappings,
            ∀ c ∈ g.conditions, ¬ c.Breaks) ∧
          (Documented (config.generate true) ↔
            ∀ g ∈ config.validations, ∀ c ∈ g.conditions, ¬ c.Breaks) :=
  ⟨Comparison.parseNamed_documented_iff name v, Gate.ofGroups_isOk_iff,
    VendorForm.generate_documented_iff vendor, ConfigForm.generate_documented_iff config⟩

def ones (n : Nat) : Text :=
  List.replicate n (CodePoint.ofChar '1')

theorem trim_ones (n : Nat) : (ones n).trim = ones n := by
  apply Text.trimOf_of_forall
  intro c hc
  rw [List.eq_of_mem_replicate hc]
  decide

theorem ones_tooLong {n : Nat} (h : digitLimit < n) : Comparison.TooLong (.text (ones n)) n := by
  refine ⟨ones n, ones n, rfl, ⟨⟨?_, ?_⟩, [], List.mem_cons_self, trim_ones n⟩, ?_, h⟩
  · intro hnil
    have hlength := congrArg List.length hnil
    rw [ones, List.length_replicate, List.length_nil] at hlength
    omega
  · intro c hc
    rw [List.eq_of_mem_replicate hc]
    decide
  · rw [ones, List.length_replicate]

/-- One digit more than is read, and the reading is no refusal. -/
theorem long_numeral_breaks_reading :
    ¬ ∀ (name : Text) (v : Value),
      (∃ c, Comparison.parseNamed (.text name) v = .ok c) ∨
        ∃ r, Comparison.parseNamed (.text name) v = .error (.refused r) ∧
          r.kind = .validation := by
  intro hall
  have hend := hall (Text.ofString "greater_than") (.text (ones 4301))
  have hlong : Comparison.TooLong (.text (ones 4301)) 4301 := ones_tooLong (by decide)
  exact (Comparison.parseNamed_documented_iff _ _).mp hend
    ⟨.greaterThan, .integerTooLong 4301, rfl, 4301, hlong, rfl⟩

end RuleDraft
