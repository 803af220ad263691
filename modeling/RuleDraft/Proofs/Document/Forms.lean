import RuleDraft.Document.Generation
import RuleDraft.Proofs.Document.StrictOutcomes

/-!
# What becomes of a form

Forms of both kinds share the ways in which a generation ends.  A strict generation gives a
document exactly if every value fits its type; it breaks exactly if some value breaks its
reading, and refuses otherwise.  Before all of this, a config form without a validation is
refused.
-/

namespace RuleDraft

def Condition.Fits (c : Condition) : Prop :=
  ∃ k, Comparison.read c.type c.value.toValue = .ok k

theorem Condition.Fits.not_breaks {c : Condition} (h : c.Fits) : ¬ c.Breaks := by
  rintro ⟨f, hf⟩
  rcases h with ⟨k, hk⟩
  rw [Comparison.read_eq_broken_iff.mpr hf] at hk
  cases hk

/-!
# Gates that let everything pass
-/

namespace Gate

variable {ν : Type}

theorem mismatch?_eq_none_iff (path : Text) {c : Condition} :
    mismatch? path c = .ok none ↔ c.Fits := by
  unfold mismatch? Condition.Fits
  cases Comparison.read c.type c.value.toValue with
  | ok k => exact iff_of_true rfl ⟨k, rfl⟩
  | error m =>
      refine iff_of_false ?_ nofun
      cases m <;> nofun

theorem ofConditions_eq_nil_iff (path : Text) (i j : Nat) {conditions : List Condition} :
    ofConditions path i j conditions = .ok [] ↔ ∀ c ∈ conditions, c.Fits := by
  induction conditions generalizing j with
  | nil => exact iff_of_true rfl (List.forall_mem_nil _)
  | cons c rest ih =>
      rw [List.forall_mem_cons, ← ih (j + 1),
        ← mismatch?_eq_none_iff (conditionPath path i j)]
      constructor
      · intro h
        rcases bind_eq_ok.mp h with ⟨one, hone, hrest⟩
        rcases bind_eq_ok.mp hrest with ⟨others, hothers, hnil⟩
        cases one with
        | some m => cases hnil
        | none =>
            cases hnil
            exact ⟨hone, hothers⟩
      · rintro ⟨hone, hothers⟩
        exact bind_eq_ok.mpr ⟨none, hone, bind_eq_ok.mpr ⟨[], hothers, rfl⟩⟩

theorem ofGroups_eq_nil_iff {path : Text} {i : Nat} {groups : List (Group ν)} :
    ofGroups path i groups = .ok [] ↔ ∀ g ∈ groups, ∀ c ∈ g.conditions, c.Fits := by
  induction groups generalizing i with
  | nil => exact iff_of_true rfl (List.forall_mem_nil _)
  | cons g rest ih =>
      rw [List.forall_mem_cons, ← ih (i := i + 1),
        ← ofConditions_eq_nil_iff path i 0]
      constructor
      · intro h
        rcases bind_eq_ok.mp h with ⟨one, hone, hrest⟩
        rcases bind_eq_ok.mp hrest with ⟨others, hothers, hnil⟩
        rcases List.append_eq_nil_iff.mp (Except.ok.inj hnil) with ⟨rfl, rfl⟩
        exact ⟨hone, hothers⟩
      · rintro ⟨hone, hothers⟩
        exact bind_eq_ok.mpr ⟨[], hone, bind_eq_ok.mpr ⟨[], hothers, rfl⟩⟩

theorem refuse_eq_ok_iff {found : List Mismatch} : refuse found = .ok () ↔ found = [] := by
  cases found with
  | nil => exact iff_of_true rfl rfl
  | cons m rest => exact iff_of_false nofun nofun

theorem check_eq_ok_iff {lists : List (Text × List (Group ν))} :
    check lists = .ok () ↔ ∀ l ∈ lists, ∀ g ∈ l.2, ∀ c ∈ g.conditions, c.Fits := by
  have hcollect : check lists = .ok () ↔
      ∃ found, lists.mapM (fun l => collect l.1 l.2) = .ok found ∧ found.flatten = [] := by
    unfold check
    cases lists.mapM (fun l => collect l.1 l.2) with
    | error f => exact iff_of_false nofun (by rintro ⟨found, hfound, _⟩; cases hfound)
    | ok found =>
        refine refuse_eq_ok_iff.trans ⟨fun h => ⟨found, rfl, h⟩, ?_⟩
        rintro ⟨_, ⟨⟩, h⟩
        exact h
  rw [hcollect]
  constructor
  · rintro ⟨found, hfound, hflat⟩ l hl
    rcases exists_of_mem_right (mapM_eq_ok.mp hfound).flip hl with ⟨one, hone, hlist⟩
    rw [List.flatten_eq_nil_iff.mp hflat one hone] at hlist
    exact ofGroups_eq_nil_iff.mp hlist
  · intro h
    refine ⟨lists.map fun _ => [], mapM_eq_ok.mpr ?_, by simp⟩
    rw [List.forall₂_map_right_iff, List.forall₂_same]
    exact fun l hl => ofGroups_eq_nil_iff.mpr (h l hl)

end Gate

/-!
# Forms of both kinds
-/

inductive Form where
  | vendor (f : VendorForm)
  | config (f : ConfigForm)

namespace Form

def read (kind : DocumentKind) (v : Value) (ids : IdSupply) : Checked Form :=
  match kind with
  | .vendor => ((VendorForm.intake v).run ids).1.map .vendor
  | .config => ((ConfigForm.intake v).run ids).1.map .config

def title : DocumentKind → String
  | .vendor => VendorForm.title
  | .config => ConfigForm.title

def starter (kind : DocumentKind) (ids : IdSupply) : Form :=
  match kind with
  | .vendor => .vendor (.starter ids)
  | .config => .config (.starter ids)

/-- The conditions whose values a strict generation reads. -/
def conditions : Form → List Condition
  | .vendor f => (f.preconditions ++ f.responseMappings).flatMap Group.conditions
  | .config f => f.validations.flatMap Group.conditions

def LacksValidation : Form → Prop
  | .vendor _ => False
  | .config f => f.validations = []

/-- No value of the form breaks its reading, and some value does not fit its type. -/
def Unfit (f : Form) : Prop :=
  (∀ c ∈ f.conditions, ¬ c.Breaks) ∧ ∃ c ∈ f.conditions, ¬ c.Fits

def document : Form → Value
  | .vendor f => (VendorDocument.ofForm f).toValue
  | .config f => (ConfigDocument.ofForm f).toValue

def generate (strict : Bool) : Form → Except Failure Value
  | .vendor f => (f.generate strict).map VendorDocument.toValue
  | .config f => (f.generate strict).map ConfigDocument.toValue

/-- How a generation of the form ends, and why. -/
inductive Ends (strict : Bool) (f : Form) : Except Failure Value → Prop
  | missing (hlacks : f.LacksValidation) : Ends strict f (.error (.refused .noValidation))
  | unfit (found : List Mismatch) (hstrict : strict = true) (hunfit : f.Unfit) :
      Ends strict f (.error (.refused (.unfitConditions found)))
  | broken (fault : Fault) (hstrict : strict = true) (hbreaks : ∃ c ∈ f.conditions, c.Breaks) :
      Ends strict f (.error (.broken fault))
  | document (hsome : ¬ f.LacksValidation) (hfits : strict = true → ∀ c ∈ f.conditions, c.Fits) :
      Ends strict f (.ok f.document)

/-!
# The ways to end
-/

section Generating

variable {kind : DocumentKind} {strict : Bool} {v : Value} {ids : IdSupply} {f : Form}

theorem result_ofStarter (kind : DocumentKind) (strict : Bool) (ids : IdSupply) :
    (Generation.ofStarter kind strict ids).result = (starter kind ids).generate strict := by
  cases kind <;> rfl

theorem result_ofData (h : read kind v ids = .ok f) (strict : Bool) :
    (Generation.ofData kind strict v ids).result = f.generate strict := by
  cases kind with
  | vendor =>
      rcases map_eq_ok.mp h with ⟨form, hform, rfl⟩
      rw [Generation.ofData, readForm, hform]
      rfl
  | config =>
      rcases map_eq_ok.mp h with ⟨form, hform, rfl⟩
      rw [Generation.ofData, readForm, hform]
      rfl

theorem result_ofData_refused {issues : List Issue} (h : read kind v ids = .error issues)
    (strict : Bool) :
    (Generation.ofData kind strict v ids).result =
      .error (.refused (.badForm (title kind) issues)) := by
  cases kind with
  | vendor =>
      rw [Generation.ofData, readForm, map_eq_error.mp h]
      rfl
  | config =>
      rw [Generation.ofData, readForm, map_eq_error.mp h]
      rfl

def gate : Form → Except Failure Unit
  | .vendor f => f.gate
  | .config f => f.gate

theorem generate_of_lacks (h : f.LacksValidation) :
    f.generate strict = .error (.refused .noValidation) := by
  cases f with
  | vendor f => exact h.elim
  | config f =>
      have hempty : f.validations.isEmpty = true := List.isEmpty_iff.mpr h
      rw [generate, ConfigForm.generate_eq, if_pos hempty]
      rfl

theorem generate_of_not_lacks (h : ¬ f.LacksValidation) :
    f.generate strict =
      if strict then f.gate >>= fun _ => .ok f.document else .ok f.document := by
  cases f with
  | vendor f =>
      rw [generate, VendorForm.generate_eq]
      cases strict with
      | false => rfl
      | true => cases hgate : f.gate <;> simp only [gate, hgate] <;> rfl
  | config f =>
      have hsome : ¬ f.validations.isEmpty = true := fun hempty => h (List.isEmpty_iff.mp hempty)
      rw [generate, ConfigForm.generate_eq, if_neg hsome]
      cases strict with
      | false => rfl
      | true => cases hgate : f.gate <;> simp only [gate, hgate] <;> rfl

theorem forall_conditions_iff {P : Condition → Prop} {ν : Type} {groups : List (Group ν)} :
    (∀ c ∈ groups.flatMap Group.conditions, P c) ↔ ∀ g ∈ groups, ∀ c ∈ g.conditions, P c := by
  simp only [List.mem_flatMap]
  constructor
  · intro h g hg c hc
    exact h c ⟨g, hg, hc⟩
  · rintro h c ⟨g, hg, hc⟩
    exact h g hg c hc

theorem gate_eq_ok_iff (f : Form) : f.gate = .ok () ↔ ∀ c ∈ f.conditions, c.Fits := by
  cases f with
  | vendor f =>
      rw [gate, VendorForm.gate, Gate.check_eq_ok_iff, conditions, forall_conditions_iff,
        List.forall_mem_cons, List.forall_mem_singleton, List.forall_mem_append]
  | config f =>
      rw [gate, ConfigForm.gate, Gate.check_eq_ok_iff, conditions, forall_conditions_iff,
        List.forall_mem_singleton]

theorem gate_documented_iff (f : Form) : Documented f.gate ↔ ∀ c ∈ f.conditions, ¬ c.Breaks := by
  cases f with
  | vendor f =>
      rw [gate, VendorForm.gate, Gate.check_documented_iff, conditions, forall_conditions_iff,
        List.forall_mem_cons, List.forall_mem_singleton, List.forall_mem_append]
  | config f =>
      rw [gate, ConfigForm.gate, Gate.check_documented_iff, conditions, forall_conditions_iff,
        List.forall_mem_singleton]

theorem gate_cases (f : Form) :
    f.gate = .ok () ∨ (∃ found, f.gate = .error (.refused (.unfitConditions found))) ∨
      ∃ fault, f.gate = .error (.broken fault) := by
  cases f with
  | vendor f => exact Gate.check_cases _
  | config f => exact Gate.check_cases _

theorem conditions_of_lacks (h : f.LacksValidation) : f.conditions = [] := by
  cases f with
  | vendor f => exact h.elim
  | config f =>
      rw [conditions, show f.validations = [] from h]
      rfl

theorem ends_generate (strict : Bool) (f : Form) : f.Ends strict (f.generate strict) := by
  by_cases hlacks : f.LacksValidation
  · rw [generate_of_lacks hlacks]
    exact .missing hlacks
  · rw [generate_of_not_lacks hlacks]
    cases strict with
    | false => exact .document hlacks nofun
    | true =>
        rw [if_pos rfl]
        -- The three ways in which the gate ends are told apart by the values in the form.
        rcases gate_cases f with hok | ⟨found, hfound⟩ | ⟨fault, hfault⟩
        · rw [hok]
          exact .document hlacks fun _ => (gate_eq_ok_iff f).mp hok
        · have hsafe := (gate_documented_iff f).mp (Or.inr ⟨_, hfound⟩)
          have hunfit : ∃ c ∈ f.conditions, ¬ c.Fits := by
            by_contra hnone
            push Not at hnone
            rw [(gate_eq_ok_iff f).mpr hnone] at hfound
            cases hfound
          rw [hfound]
          exact .unfit found rfl ⟨hsafe, hunfit⟩
        · have hbreaks : ∃ c ∈ f.conditions, c.Breaks := by
            by_contra hnone
            push Not at hnone
            rcases (gate_documented_iff f).mpr hnone with ⟨_, hok⟩ | ⟨r, hr⟩
            · rw [hok] at hfault
              cases hfault
            · rw [hr] at hfault
              cases hfault
          rw [hfault]
          exact .broken fault rfl hbreaks

theorem generate_of_unfit (h : f.Unfit) :
    ∃ found, f.generate true = .error (.refused (.unfitConditions found)) := by
  rcases h with ⟨hsafe, c, hc, hunfit⟩
  have hends := ends_generate true f
  generalize f.generate true = result at hends ⊢
  cases hends with
  | missing hlacks =>
      rw [conditions_of_lacks hlacks] at hc
      cases hc
  | unfit found => exact ⟨found, rfl⟩
  | broken fault _ hbreaks =>
      rcases hbreaks with ⟨c', hc', hbreaks⟩
      exact absurd hbreaks (hsafe c' hc')
  | document _ hfits => exact absurd (hfits rfl c hc) hunfit

theorem generate_of_breaks (h : ∃ c ∈ f.conditions, c.Breaks) :
    ∃ fault, f.generate true = .error (.broken fault) := by
  rcases h with ⟨c, hc, hbreaks⟩
  have hends := ends_generate true f
  generalize f.generate true = result at hends ⊢
  cases hends with
  | missing hlacks =>
      rw [conditions_of_lacks hlacks] at hc
      cases hc
  | unfit _ _ hunfit => exact absurd hbreaks (hunfit.left c hc)
  | broken fault => exact ⟨fault, rfl⟩
  | document _ hfits => exact absurd hbreaks (hfits rfl c hc).not_breaks

theorem eq_document_of_generate {w : Value} (h : f.generate strict = .ok w) : w = f.document := by
  have hends := ends_generate strict f
  rw [h] at hends
  cases hends
  rfl

end Generating

end Form

end RuleDraft
