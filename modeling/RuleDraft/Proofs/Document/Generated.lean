import RuleDraft.Document
import RuleDraft.Proofs.Outcome

/-!
# Generated documents

A generation stops at the gate or gives the document of the form; the gate never
changes what is generated.
-/

namespace RuleDraft

theorem VendorForm.generate_eq (strict : Bool) (f : VendorForm) :
    f.generate strict =
      if strict then f.gate >>= fun _ => .ok (.ofForm f) else .ok (.ofForm f) := by
  cases strict with
  | false => rfl
  | true => rfl

theorem ConfigForm.generate_eq (strict : Bool) (f : ConfigForm) :
    f.generate strict =
      if f.validations.isEmpty then .error (.refused .noValidation)
      else if strict then f.gate >>= fun _ => .ok (.ofForm f)
      else .ok (.ofForm f) := by
  by_cases hempty : f.validations.isEmpty = true
  · rw [generate, if_pos hempty, if_pos hempty]
    rfl
  · rw [generate, if_neg hempty, if_neg hempty]
    cases strict with
    | false => rfl
    | true => rfl

theorem VendorForm.eq_of_generate {strict : Bool} {f : VendorForm} {d : VendorDocument}
    (h : f.generate strict = .ok d) : d = .ofForm f := by
  rw [generate_eq] at h
  cases strict with
  | false =>
      cases h
      rfl
  | true =>
      rcases bind_eq_ok.mp h with ⟨_, _, hd⟩
      cases hd
      rfl

theorem ConfigForm.eq_of_generate {strict : Bool} {f : ConfigForm} {d : ConfigDocument}
    (h : f.generate strict = .ok d) : d = .ofForm f := by
  rw [generate_eq] at h
  by_cases hempty : f.validations.isEmpty = true
  · rw [if_pos hempty] at h
    cases h
  · rw [if_neg hempty] at h
    cases strict with
    | false =>
        cases h
        rfl
    | true =>
        rcases bind_eq_ok.mp h with ⟨_, _, hd⟩
        cases hd
        rfl

/-!
# Strictness

Strictness decides whether there is a document, not which one.
-/

/-- Two gated computations that both succeed, or both fail, are one. -/
theorem gated_eq_of_iff {ε α : Type} {gate : Except ε Unit} {x : α} {strict other : Bool}
    (h : (∃ y, (if strict then gate >>= fun _ => .ok x else .ok x : Except ε α) = .ok y) ↔
      ∃ y, (if other then gate >>= fun _ => .ok x else .ok x : Except ε α) = .ok y) :
    (if strict then gate >>= fun _ => .ok x else .ok x : Except ε α) =
      if other then gate >>= fun _ => .ok x else .ok x := by
  cases gate with
  | ok u =>
      have heq (b : Bool) : (if b then Except.ok u >>= fun _ => .ok x else .ok x : Except ε α) =
          .ok x := ite_self _
      rw [heq, heq]
  | error e =>
      cases strict with
      | true =>
          cases other with
          | true => rfl
          | false =>
              rcases h.mpr ⟨x, rfl⟩ with ⟨y, hy⟩
              cases hy
      | false =>
          cases other with
          | true =>
              rcases h.mp ⟨x, rfl⟩ with ⟨y, hy⟩
              cases hy
          | false => rfl

theorem VendorForm.generate_eq_of_iff {f : VendorForm} {strict other : Bool}
    (h : (∃ d, f.generate strict = .ok d) ↔ ∃ d, f.generate other = .ok d) :
    f.generate strict = f.generate other := by
  rw [generate_eq, generate_eq] at h ⊢
  exact gated_eq_of_iff h

theorem ConfigForm.generate_eq_of_iff {f : ConfigForm} {strict other : Bool}
    (h : (∃ d, f.generate strict = .ok d) ↔ ∃ d, f.generate other = .ok d) :
    f.generate strict = f.generate other := by
  rw [generate_eq, generate_eq] at h ⊢
  by_cases hempty : f.validations.isEmpty = true
  · rw [if_pos hempty, if_pos hempty]
  · rw [if_neg hempty, if_neg hempty] at h ⊢
    exact gated_eq_of_iff h

end RuleDraft
