import RuleDraft.Proofs.Service.Effects
import RuleDraft.Proofs.Tracking

/-!
# What a generation counts

An accepted request for a document adds to the counts of generations alone: one to those of
its kind that ended as it did, and, if there is a document, one to the sizes of its kind.
-/

namespace RuleDraft
namespace Service

/-- The series belongs to the ended generations of a kind of document, however they ended. -/
def endsOf (kind : DocumentKind) (t : Series) : Bool :=
  t.name = "dsl_generations_total" && t.labels.head? = some ("document", Text.ofString kind.name)

def sizeSeries (kind : DocumentKind) : Series :=
  ⟨"dsl_document_bytes_count", [("document", kind.name)]⟩

def generationNames : List String :=
  ["dsl_generation_duration_seconds_count", "dsl_generations_total",
    "dsl_document_bytes_bucket", "dsl_document_bytes_count", "dsl_document_bytes_sum"]

theorem name_mem_sizeIncrements {kind : DocumentKind} {octets : Nat} {i : Series × Int}
    (h : i ∈ sizeIncrements kind octets) : i.1.name ∈ generationNames := by
  rcases List.mem_append.mp h with hbucket | hrest
  · rcases List.mem_map.mp hbucket with ⟨bound, _, rfl⟩
    exact (by decide : "dsl_document_bytes_bucket" ∈ generationNames)
  · simp only [List.mem_cons, List.not_mem_nil, or_false] at hrest
    rcases hrest with rfl | rfl
    · exact (by decide : "dsl_document_bytes_count" ∈ generationNames)
    · exact (by decide : "dsl_document_bytes_sum" ∈ generationNames)

theorem name_mem_generationIncrements {indent : Int} {g : Generation} {i : Series × Int}
    (h : i ∈ generationIncrements indent g) : i.1.name ∈ generationNames := by
  rcases List.mem_append.mp h with hends | hsize
  · simp only [List.mem_cons, List.not_mem_nil, or_false] at hends
    rcases hends with rfl | rfl
    · exact (by decide : "dsl_generation_duration_seconds_count" ∈ generationNames)
    · exact (by decide : "dsl_generations_total" ∈ generationNames)
  · unfold documentIncrements at hsize
    cases hresult : g.result with
    | ok v =>
        rw [hresult] at hsize
        exact name_mem_sizeIncrements hsize
    | error f =>
        rw [hresult] at hsize
        cases hsize

theorem name_mem_increments {r : Resolution} {c : Context} {i : Series × Int}
    (h : i ∈ r.increments c) : i.1.name ∈ generationNames := by
  unfold Resolution.increments at h
  cases hg : r.generation? c with
  | none =>
      rw [hg] at h
      cases h
  | some g =>
      rw [hg] at h
      exact name_mem_generationIncrements h

/-!
# What one generation gains
-/

/-- The families of failures, of which none asks the program to stop. -/
def failureFamilies : List String :=
  ["ValidationError", "NotFoundError", "LastConditionError", "MissingValidationError",
    "ValueError", "RecursionError", "OverflowError", "RuntimeError", "AttributeError"]

theorem family_failure (f : Failure) :
    ∃ name ∈ failureFamilies, (Incident.ofFailure f).family = Text.ofString name := by
  cases f with
  | refused r =>
      refine ⟨r.kind.name, ?_, rfl⟩
      cases r.kind <;> decide
  | unreadable title issues => exact ⟨"ValidationError", by decide, rfl⟩
  | broken fault =>
      refine ⟨fault.name, ?_, rfl⟩
      cases fault
      all_goals
        simp only [Fault.name]
        decide

theorem isStop_failure (f : Failure) : (Incident.ofFailure f).isStop = false := by
  have hnames : ∀ name ∈ failureFamilies,
      Incident.stopFamilies.any (fun stop => Text.ofString stop = Text.ofString name) = false := by
    decide
  rcases family_failure f with ⟨name, hname, hfamily⟩
  rw [Incident.isStop, hfamily]
  exact hnames name hname

theorem isFailure_lineage {i : Incident} (h : i.isStop = false) : i.lineage.isFailure = true := by
  simp [Incident.lineage, Lineage.isFailure, h]

theorem outcome_failure (f : Failure) :
    Metrics.outcome (some (Incident.ofFailure f)) ≠ .success :=
  Metrics.outcomeOf_failure (isFailure_lineage (isStop_failure f))

section Generations

variable {kind : DocumentKind} {indent : Int} {g : Generation}

theorem sizeSeries_inj {k : DocumentKind} : sizeSeries k = sizeSeries kind ↔ k = kind := by
  cases k <;> cases kind <;> decide

theorem endSeries_inj {k : DocumentKind} {o o' : Metrics.Outcome} :
    endSeries k o = endSeries kind o' ↔ k = kind ∧ o = o' := by
  cases k <;> cases kind <;> cases o <;> cases o' <;> decide

theorem endsOf_endSeries {k : DocumentKind} {o : Metrics.Outcome} :
    endsOf kind (endSeries k o) = true ↔ k = kind := by
  cases k <;> cases kind <;> cases o <;> decide

/-- Of all sizes, only their number gains one from a document. -/
theorem gain_document {p : Series → Bool}
    (hp : ∀ t, p t = true →
      t.name ≠ "dsl_document_bytes_bucket" ∧ t.name ≠ "dsl_document_bytes_sum") :
    gain p (documentIncrements indent g) =
      if p (sizeSeries g.kind) && g.result.toBool then 1 else 0 := by
  unfold documentIncrements
  cases g.result with
  | error f => simp [Except.toBool]
  | ok v =>
      have hbuckets (octets : Nat) : gain p (bucketIncrements g.kind octets) = 0 := by
        apply gain_eq_zero
        intro i hi
        rcases List.mem_map.mp hi with ⟨bound, _, rfl⟩
        exact Bool.eq_false_iff.mpr fun hpi => (hp _ hpi).left rfl
      have hsum : p ⟨"dsl_document_bytes_sum", [("document", g.kind.name)]⟩ = false :=
        Bool.eq_false_iff.mpr fun hpi => (hp _ hpi).right rfl
      simp [sizeIncrements, hbuckets, hsum, sizeSeries, Except.toBool]

theorem gain_endsOf :
    gain (endsOf kind) (generationIncrements indent g) = if g.kind = kind then 1 else 0 := by
  have hname (t : Series) (ht : endsOf kind t = true) : t.name = "dsl_generations_total" :=
    of_decide_eq_true (Bool.and_eq_true_iff.mp ht).left
  have hduration : endsOf kind
      ⟨"dsl_generation_duration_seconds_count", [("document", g.kind.name)]⟩ = false := rfl
  have hsize : endsOf kind (sizeSeries g.kind) = false := rfl
  unfold generationIncrements
  rw [gain_append, gain_document]
  · simp [hduration, hsize, endsOf_endSeries]
  · intro t ht
    rw [hname t ht]
    exact ⟨by decide, by decide⟩

theorem outcome_result :
    Metrics.outcome (incident? g.result) = .success ↔ g.result.toBool = true := by
  cases g.result with
  | ok v => exact ⟨fun _ => rfl, fun _ => rfl⟩
  | error f => exact ⟨fun h => absurd h (outcome_failure f), fun h => nomatch h⟩

/-- Exactly the generations that succeed have a size that is observed. -/
theorem gain_success :
    gain (fun t => decide (t = endSeries kind .success)) (generationIncrements indent g) =
      gain (fun t => decide (t = sizeSeries kind)) (generationIncrements indent g) := by
  have hduration (t : Series) (ht : t.name ≠ "dsl_generation_duration_seconds_count") :
      ⟨"dsl_generation_duration_seconds_count", [("document", g.kind.name)]⟩ ≠ t :=
    fun heq => ht (heq ▸ rfl)
  have hends : (endSeries kind .success).name = "dsl_generations_total" := rfl
  have hsizes : (sizeSeries kind).name = "dsl_document_bytes_count" := rfl
  have hnames : "dsl_document_bytes_count" ≠ "dsl_generations_total" := by decide
  have hsize_end : sizeSeries g.kind ≠ endSeries kind .success :=
    fun heq => hnames (congrArg Series.name heq)
  have hend_size (o : Metrics.Outcome) : endSeries g.kind o ≠ sizeSeries kind :=
    fun heq => hnames (congrArg Series.name heq).symm
  unfold generationIncrements
  rw [gain_append, gain_append, gain_document, gain_document]
  · simp [hduration, hends, hsizes, hsize_end, hend_size, endSeries_inj, sizeSeries_inj,
      outcome_result]
  · intro t ht
    rw [of_decide_eq_true ht, hsizes]
    exact ⟨by decide, by decide⟩
  · intro t ht
    rw [of_decide_eq_true ht, hends]
    exact ⟨by decide, by decide⟩

end Generations

end Service
end RuleDraft
