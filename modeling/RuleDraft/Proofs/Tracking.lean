import RuleDraft.Proofs.Counts

/-!
# Tracked generations

Runs that generate documents are tracked one after the other.  Each adds one to the timed
generations of its document and one to those that ended as it did, whatever was raised in it, so
the counts after all runs are numbers of runs.  They tell how the runs ended exactly when nothing
was raised that asks the program to stop: such a run still counts as a success.
-/

namespace RuleDraft

/-- What asks the program to stop: it is no refusal and reports no failure. -/
def Lineage.isStop (l : Lineage) : Bool := !l.isRefusal && !l.isFailure

namespace Metrics

/-- A run that generates a document, and how it ends. -/
structure Run (ε α : Type) where
  document : Text
  ending : Except ε α

/-- Track runs one after the other: how each ended, and the counts after the last. -/
def trackAll {ε α : Type} (lineage : ε → Lineage) :
    List (Run ε α) → Metrics → List (Except ε α) × Metrics
  | [], m => ([], m)
  | r :: rs, m =>
      let (ending, counted) := track lineage r.document r.ending m
      let (endings, after) := trackAll lineage rs counted
      (ending :: endings, after)

/-!
# The series of a document
-/

def timedSeries (document : Text) : Series :=
  ⟨"dsl_generation_duration_seconds_count", [("document", document)]⟩

def endedSeries (document : Text) (o : Outcome) : Series :=
  ⟨"dsl_generations_total", [("document", document), ("status", o.name)]⟩

theorem timedSeries_inj {d document : Text} :
    timedSeries d = timedSeries document ↔ d = document := by
  simp [timedSeries]

theorem endedSeries_inj {d document : Text} {o o' : Outcome} :
    endedSeries d o = endedSeries document o' ↔ d = document ∧ o = o' := by
  have hname : Text.ofString o.name = Text.ofString o'.name ↔ o = o' := by
    cases o <;> cases o' <;> decide
  simp [endedSeries, hname]

theorem endedSeries_ne_timedSeries {d document : Text} {o : Outcome} :
    endedSeries d o ≠ timedSeries document := by
  have hnames : "dsl_generations_total" ≠ "dsl_generation_duration_seconds_count" := by decide
  exact fun h => hnames (congrArg Series.name h)

/-!
# Outcomes
-/

section Outcomes

variable {l : Lineage}

theorem outcomeOf_failure (h : l.isFailure = true) : outcomeOf (some l) ≠ .success := by
  unfold outcomeOf
  dsimp only
  rw [h, if_pos rfl]
  split <;> exact fun hsuccess => nomatch hsuccess

theorem outcomeOf_eq_refused : outcomeOf (some l) = .refused ↔ l.isRefusal = true := by
  unfold outcomeOf
  dsimp only
  cases l.isRefusal <;> cases l.isFailure <;> decide

theorem outcomeOf_eq_success : outcomeOf (some l) = .success ↔ l.isStop = true := by
  unfold outcomeOf Lineage.isStop
  dsimp only
  cases l.isRefusal <;> cases l.isFailure <;> decide

theorem outcomeOf_eq_error :
    outcomeOf (some l) = .error ↔ l.isRefusal = false ∧ l.isStop = false := by
  unfold outcomeOf Lineage.isStop
  dsimp only
  cases l.isRefusal <;> cases l.isFailure <;> decide

end Outcomes

/-!
# Numbers of runs
-/

section Runs

variable {ε α : Type} {lineage : ε → Lineage}

namespace Run

def raised (lineage : ε → Lineage) (p : Lineage → Bool) (r : Run ε α) : Bool :=
  (raised? r.ending).any fun e => p (lineage e)

def returned (r : Run ε α) : Bool := r.ending.toBool

def outcome (lineage : ε → Lineage) (r : Run ε α) : Outcome :=
  outcomeOf ((raised? r.ending).map lineage)

def increments (lineage : ε → Lineage) (r : Run ε α) : Increments :=
  [(timedSeries r.document, 1), (endedSeries r.document (r.outcome lineage), 1)]

end Run

def runsOf (document : Text) (p : Run ε α → Bool) (runs : List (Run ε α)) : Nat :=
  runs.countP fun r => decide (r.document = document) && p r

theorem runsOf_congr {document : Text} {p q : Run ε α → Bool} {runs : List (Run ε α)}
    (h : ∀ r : Run ε α, p r = q r) : runsOf document p runs = runsOf document q runs := by
  unfold runsOf
  simp only [h]

/-- If a property is had through exactly one of two others, the numbers of runs add up. -/
theorem runsOf_split {p q both : Run ε α → Bool}
    (h : ∀ r : Run ε α, (both r).toNat = (p r).toNat + (q r).toNat) (document : Text)
    (runs : List (Run ε α)) :
    runsOf document both runs = runsOf document p runs + runsOf document q runs := by
  unfold runsOf
  induction runs with
  | nil => rfl
  | cons r rs ih =>
      have hr := h r
      rw [List.countP_cons, List.countP_cons, List.countP_cons, ih]
      cases decide (r.document = document)
      · simp
      · revert hr
        cases both r <;> cases p r <;> cases q r <;> simp <;> omega

theorem runsOf_eq_zero {document : Text} {p : Run ε α → Bool} {runs : List (Run ε α)} :
    runsOf document p runs = 0 ↔ ∀ r ∈ runs, r.document = document → p r = false := by
  simp [runsOf, List.countP_eq_zero]

/-!
# What is counted
-/

theorem trackAll_fst (runs : List (Run ε α)) (m : Metrics) :
    (trackAll lineage runs m).1 = runs.map Run.ending := by
  induction runs generalizing m with
  | nil => rfl
  | cons r rs ih =>
      rw [List.map_cons, ← ih (track lineage r.document r.ending m).2]
      rfl

theorem trackAll_snd (runs : List (Run ε α)) (m : Metrics) :
    (trackAll lineage runs m).2 = m.addAll (runs.flatMap (Run.increments lineage)) := by
  induction runs generalizing m with
  | nil => rfl
  | cons r rs ih =>
      have hstep : (track lineage r.document r.ending m).2 = m.addAll (r.increments lineage) := rfl
      rw [List.flatMap_cons, addAll_append, ← hstep, ← ih]
      rfl

theorem value_empty (s : Series) : value s empty = 0 := rfl

theorem timed_trackAll (lineage : ε → Lineage) (document : Text) (runs : List (Run ε α)) :
    (trackAll lineage runs empty).2.value (timedSeries document) =
      runsOf document (fun _ => true) runs := by
  rw [trackAll_snd, value_addAll, value_empty, zero_add, runsOf, gain_flatMap]
  intro r _
  simp [Run.increments, timedSeries_inj, endedSeries_ne_timedSeries]

theorem ended_trackAll (lineage : ε → Lineage) (document : Text) (o : Outcome)
    (runs : List (Run ε α)) :
    (trackAll lineage runs empty).2.value (endedSeries document o) =
      runsOf document (fun r => decide (r.outcome lineage = o)) runs := by
  rw [trackAll_snd, value_addAll, value_empty, zero_add, runsOf, gain_flatMap]
  intro r _
  simp [Run.increments, endedSeries_inj, endedSeries_ne_timedSeries.symm]

theorem outcome_refused (r : Run ε α) :
    decide (r.outcome lineage = .refused) = r.raised lineage Lineage.isRefusal := by
  unfold Run.outcome Run.raised
  cases raised? r.ending with
  | none => rfl
  | some e => simp [outcomeOf_eq_refused]

theorem success_split (r : Run ε α) :
    (decide (r.outcome lineage = .success)).toNat =
      r.returned.toNat + (r.raised lineage Lineage.isStop).toNat := by
  cases r with
  | mk document ending =>
      cases ending with
      | ok a => rfl
      | error e =>
          simp [Run.outcome, Run.raised, Run.returned, raised?, outcomeOf_eq_success,
            Except.toBool]

theorem other_split (lineage : ε → Lineage) (r : Run ε α) :
    (r.raised lineage fun l => !l.isRefusal).toNat =
      (decide (r.outcome lineage = .error)).toNat + (r.raised lineage Lineage.isStop).toNat := by
  cases r with
  | mk document ending =>
      cases ending with
      | ok a => rfl
      | error e =>
          simp only [Run.outcome, Run.raised, raised?, Option.map_some, outcomeOf_eq_error,
            Option.any_some, Lineage.isStop]
          cases (lineage e).isRefusal <;> cases (lineage e).isFailure <;> decide

/-!
# Truthful counts
-/

/-- The counts of a document's generations tell how its runs ended. -/
structure CountsTruthfully (lineage : ε → Lineage) (runs : List (Run ε α)) (document : Text)
    (m : Metrics) : Prop where
  timed : m.value (timedSeries document) = runsOf document (fun _ => true) runs
  success : m.value (endedSeries document .success) = runsOf document Run.returned runs
  refused : m.value (endedSeries document .refused) =
    runsOf document (Run.raised lineage Lineage.isRefusal) runs
  error : m.value (endedSeries document .error) =
    runsOf document (Run.raised lineage fun l => !l.isRefusal) runs

/--
Whatever is raised in runs, of whatever lineage and in whatever order, each run ends outside as
it ended inside, all are timed, and exactly the refusals count as refused.  A run in which the
program is asked to stop is missing among the errors and counts as a success, so the counts of a
document are truthful exactly when it has no such run.
-/
theorem countsTruthfully_iff (lineage : ε → Lineage) (runs : List (Run ε α)) :
    (trackAll lineage runs empty).1 = runs.map Run.ending ∧
      ∀ document,
        (trackAll lineage runs empty).2.value (timedSeries document) =
            runsOf document (fun _ => true) runs ∧
          (trackAll lineage runs empty).2.value (endedSeries document .refused) =
            runsOf document (Run.raised lineage Lineage.isRefusal) runs ∧
          (trackAll lineage runs empty).2.value (endedSeries document .success) =
            runsOf document Run.returned runs +
              runsOf document (Run.raised lineage Lineage.isStop) runs ∧
          (trackAll lineage runs empty).2.value (endedSeries document .error) =
            runsOf document (Run.raised lineage fun l => !l.isRefusal) runs -
              (runsOf document (Run.raised lineage Lineage.isStop) runs : Int) ∧
          (CountsTruthfully lineage runs document (trackAll lineage runs empty).2 ↔
            ∀ r ∈ runs, r.document = document → r.raised lineage Lineage.isStop = false) := by
  refine ⟨trackAll_fst runs empty, fun document => ?_⟩
  have htimed := timed_trackAll lineage document runs
  have hrefused := ended_trackAll lineage document .refused runs
  have hsuccess := ended_trackAll lineage document .success runs
  have herror := ended_trackAll lineage document .error runs
  -- What asks the program to stop is no refusal, but it counts as a success and not as an error.
  have hother := runsOf_split (other_split lineage) document runs
  rw [runsOf_congr outcome_refused] at hrefused
  rw [runsOf_split success_split] at hsuccess
  push_cast at hsuccess
  refine ⟨htimed, hrefused, hsuccess, by omega, ?_⟩
  rw [← runsOf_eq_zero]
  constructor
  · intro h
    have hall := h.success
    omega
  · intro hnone
    exact ⟨htimed, by omega, hrefused, by omega⟩

end Runs

def interruptedRun : Run Incident Unit :=
  ⟨Text.ofString "vendor", .error ⟨Text.ofString "KeyboardInterrupt", [], .object []⟩⟩

/-- What interrupts a run from outside does not count as an error but as a success. -/
theorem interrupted_counts_success :
    ¬ CountsTruthfully Incident.lineage [interruptedRun] interruptedRun.document
      (trackAll Incident.lineage [interruptedRun] empty).2 := by
  intro h
  exact absurd h.error (by decide)

end Metrics
end RuleDraft
