import RuleDraft.CommandLine
import RuleDraft.Proofs.Document.StrictOutcomes
import RuleDraft.Proofs.Document.Supplies
import RuleDraft.Service

/-!
# Endings and replies

A run of the command and a reply of the service end alike if both write the same document, both
miss a validation, both refuse the form, or both meet a failure that nobody was prepared for.  A
generation alone decides which of these it is, and both of them end as the generation does.
-/

namespace RuleDraft

open CommandLine Service

def Service.Reply.Tells (status : Nat) (family : String) (reply : Reply) : Prop :=
  reply.status = status ∧
    ∃ v, reply.content = .data v ∧
      v.field? (Text.ofString "error") = some (.text (Text.ofString family))

structure EndAlike (finish : Finish) (reply : Reply) : Prop where
  written : finish.ending = .exit 0 ↔ reply.status = 200
  content : finish.ending = .exit 0 → ∃ v t, reply.content = .data v ∧
    v.field? (Text.ofString "content") = some (.text t) ∧
      finish.output = t ++ [CodePoint.ofChar '\n']
  missing : finish.ending = .exit 2 ↔ reply.Tells 422 "MissingValidationError"
  refused : finish.ending = .exit 1 ↔
    reply.Tells 422 "RequestValidationError" ∨ reply.Tells 400 "ValidationError"
  escaped : (∃ i, finish.ending = .escaped i) ↔ reply.status = 500

/-!
# The four ways to end
-/

section Ways

variable {finish : Finish} {reply : Reply}

/-- A reply tells of one family at most. -/
theorem Service.Reply.Tells.family_eq {status status' : Nat} {family family' : String}
    (h : reply.Tells status family) (h' : reply.Tells status' family') : family = family' := by
  rcases h with ⟨_, v, hv, hfamily⟩
  rcases h' with ⟨_, w, hw, hfamily'⟩
  rw [hv] at hw
  cases hw
  rw [hfamily] at hfamily'
  exact Text.ofString_inj (Value.text.inj (Option.some.inj hfamily'))

theorem Service.Reply.not_tells {n status : Nat} (hstatus : reply.status = n) (hne : n ≠ status)
    (family : String) : ¬ reply.Tells status family :=
  fun h => hne (hstatus.symm.trans h.left)

theorem endAlike_written {v : Value} {t : Text} (hending : finish.ending = .exit 0)
    (houtput : finish.output = t ++ [CodePoint.ofChar '\n']) (hstatus : reply.status = 200)
    (hcontent : reply.content = .data v)
    (htext : v.field? (Text.ofString "content") = some (.text t)) : EndAlike finish reply := by
  refine ⟨iff_of_true hending hstatus, fun _ => ⟨v, t, hcontent, htext, houtput⟩, ?_, ?_, ?_⟩
  · exact iff_of_false (by rw [hending]; decide) (Reply.not_tells hstatus (by decide) _)
  · refine iff_of_false (by rw [hending]; decide) (not_or.mpr ⟨?_, ?_⟩)
    · exact Reply.not_tells hstatus (by decide) _
    · exact Reply.not_tells hstatus (by decide) _
  · exact iff_of_false (by rw [hending]; rintro ⟨i, ⟨⟩⟩) (by rw [hstatus]; decide)

theorem endAlike_missing (hending : finish.ending = .exit 2)
    (htells : reply.Tells 422 "MissingValidationError") : EndAlike finish reply := by
  have hstatus := htells.left
  refine ⟨?_, fun h => ?_, iff_of_true hending htells, ?_, ?_⟩
  · exact iff_of_false (by rw [hending]; decide) (by rw [hstatus]; decide)
  · rw [hending] at h
    cases h
  · refine iff_of_false (by rw [hending]; decide) ?_
    rintro (h | h)
    · exact absurd (htells.family_eq h) (by decide)
    · exact absurd (htells.family_eq h) (by decide)
  · exact iff_of_false (by rw [hending]; rintro ⟨i, ⟨⟩⟩) (by rw [hstatus]; decide)

theorem endAlike_refused (hending : finish.ending = .exit 1)
    (htells : reply.Tells 422 "RequestValidationError" ∨ reply.Tells 400 "ValidationError") :
    EndAlike finish reply := by
  have hstatus : reply.status = 422 ∨ reply.status = 400 := htells.imp And.left And.left
  refine ⟨?_, fun h => ?_, ?_, iff_of_true hending htells, ?_⟩
  · exact iff_of_false (by rw [hending]; decide)
      (by rcases hstatus with h | h <;> rw [h] <;> decide)
  · rw [hending] at h
    cases h
  · refine iff_of_false (by rw [hending]; decide) fun h => ?_
    rcases htells with htells | htells
    · exact absurd (htells.family_eq h) (by decide)
    · exact absurd (htells.family_eq h) (by decide)
  · exact iff_of_false (by rw [hending]; rintro ⟨i, ⟨⟩⟩)
      (by rcases hstatus with h | h <;> rw [h] <;> decide)

theorem endAlike_escaped {i : Incident} (hending : finish.ending = .escaped i)
    (hstatus : reply.status = 500) : EndAlike finish reply := by
  refine ⟨?_, fun h => ?_, ?_, ?_, iff_of_true ⟨i, hending⟩ hstatus⟩
  · exact iff_of_false (by rw [hending]; nofun) (by rw [hstatus]; decide)
  · rw [hending] at h
    cases h
  · exact iff_of_false (by rw [hending]; nofun) (Reply.not_tells hstatus (by decide) _)
  · refine iff_of_false (by rw [hending]; nofun) (not_or.mpr ⟨?_, ?_⟩)
    · exact Reply.not_tells hstatus (by decide) _
    · exact Reply.not_tells hstatus (by decide) _

end Ways

/-!
# How a generation fails
-/

/-- The failures of a generation: a missing validation, values that do not fit, or a fault. -/
inductive StopsGeneration : Failure → Prop
  | missing : StopsGeneration (.refused .noValidation)
  | unfit (found : List Mismatch) : StopsGeneration (.refused (.unfitConditions found))
  | broken (f : Fault) : StopsGeneration (.broken f)

section Failures

variable {ν : Type} {e : Failure}

theorem Gate.stops_check {lists : List (Text × List (Group ν))} (h : check lists = .error e) :
    StopsGeneration e := by
  rcases Gate.check_cases lists with hok | ⟨found, hfound⟩ | ⟨f, hf⟩
  · rw [hok] at h
    cases h
  · rw [hfound] at h
    cases h
    exact .unfit found
  · rw [hf] at h
    cases h
    exact .broken f

theorem VendorForm.stops_generate {f : VendorForm} {strict : Bool}
    (h : f.generate strict = .error e) : StopsGeneration e := by
  rw [generate_eq] at h
  cases strict with
  | false => cases h
  | true =>
      rcases bind_eq_error.mp h with hgate | ⟨_, _, hrest⟩
      · exact Gate.stops_check hgate
      · cases hrest

theorem ConfigForm.stops_generate {f : ConfigForm} {strict : Bool}
    (h : f.generate strict = .error e) : StopsGeneration e := by
  rw [generate_eq] at h
  split_ifs at h
  · cases h
    exact .missing
  · rcases bind_eq_error.mp h with hgate | ⟨_, _, hrest⟩
    · exact Gate.stops_check hgate
    · cases hrest

end Failures

/-!
# One generation, two endings
-/

/-- How a run of the command ends that shows what comes of a generation. -/
def CommandLine.finishOf (s : Settings) (g : Generation) : Finish :=
  match contentOf s g with
  | .error closing => ⟨closing.ending, [], closing.errors⟩
  | .ok (content, warnings) => ⟨.exit 0, content ++ [CodePoint.ofChar '\n'], warnings⟩

/-- The reply to an outcome before the layers put headers on it. -/
def Service.Outcome.reply : Outcome → Reply
  | .ok reply => reply
  | .error _ => .unexpected

theorem tells_failure (status : Nat) (family : String) (message : Text) (details : Value) :
    (Reply.failure status family message details).Tells status family := by
  refine ⟨rfl, _, rfl, ?_⟩
  simp only [Value.record, List.map_cons, writable, writableFields, Value.field?, Keyed.get?,
    if_true]

/-- Generations with one result end alike. -/
theorem endAlike_generation {s : Settings} {g g' : Generation} (hresult : g.result = g'.result)
    (hstops : ∀ e, g.result = .error e → StopsGeneration e) {c : Context} (hc : c.settings = s)
    (l : Ledger) : EndAlike (finishOf s g) (Outcome.reply (answerGeneration c g' l).1) := by
  unfold finishOf contentOf answerGeneration
  rw [← hresult]
  cases hg : g.result with
  | ok v =>
      subst hc
      refine endAlike_written (t := (Rendering.ofValue c.settings.indent v).content)
        rfl rfl rfl rfl ?_
      simp only [Value.record, List.map_cons, writable, writableFields, Value.field?, Keyed.get?,
        if_true]
      rw [if_neg (by decide)]
  | error e =>
      cases hstops e hg with
      | missing => exact endAlike_missing rfl (tells_failure _ _ _ _)
      | unfit found => exact endAlike_refused rfl (Or.inr (tells_failure _ _ _ _))
      | broken f => exact endAlike_escaped rfl rfl

def Generation.GivesDocument (g : Generation) : Prop := ∃ v, g.result = .ok v

theorem ending_finishOf (s : Settings) (g : Generation) :
    (finishOf s g).ending = .exit 0 ↔ g.GivesDocument := by
  unfold finishOf contentOf Generation.GivesDocument
  cases g.result with
  | ok v => exact iff_of_true rfl ⟨v, rfl⟩
  | error e =>
      refine iff_of_false ?_ nofun
      cases e with
      | refused r =>
          dsimp only
          unfold refused
          split_ifs <;> nofun
      | _ => nofun

/-- Where only failures tell results apart, generations end alike exactly if their results do. -/
theorem endAlike_generation_iff {s : Settings} {g g' : Generation}
    (hstops : ∀ e, g'.result = .error e → StopsGeneration e)
    (hresult : (g.GivesDocument ↔ g'.GivesDocument) → g.result = g'.result) {c : Context}
    (hc : c.settings = s) (l : Ledger) :
    EndAlike (finishOf s g) (Outcome.reply (answerGeneration c g' l).1) ↔
      g.result = g'.result := by
  constructor
  · intro h
    have h' := endAlike_generation (g := g') rfl hstops hc l
    refine hresult ?_
    rw [← ending_finishOf s g, ← ending_finishOf s g']
    exact h.written.trans h'.written.symm
  · intro heq
    exact endAlike_generation heq (heq ▸ hstops) hc l

end RuleDraft
