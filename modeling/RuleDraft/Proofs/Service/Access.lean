import RuleDraft.Proofs.Service.Effects

/-!
# The guard of the counts

With a token, a request for the counts gets them for the token and is forbidden for any
other.  The comparison of tokens is made for ASCII alone: as soon as the token or what is
given for it has another character, the comparison fails, and nobody answers the failure.
-/

namespace RuleDraft
namespace Service

def Request.gives (token : Text) (r : Request) : Prop := r.header? "x-metrics-token" = some token

instance (token : Text) (r : Request) : Decidable (r.gives token) :=
  inferInstanceAs (Decidable (r.header? "x-metrics-token" = some token))

structure Request.AsksForCounts (r : Request) : Prop where
  method : r.method = Text.ofString "GET"
  path : Address.decode r.path = Text.ofString "/metrics"

/-- The exchange gives the counts for the token, and is a refusal for any other. -/
def DecidesOnToken (token : Text) (r : Request) (e : Exchange) : Prop :=
  e.escaped = none ∧
    if r.gives token then
      e.reply.status = 200 ∧
        e.reply.content = .exposition (Metrics.families.map fun line => Text.ofString line)
    else e.reply.status = 403

/-- What is compared: the token, and what a request gives for it. -/
def comparable (token : Text) (r : Request) : Bool :=
  token.all CodePoint.isAscii && ((r.header? "x-metrics-token").getD []).all CodePoint.isAscii

section Decide

variable {s : Settings} {token : Text} {r : Request}

theorem filter_token (htoken : s.metricsToken = some token) (hne : token ≠ []) :
    (s.metricsToken.filter fun t => ¬ t.isEmpty) = some token := by
  rw [htoken, Option.filter_some, if_pos]
  simpa using hne

theorem getD_eq_iff_gives (hne : token ≠ []) :
    (r.header? "x-metrics-token").getD [] = token ↔ r.gives token := by
  unfold Request.gives
  cases r.header? "x-metrics-token" with
  | none => exact ⟨fun h => absurd h.symm hne, nofun⟩
  | some given => exact ⟨congrArg some, Option.some.inj⟩

theorem decide_of_comparable (htoken : s.metricsToken = some token) (hne : token ≠ [])
    (h : comparable token r = true) :
    Access.decide s (r.header? "x-metrics-token") =
      if r.gives token then .granted else .denied := by
  have hsame : Access.sameToken? ((r.header? "x-metrics-token").getD []) token =
      some (decide ((r.header? "x-metrics-token").getD [] = token)) := by
    rw [comparable, Bool.and_comm] at h
    exact if_pos h
  rw [Access.decide, filter_token htoken hne]
  dsimp only
  rw [hsame]
  by_cases hgives : r.gives token
  · rw [if_pos hgives, decide_eq_true ((getD_eq_iff_gives hne).mpr hgives)]
  · rw [if_neg hgives, decide_eq_false fun heq => hgives ((getD_eq_iff_gives hne).mp heq)]

theorem decide_of_incomparable (htoken : s.metricsToken = some token) (hne : token ≠ [])
    (h : ¬ comparable token r = true) :
    Access.decide s (r.header? "x-metrics-token") = .incomparable := by
  have hsame : Access.sameToken? ((r.header? "x-metrics-token").getD []) token = none := by
    rw [comparable, Bool.and_comm] at h
    exact if_neg h
  rw [Access.decide, filter_token htoken hne]
  dsimp only
  rw [hsame]

end Decide

section Guard

variable {s : Settings} {token : Text} {r : Request}

theorem Request.AsksForCounts.inquiry_eq_none (hr : r.AsksForCounts) :
    Origin.inquiry? r = none := by
  rw [Origin.inquiry?, if_neg]
  rw [hr.method]
  decide

theorem exchange_unobserved_metrics (hs : s.observed = false) (hr : r.AsksForCounts)
    (ids : IdSupply) (l : Ledger) :
    (answer s ids r l).1 = exchangeOf s r (.ok (.detail 404 "Not Found")) := by
  rw [exchange_unobserved hs hr.inquiry_eq_none, hr.method, hr.path]
  rfl

theorem exchange_metrics (hs : s.observed = true) (hr : r.AsksForCounts) (ids : IdSupply)
    (l : Ledger) :
    ∃ l', (answer s ids r l).1 =
      exchangeOf s r
        (namedOutcome (contextOf s ids r) (answerMetrics (contextOf s ids r) l').1) := by
  have hresolution : r.resolution = .found .metrics [] := by
    rw [Request.resolution, hr.method, hr.path]
    rfl
  rw [exchange_observed hs hr.inquiry_eq_none, hresolution]
  exact ⟨_, rfl⟩

theorem decidesOnToken_of_comparable (hs : s.observed = true) (htoken : s.metricsToken = some token)
    (hne : token ≠ []) (hr : r.AsksForCounts)
    (h : comparable token r = true) (ids : IdSupply) (l : Ledger) :
    DecidesOnToken token r (answer s ids r l).1 := by
  rcases exchange_metrics hs hr ids l with ⟨l', hexchange⟩
  have hdecide : Access.decide (contextOf s ids r).settings
      ((contextOf s ids r).request.header? "x-metrics-token") =
        if r.gives token then .granted else .denied := decide_of_comparable htoken hne h
  rw [hexchange, answerMetrics, hdecide]
  by_cases hgives : r.gives token
  · rw [if_pos hgives]
    refine ⟨rfl, ?_⟩
    rw [if_pos hgives]
    exact ⟨rfl, rfl⟩
  · rw [if_neg hgives]
    refine ⟨rfl, ?_⟩
    rw [if_neg hgives]
    rfl

theorem exchange_of_incomparable (hs : s.observed = true) (htoken : s.metricsToken = some token)
    (hne : token ≠ []) (hr : r.AsksForCounts)
    (h : ¬ comparable token r = true) (ids : IdSupply) (l : Ledger) :
    (answer s ids r l).1 = ⟨.unexpected, some incomparableTokens⟩ := by
  rcases exchange_metrics hs hr ids l with ⟨l', hexchange⟩
  have hdecide : Access.decide (contextOf s ids r).settings
      ((contextOf s ids r).request.header? "x-metrics-token") = .incomparable :=
    decide_of_incomparable htoken hne h
  rw [hexchange, answerMetrics, hdecide]
  rfl

/--
A service with a token decides on it exactly if its requests are observed, as else there
is no way to the counts, and if both texts are ASCII, as else their comparison fails and
the failure ends in status 500.
-/
theorem decides_on_token_iff (htoken : s.metricsToken = some token) (hne : token ≠ [])
    (hr : r.AsksForCounts) (ids : IdSupply) (l : Ledger) :
    (DecidesOnToken token r (answer s ids r l).1 ↔
        s.observed = true ∧ comparable token r = true) ∧
      (s.observed = true → ¬ comparable token r = true →
        (answer s ids r l).1 = ⟨.unexpected, some incomparableTokens⟩) ∧
      (s.observed = false → (answer s ids r l).1.reply.status = 404) := by
  have hunobserved (hs : s.observed = false) : (answer s ids r l).1.reply.status = 404 := by
    rw [exchange_unobserved_metrics hs hr]
    rfl
  refine ⟨⟨?only, ?decides⟩, ?fails, hunobserved⟩
  case only =>
    rintro ⟨hescaped, hreply⟩
    have hs : s.observed = true := by
      rw [← Bool.not_eq_false]
      intro hs
      rw [hunobserved hs] at hreply
      split at hreply
      · exact absurd hreply.left (by decide)
      · exact absurd hreply (by decide)
    refine ⟨hs, ?_⟩
    by_contra hincomparable
    rw [exchange_of_incomparable hs htoken hne hr hincomparable] at hescaped
    cases hescaped
  case decides =>
    rintro ⟨hs, hcomparable⟩
    exact decidesOnToken_of_comparable hs htoken hne hr hcomparable ids l
  case fails =>
    intro hs hincomparable
    exact exchange_of_incomparable hs htoken hne hr hincomparable ids l

def guarded (token : Text) : Settings := { Settings.standard with metricsToken := some token }

def asking (given : Text) : Request :=
  ⟨"GET", "/metrics", [], [("X-Metrics-Token", given)], [], none, "r0"⟩

/-- ASCII tokens are compared. -/
theorem decides_on_token_iff_wrong :
    (guarded "s3cret").metricsToken = some (Text.ofString "s3cret") ∧
      Text.ofString "s3cret" ≠ [] ∧
      (asking "nope").AsksForCounts ∧
      DecidesOnToken "s3cret" (asking "nope")
        (answer (guarded "s3cret") (.numbered "n") (asking "nope") .empty).1 :=
  ⟨rfl, by decide, ⟨rfl, rfl⟩,
    (decides_on_token_iff rfl (by decide) ⟨rfl, rfl⟩ (.numbered "n") .empty).left.mpr
      ⟨rfl, by decide⟩⟩

/-- A wrong token that is not ASCII is not refused: it ends in status 500. -/
theorem accented_token_breaks_guard :
    (answer (guarded "s3cret") (.numbered "n") (asking "é") .empty).1.reply.status = 500 ∧
      ¬ DecidesOnToken "s3cret" (asking "é")
        (answer (guarded "s3cret") (.numbered "n") (asking "é") .empty).1 := by
  rw [exchange_of_incomparable rfl rfl (by decide) ⟨rfl, rfl⟩ (by decide)]
  refine ⟨rfl, ?_⟩
  rintro ⟨hescaped, _⟩
  cases hescaped

end Guard

end Service
end RuleDraft
