import RuleDraft.Proofs.Service.Access
import RuleDraft.Proofs.Service.Origins

/-!
# The name of a request in its reply

Observing puts the name of a request on its reply.  The layer for origins comes after it and can
put a header of its own in its place.  A failure that nobody was prepared for passes both layers:
what is answered to it outside of them does not carry the name.
-/

namespace RuleDraft
namespace Service

/-- The reply carries the name of its request once: its own, or a fresh one when it has none. -/
structure Reply.CarriesName (s : Settings) (r : Request) (reply : Reply) : Prop where
  own : ∀ name, r.header? s.requestIdHeader = some name → name ≠ [] →
    reply.headers.values s.requestIdHeader = [name]
  fresh : (∀ name, r.header? s.requestIdHeader = some name → name = []) →
    reply.headers.values s.requestIdHeader = [r.freshId]

/-- The layer for origins leaves a header with a value as it is. -/
def Origin.Leaves (s : Settings) (r : Request) (name value : Text) : Prop :=
  name ≠ Text.ofString "vary" ∧ ∀ h ∈ Origin.headersFor s r, h.1 = name → h.2 = value

section Correlation

variable {s : Settings} {r : Request} {reply : Reply} {name value : Text}

theorem carriesName_iff :
    reply.CarriesName s r ↔ reply.headers.values s.requestIdHeader = [requestIdOf s r] := by
  have hown (t : Text) (ht : r.header? s.requestIdHeader = some t) (hne : t ≠ []) :
      requestIdOf s r = t := by
    rw [requestIdOf, ht, Option.filter_some, if_pos (by simpa using hne)]
  have hfresh (h : ∀ t, r.header? s.requestIdHeader = some t → t = []) :
      requestIdOf s r = r.freshId := by
    rw [requestIdOf]
    cases ht : r.header? s.requestIdHeader with
    | none => rfl
    | some t =>
        rw [h t ht]
        rfl
  constructor
  · intro h
    by_cases hnone : ∀ t, r.header? s.requestIdHeader = some t → t = []
    · rw [hfresh hnone]
      exact h.fresh hnone
    · simp only [not_forall] at hnone
      rcases hnone with ⟨t, ht, hne⟩
      rw [hown t ht hne]
      exact h.own t ht hne
  · intro h
    refine ⟨?_, ?_⟩
    · intro t ht hne
      rw [h, hown t ht hne]
    · intro hnone
      rw [h, hfresh hnone]

/-!
# Layers
-/

theorem lowered_own (h : WritesOwn (.ok reply)) : reply.headers.Lowered := by
  have hlower : ∀ name ∈ ownNames, (Text.ofString name).lower = Text.ofString name := by decide
  intro header hheader
  rcases h reply rfl header hheader with ⟨name, hname, heq⟩
  rw [heq]
  exact hlower name hname

/-- The names of the headers that the layer for origins puts, as many as it does. -/
def layerNames : List (List Text) :=
  [[], ["access-control-allow-credentials"], ["access-control-allow-credentials", grantName]]

theorem names_headersFor (s : Settings) (r : Request) :
    (Origin.headersFor s r).map Prod.fst ∈ layerNames := by
  unfold Origin.headersFor Origin.grant
  cases r.header? "origin" with
  | none => exact List.mem_cons_self
  | some origin =>
      dsimp only
      by_cases hgranted : Origin.isGranted s origin = true
      · rw [if_pos hgranted]
        exact List.mem_cons_of_mem _ (List.mem_cons_of_mem _ List.mem_cons_self)
      · rw [if_neg hgranted]
        exact List.mem_cons_of_mem _ List.mem_cons_self

theorem nodup_headersFor (s : Settings) (r : Request) :
    ((Origin.headersFor s r).map Prod.fst).Nodup := by
  have hall : ∀ names ∈ layerNames, names.Nodup := by decide
  exact hall _ (names_headersFor s r)

theorem name_headersFor {h : Text × Text} (hh : h ∈ Origin.headersFor s r) :
    h.1.lower = h.1 ∧ h.1 ≠ Text.ofString "vary" := by
  have hall : ∀ names ∈ layerNames, ∀ n ∈ names, n.lower = n ∧ n ≠ Text.ofString "vary" := by
    decide
  exact hall _ (names_headersFor s r) _ (List.mem_map.mpr ⟨h, hh, rfl⟩)

/-- A header that is there once is left as it is exactly if the layer for origins leaves it. -/
theorem values_mark_iff (hlowered : reply.headers.Lowered) (hname : name.lower = name)
    (hvalue : reply.headers.values name = [value]) :
    (Origin.mark s r reply).headers.values name = [value] ↔ Origin.Leaves s r name value := by
  have hvary : (Text.ofString "vary").lower = Text.ofString "vary" := by decide
  have hextended : (reply.headers.extend "vary" "Origin").Lowered := hlowered.extend hvary
  have hlayer : (Origin.headersFor s r).Lowered := fun h hh => (name_headersFor hh).left
  have hlater (h : Text × Text) (hh : h ∈ Origin.headersFor s r) (heq : h.1 = name) :
      (Origin.mark s r reply).headers.values name = [h.2] := by
    rw [← heq]
    exact Headers.values_putAll_of_mem hextended hlayer (nodup_headersFor s r) hh
  have hkept (hnone : ∀ h ∈ Origin.headersFor s r, h.1 ≠ name) :
      (Origin.mark s r reply).headers.values name =
        (reply.headers.extend "vary" "Origin").values name := by
    apply Headers.values_putAll_of_ne
    intro h hh
    rw [hlayer h hh, hname]
    exact hnone h hh
  -- Every reply says that it depends on the origin, so this header never stays as it was.
  by_cases hself : name = Text.ofString "vary"
  · refine iff_of_false ?_ fun hleaves => hleaves.left hself
    rw [hkept fun h hh heq => (name_headersFor hh).right (heq.trans hself), hself,
      Headers.values_extend_self hlowered hvary (hself ▸ hvalue)]
    intro hsame
    have hlength := congrArg List.length (List.cons.inj hsame).left
    simp [Text.join, Text.ofString] at hlength
  have hne : (Text.ofString "vary").lower ≠ name.lower := by
    rw [hvary, hname]
    exact Ne.symm hself
  constructor
  · intro hmarked
    refine ⟨hself, fun h hh heq => ?_⟩
    rw [hlater h hh heq] at hmarked
    exact (List.cons.inj hmarked).left
  · intro hleaves
    by_cases hput : ∃ h ∈ Origin.headersFor s r, h.1 = name
    · rcases hput with ⟨h, hh, heq⟩
      rw [hlater h hh heq, hleaves.right h hh heq]
    · rw [hkept fun h hh heq => hput ⟨h, hh, heq⟩, Headers.values_extend_of_ne hne, hvalue]

/-!
# Replies to observed requests
-/

theorem carriesName_answered {ids : IdSupply} (hs : s.observed = true)
    (hown : WritesOwn (.ok reply)) :
    (exchangeOf s r (namedOutcome (contextOf s ids r) (.ok reply))).reply.CarriesName s r ↔
      Origin.Leaves s r s.requestIdHeader.lower (requestIdOf s r) := by
  have hid : (contextOf s ids r).requestId = requestIdOf s r := if_pos hs
  have hlower := Text.lower_lower s.requestIdHeader
  rw [carriesName_iff, ← Headers.values_lower]
  apply values_mark_iff
  · exact (lowered_own hown).put hlower
  · exact hlower
  · rw [← hid]
    exact Headers.values_put_self (lowered_own hown) hlower

/-- What is answered to an unexpected failure has no header but that for its content. -/
theorem carriesName_unexpected :
    Reply.unexpected.CarriesName s r ↔
      s.requestIdHeader.lower = Text.ofString "content-type" ∧
        requestIdOf s r = Text.ofString "application/json" := by
  have hlower : (Text.ofString "content-type").lower = Text.ofString "content-type" := by decide
  rw [carriesName_iff]
  change Headers.values _ [(Text.ofString "content-type", Text.ofString "application/json")] = _ ↔ _
  by_cases hname : s.requestIdHeader.lower = Text.ofString "content-type"
  · rw [Headers.values_cons_of_eq (hlower.trans hname.symm)]
    constructor
    · intro h
      exact ⟨hname, (List.cons.inj h).left.symm⟩
    · rintro ⟨_, hid⟩
      rw [hid]
      rfl
  · rw [Headers.values_cons_of_ne fun h => hname (h.symm.trans hlower)]
    exact iff_of_false (fun h => nomatch h) fun h => hname h.left

/--
The reply to an observed request that is no inquiry of a browser carries the name of the request
exactly if no failure escapes and the layer for origins leaves the header alone; after a failure
that escapes only if the header is that of the content and names the request what it says anyway.
-/
theorem carries_name_iff (hs : s.observed = true) (hr : Origin.inquiry? r = none) (ids : IdSupply)
    (l : Ledger) :
    ((answer s ids r l).1.escaped = none →
        ((answer s ids r l).1.reply.CarriesName s r ↔
          Origin.Leaves s r s.requestIdHeader.lower (requestIdOf s r))) ∧
      ((answer s ids r l).1.escaped ≠ none →
        (answer s ids r l).1.reply = .unexpected ∧
          ((answer s ids r l).1.reply.CarriesName s r ↔
            s.requestIdHeader.lower = Text.ofString "content-type" ∧
              requestIdOf s r = Text.ofString "application/json")) := by
  rw [exchange_observed hs hr]
  have hown := writesOwn_resolution (contextOf s ids r)
    (l.count (Metrics.requestBegan r.method)) r.resolution
  cases ho : (r.resolution.answer (contextOf s ids r)
      (l.count (Metrics.requestBegan r.method))).1 with
  | ok reply =>
      rw [ho] at hown
      exact ⟨fun _ => carriesName_answered hs hown, fun h => absurd rfl h⟩
  | error i => exact ⟨nofun, fun _ => ⟨rfl, carriesName_unexpected⟩⟩

end Correlation

theorem leaves_unput {s : Settings} {r : Request} {name value : Text}
    (hvary : name ≠ Text.ofString "vary") (hname : ∀ names ∈ layerNames, name ∉ names) :
    Origin.Leaves s r name value := by
  refine ⟨hvary, fun h hh heq => ?_⟩
  have hmem : h.1 ∈ (Origin.headersFor s r).map Prod.fst := List.mem_map.mpr ⟨h, hh, rfl⟩
  exact absurd (heq ▸ hmem) (hname _ (names_headersFor s r))

/-- The reply about the health of the service carries the name that its request gives itself. -/
theorem carries_name_iff_health :
    Settings.standard.observed = true ∧
      Origin.inquiry? (localRequest [("X-Request-ID", "abc")]) = none ∧
      (answer .standard (.numbered "n") (localRequest [("X-Request-ID", "abc")])
        .empty).1.escaped = none ∧
      Reply.CarriesName .standard (localRequest [("X-Request-ID", "abc")])
        (answer .standard (.numbered "n") (localRequest [("X-Request-ID", "abc")])
          .empty).1.reply :=
  ⟨rfl, rfl, rfl, ((carries_name_iff rfl rfl (.numbered "n") .empty).left rfl).mpr
    (leaves_unput (by decide) (by decide))⟩

/-- The answer to a failed comparison of tokens does not carry the name of its request. -/
theorem unexpected_reply_unnamed :
    (guarded "s3cret").observed = true ∧ Origin.inquiry? (asking "é") = none ∧
      ¬ (answer (guarded "s3cret") (.numbered "n") (asking "é") .empty).1.reply.CarriesName
        (guarded "s3cret") (asking "é") := by
  refine ⟨rfl, rfl, ?_⟩
  rw [exchange_of_incomparable rfl rfl (by decide) ⟨rfl, rfl⟩ (by decide), carriesName_unexpected]
  rintro ⟨hname, _⟩
  exact absurd hname (by decide)

end Service
end RuleDraft
