import RuleDraft.Proofs.Service.Gains

/-!
# The accounts of a run

An observed service starts with no counts and answers requests one after the other.  Each
request adds what its exchange says, whatever was counted before, so the counts at the end
are those of the history: how many requests of which method and route ended with which
status, how many of them failed, and how the accepted generations ended.
-/

namespace RuleDraft
namespace Service

/-- A request, with the ids that are fresh when it comes. -/
structure Visit where
  ids : IdSupply
  request : Request

/-- Answer visits in order: every visit with its exchange, and the ledger at the end. -/
def serve (s : Settings) : List Visit → Ledger → List (Visit × Exchange) × Ledger
  | [], l => ([], l)
  | v :: vs, l =>
      let first := answer s v.ids v.request l
      let rest := serve s vs first.2
      ((v, first.1) :: rest.1, rest.2)

/-- The visit is more than an inquiry of a browser in advance. -/
def Visit.counts (v : Visit) : Bool := (Origin.inquiry? v.request).isNone

/-- The visit asks for the document of a kind of form, and its body and query are accepted. -/
def Visit.asksFor (kind : DocumentKind) (v : Visit) : Bool :=
  v.counts &&
    match kind, v.request.resolution with
    | .vendor, .found .vendor _ =>
        (readStrictRequest VendorForm.intake v.request v.ids).toBool
    | .config, .found .config _ =>
        (readStrictRequest ConfigForm.intake v.request v.ids).toBool
    | _, _ => false

/-!
# One visit
-/

def visitIncrements (s : Settings) (x : Visit × Exchange) : Increments :=
  if x.1.counts then requestIncrements s x.1.ids x.1.request x.2 else []

theorem Visit.counts_iff {v : Visit} : v.counts = true ↔ Origin.inquiry? v.request = none :=
  Option.isNone_iff_eq_none

theorem works_visit {s : Settings} (hs : s.observed = true) (v : Visit) :
    ∃ e, Works (answer s v.ids v.request) e (visitIncrements s (v, e)) := by
  by_cases hcounts : v.counts = true
  · simp only [visitIncrements, if_pos hcounts]
    exact works_answer hs v.ids (Visit.counts_iff.mp hcounts)
  · simp only [visitIncrements, if_neg hcounts]
    exact works_inquiry v.ids fun hnone => hcounts (Visit.counts_iff.mpr hnone)

theorem escaped_answer {s : Settings} {ids : IdSupply} {r : Request} {l : Ledger}
    (h : (answer s ids r l).1.escaped ≠ none) :
    Origin.inquiry? r = none ∧ (answer s ids r l).1.reply = .unexpected := by
  cases hinquiry : Origin.inquiry? r with
  | some asked =>
      unfold answer at h
      rw [hinquiry] at h
      exact absurd rfl h
  | none =>
      refine ⟨rfl, ?_⟩
      rw [answer_eq hinquiry] at h ⊢
      dsimp only at h ⊢
      cases hinside : (answerInside (contextOf s ids r) l).1 with
      | error i => rfl
      | ok reply =>
          rw [hinside] at h
          exact absurd rfl h

/-!
# A run
-/

theorem metrics_serve {s : Settings} (hs : s.observed = true) (vs : List Visit) (l : Ledger) :
    (serve s vs l).2.metrics =
      l.metrics.addAll ((serve s vs l).1.flatMap (visitIncrements s)) := by
  induction vs generalizing l with
  | nil => rfl
  | cons v vs ih =>
      rcases works_visit hs v with ⟨e, hwork⟩
      rw [serve]
      dsimp only
      rw [ih, hwork.metrics, hwork.fst, List.flatMap_cons, Metrics.addAll_append]

theorem mem_serve {s : Settings} {vs : List Visit} {l : Ledger} {x : Visit × Exchange}
    (h : x ∈ (serve s vs l).1) : ∃ l', (answer s x.1.ids x.1.request l').1 = x.2 := by
  induction vs generalizing l with
  | nil => cases h
  | cons v vs ih =>
      rw [serve] at h
      rcases List.mem_cons.mp h with rfl | hrest
      · exact ⟨l, rfl⟩
      · exact ih hrest

theorem map_fst_serve (s : Settings) (vs : List Visit) (l : Ledger) :
    (serve s vs l).1.map Prod.fst = vs := by
  induction vs generalizing l with
  | nil => rfl
  | cons v vs ih =>
      rw [serve]
      dsimp only
      rw [List.map_cons, ih]

/-!
# What one visit gains
-/

section Gains

variable {s : Settings} {p : Series → Bool} {x : Visit × Exchange}

theorem gain_inquiry (hx : ¬ x.1.counts = true) : gain p (visitIncrements s x) = 0 := by
  unfold visitIncrements
  rw [if_neg hx]
  rfl

/-- Series of requests gain nothing from the endpoints, and what is in progress comes to an end. -/
theorem gain_request (hp : ∀ t, p t = true → t.name ∉ generationNames) :
    gain p (visitIncrements s x) =
      (if x.1.counts && p (requestSeries x.1.request x.2) then 1 else 0) +
        (if x.1.counts && p (durationSeries x.1.request) then 1 else 0) +
        (if x.1.counts && x.2.escaped.any fun i => p (errorSeries x.1.request i) then 1
          else 0) := by
  by_cases hx : x.1.counts = true
  · have hwork :
        gain p (x.1.request.resolution.increments (contextOf s x.1.ids x.1.request)) = 0 := by
      apply gain_eq_zero
      intro i hi
      rw [Bool.eq_false_iff]
      exact fun hpi => hp _ hpi (name_mem_increments hi)
    have hprogress : (if p (progressSeries x.1.request) then (1 : Int) else 0) +
        (if p (progressSeries x.1.request) then (-1 : Int) else 0) = 0 := by
      cases p (progressSeries x.1.request) <;> rfl
    have herrors :
        gain p (x.2.escaped.map fun i => (errorSeries x.1.request i, (1 : Int))).toList =
          if x.2.escaped.any fun i => p (errorSeries x.1.request i) then 1 else 0 := by
      cases x.2.escaped with
      | none => rfl
      | some i => simp
    unfold visitIncrements requestIncrements endIncrements
    simp only [hx, if_true, Bool.true_and, gain_append, gain_cons, gain_nil, hwork, herrors]
    omega
  · rw [gain_inquiry hx, Bool.eq_false_iff.mpr hx]
    rfl

/-- Series of generations gain nothing from the layers. -/
theorem gain_work (hp : ∀ t, p t = true → t.name ∈ generationNames) :
    gain p (visitIncrements s x) =
      if x.1.counts then
        gain p (x.1.request.resolution.increments (contextOf s x.1.ids x.1.request))
      else 0 := by
  by_cases hx : x.1.counts = true
  · have hother (t : Series) (ht : t.name ∉ generationNames) : p t = false :=
      Bool.eq_false_iff.mpr fun hpt => ht (hp t hpt)
    have hprogress := hother (progressSeries x.1.request)
      (by decide : "http_requests_in_progress" ∉ generationNames)
    have hrequest := hother (requestSeries x.1.request x.2)
      (by decide : "http_requests_total" ∉ generationNames)
    have hduration := hother (durationSeries x.1.request)
      (by decide : "http_request_duration_seconds_count" ∉ generationNames)
    have herrors :
        gain p (x.2.escaped.map fun i => (errorSeries x.1.request i, (1 : Int))).toList = 0 := by
      apply gain_eq_zero
      intro i hi
      rcases Option.map_eq_some_iff.mp (Option.mem_toList.mp hi) with ⟨incident, _, rfl⟩
      exact hother (errorSeries x.1.request incident)
        (by decide : "http_errors_total" ∉ generationNames)
    unfold visitIncrements requestIncrements endIncrements
    rw [if_pos hx, if_pos hx]
    simp [hprogress, hrequest, hduration, herrors]
  · rw [if_neg hx, gain_inquiry hx]

/-!
The names of the series of requests differ, so of the parts of a gain at most one is left.
-/

theorem eq_false_of_name {name : String} (hp : ∀ t, p t = true → t.name = name) (t : Series)
    (ht : t.name ≠ name) : p t = false :=
  Bool.eq_false_iff.mpr fun hpt => ht (hp t hpt)

theorem gain_answered (hp : ∀ t, p t = true → t.name = "http_requests_total") :
    gain p (visitIncrements s x) =
      if x.1.counts && p (requestSeries x.1.request x.2) then 1 else 0 := by
  have hother := eq_false_of_name hp
  rw [gain_request]
  · simp [hother (durationSeries _) (by decide : "http_request_duration_seconds_count" ≠ _),
      fun i => hother (errorSeries x.1.request i) (by decide : "http_errors_total" ≠ _)]
  · intro t ht
    rw [hp t ht]
    decide

theorem gain_timed (hp : ∀ t, p t = true → t.name = "http_request_duration_seconds_count") :
    gain p (visitIncrements s x) =
      if x.1.counts && p (durationSeries x.1.request) then 1 else 0 := by
  have hother := eq_false_of_name hp
  rw [gain_request]
  · simp [hother (requestSeries _ _) (by decide : "http_requests_total" ≠ _),
      fun i => hother (errorSeries x.1.request i) (by decide : "http_errors_total" ≠ _)]
  · intro t ht
    rw [hp t ht]
    decide

theorem gain_failed (hp : ∀ t, p t = true → t.name = "http_errors_total") :
    gain p (visitIncrements s x) =
      if x.1.counts && x.2.escaped.any fun i => p (errorSeries x.1.request i) then 1 else 0 := by
  have hother := eq_false_of_name hp
  rw [gain_request]
  · simp [hother (requestSeries _ _) (by decide : "http_requests_total" ≠ _),
      hother (durationSeries _) (by decide : "http_request_duration_seconds_count" ≠ _)]
  · intro t ht
    rw [hp t ht]
    decide

theorem gain_progress (hp : ∀ t, p t = true → t.name = "http_requests_in_progress") :
    gain p (visitIncrements s x) = 0 := by
  have hother := eq_false_of_name hp
  rw [gain_request]
  · simp [hother (requestSeries _ _) (by decide : "http_requests_total" ≠ _),
      hother (durationSeries _) (by decide : "http_request_duration_seconds_count" ≠ _),
      fun i => hother (errorSeries x.1.request i) (by decide : "http_errors_total" ≠ _)]
  · intro t ht
    rw [hp t ht]
    decide

end Gains

/-!
# What the generation of a visit gains
-/

theorem asksFor_eq (s : Settings) (kind : DocumentKind) (v : Visit) :
    v.asksFor kind = (v.counts &&
      (v.request.resolution.generation? (contextOf s v.ids v.request)).any
        fun g => decide (g.kind = kind)) := by
  have hany {α : Type} (made : Except Rejection α) (make : α → Generation) (k : DocumentKind)
      (hmake : ∀ a, (make a).kind = k) :
      (made.toOption.map make).any (fun g => decide (g.kind = kind)) =
        (decide (k = kind) && made.toBool) := by
    cases made with
    | error e => simp [Except.toOption, Except.toBool]
    | ok a => simp [Except.toOption, Except.toBool, hmake]
  unfold Visit.asksFor
  congr 1
  cases v.request.resolution with
  | found e argument =>
      cases e
      case vendor =>
        refine Eq.trans ?_ (hany _ _ .vendor fun _ => rfl).symm
        cases kind <;> rfl
      case config =>
        refine Eq.trans ?_ (hany _ _ .config fun _ => rfl).symm
        cases kind <;> rfl
      all_goals cases kind <;> rfl
  | wrongMethod e => cases kind <;> rfl
  | moved path => cases kind <;> rfl
  | unknown => cases kind <;> rfl

section Asked

variable {s : Settings} {kind : DocumentKind} {x : Visit × Exchange}

theorem gain_asked :
    gain (endsOf kind) (visitIncrements s x) = if x.1.asksFor kind then 1 else 0 := by
  rw [gain_work, asksFor_eq s]
  · unfold Resolution.increments
    cases x.1.request.resolution.generation? (contextOf s x.1.ids x.1.request) with
    | none => simp
    | some g => cases x.1.counts <;> simp [gain_endsOf]
  · intro t ht
    rw [endsOf, Bool.and_eq_true, decide_eq_true_eq] at ht
    rw [ht.left]
    decide

theorem gain_sizes :
    gain (fun t => decide (t = endSeries kind .success)) (visitIncrements s x) =
      gain (fun t => decide (t = sizeSeries kind)) (visitIncrements s x) := by
  rw [gain_work, gain_work]
  · unfold Resolution.increments
    cases x.1.request.resolution.generation? (contextOf s x.1.ids x.1.request) with
    | none => rfl
    | some g => rw [Option.map_some, Option.getD_some, gain_success]
  · intro t ht
    rw [of_decide_eq_true ht]
    exact (by decide : "dsl_document_bytes_count" ∈ generationNames)
  · intro t ht
    rw [of_decide_eq_true ht]
    exact (by decide : "dsl_generations_total" ∈ generationNames)

end Asked

/-!
# The accounts
-/

/-- What the counts say about the history of a run. -/
structure Accounts (history : List (Visit × Exchange)) (m : Metrics) : Prop where
  requests : m.total (fun t => t.name = "http_requests_total") =
    history.countP fun x => x.1.counts
  requestsOf : ∀ labels, m.value ⟨"http_requests_total", labels⟩ =
    history.countP fun x =>
      x.1.counts && requestSeries x.1.request x.2 = ⟨"http_requests_total", labels⟩
  durations : m.total (fun t => t.name = "http_request_duration_seconds_count") =
    history.countP fun x => x.1.counts
  durationsOf : ∀ labels, m.value ⟨"http_request_duration_seconds_count", labels⟩ =
    history.countP fun x =>
      x.1.counts &&
        durationSeries x.1.request = ⟨"http_request_duration_seconds_count", labels⟩
  errors : m.total (fun t => t.name = "http_errors_total") =
    history.countP fun x => x.2.escaped.isSome
  errorsOf : ∀ labels, m.value ⟨"http_errors_total", labels⟩ =
    history.countP fun x =>
      x.2.escaped.any fun i => errorSeries x.1.request i = ⟨"http_errors_total", labels⟩
  idle : ∀ labels, m.value ⟨"http_requests_in_progress", labels⟩ = 0
  sizes : ∀ kind, m.value (sizeSeries kind) = m.value (endSeries kind .success)
  generations : ∀ kind, m.total (endsOf kind) = history.countP fun x => x.1.asksFor kind

section Run

variable {s : Settings} {vs : List Visit} {x : Visit × Exchange}

theorem total_serve (hs : s.observed = true) (p : Series → Bool) {one : Visit × Exchange → Bool}
    (h : ∀ x ∈ (serve s vs .empty).1, gain p (visitIncrements s x) = if one x then 1 else 0) :
    (serve s vs .empty).2.metrics.total p = (serve s vs .empty).1.countP one := by
  rw [metrics_serve hs, Metrics.total_addAll, gain_flatMap h]
  exact zero_add _

theorem value_serve (hs : s.observed = true) (t : Series) {one : Visit × Exchange → Bool}
    (h : ∀ x ∈ (serve s vs .empty).1,
      gain (fun u => decide (u = t)) (visitIncrements s x) = if one x then 1 else 0) :
    (serve s vs .empty).2.metrics.value t = (serve s vs .empty).1.countP one := by
  rw [metrics_serve hs, Metrics.value_addAll, gain_flatMap h]
  exact zero_add _

theorem counts_of_escaped (h : x ∈ (serve s vs .empty).1) (he : x.2.escaped ≠ none) :
    x.1.counts = true ∧ x.2.reply = .unexpected := by
  rcases mem_serve h with ⟨l, hl⟩
  rw [← hl] at he ⊢
  rcases escaped_answer he with ⟨hinquiry, hreply⟩
  exact ⟨Visit.counts_iff.mpr hinquiry, hreply⟩

theorem counts_and_escaped (h : x ∈ (serve s vs .empty).1) (q : Incident → Bool) :
    (x.1.counts && x.2.escaped.any q) = x.2.escaped.any q := by
  cases he : x.2.escaped with
  | none => exact Bool.and_false _
  | some i =>
      have hne : x.2.escaped ≠ none := by
        rw [he]
        exact Option.some_ne_none i
      rw [(counts_of_escaped h hne).left, Bool.true_and]

theorem name_of_eq {name : String} {labels : List (String × Text)} (t : Series)
    (h : decide (t = ⟨name, labels⟩) = true) : t.name = name :=
  congrArg Series.name (of_decide_eq_true h)

theorem accounts_serve (hs : s.observed = true) (vs : List Visit) :
    Accounts (serve s vs .empty).1 (serve s vs .empty).2.metrics where
  requests := by
    refine total_serve hs _ fun x _ => ?_
    rw [gain_answered fun t ht => of_decide_eq_true ht]
    simp [requestSeries]
  requestsOf labels := value_serve hs _ fun x _ => gain_answered name_of_eq
  durations := by
    refine total_serve hs _ fun x _ => ?_
    rw [gain_timed fun t ht => of_decide_eq_true ht]
    simp [durationSeries]
  durationsOf labels := value_serve hs _ fun x _ => gain_timed name_of_eq
  errors := by
    refine total_serve hs _ fun x hx => ?_
    rw [gain_failed fun t ht => of_decide_eq_true ht, counts_and_escaped hx]
    cases x.2.escaped <;> rfl
  errorsOf labels := by
    refine value_serve hs _ fun x hx => ?_
    rw [gain_failed name_of_eq, counts_and_escaped hx]
  idle labels := by
    have hnever : ∀ is, gain (fun _ => false) is = 0 := fun _ => gain_eq_zero fun _ _ => rfl
    rw [metrics_serve hs, Metrics.value_addAll, gain_flatMap_congr, hnever]
    · rfl
    · intro x _
      rw [gain_progress name_of_eq, hnever]
  sizes kind := by
    rw [metrics_serve hs, Metrics.value_addAll, Metrics.value_addAll,
      gain_flatMap_congr fun x _ => gain_sizes.symm]
    rfl
  generations kind := total_serve hs _ fun x _ => gain_asked

end Run

theorem mem_all (e : Endpoint) : e ∈ Endpoint.all true := by
  cases e <;> decide

/-- The label of a route is the template of an endpoint, or says that there is none. -/
theorem label_cases (r : Resolution) :
    r.label = "unmatched" ∨ ∃ e ∈ Endpoint.all true, r.label = e.template := by
  cases r with
  | found e argument => exact .inr ⟨e, mem_all e, rfl⟩
  | wrongMethod e => exact .inr ⟨e, mem_all e, rfl⟩
  | moved path => exact .inl rfl
  | unknown => exact .inl rfl

/--
An observed service that starts with no counts keeps account of the requests it answers,
however they end: every request other than an inquiry of a browser is counted once, under
its method, the label of its route and the status of its reply, and timed once; failures that
no handler answers are counted once each, and are answered with status 500; nothing stays
in progress; and of every kind of document, as many generations are counted as were asked
for in good form, and as many sizes as generations succeeded.
-/
theorem requests_accounted {s : Settings} (hs : s.observed = true) (vs : List Visit) :
    (serve s vs .empty).1.map Prod.fst = vs ∧
      (∀ x ∈ (serve s vs .empty).1,
        (x.1.request.resolution.label = "unmatched" ∨
          ∃ e ∈ Endpoint.all true, x.1.request.resolution.label = e.template) ∧
        (x.2.escaped ≠ none → x.1.counts = true ∧ x.2.reply.status = 500)) ∧
      Accounts (serve s vs .empty).1 (serve s vs .empty).2.metrics := by
  refine ⟨map_fst_serve s vs .empty, ?_, accounts_serve hs vs⟩
  intro x hx
  refine ⟨label_cases _, ?_⟩
  intro hescaped
  rcases counts_of_escaped hx hescaped with ⟨hcounts, hreply⟩
  refine ⟨hcounts, ?_⟩
  rw [hreply]
  rfl

def healthVisit : Visit := ⟨.numbered "n", ⟨"GET", "/api/v1/health", [], [], [], none, "r0"⟩⟩

def healthInquiry : Visit :=
  ⟨.numbered "n", ⟨"OPTIONS", "/api/v1/health", [],
    [("origin", "http://localhost:3000"), ("access-control-request-method", "GET")],
    [], none, "r1"⟩⟩

/-- Of a request and an inquiry, the request alone is counted. -/
theorem requests_accounted_health :
    Settings.standard.observed = true ∧
      (serve .standard [healthInquiry, healthVisit] .empty).2.metrics.total
        (fun t => t.name = "http_requests_total") = 1 := by
  refine ⟨rfl, ?_⟩
  rw [(requests_accounted rfl _).right.right.requests]
  rfl

end Service
end RuleDraft
