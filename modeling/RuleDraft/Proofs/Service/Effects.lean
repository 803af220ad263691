import RuleDraft.Proofs.Counts
import RuleDraft.Proofs.Outcome
import RuleDraft.Service

/-!
# What an answer does to the ledger

No layer looks at the counts or at the log.  So an answer is the same from every ledger,
adds the same increments to the counts, and puts the same entries behind the log.  Inside
of the layers only a generation counts anything.
-/

namespace RuleDraft
namespace Service

/--
From every ledger the work ends with the outcome, adds the increments to the counts, and
writes the same entries.
-/
def Works {α : Type} (f : Ledger → α × Ledger) (outcome : α) (increments : Increments) : Prop :=
  ∃ entries, ∀ l, f l = (outcome, ⟨l.metrics.addAll increments, l.log ++ entries⟩)

section Works

variable {α β : Type} {f : Ledger → α × Ledger} {outcome : α} {is js : Increments}

theorem works_done (outcome : α) : Works (fun l => (outcome, l)) outcome [] := by
  refine ⟨[], ?_⟩
  intro l
  rw [List.append_nil]
  rfl

theorem works_write (outcome : α) (entries : List Log.Entry) :
    Works (fun l => (outcome, l.write entries)) outcome [] :=
  ⟨entries, fun _ => rfl⟩

theorem works_count (outcome : α) (is : Increments) :
    Works (fun l => (outcome, l.count (Metrics.addAll is))) outcome is := by
  refine ⟨[], ?_⟩
  intro l
  rw [List.append_nil]
  rfl

theorem Works.write (h : Works f outcome is) (entries : List Log.Entry) :
    Works (fun l => f (l.write entries)) outcome is := by
  rcases h with ⟨more, hf⟩
  refine ⟨entries ++ more, ?_⟩
  intro l
  dsimp only
  rw [hf, ← List.append_assoc]
  rfl

theorem Works.count (h : Works f outcome is) (js : Increments) :
    Works (fun l => f (l.count (Metrics.addAll js))) outcome (js ++ is) := by
  rcases h with ⟨entries, hf⟩
  refine ⟨entries, ?_⟩
  intro l
  dsimp only
  rw [hf, Metrics.addAll_append]
  rfl

theorem Works.bind (h : Works f outcome is) {g : α → Ledger → β × Ledger} {result : β}
    (hg : Works (g outcome) result js) :
    Works (fun l => g (f l).1 (f l).2) result (is ++ js) := by
  rcases h with ⟨entries, hf⟩
  rcases hg with ⟨more, hmore⟩
  refine ⟨entries ++ more, ?_⟩
  intro l
  dsimp only
  rw [hf, hmore, Metrics.addAll_append, ← List.append_assoc]

theorem Works.fst (h : Works f outcome is) (l : Ledger) : (f l).1 = outcome := by
  rcases h with ⟨entries, hf⟩
  rw [hf]

theorem Works.metrics (h : Works f outcome is) (l : Ledger) :
    (f l).2.metrics = l.metrics.addAll is := by
  rcases h with ⟨entries, hf⟩
  rw [hf]

end Works

/-!
# Work that counts nothing
-/

def CountsNothing {α : Type} (f : Ledger → α × Ledger) : Prop := ∃ outcome, Works f outcome []

section Quiet

variable (c : Context)

theorem countsNothing_done (outcome : Outcome) : CountsNothing fun l => (outcome, l) :=
  ⟨outcome, works_done outcome⟩

theorem countsNothing_refuse (r : Refusal) : CountsNothing (c.refuse r) :=
  ⟨_, works_write _ _⟩

theorem countsNothing_fail (f : Failure) : CountsNothing (c.fail f) := by
  cases f with
  | refused r => exact countsNothing_refuse c r
  | unreadable title issues => exact countsNothing_done _
  | broken fault => exact countsNothing_done _

theorem countsNothing_reject (r : Rejection) : CountsNothing (c.reject r) := by
  cases r with
  | undecodable => exact countsNothing_done _
  | issues found => exact ⟨_, works_write _ _⟩

theorem works_deny (status : Nat) (message : Text) :
    Works (c.deny status message)
      (.ok (.failure status "HTTPException" message (.object []))) [] := by
  unfold Context.deny
  by_cases hstatus : 500 ≤ status
  · simp only [if_pos hstatus]
    exact works_write _ _
  · simp only [if_neg hstatus]
    exact works_done _

theorem countsNothing_metrics : CountsNothing (answerMetrics c) := by
  unfold answerMetrics
  cases Access.decide c.settings (c.request.header? "x-metrics-token") with
  | granted => exact countsNothing_done _
  | denied => exact ⟨_, (works_deny c 403 _).write _⟩
  | unconfigured => exact ⟨_, works_deny c 500 _⟩
  | incomparable => exact countsNothing_done _

theorem countsNothing_edit {α β : Type} {title : String} {fields : RequestFields → Intake α}
    {name : String} {write : β → Value} {run : α → IdSupply → Except Failure (List β)} :
    CountsNothing (edit title fields name write run c) := by
  unfold edit
  cases readRequest (Intake.record title fields) c.request c.ids with
  | error r => exact countsNothing_reject c r
  | ok q =>
      dsimp only
      unfold answerEdit
      cases run q.1 q.2 with
      | error f => exact countsNothing_fail c f
      | ok nodes => exact countsNothing_done _

theorem countsNothing_starter (kind : Text) : CountsNothing (answerStarter kind c) := by
  unfold answerStarter
  cases DocumentKind.ofName? kind with
  | none => exact countsNothing_refuse c _
  | some kind => cases kind <;> exact countsNothing_done _

end Quiet

/-!
# Generations
-/

/-- What a document of a size adds to the counts of sizes up to each bound. -/
def bucketIncrements (kind : DocumentKind) (octets : Nat) : Increments :=
  Metrics.sizeBounds.map fun b =>
    (Series.mk "dsl_document_bytes_bucket" [("document", kind.name), ("le", b.2)],
      if b.1.all fun bound => octets ≤ bound then 1 else 0)

def sizeIncrements (kind : DocumentKind) (octets : Nat) : Increments :=
  bucketIncrements kind octets ++
    [(Series.mk "dsl_document_bytes_count" [("document", kind.name)], (1 : Int)),
      (Series.mk "dsl_document_bytes_sum" [("document", kind.name)], (octets : Int))]

def endSeries (kind : DocumentKind) (o : Metrics.Outcome) : Series :=
  ⟨"dsl_generations_total", [("document", kind.name), ("status", o.name)]⟩

/-- What the document of a generation, laid out at an indent, adds to the counts. -/
def documentIncrements (indent : Int) (g : Generation) : Increments :=
  match g.result with
  | .ok v => sizeIncrements g.kind (Rendering.ofValue indent v).content.utf8Size
  | .error _ => []

def generationIncrements (indent : Int) (g : Generation) : Increments :=
  [(⟨"dsl_generation_duration_seconds_count", [("document", g.kind.name)]⟩, 1),
    (endSeries g.kind (Metrics.outcome (incident? g.result)), 1)] ++ documentIncrements indent g

/-- The generation that a request is resolved to, if its body and query are accepted. -/
def Resolution.generation? (r : Resolution) (c : Context) : Option Generation :=
  match r with
  | .found .vendor _ =>
      (readStrictRequest VendorForm.intake c.request c.ids).toOption.map fun q =>
        Generation.ofVendor (q.2.getD c.settings.strict) q.1
  | .found .config _ =>
      (readStrictRequest ConfigForm.intake c.request c.ids).toOption.map fun q =>
        Generation.ofConfig (q.2.getD c.settings.strict) q.1
  | _ => none

def Resolution.increments (r : Resolution) (c : Context) : Increments :=
  ((r.generation? c).map (generationIncrements c.settings.indent)).getD []

theorem generated_eq_addAll (kind : DocumentKind) (o : Metrics.Outcome) :
    Metrics.generated kind.name o =
      Metrics.addAll [(⟨"dsl_generation_duration_seconds_count", [("document", kind.name)]⟩, 1),
        (endSeries kind o, 1)] :=
  rfl

theorem sized_eq_addAll (kind : DocumentKind) (octets : Nat) :
    Metrics.sized kind.name octets = Metrics.addAll (sizeIncrements kind octets) :=
  rfl

theorem works_answerGeneration (c : Context) (g : Generation) :
    ∃ outcome, Works (answerGeneration c g) outcome (generationIncrements c.settings.indent g) := by
  unfold answerGeneration generationIncrements documentIncrements
  rw [generated_eq_addAll]
  cases g.result with
  | error f =>
      rcases countsNothing_fail c f with ⟨outcome, hfail⟩
      exact ⟨outcome, (hfail.count _).write g.journal⟩
  | ok v =>
      dsimp only
      rw [sized_eq_addAll]
      exact ⟨_, ((works_count _ _).count _).write g.journal⟩

theorem works_generate {α : Type} (read : Value → Intake α) (make : Bool → α → Generation)
    (c : Context) :
    ∃ outcome, Works (generate read make c) outcome
      ((((readStrictRequest read c.request c.ids).toOption.map fun q =>
        make (q.2.getD c.settings.strict) q.1).map
          (generationIncrements c.settings.indent)).getD []) := by
  unfold generate
  cases readStrictRequest read c.request c.ids with
  | error r => exact countsNothing_reject c r
  | ok q => exact works_answerGeneration c _

/-!
# Endpoints
-/

theorem works_resolution (r : Resolution) (c : Context) :
    ∃ outcome, Works (r.answer c) outcome (r.increments c) := by
  cases r with
  | found e argument =>
      cases e
      case vendor => exact works_generate VendorForm.intake Generation.ofVendor c
      case config => exact works_generate ConfigForm.intake Generation.ofConfig c
      case starter => exact countsNothing_starter c argument
      case metrics => exact countsNothing_metrics c
      case schema => exact countsNothing_done _
      case reference => exact countsNothing_done _
      case authorisation => exact countsNothing_done _
      case overview => exact countsNothing_done _
      case health => exact countsNothing_done _
      case options => exact countsNothing_done _
      all_goals exact countsNothing_edit c
  | wrongMethod e => exact countsNothing_done _
  | moved path => exact countsNothing_done _
  | unknown => exact countsNothing_done _

/-!
# Layers

What the layers around the endpoints do with an outcome is stated as a function of it, so
that an answer is the work of the endpoint followed by that of the layers.
-/

def Request.resolution (r : Request) : Resolution :=
  .of true r.method (Address.decode r.path)

def Request.route (r : Request) : Text := r.resolution.label

/-- The requests with a method that are being answered. -/
def progressSeries (r : Request) : Series :=
  ⟨"http_requests_in_progress", [("method", r.method)]⟩

def requestSeries (r : Request) (e : Exchange) : Series :=
  ⟨"http_requests_total",
    [("method", r.method), ("route", r.route), ("status_code", Text.ofNat e.reply.status)]⟩

def durationSeries (r : Request) : Series :=
  ⟨"http_request_duration_seconds_count", [("method", r.method), ("route", r.route)]⟩

def errorSeries (r : Request) (i : Incident) : Series :=
  ⟨"http_errors_total", [("error_type", i.family), ("method", r.method), ("route", r.route)]⟩

/-- What the end of an observed request adds to the counts, given what the exchange was. -/
def endIncrements (r : Request) (e : Exchange) : Increments :=
  [(progressSeries r, -1), (requestSeries r e, 1), (durationSeries r, 1)] ++
    (e.escaped.map fun i => (errorSeries r i, (1 : Int))).toList

def requestIncrements (s : Settings) (ids : IdSupply) (r : Request) (e : Exchange) : Increments :=
  [(progressSeries r, 1)] ++
    (r.resolution.increments (contextOf s ids r) ++ endIncrements r e)

def observeOutcome (c : Context) (route : String) (o : Outcome) (l : Ledger) : Outcome × Ledger :=
  match o with
  | .ok reply => observeReply c route reply l
  | .error i => observeFailure c route i l

/-- The exchange that an outcome leads to, in view of the origin of the request. -/
def exchangeOf (s : Settings) (r : Request) (o : Outcome) : Exchange :=
  match o with
  | .ok reply => ⟨Origin.mark s r reply, none⟩
  | .error i => ⟨.unexpected, some i⟩

/-- What the outermost layers do with the outcome of a request. -/
def closeOutcome (s : Settings) (c : Context) (o : Outcome) (l : Ledger) : Exchange × Ledger :=
  (exchangeOf s c.request o,
    match o with
    | .ok _ => l
    | .error i =>
        l.write [c.entry .error (Text.join ["Unhandled exception: ", i.shown])
          [("path", .text c.shownPath)]])

theorem observe_eq (c : Context) (l : Ledger) :
    observe c l =
      let inner := c.request.resolution.answer c (l.count (Metrics.requestBegan c.request.method))
      observeOutcome c c.request.resolution.label inner.1 inner.2 := by
  have hresolution : Resolution.of true c.request.method c.path = c.request.resolution := rfl
  unfold observe
  rw [hresolution]
  dsimp only
  rcases c.request.resolution.answer c (l.count (Metrics.requestBegan c.request.method)) with
    ⟨o, l'⟩
  cases o <;> rfl

theorem answer_eq {s : Settings} {ids : IdSupply} {r : Request} (hr : Origin.inquiry? r = none)
    (l : Ledger) :
    answer s ids r l =
      let inner := answerInside (contextOf s ids r) l
      closeOutcome s (contextOf s ids r) inner.1 inner.2 := by
  unfold answer
  rw [hr]
  dsimp only
  rcases answerInside (contextOf s ids r) l with ⟨o, l'⟩
  cases o <;> rfl

/-- The outcome of an observed request, given that of its endpoint. -/
def namedOutcome (c : Context) (o : Outcome) : Outcome :=
  o.map fun reply => reply.putHeader c.settings.requestIdHeader.lower c.requestId

theorem fst_observeOutcome (c : Context) (route : String) (o : Outcome) (l : Ledger) :
    (observeOutcome c route o l).1 = namedOutcome c o := by
  cases o <;> rfl

/-- The exchange of an observed request that is no inquiry of a browser. -/
theorem exchange_observed {s : Settings} (hs : s.observed = true) {ids : IdSupply} {r : Request}
    (hr : Origin.inquiry? r = none) (l : Ledger) :
    (answer s ids r l).1 =
      exchangeOf s r (namedOutcome (contextOf s ids r)
        (r.resolution.answer (contextOf s ids r) (l.count (Metrics.requestBegan r.method))).1) := by
  rw [answer_eq hr, ← fst_observeOutcome _ r.resolution.label]
  change exchangeOf s r (answerInside (contextOf s ids r) l).1 = _
  rw [answerInside, show (contextOf s ids r).settings.observed = true from hs, if_pos rfl,
    observe_eq]
  rfl

/-- The exchange of a request that is neither observed nor an inquiry of a browser. -/
theorem exchange_unobserved {s : Settings} (hs : s.observed = false) {ids : IdSupply}
    {r : Request} (hr : Origin.inquiry? r = none) (l : Ledger) :
    (answer s ids r l).1 =
      exchangeOf s r ((Resolution.of false r.method (Address.decode r.path)).answer
        (contextOf s ids r) l).1 := by
  rw [answer_eq hr]
  change exchangeOf s r (answerInside (contextOf s ids r) l).1 = _
  rw [answerInside, show (contextOf s ids r).settings.observed = false from hs,
    if_neg Bool.false_ne_true]
  rfl

theorem works_observeOutcome (s : Settings) (ids : IdSupply) (r : Request) (o : Outcome) :
    Works (observeOutcome (contextOf s ids r) r.resolution.label o)
      (namedOutcome (contextOf s ids r) o)
      (endIncrements r (exchangeOf s r (namedOutcome (contextOf s ids r) o))) := by
  cases o with
  | ok reply =>
      unfold observeOutcome observeReply
      by_cases hquiet : isQuiet (contextOf s ids r).shownPath = true
      · simp only [if_pos hquiet]
        exact works_count _ (endIncrements r ⟨reply, none⟩)
      · simp only [if_neg hquiet]
        exact ⟨[_], fun l => rfl⟩
  | error i => exact ⟨[_], fun l => rfl⟩

theorem works_observe (s : Settings) (ids : IdSupply) (r : Request) :
    ∃ o, Works (observe (contextOf s ids r)) o (requestIncrements s ids r (exchangeOf s r o)) := by
  rcases works_resolution r.resolution (contextOf s ids r) with ⟨o, hwork⟩
  have hall := (hwork.bind (works_observeOutcome s ids r o)).count [(progressSeries r, 1)]
  refine ⟨namedOutcome (contextOf s ids r) o, ?_⟩
  rw [show observe (contextOf s ids r) = _ from funext (observe_eq _)]
  exact hall

theorem works_closeOutcome (s : Settings) (c : Context) (o : Outcome) :
    Works (closeOutcome s c o) (exchangeOf s c.request o) [] := by
  cases o with
  | ok reply => exact works_done _
  | error i => exact works_write _ _

/-- An observed request that is no inquiry of a browser is counted as its exchange says. -/
theorem works_answer {s : Settings} (hs : s.observed = true) (ids : IdSupply) {r : Request}
    (hr : Origin.inquiry? r = none) :
    ∃ e, Works (answer s ids r) e (requestIncrements s ids r e) := by
  rcases works_observe s ids r with ⟨o, hwork⟩
  have hall := hwork.bind (works_closeOutcome s (contextOf s ids r) o)
  rw [List.append_nil] at hall
  refine ⟨exchangeOf s r o, ?_⟩
  have hinside : answerInside (contextOf s ids r) = observe (contextOf s ids r) :=
    funext fun l => if_pos hs
  rw [show answer s ids r = _ from funext (answer_eq hr), hinside]
  exact hall

/-- An inquiry of a browser is answered before anything is counted. -/
theorem works_inquiry {s : Settings} (ids : IdSupply) {r : Request}
    (hr : Origin.inquiry? r ≠ none) : CountsNothing (answer s ids r) := by
  rcases Option.ne_none_iff_exists'.mp hr with ⟨⟨origin, method⟩, hinquiry⟩
  unfold answer
  rw [hinquiry]
  exact ⟨_, works_done _⟩

end Service
end RuleDraft
