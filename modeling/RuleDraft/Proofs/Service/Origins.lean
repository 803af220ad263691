import RuleDraft.Proofs.Service.Effects
import RuleDraft.Proofs.Service.Headers

/-!
# Origins in production

The endpoints write only headers of their own, so a reply grants an origin in two ways
alone: the layer for origins does, or the name of the request is written under the header
for granted origins.  Read settings list no local origin in production.  What they can still
list is a star, which grants every origin, and with them those of the machine itself.
-/

namespace RuleDraft
namespace Service

def grantName : Text := "access-control-allow-origin"

/-- The reply lets pages from an origin read it. -/
def Reply.Grants (origin : Text) (reply : Reply) : Prop :=
  ∃ h ∈ reply.headers, h.1.lower = grantName ∧ (h.2 = origin ∨ h.2 = Text.ofString "*")

/-!
# Headers of the endpoints
-/

/-- The names of the headers that endpoints write. -/
def ownNames : List String := ["content-type", "allow", "location"]

def WritesOwn (o : Outcome) : Prop :=
  ∀ reply, o = .ok reply → ∀ h ∈ reply.headers, ∃ name ∈ ownNames, h.1 = Text.ofString name

theorem writesOwn_error (i : Incident) : WritesOwn (.error i) := by
  rintro reply ⟨⟩

theorem writesOwn_single {status : Nat} {n : String} {value : Text} {content : Content}
    (h : n ∈ ownNames) : WritesOwn (.ok ⟨status, [(Text.ofString n, value)], content⟩) := by
  rintro reply ⟨⟩ header hheader
  cases List.mem_singleton.mp hheader
  exact ⟨n, h, rfl⟩

theorem writesOwn_data (status : Nat) (v : Value) : WritesOwn (.ok (.data status v)) :=
  writesOwn_single (n := "content-type") (by decide)

section Endpoints

variable (c : Context) (l : Ledger)

theorem writesOwn_refuse (r : Refusal) : WritesOwn (c.refuse r l).1 := writesOwn_data _ _

theorem writesOwn_fail (f : Failure) : WritesOwn (c.fail f l).1 := by
  cases f with
  | refused r => exact writesOwn_refuse c l r
  | unreadable title issues => exact writesOwn_error _
  | broken fault => exact writesOwn_error _

theorem writesOwn_reject (r : Rejection) : WritesOwn (c.reject r l).1 := by
  cases r with
  | undecodable => exact writesOwn_data _ _
  | issues found => exact writesOwn_data _ _

theorem writesOwn_generate {α : Type} (read : Value → Intake α) (make : Bool → α → Generation) :
    WritesOwn (generate read make c l).1 := by
  unfold generate
  cases readStrictRequest read c.request c.ids with
  | error r => exact writesOwn_reject c l r
  | ok q =>
      dsimp only
      unfold answerGeneration
      cases (make (q.2.getD c.settings.strict) q.1).result with
      | error f => exact writesOwn_fail c _ f
      | ok v => exact writesOwn_data _ _

theorem writesOwn_edit {α β : Type} {title : String} {fields : RequestFields → Intake α}
    {name : String} {write : β → Value} {run : α → IdSupply → Except Failure (List β)} :
    WritesOwn (edit title fields name write run c l).1 := by
  unfold edit
  cases readRequest (Intake.record title fields) c.request c.ids with
  | error r => exact writesOwn_reject c l r
  | ok q =>
      dsimp only
      unfold answerEdit
      cases run q.1 q.2 with
      | error f => exact writesOwn_fail c l f
      | ok nodes => exact writesOwn_data _ _

theorem writesOwn_starter (kind : Text) : WritesOwn (answerStarter kind c l).1 := by
  unfold answerStarter
  cases DocumentKind.ofName? kind with
  | none => exact writesOwn_refuse c l _
  | some kind => cases kind <;> exact writesOwn_data _ _

theorem writesOwn_metrics : WritesOwn (answerMetrics c l).1 := by
  unfold answerMetrics
  cases Access.decide c.settings (c.request.header? "x-metrics-token") with
  | granted => exact writesOwn_single (n := "content-type") (by decide)
  | denied => exact writesOwn_data _ _
  | unconfigured => exact writesOwn_data _ _
  | incomparable => exact writesOwn_error _

theorem writesOwn_wrongMethod (e : Endpoint) :
    WritesOwn ((Resolution.wrongMethod e).answer c l).1 := by
  rintro reply ⟨⟩ header hheader
  rcases List.mem_cons.mp hheader with rfl | hallow
  · exact ⟨"content-type", by decide, rfl⟩
  · cases List.mem_singleton.mp hallow
    exact ⟨"allow", by decide, rfl⟩

theorem writesOwn_resolution (r : Resolution) : WritesOwn (r.answer c l).1 := by
  cases r with
  | found e argument =>
      cases e
      case vendor => exact writesOwn_generate c l _ _
      case config => exact writesOwn_generate c l _ _
      case starter => exact writesOwn_starter c l argument
      case metrics => exact writesOwn_metrics c l
      case schema => exact writesOwn_single (n := "content-type") (by decide)
      case reference => exact writesOwn_single (n := "content-type") (by decide)
      case authorisation => exact writesOwn_single (n := "content-type") (by decide)
      case overview => exact writesOwn_single (n := "content-type") (by decide)
      case health => exact writesOwn_data _ _
      case options => exact writesOwn_data _ _
      all_goals exact writesOwn_edit c l
  | wrongMethod e => exact writesOwn_wrongMethod c l e
  | moved path => exact writesOwn_single (n := "location") (by decide)
  | unknown => exact writesOwn_data _ _

end Endpoints

/-!
# Headers of all layers
-/

/-- The names of the headers that replies have whatever the settings are. -/
def fixedNames : List String :=
  ownNames ++
    ["vary", "access-control-allow-credentials", "access-control-allow-methods",
      "access-control-max-age", "access-control-allow-headers"]

/-- Where a header of a reply comes from. -/
inductive Source (s : Settings) (r : Request) : Text × Text → Prop where
  /-- It is one of those that do not depend on the settings. -/
  | fixed {n : String} {value : Text} : n ∈ fixedNames → Source s r (Text.ofString n, value)
  /-- It names the request. -/
  | request : s.observed = true → Source s r (s.requestIdHeader.lower, requestIdOf s r)
  /-- It grants the origin of the request. -/
  | grant {origin : Text} : r.header? "origin" = some origin →
      Origin.isGranted s origin = true → Source s r (grantName, origin)

section Sources

variable {s : Settings} {r : Request} {h : Text × Text}

theorem source_own {reply : Reply} (hreply : WritesOwn (.ok reply)) (hh : h ∈ reply.headers) :
    Source s r h := by
  rcases hreply reply rfl h hh with ⟨name, hname, heq⟩
  rcases h with ⟨n, value⟩
  cases heq
  exact .fixed (List.mem_append_left _ hname)

theorem source_grant {origin : Text} (horigin : r.header? "origin" = some origin)
    (hh : h ∈ Origin.grant s origin) : Source s r h := by
  unfold Origin.grant at hh
  by_cases hgranted : Origin.isGranted s origin = true
  · rw [if_pos hgranted] at hh
    cases List.mem_singleton.mp hh
    exact .grant horigin hgranted
  · rw [if_neg hgranted] at hh
    cases hh

theorem source_credentials (hh : h ∈ Origin.credentials) : Source s r h := by
  cases List.mem_singleton.mp hh
  exact .fixed (n := "access-control-allow-credentials") (by decide)

theorem source_headersFor (hh : h ∈ Origin.headersFor s r) : Source s r h := by
  unfold Origin.headersFor at hh
  cases horigin : r.header? "origin" with
  | none =>
      rw [horigin] at hh
      cases hh
  | some origin =>
      rw [horigin] at hh
      rcases List.mem_append.mp hh with hcredentials | hgrant
      · exact source_credentials hcredentials
      · exact source_grant horigin hgrant

theorem source_exchangeOf {o : Outcome}
    (ho : ∀ reply, o = .ok reply → ∀ h ∈ reply.headers, Source s r h)
    (hh : h ∈ (exchangeOf s r o).reply.headers) : Source s r h := by
  cases o with
  | error i =>
      cases List.mem_singleton.mp hh
      exact .fixed (n := "content-type") (by decide)
  | ok reply =>
      rcases Headers.mem_putAll hh with hlayer | hextended
      · exact source_headersFor hlayer
      · rcases Headers.mem_extend hextended with hvary | hown
        · rcases h with ⟨n, value⟩
          cases hvary
          exact .fixed (n := "vary") (by decide)
        · exact ho reply rfl h hown

theorem origin_of_inquiry {origin method : Text} (hr : Origin.inquiry? r = some (origin, method)) :
    r.header? "origin" = some origin := by
  unfold Origin.inquiry? at hr
  by_cases hmethod : r.method = Text.ofString "OPTIONS"
  · rw [if_pos hmethod] at hr
    cases horigin : r.header? "origin" with
    | none =>
        rw [horigin] at hr
        cases hr
    | some asked =>
        cases hasked : r.header? "access-control-request-method" with
        | none =>
            rw [horigin, hasked] at hr
            cases hr
        | some way =>
            rw [horigin, hasked] at hr
            cases hr
            rfl
  · rw [if_neg hmethod] at hr
    cases hr

theorem source_inquiry {origin method : Text} (hr : Origin.inquiry? r = some (origin, method))
    (hh : h ∈ (Origin.answerInquiry s r origin method).headers) : Source s r h := by
  have hplain (status : Nat) (t : Text) : WritesOwn (.ok (.plain status t)) :=
    writesOwn_single (n := "content-type") (by decide)
  -- The headers are those of the reply itself and then, in order, the fixed ones, the credentials,
  -- the grant, and the echo of the headers that were asked about.
  rcases List.mem_append.mp hh with hreply | hlayer
  · by_cases hagainst : (Origin.objections s r origin method).isEmpty = true
    · rw [if_pos hagainst] at hreply
      exact source_own (hplain _ _) hreply
    · rw [if_neg hagainst] at hreply
      exact source_own (hplain _ _) hreply
  rcases List.mem_append.mp hlayer with hrest | hechoed
  · rcases List.mem_append.mp hrest with hrest | hgrant
    · rcases List.mem_append.mp hrest with hfixed | hcredentials
      · simp only [List.mem_cons, List.not_mem_nil, or_false] at hfixed
        rcases hfixed with rfl | rfl | rfl
        · exact .fixed (n := "vary") (by decide)
        · exact .fixed (n := "access-control-allow-methods") (by decide)
        · exact .fixed (n := "access-control-max-age") (by decide)
      · exact source_credentials hcredentials
    · exact source_grant (origin_of_inquiry hr) hgrant
  · cases hasked : r.header? "access-control-request-headers" with
    | none =>
        rw [hasked] at hechoed
        cases hechoed
    | some asked =>
        rw [hasked] at hechoed
        cases List.mem_singleton.mp hechoed
        exact .fixed (n := "access-control-allow-headers") (by decide)

theorem source_named {ids : IdSupply} {o : Outcome} (hs : s.observed = true) (ho : WritesOwn o)
    {reply : Reply} (hreply : namedOutcome (contextOf s ids r) o = .ok reply)
    (hh : h ∈ reply.headers) : Source s r h := by
  cases o with
  | error i => cases hreply
  | ok inner =>
      cases hreply
      rcases Headers.mem_put hh with rfl | hinner
      · have hid : (contextOf s ids r).requestId = requestIdOf s r := if_pos hs
        rw [hid]
        exact .request hs
      · exact source_own ho hinner

/-- Every header of an answer has a source. -/
theorem source_answer {ids : IdSupply} {l : Ledger}
    (hh : h ∈ (answer s ids r l).1.reply.headers) : Source s r h := by
  cases hinquiry : Origin.inquiry? r with
  | some asked =>
      unfold answer at hh
      rw [hinquiry] at hh
      exact source_inquiry hinquiry hh
  | none =>
      by_cases hs : s.observed = true
      · rw [exchange_observed hs hinquiry] at hh
        refine source_exchangeOf ?_ hh
        intro reply hreply h hh
        exact source_named hs (writesOwn_resolution _ _ _) hreply hh
      · rw [exchange_unobserved (Bool.eq_false_iff.mpr hs) hinquiry] at hh
        refine source_exchangeOf ?_ hh
        intro reply hreply h hh
        have hown := writesOwn_resolution (contextOf s ids r) l
          (.of false r.method (Address.decode r.path))
        rw [hreply] at hown
        exact source_own hown hh

end Sources

/-!
# Grants
-/

theorem fixed_ne_grantName : ∀ n ∈ fixedNames, (Text.ofString n).lower ≠ grantName := by
  decide

section Production

variable {s : Settings}

/-- Settings that list no star grant no local origin, but what the header of the request names. -/
theorem not_grants (hlist : ∀ origin ∈ s.originList, ¬ Settings.IsLocal origin)
    (hstar : Text.ofString "*" ∉ s.originList)
    (hname : ¬ (s.observed = true ∧ s.requestIdHeader.lower = grantName)) {ids : IdSupply}
    {r : Request} {l : Ledger} {origin : Text} (horigin : r.header? "origin" = some origin)
    (hlocal : Settings.IsLocal origin) : ¬ (answer s ids r l).1.reply.Grants origin := by
  rintro ⟨h, hh, hgrant, _⟩
  cases source_answer hh with
  | fixed hfixed => exact fixed_ne_grantName _ hfixed hgrant
  | request hs => exact hname ⟨hs, Text.lower_lower s.requestIdHeader ▸ hgrant⟩
  | grant hgiven hgranted =>
      rw [horigin] at hgiven
      cases hgiven
      unfold Origin.isGranted at hgranted
      rcases Bool.or_eq_true_iff.mp hgranted with hall | hone
      · exact hstar (List.contains_iff_mem.mp hall)
      · exact hlist origin (List.contains_iff_mem.mp hone) hlocal

end Production

/-- No request on behalf of a page from the machine itself is granted its origin. -/
def RefusesLocal (s : Settings) : Prop :=
  ∀ (ids : IdSupply) (r : Request) (l : Ledger) (origin : Text), r.header? "origin" = some origin →
    Settings.IsLocal origin → ¬ (answer s ids r l).1.reply.Grants origin

def localOrigin : Text := "http://localhost:3000"

theorem isLocal_localOrigin : Settings.IsLocal localOrigin :=
  ⟨"localhost", by decide, Text.ofString "http://", Text.ofString ":3000", rfl⟩

/-- A request for the health of the service on behalf of a page from that origin. -/
def localRequest (more : Headers) : Request :=
  ⟨"GET", "/api/v1/health", [], ("origin", localOrigin) :: more, [], none, "r0"⟩

section Local

variable {s : Settings} {more : Headers}

theorem exchange_localRequest (s : Settings) (more : Headers) (ids : IdSupply) (l : Ledger) :
    ∃ reply, (answer s ids (localRequest more) l).1 =
        exchangeOf s (localRequest more) (.ok reply) ∧
      (s.observed = true →
        (s.requestIdHeader.lower, requestIdOf s (localRequest more)) ∈ reply.headers) := by
  have hinquiry : Origin.inquiry? (localRequest more) = none := rfl
  by_cases hs : s.observed = true
  · rw [exchange_observed hs hinquiry]
    refine ⟨_, rfl, fun _ => ?_⟩
    have hid : (contextOf s ids (localRequest more)).requestId =
      requestIdOf s (localRequest more) := if_pos hs
    rw [← hid]
    exact Headers.mem_put_self
  · rw [exchange_unobserved (Bool.eq_false_iff.mpr hs) hinquiry]
    exact ⟨_, rfl, fun h => absurd h hs⟩

theorem grants_of_granted {r : Request} {reply : Reply} {origin : Text}
    (horigin : r.header? "origin" = some origin) (hgranted : Origin.isGranted s origin = true) :
    (exchangeOf s r (.ok reply)).reply.Grants origin := by
  have hlayer : Origin.headersFor s r = Origin.credentials ++ [(grantName, origin)] := by
    rw [Origin.headersFor, horigin]
    exact congrArg (Origin.credentials ++ ·) (if_pos hgranted)
  have hnodup : ((Origin.headersFor s r).map Prod.fst).Nodup := by
    rw [hlayer]
    exact (by decide : [Text.ofString "access-control-allow-credentials", grantName].Nodup)
  have hlower : grantName.lower = grantName := by decide
  refine ⟨(grantName, origin), Headers.mem_putAll_self hnodup ?_, hlower, .inl rfl⟩
  rw [hlayer]
  exact List.mem_append_right _ List.mem_cons_self

theorem grants_of_star (hstar : Text.ofString "*" ∈ s.originList) (ids : IdSupply) (l : Ledger) :
    (answer s ids (localRequest []) l).1.reply.Grants localOrigin := by
  rcases exchange_localRequest s [] ids l with ⟨reply, hexchange, _⟩
  have hgranted : Origin.isGranted s localOrigin = true := by
    rw [Origin.isGranted, List.contains_iff_mem.mpr hstar, Bool.true_or]
  rw [hexchange]
  exact grants_of_granted rfl hgranted

theorem grants_of_name (hs : s.observed = true) (hname : s.requestIdHeader.lower = grantName)
    (ids : IdSupply) (l : Ledger) :
    (answer s ids (localRequest [(grantName, "*")]) l).1.reply.Grants localOrigin := by
  rcases exchange_localRequest s [(grantName, "*")] ids l with ⟨reply, hexchange, hrequest⟩
  have hid : requestIdOf s (localRequest [(grantName, "*")]) = Text.ofString "*" := by
    unfold requestIdOf Request.header? Headers.value?
    rw [hname]
    rfl
  rw [hexchange]
  by_cases hgranted : Origin.isGranted s localOrigin = true
  · exact grants_of_granted rfl hgranted
  · have hlayer : Origin.headersFor s (localRequest [(grantName, "*")]) = Origin.credentials := by
      change Origin.credentials ++ Origin.grant s localOrigin = Origin.credentials
      rw [Origin.grant, if_neg hgranted, List.append_nil]
    refine ⟨_, Headers.mem_putAll_of_ne (Headers.mem_extend_of_ne (hrequest hs) ?_) ?_, ?_,
      .inr hid⟩
    · rw [hname]
      exact (by decide : grantName ≠ Text.ofString "vary")
    · rw [hlayer, hname]
      exact (by decide : ∀ h ∈ Origin.credentials, h.1 ≠ grantName)
    · rw [Text.lower_lower]
      exact hname

end Local

/--
Settings that are read for production have a token, and refuse local origins exactly if they
list no star and do not write the name of a request under the header for granted origins.
-/
theorem refusesLocal_iff {environment options : List (Text × Value)} {s : Settings}
    (h : Settings.read environment options = .ok s) (hs : s.deployment = .prod) :
    (∃ token, s.metricsToken = some token ∧ token ≠ []) ∧
      (RefusesLocal s ↔
        Text.ofString "*" ∉ s.originList ∧
          ¬ (s.observed = true ∧ s.requestIdHeader.lower = grantName)) := by
  rcases Settings.read_production h hs with ⟨htoken, hlist⟩
  refine ⟨htoken, ?refuses, ?sound⟩
  case refuses =>
    intro hrefuses
    refine ⟨?_, ?_⟩
    · intro hstar
      exact hrefuses (.numbered "n") _ .empty _ rfl isLocal_localOrigin (grants_of_star hstar _ _)
    · rintro ⟨hobserved, hname⟩
      exact hrefuses (.numbered "n") _ .empty _ rfl isLocal_localOrigin
        (grants_of_name hobserved hname _ _)
  case sound =>
    rintro ⟨hstar, hname⟩ ids r l origin horigin hlocal
    exact not_grants hlist hstar hname horigin hlocal

def productionOptions (origin : Text) : List (Text × Value) :=
  [("app_env", .text "prod"), ("metrics_token", .text "t"), ("cors_origins", .text origin)]

def production (origin : Text) : Settings :=
  { Settings.standard with
    deployment := .prod
    metricsToken := some "t"
    origins := origin }

/-- One remote origin leaves no grant to a local one. -/
theorem refusesLocal_iff_remote :
    Settings.read [] (productionOptions "https://builder.example.com") =
        .ok (production "https://builder.example.com") ∧
      (production "https://builder.example.com").deployment = .prod ∧
      RefusesLocal (production "https://builder.example.com") := by
  have hread : Settings.read [] (productionOptions "https://builder.example.com") =
    .ok (production "https://builder.example.com") := rfl
  exact ⟨hread, rfl, (refusesLocal_iff hread rfl).right.mpr ⟨by decide, by decide⟩⟩

/-- A star is read for production, and grants an origin on the machine itself. -/
theorem star_grants_local :
    Settings.read [] (productionOptions "*") = .ok (production "*") ∧
      (production "*").deployment = .prod ∧ ¬ RefusesLocal (production "*") := by
  refine ⟨rfl, rfl, ?_⟩
  intro hrefuses
  exact hrefuses (.numbered "n") _ .empty _ rfl isLocal_localOrigin
    (grants_of_star (s := production "*") (by decide) _ _)

end Service
end RuleDraft
