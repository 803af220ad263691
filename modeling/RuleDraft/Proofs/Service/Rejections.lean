import RuleDraft.Proofs.Service.Effects
import RuleDraft.Proofs.Service.Findings

/-!
# What a rejection repeats

A rejected payload is answered with what its readings found, and those find nothing but words
that are fixed in advance and numbers.  So whatever a request holds, and whichever layers its
reply passes, a rejection says where something is wrong and what is, but repeats nothing.
-/

namespace RuleDraft
namespace Service

/-!
# Payloads
-/

def Phrased (c : Cause) : Prop := Worded c.message

theorem phrased_of_shown {c : Cause} (h : Shown c) : Phrased (shownCause c) := h

theorem tells_strict (query : Text) : CheckedTells Phrased (readStrict query) := by
  have hbool (v : Value) : CheckedTells Phrased (Checked.bool v) :=
    tells_bool (Q := Phrased) shown_notUnicode shown_notBool shown_unreadableBool v
  unfold readStrict
  cases Address.queryValue? "strict" query with
  | none => exact checked_ok none
  | some t =>
      refine checked_under (.field ?query) (checked_under (.field ?strict) (checked_map (hbool _)))
      case query => simp [fieldNames]
      case strict => simp [fieldNames]

theorem declared_body : Declared (.field (Text.ofString "body")) := .field (by simp [fieldNames])

section Payload

variable {α : Type} {read : Value → Intake α} {r : Request} {ids : IdSupply} {found : List Issue}

theorem tells_readBody (hread : ∀ v, Tells (read v)) (body : Body) :
    IntakeTells Phrased (readBody read body) := by
  cases body with
  | absent => exact tells_under declared_body (tells_ofChecked (checked_fail shown_missing))
  | undeclared => exact tells_under declared_body (tells_ofChecked (checked_fail shown_notBody))
  | document v =>
      intro ids
      have hinner := tells_under declared_body (hread v) ids
      unfold readBody Intake.run
      dsimp only
      cases hresult : (Intake.under (.field (Text.ofString "body")) (read v) ids).1 with
      | ok x => exact checked_ok x
      | error a =>
          rintro found ⟨⟩ i hi
          rcases List.mem_map.mp hi with ⟨j, hj, rfl⟩
          exact ⟨(hinner a hresult j hj).left, phrased_of_shown (hinner a hresult j hj).right⟩

theorem found_readJson {octets : List UInt8}
    (h : Body.readJson octets = .error (.issues found)) : ∀ i ∈ found, Told Phrased i := by
  unfold Body.readJson at h
  cases hdecoded : Encoding.readDocument octets with
  | none =>
      rw [hdecoded] at h
      cases h
  | some t =>
      rw [hdecoded] at h
      dsimp only at h
      cases hread : Json.readDocument t with
      | ok v =>
          rw [hread] at h
          cases h
      | error e =>
          rw [hread] at h
          cases e with
          | malformed reason position =>
              cases h
              rw [List.forall_mem_singleton]
              refine ⟨?_, shown_notJson⟩
              rw [List.forall_mem_cons, List.forall_mem_singleton]
              exact ⟨declared_body, .item position⟩
          | integerTooLong digits => cases h
          | tooDeep container => cases h

theorem found_ofRequest (h : Body.ofRequest r = .error (.issues found)) :
    ∀ i ∈ found, Told Phrased i := by
  unfold Body.ofRequest at h
  split at h
  · cases h
  · split at h
    · exact found_readJson (map_eq_error.mp h)
    · cases h

theorem found_readRequest (hread : ∀ v, Tells (read v))
    (h : readRequest read r ids = .error (.issues found)) : ∀ i ∈ found, Told Phrased i := by
  rcases bind_eq_error.mp h with hbody | ⟨body, _, hmodel⟩
  · exact found_ofRequest hbody
  · rcases hresult : (readBody read body).run ids with ⟨result, ids'⟩
    rw [hresult] at hmodel
    cases result with
    | ok x => cases hmodel
    | error a =>
        cases hmodel
        exact tells_readBody hread body ids _ (congrArg Prod.fst hresult)

theorem found_readStrictRequest (hread : ∀ v, Tells (read v))
    (h : readStrictRequest read r ids = .error (.issues found)) : ∀ i ∈ found, Told Phrased i := by
  rcases bind_eq_error.mp h with hbody | ⟨body, _, hmodel⟩
  · exact found_ofRequest hbody
  · dsimp only at hmodel
    cases hresult : Checked.apply ((readStrict r.query).map fun s x => (x, s))
        ((readBody read body).run ids).1 with
    | ok x =>
        rw [hresult] at hmodel
        cases hmodel
    | error a =>
        rw [hresult] at hmodel
        cases hmodel
        exact checked_apply (checked_map (tells_strict r.query)) (tells_readBody hread body ids) _
          hresult

end Payload

/-!
# Replies
-/

def Reply.Rejects (reply : Reply) : Prop :=
  reply.status = 422 ∧
    ∃ v, reply.content = .data v ∧
      v.field? (Text.ofString "error") = some (.text (Text.ofString "RequestValidationError"))

/-- A rejection for what has been found, with the location and the message of each issue. -/
def rejectionOf (found : List Issue) : Value :=
  Value.record
    [("error", .text "RequestValidationError"), ("message", .text "Request validation failed"),
      ("details", Value.record
        [("errors", .list (found.map fun i =>
          Value.record [("loc", .text i.location), ("msg", .text i.message)]))])]

/-- If the reply is a rejection, it repeats nothing of its request. -/
def Reply.Discreet (reply : Reply) : Prop :=
  reply.Rejects →
    ∃ found, (∀ i ∈ found, Told Phrased i) ∧ reply.content = .data (rejectionOf found)

def AnswersDiscreetly (o : Outcome) : Prop := ∀ reply, o = .ok reply → reply.Discreet

theorem writableItems_map {α : Type} {f : α → Value} (h : ∀ x, writable (f x) = f x)
    (xs : List α) : writableItems (xs.map f) = xs.map f := by
  induction xs with
  | nil => rfl
  | cons x xs ih => rw [List.map_cons, writableItems, h, ih]

theorem writable_rejectionOf (found : List Issue) :
    writable (rejectionOf found) = rejectionOf found := by
  have hentry (i : Issue) :
      writable (Value.record [("loc", .text i.location), ("msg", .text i.message)]) =
        Value.record [("loc", .text i.location), ("msg", .text i.message)] := by
    simp [Value.record, writable, writableFields]
  have hentries := writableItems_map hentry found
  simp only [rejectionOf, Value.record, List.map_cons, List.map_nil, writable, writableFields]
    at hentries ⊢
  rw [hentries]

theorem discreet_of_status {reply : Reply} (h : reply.status ≠ 422) : reply.Discreet :=
  fun hrejects => absurd hrejects.left h

section Endpoints

variable (c : Context) (l : Ledger)

theorem discreet_error (i : Incident) : AnswersDiscreetly (.error i) := by
  rintro reply ⟨⟩

theorem discreet_ok {reply : Reply} (h : reply.status ≠ 422) : AnswersDiscreetly (.ok reply) := by
  rintro answered ⟨⟩
  exact discreet_of_status h

/-- A refusal of the domain is no rejection, though one of them has the same status. -/
theorem discreet_refuse (r : Refusal) : AnswersDiscreetly (c.refuse r l).1 := by
  rintro reply ⟨⟩ ⟨_, v, ⟨⟩, hfamily⟩
  have hnames : ∀ kind : RefusalKind, Text.ofString kind.name ≠ "RequestValidationError" := by
    intro kind
    cases kind <;> decide
  simp only [Value.record, List.map_cons, List.map_nil, writable, writableFields, Value.field?,
    Keyed.get?] at hfamily
  exact absurd (Value.text.inj (Option.some.inj hfamily)) (hnames r.kind)

theorem discreet_fail (f : Failure) : AnswersDiscreetly (c.fail f l).1 := by
  cases f with
  | refused r => exact discreet_refuse c l r
  | unreadable title issues => exact discreet_error _
  | broken fault => exact discreet_error _

theorem discreet_reject {e : Rejection}
    (h : ∀ found, e = .issues found → ∀ i ∈ found, Told Phrased i) :
    AnswersDiscreetly (c.reject e l).1 := by
  cases e with
  | undecodable => exact discreet_ok (by decide)
  | issues found =>
      rintro reply ⟨⟩ _
      exact ⟨found, h found rfl, congrArg Content.data (writable_rejectionOf found)⟩

theorem discreet_generate {α : Type} {read : Value → Intake α} (hread : ∀ v, Tells (read v))
    (make : Bool → α → Generation) : AnswersDiscreetly (generate read make c l).1 := by
  unfold generate
  cases hrequest : readStrictRequest read c.request c.ids with
  | error e =>
      refine discreet_reject c l fun found hfound => ?_
      rw [hfound] at hrequest
      exact found_readStrictRequest hread hrequest
  | ok q =>
      dsimp only
      unfold answerGeneration
      cases (make (q.2.getD c.settings.strict) q.1).result with
      | error f => exact discreet_fail c _ f
      | ok v => exact discreet_ok (by simp [Reply.data])

theorem discreet_edit {α β : Type} {title : String} {fields : RequestFields → Intake α}
    (hfields : ∀ r, Tells (fields r)) {name : String} {write : β → Value}
    {run : α → IdSupply → Except Failure (List β)} :
    AnswersDiscreetly (edit title fields name write run c l).1 := by
  unfold edit
  cases hrequest : readRequest (Intake.record title fields) c.request c.ids with
  | error e =>
      refine discreet_reject c l fun found hfound => ?_
      rw [hfound] at hrequest
      exact found_readRequest (tells_record (shown_notRecord title) hfields) hrequest
  | ok q =>
      dsimp only
      unfold answerEdit
      cases run q.1 q.2 with
      | error f => exact discreet_fail c l f
      | ok nodes => exact discreet_ok (by simp [Reply.data])

theorem discreet_starter (kind : Text) : AnswersDiscreetly (answerStarter kind c l).1 := by
  unfold answerStarter
  cases DocumentKind.ofName? kind with
  | none => exact discreet_refuse c l _
  | some kind => cases kind <;> exact discreet_ok (by simp [Reply.data])

theorem discreet_metrics : AnswersDiscreetly (answerMetrics c l).1 := by
  unfold answerMetrics
  cases Access.decide c.settings (c.request.header? "x-metrics-token") with
  | granted => exact discreet_ok (by decide)
  | denied => exact discreet_ok (by decide)
  | unconfigured => exact discreet_ok (by decide)
  | incomparable => exact discreet_error _

theorem discreet_endpoint (e : Endpoint) (argument : Text) :
    AnswersDiscreetly (e.answer argument c l).1 := by
  cases e
  case starter => exact discreet_starter c l argument
  case metrics => exact discreet_metrics c l
  case vendor => exact discreet_generate c l tells_vendorForm _
  case config => exact discreet_generate c l tells_configForm _
  case addGroup => exact discreet_edit c l tells_groupsRequest
  case removeGroup => exact discreet_edit c l tells_groupRequest
  case setOperator => exact discreet_edit c l tells_operatorRequest
  case addCondition => exact discreet_edit c l tells_groupRequest
  case removeCondition => exact discreet_edit c l tells_conditionRequest
  case updateCondition => exact discreet_edit c l tells_conditionUpdateRequest
  case reconcile => exact discreet_edit c l tells_reconcileRequest
  case updateNotice => exact discreet_edit c l tells_noticeUpdateRequest
  case addRow => exact discreet_edit c l tells_rowsRequest
  case removeRow => exact discreet_edit c l tells_rowRequest
  case updateRow => exact discreet_edit c l tells_rowUpdateRequest
  all_goals exact discreet_ok (by decide)

theorem discreet_resolution (r : Resolution) : AnswersDiscreetly (r.answer c l).1 := by
  cases r with
  | found e argument => exact discreet_endpoint c l e argument
  | wrongMethod e => exact discreet_ok (by simp [Reply.withHeaders, Reply.detail, Reply.data])
  | moved path => exact discreet_ok (by simp)
  | unknown => exact discreet_ok (by decide)

end Endpoints

/-!
# Layers
-/

section Layers

variable {s : Settings} {r : Request}

theorem discreet_exchangeOf {o : Outcome} (ho : AnswersDiscreetly o) :
    (exchangeOf s r o).reply.Discreet := by
  cases o with
  | ok reply => exact ho reply rfl
  | error i =>
      have hstatus : Reply.unexpected.status ≠ 422 := by decide
      exact discreet_of_status hstatus

theorem discreet_named {c : Context} {o : Outcome} (ho : AnswersDiscreetly o) :
    AnswersDiscreetly (namedOutcome c o) := by
  cases o with
  | ok reply =>
      rintro answered ⟨⟩
      exact ho reply rfl
  | error i => exact discreet_error i

theorem discreet_inquiry (origin method : Text) :
    (Origin.answerInquiry s r origin method).Discreet := by
  apply discreet_of_status
  change (if (Origin.objections s r origin method).isEmpty = true then Reply.plain 200 _
    else Reply.plain 400 _).status ≠ 422
  split_ifs <;> simp [Reply.plain]

theorem discreet_answer (s : Settings) (ids : IdSupply) (r : Request) (l : Ledger) :
    (answer s ids r l).1.reply.Discreet := by
  cases hinquiry : Origin.inquiry? r with
  | some asked =>
      unfold answer
      rw [hinquiry]
      exact discreet_inquiry asked.1 asked.2
  | none =>
      by_cases hs : s.observed = true
      · rw [exchange_observed hs hinquiry]
        exact discreet_exchangeOf (discreet_named (discreet_resolution _ _ _))
      · rw [exchange_unobserved (Bool.eq_false_iff.mpr hs) hinquiry]
        exact discreet_exchangeOf (discreet_resolution _ _ _)

/--
Whatever a request holds, a reply that rejects its payload tells what was found against it in
locations out of declared names, labels and places, and in fixed sentences with at most a number,
and tells nothing else.
-/
theorem rejections_repeat_nothing {ids : IdSupply} {l : Ledger}
    (h : (answer s ids r l).1.reply.Rejects) :
    ∃ found : List Issue,
      (∀ i ∈ found, (∀ step ∈ i.path, Declared step) ∧ Worded i.message) ∧
        (answer s ids r l).1.reply.content = .data (rejectionOf found) :=
  discreet_answer s ids r l h

end Layers

/-- A request for a vendor document with a number where its name should be, and an unknown key. -/
def numberedVendor : Request :=
  ⟨"POST", "/api/v1/dsl/vendor", [], [("content-type", "application/json")],
    Text.toUtf8 "\x7b\"vendor\":5,\"secret\":\"x\"\x7d", none, "r0"⟩

/-- What is found against it: the kind of the value, and nothing about the key. -/
def numberedFound : List Issue := [⟨[.field "body", .field "vendor"], .notText⟩]

theorem rejects_numberedVendor :
    (answer .standard (.numbered "n") numberedVendor .empty).1.reply.Rejects := by
  refine ⟨by decide +kernel, rejectionOf numberedFound, by decide +kernel, by decide +kernel⟩

/-- Its rejection says that the name should be a text. -/
theorem rejections_repeat_nothing_numbered :
    (answer .standard (.numbered "n") numberedVendor .empty).1.reply.Rejects ∧
      ∃ found : List Issue,
        (∀ i ∈ found, (∀ step ∈ i.path, Declared step) ∧ Worded i.message) ∧
          (answer .standard (.numbered "n") numberedVendor .empty).1.reply.content =
            .data (rejectionOf found) :=
  ⟨rejects_numberedVendor, rejections_repeat_nothing rejects_numberedVendor⟩

end Service
end RuleDraft
