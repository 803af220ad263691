import RuleDraft.Proofs.CommandLine.Delivery
import RuleDraft.Proofs.CommandLine.Endings
import RuleDraft.Proofs.Json.Decoding
import RuleDraft.Proofs.Json.Encodings
import RuleDraft.Proofs.Service.Effects

/-!
# The command and the service

A form in a file, given to the command, and the same form in the body of a request, posted to the
service, end alike if both are asked for the same strictness.  A request can ask for leniency where
the settings are strict, but no option of the command does: there, the two end alike exactly if
strictness makes no difference to what is generated.
-/

namespace RuleDraft

open CommandLine Service

/-!
# The layers of the service

The layers around the endpoints put headers on replies and leave everything else.
-/

/-- The replies differ in their headers at most. -/
structure Service.Reply.SameAnswer (reply other : Reply) : Prop where
  status : reply.status = other.status
  content : reply.content = other.content

section Layers

variable {s : Settings} {ids : IdSupply} {r : Service.Request} {reply other : Reply}
  {finish : Finish}

theorem Service.Reply.SameAnswer.tells_iff (h : reply.SameAnswer other) (status : Nat)
    (family : String) : reply.Tells status family ↔ other.Tells status family := by
  unfold Tells
  rw [h.status, h.content]

theorem EndAlike.congr (hend : EndAlike finish other) (h : reply.SameAnswer other) :
    EndAlike finish reply := by
  rcases hend with ⟨hwritten, hcontent, hmissing, hrefused, hescaped⟩
  rw [← h.status] at hwritten hescaped
  rw [← h.content] at hcontent
  rw [← h.tells_iff] at hmissing
  rw [← h.tells_iff, ← h.tells_iff] at hrefused
  exact ⟨hwritten, hcontent, hmissing, hrefused, hescaped⟩

theorem Service.Reply.SameAnswer.symm (h : reply.SameAnswer other) : other.SameAnswer reply :=
  ⟨h.status.symm, h.content.symm⟩

theorem Service.Reply.SameAnswer.endAlike_iff (h : reply.SameAnswer other) :
    EndAlike finish reply ↔ EndAlike finish other :=
  ⟨fun hend => hend.congr h.symm, fun hend => hend.congr h⟩

theorem sameAnswer_exchangeOf (o : Outcome) : (exchangeOf s r o).reply.SameAnswer o.reply := by
  cases o <;> exact ⟨rfl, rfl⟩

theorem sameAnswer_named (c : Context) (o : Outcome) :
    (namedOutcome c o).reply.SameAnswer o.reply := by
  cases o <;> exact ⟨rfl, rfl⟩

theorem Service.Reply.SameAnswer.trans {third : Reply} (h : reply.SameAnswer other)
    (h' : other.SameAnswer third) : reply.SameAnswer third :=
  ⟨h.status.trans h'.status, h.content.trans h'.content⟩

end Layers

/-!
# Posting a form
-/

def Service.formPath (kind : DocumentKind) : Text := Text.join ["/api/v1/dsl/", kind.name]

/-- The request posts a form of a kind as JSON, and asks for a strictness or says nothing of it. -/
structure Service.Request.Posts (r : Service.Request) (kind : DocumentKind) (asked : Option Bool)
    (form : Text) : Prop where
  method : r.method = Text.ofString "POST"
  path : Address.decode r.path = formPath kind
  json : (r.header? (Text.ofString "content-type")).any Body.declaresJson = true
  strict : readStrict r.query = .ok asked
  body : r.body = form.toUtf8

def Service.Endpoint.ofKind : DocumentKind → Endpoint
  | .vendor => .vendor
  | .config => .config

section Posted

variable {s : Settings} {ids : IdSupply} {r : Service.Request} {kind : DocumentKind}
  {asked : Option Bool} {form : Text}

theorem resolution_form (observed : Bool) (kind : DocumentKind) :
    Resolution.of observed (Text.ofString "POST") (formPath kind) = .found (.ofKind kind) [] := by
  cases observed <;> cases kind <;> rfl

theorem Service.Request.Posts.inquiry_eq_none (hr : r.Posts kind asked form) :
    Origin.inquiry? r = none := by
  rw [Origin.inquiry?, hr.method, if_neg (by decide)]

/-- The reply to a posted form is that of its endpoint, but for headers. -/
theorem sameAnswer_posted (hr : r.Posts kind asked form) (s : Settings) (ids : IdSupply)
    (l : Ledger) :
    ∃ l', (answer s ids r l).1.reply.SameAnswer
      (Outcome.reply ((Endpoint.ofKind kind).answer [] (contextOf s ids r) l').1) := by
  have hresolution (observed : Bool) : Resolution.of observed r.method (Address.decode r.path) =
      .found (.ofKind kind) [] := by
    rw [hr.method, hr.path, resolution_form]
  by_cases hs : s.observed = true
  · refine ⟨l.count (Metrics.requestBegan r.method), ?_⟩
    rw [exchange_observed hs hr.inquiry_eq_none, show r.resolution = _ from hresolution true]
    exact (sameAnswer_exchangeOf _).trans (sameAnswer_named _ _)
  · refine ⟨l, ?_⟩
    rw [exchange_unobserved (Bool.eq_false_iff.mpr hs) hr.inquiry_eq_none, hresolution]
    exact sameAnswer_exchangeOf _

end Posted

/-!
# Reading a posted form
-/

def Service.Body.ofData : Value → Body
  | .null => .absent
  | v => .document v

section Reading

variable {r : Service.Request} {kind : DocumentKind} {asked : Option Bool} {form : Text}
  {v : Value} {α : Type} {read : Value → Intake α}

theorem toUtf8_ne_nil (hform : Json.WellFormed form) : form.toUtf8 ≠ [] := by
  intro hnil
  cases form with
  | nil => exact hform ⟨.expectedValue, 0, by decide⟩
  | cons c rest =>
      rw [Text.toUtf8_cons] at hnil
      exact c.toOctets_ne_nil (List.append_eq_nil_iff.mp hnil).left

theorem ofRequest_posted (hr : r.Posts kind asked form) (hform : Json.WellFormed form) :
    Body.ofRequest r = (Body.readJson form.toUtf8).map Body.ofData := by
  have hempty : r.body.isEmpty = false := by
    rw [hr.body]
    exact List.isEmpty_eq_false_iff.mpr (toUtf8_ne_nil hform)
  rw [Body.ofRequest, hempty, if_neg Bool.false_ne_true, if_pos hr.json, hr.body]
  rfl

theorem readJson_read (hform : Json.WellFormed form) (hencodable : form.Encodable)
    (hv : Json.readDocument form = .ok v) : Body.readJson form.toUtf8 = .ok v := by
  rw [Body.readJson, Json.readDocument_toUtf8 hform hencodable]
  dsimp only
  rw [hv]

/-- Data in a body is read like data as such, but for what the issues say. -/
theorem readBody_ofData {R : α → α → Prop} (hsteady : (read v).Steady R)
    (hnull : ∃ issues, ∀ ids, ((read .null).run ids).1 = .error issues) (ids ids' : IdSupply) :
    (∃ x y, ((readBody read (.ofData v)).run ids).1 = .ok x ∧ ((read v).run ids').1 = .ok y ∧
        R x y) ∨
      ∃ found issues, ((readBody read (.ofData v)).run ids).1 = .error found ∧
        ((read v).run ids').1 = .error issues := by
  by_cases hv : v = .null
  · rcases hnull with ⟨issues, hissues⟩
    rw [hv]
    exact Or.inr ⟨_, issues, rfl, hissues ids'⟩
  · have hbody : Body.ofData v = .document v := by
      cases v
      case null => exact absurd rfl hv
      all_goals rfl
    have hresult : ((readBody read (.document v)).run ids).1 =
        (((read v).run ids).1.under (.field (Text.ofString "body"))).mapError
          fun issues => issues.map fun i => { i with cause := shownCause i.cause } := rfl
    rw [hbody, hresult]
    generalize ((read v).run ids).1 = first, ((read v).run ids').1 = second,
      hsteady ids ids' = hagree
    cases hagree with
    | @ok x y hxy => exact Or.inl ⟨x, y, rfl, rfl, hxy⟩
    | error issues => exact Or.inr ⟨_, issues, rfl, rfl⟩

end Reading

/-!
# Forms that are read
-/

/-- Forms are read and generated in a way that only their content decides. -/
structure Service.Generates {α : Type} (read : Value → Intake α) (make : Bool → α → Generation)
    (R : α → α → Prop) : Prop where
  steady : ∀ v, (read v).Steady R
  null : ∃ issues, ∀ ids, ((read .null).run ids).1 = .error issues
  congr : ∀ strict x y, R x y → (make strict x).result = (make strict y).result
  stops : ∀ strict x e, (make strict x).result = .error e → StopsGeneration e
  decides : ∀ strict other x, ((make strict x).GivesDocument ↔ (make other x).GivesDocument) →
    (make strict x).result = (make other x).result

theorem generates_vendor :
    Generates VendorForm.intake Generation.ofVendor VendorForm.SameContent where
  steady := VendorForm.steady_intake
  null := ⟨_, fun _ => rfl⟩
  congr strict _ _ h := (Form.alike_vendor h).generate strict
  stops _ _ _ h := VendorForm.stops_generate (map_eq_error.mp h)
  decides _ _ _ h := congrArg (Except.map VendorDocument.toValue)
    (VendorForm.generate_eq_of_iff (map_isOk_iff.symm.trans (h.trans map_isOk_iff)))

theorem generates_config :
    Generates ConfigForm.intake Generation.ofConfig ConfigForm.SameContent where
  steady := ConfigForm.steady_intake
  null := ⟨_, fun _ => rfl⟩
  congr strict _ _ h := (Form.alike_config h).generate strict
  stops _ _ _ h := ConfigForm.stops_generate (map_eq_error.mp h)
  decides _ _ _ h := congrArg (Except.map ConfigDocument.toValue)
    (ConfigForm.generate_eq_of_iff (map_isOk_iff.symm.trans (h.trans map_isOk_iff)))

section Forms

variable {s : Settings} {r : Service.Request} {kind : DocumentKind} {asked : Option Bool}
  {form : Text} {v : Value} {α : Type} {read : Value → Intake α} {R : α → α → Prop}
  {make : Bool → α → Generation}

def generationFrom (kind : DocumentKind) (title : String) (read : Value → Intake α)
    (make : α → Generation) (v : Value) (ids : IdSupply) : Generation :=
  match readForm title read v ids with
  | .ok f => make f
  | .error e => ⟨kind, .error e, []⟩

/-- One form ends alike under two strictnesses exactly if they give one result. -/
theorem endAlike_form_iff (title : String) (hgenerates : Generates read make R)
    (hr : r.Posts kind asked form) (hform : Json.WellFormed form) (hencodable : form.Encodable)
    (hv : Json.readDocument form = .ok v) (strict : Bool) (ids ids' : IdSupply) (l : Ledger) :
    EndAlike (finishOf s (generationFrom kind title read (make strict) v ids'))
        (Outcome.reply (generate read make (contextOf s ids r) l).1) ↔
      (generationFrom kind title read (make strict) v ids').result =
        (generationFrom kind title read (make (asked.getD s.strict)) v ids').result := by
  have hbody : Body.ofRequest r = .ok (.ofData v) := by
    rw [ofRequest_posted hr hform, readJson_read hform hencodable hv]
    rfl
  have hread : readStrictRequest read (contextOf s ids r).request (contextOf s ids r).ids =
      (((readBody read (.ofData v)).run ids).1.map fun x => (x, asked)).mapError .issues := by
    change readStrictRequest read r ids = _
    rw [readStrictRequest, hbody, ok_bind, hr.strict]
    dsimp only
    cases ((readBody read (.ofData v)).run ids).1 <;> rfl
  unfold generate generationFrom readForm
  rw [hread]
  rcases readBody_ofData (hgenerates.steady v) hgenerates.null ids ids' with
    ⟨x, y, hx, hy, hxy⟩ | ⟨found, issues, hx, hy⟩
  · have hcongr := hgenerates.congr (asked.getD s.strict) x y hxy
    rw [hx, hy]
    change EndAlike (finishOf s (make strict y)) (Outcome.reply (answerGeneration _
        (make (asked.getD s.strict) x) l).1) ↔
      (make strict y).result = (make (asked.getD s.strict) y).result
    rw [← hcongr]
    refine endAlike_generation_iff (c := contextOf s ids r) (hgenerates.stops _ x)
      (fun hgives => ?_) rfl l
    rw [hcongr]
    refine hgenerates.decides _ _ y (hgives.trans ?_)
    rw [Generation.GivesDocument, Generation.GivesDocument, hcongr]
  · rw [hx, hy]
    exact iff_of_true (endAlike_refused rfl (Or.inl (tells_failure _ _ _ _))) rfl

end Forms

section Kinds

variable {s : Settings} {r : Service.Request} {kind : DocumentKind} {asked : Option Bool}
  {form : Text} {v : Value}

theorem ofData_vendor (strict : Bool) (v : Value) (ids : IdSupply) :
    Generation.ofData .vendor strict v ids =
      generationFrom .vendor VendorForm.title VendorForm.intake (Generation.ofVendor strict) v
        ids := by
  rw [Generation.ofData, generationFrom]
  cases readForm VendorForm.title VendorForm.intake v ids <;> rfl

theorem ofData_config (strict : Bool) (v : Value) (ids : IdSupply) :
    Generation.ofData .config strict v ids =
      generationFrom .config ConfigForm.title ConfigForm.intake (Generation.ofConfig strict) v
        ids := by
  rw [Generation.ofData, generationFrom]
  cases readForm ConfigForm.title ConfigForm.intake v ids <;> rfl

/-- Data that is read ends alike, posted and in a file, exactly if it gives one result. -/
theorem endAlike_ofData_iff (hr : r.Posts kind asked form) (hform : Json.WellFormed form)
    (hencodable : form.Encodable) (hv : Json.readDocument form = .ok v) (strict : Bool)
    (ids ids' : IdSupply) (l : Ledger) :
    EndAlike (finishOf s (.ofData kind strict v ids'))
        (Outcome.reply ((Endpoint.ofKind kind).answer [] (contextOf s ids r) l).1) ↔
      (Generation.ofData kind strict v ids').result =
        (Generation.ofData kind (asked.getD s.strict) v ids').result := by
  cases kind with
  | vendor =>
      rw [ofData_vendor, ofData_vendor]
      exact endAlike_form_iff VendorForm.title generates_vendor hr hform hencodable hv strict ids
        ids' l
  | config =>
      rw [ofData_config, ofData_config]
      exact endAlike_form_iff ConfigForm.title generates_config hr hform hencodable hv strict ids
        ids' l

end Kinds

/-!
# Forms in files
-/

section Files

variable {s : Settings} {words : List Text} {kind : DocumentKind} {path : Text} {strict : Bool}
  {system : System Folder} {form : Text} {v : Value}

theorem gives_file (hfile : system.files.read path = .ok form.toUtf8)
    (hform : Json.WellFormed form) (hencodable : form.Encodable)
    (hv : Json.readDocument form = .ok v) :
    Request.Gives ⟨kind, .file path, strict, none⟩ system v := by
  have htext := Utf8.read_toUtf8_iff.mpr hencodable
  refine ⟨_, .text (.file hfile) htext, ?_⟩
  rw [Json.readDocument_unifyBreaks hform, hv]

/-- Without a target, a request whose data is at hand ends as its generation does. -/
theorem perform_shown {q : CommandLine.Request} (htarget : q.target = none)
    (hgives : q.Gives system v) (hscreen : system.screen.HasCharacters) :
    (perform s q system).1 = finishOf s (generationOf s q system.ids v) := by
  have hdata := dataOf_of_gives hgives
  rw [finishOf]
  cases hcontent : contentOf s (generationOf s q system.ids v) with
  | error closing =>
      rw [perform_of_content hdata hcontent]
      rfl
  | ok shown =>
      rcases shown with ⟨content, warnings⟩
      have hline := hgives.makes hcontent
      have hgap := hscreen.gap?_eq_none hline.encodable
      rw [perform_eq, hdata]
      dsimp only
      rw [hcontent]
      dsimp only
      rw [simulate_deliver_of_none htarget, simulate_conclude hgap]

theorem run_read (hwords : Request.read words = .ok ⟨kind, .file path, strict, none⟩)
    (hfile : system.files.read path = .ok form.toUtf8) (hform : Json.WellFormed form)
    (hencodable : form.Encodable) (hv : Json.readDocument form = .ok v)
    (hscreen : system.screen.HasCharacters) :
    (runUnder s words system).1 =
      finishOf s (.ofData kind (if strict then true else s.strict) v system.ids) := by
  rw [runUnder_of_read hwords]
  exact perform_shown rfl (gives_file hfile hform hencodable hv) hscreen

end Files

/-!
# The exact condition
-/

/-- The data gives the same as a form, whether strictly or not. -/
def Generation.Indifferent (kind : DocumentKind) (v : Value) : Prop :=
  ∀ ids, (ofData kind true v ids).result = (ofData kind false v ids).result

/-- One supply of ids stands for all. -/
theorem Generation.indifferent_iff {kind : DocumentKind} {v : Value} (ids : IdSupply) :
    Indifferent kind v ↔ (ofData kind true v ids).result = (ofData kind false v ids).result := by
  constructor
  · intro h
    exact h ids
  · intro h ids'
    rw [result_ofData_eq kind true v ids' ids, h, result_ofData_eq kind false v ids ids']

section Agreement

variable {s : Settings} {words : List Text} {kind : DocumentKind} {path : Text} {strict : Bool}
  {system : System Folder} {asked : Option Bool} {file body : Text} {r : Service.Request}
  {v : Value}

theorem endAlike_read_iff (hwords : Request.read words = .ok ⟨kind, .file path, strict, none⟩)
    (hfile : system.files.read path = .ok file.toUtf8) (hr : r.Posts kind asked body)
    (hencodable : file.Encodable ∧ body.Encodable) (hdata : Json.readDocument file = .ok v)
    (hposted : Json.readDocument body = .ok v) (hscreen : system.screen.HasCharacters)
    (ids : IdSupply) (l : Ledger) :
    EndAlike (runUnder s words system).1 (answer s ids r l).1.reply ↔
      (Generation.ofData kind (if strict then true else s.strict) v system.ids).result =
        (Generation.ofData kind (asked.getD s.strict) v system.ids).result := by
  rcases sameAnswer_posted hr s ids l with ⟨l', hsame⟩
  rw [run_read hwords hfile (Json.WellFormed.of_ok hdata) hencodable.left hdata hscreen,
    hsame.endAlike_iff]
  exact endAlike_ofData_iff hr (Json.WellFormed.of_ok hposted) hencodable.right hposted _ ids _ l'

/--
If the command is told to be strict exactly where the request says so, then both end alike, unless
the request asks for leniency under strict settings and strictness makes a difference.
-/
theorem ends_alike_iff (hwords : Request.read words = .ok ⟨kind, .file path, strict, none⟩)
    (hfile : system.files.read path = .ok file.toUtf8) (hr : r.Posts kind asked body)
    (hstrict : strict = true ↔ asked = some true)
    (hencodable : file.Encodable ∧ body.Encodable) (hdata : Json.readDocument file = .ok v)
    (hposted : Json.readDocument body = .ok v) (hscreen : system.screen.HasCharacters)
    (ids : IdSupply) (l : Ledger) :
    EndAlike (runUnder s words system).1 (answer s ids r l).1.reply ↔
      (asked = some false → s.strict = true → Generation.Indifferent kind v) := by
  rw [endAlike_read_iff hwords hfile hr hencodable hdata hposted hscreen]
  match asked, strict, hstrict with
  | none, false, _ => exact iff_of_true rfl nofun
  | some true, true, _ => exact iff_of_true rfl nofun
  | some false, false, _ =>
      cases hs : s.strict with
      | false => exact iff_of_true rfl nofun
      | true =>
          rw [Generation.indifferent_iff system.ids]
          exact ⟨fun h _ _ => h, fun h => h rfl rfl⟩
  | none, true, hstrict => cases hstrict.mp rfl
  | some false, true, hstrict => cases hstrict.mp rfl
  | some true, false, hstrict => cases hstrict.mpr rfl

end Agreement

/-!
# A file and a request with one form
-/

def vendorWords : List Text := ["vendor", "f.json"]

/-- A system with a form in that file, whose output is in UTF-8. -/
def systemWith (form : Text) : System Folder :=
  ⟨[], .numbered "new", .utf8, [(["f.json"], form.toUtf8)]⟩

def postOf (query form : Text) : Service.Request :=
  ⟨"POST", "/api/v1/dsl/vendor", query, [("content-type", "application/json")], form.toUtf8, none,
    "r0"⟩

theorem read_vendorWords :
    Request.read vendorWords = .ok ⟨.vendor, .file "f.json", false, none⟩ := by
  rfl

theorem read_systemWith (form : Text) :
    (systemWith form).files.read "f.json" = .ok form.toUtf8 :=
  rfl

theorem posts_postOf {query form : Text} {asked : Option Bool}
    (hquery : readStrict query = .ok asked) : (postOf query form).Posts .vendor asked form where
  method := rfl
  path := by
    change Address.decode "/api/v1/dsl/vendor" = formPath .vendor
    rfl
  json := by
    change (Headers.value? "content-type" [("content-type", "application/json")]).any
      Body.declaresJson = true
    rfl
  strict := hquery
  body := rfl

/-- A vendor form over two lines, with a line break as files can have it. -/
def twoLines : Text := "\x7b\r\n\"vendor\": \"Acme\"\x7d"

def oneLine : Text := "\x7b\"vendor\":\"Acme\"\x7d"

def acme : Value := .object [("vendor", .text "Acme")]

/-- The form over two lines and the form in one line end alike. -/
theorem ends_alike_iff_acme :
    Request.read vendorWords = .ok ⟨.vendor, .file "f.json", false, none⟩ ∧
      (systemWith twoLines).files.read "f.json" = .ok twoLines.toUtf8 ∧
      (postOf [] oneLine).Posts .vendor none oneLine ∧
      (false = true ↔ (none : Option Bool) = some true) ∧
      (twoLines.Encodable ∧ oneLine.Encodable) ∧ Json.readDocument twoLines = .ok acme ∧
      Json.readDocument oneLine = .ok acme ∧ (systemWith twoLines).screen.HasCharacters ∧
      EndAlike (runUnder .standard vendorWords (systemWith twoLines)).1
        (answer .standard (.numbered "n") (postOf [] oneLine) .empty).1.reply := by
  have hposts : (postOf [] oneLine).Posts .vendor none oneLine := posts_postOf rfl
  have hstrict : false = true ↔ (none : Option Bool) = some true := iff_of_false nofun nofun
  have hencodable : twoLines.Encodable ∧ oneLine.Encodable :=
    ⟨Text.encodable_ofString _, Text.encodable_ofString _⟩
  have htwo : Json.readDocument twoLines = .ok acme := by decide +kernel
  have hone : Json.readDocument oneLine = .ok acme := by decide +kernel
  have hscreen : (systemWith twoLines).screen.HasCharacters := Codec.hasCharacters_utf8
  refine ⟨read_vendorWords, rfl, hposts, hstrict, hencodable, htwo, hone, hscreen, ?_⟩
  exact (ends_alike_iff read_vendorWords (read_systemWith twoLines) hposts hstrict hencodable htwo
    hone hscreen _ .empty).mpr nofun

def strictSettings : Settings := { Settings.standard with strict := true }

/-- A vendor form with a condition whose value does not fit its type. -/
def unfit : Text :=
  Text.ofString "\x7b\"preconditions\":[\x7b\"conditions\":[" ++
    Text.ofString "\x7b\"key\":\"k\",\"type\":\"data_type\",\"value\":\"decimal\"\x7d]\x7d]\x7d"

def unfitData : Value :=
  .object [("preconditions", .list [.object [("conditions", .list [.object [("key", .text "k"),
    ("type", .text "data_type"), ("value", .text "decimal")]])]])]

theorem not_indifferent_unfit : ¬ Generation.Indifferent .vendor unfitData := by
  intro h
  have hdocument := congrArg Except.toBool (h (.numbered "new"))
  revert hdocument
  decide +kernel

/--
Under strict settings, the command refuses a form with a value that does not fit, and a request
that asks for leniency is answered with the document.
-/
theorem lenient_request_ends_unlike :
    Request.read vendorWords = .ok ⟨.vendor, .file "f.json", false, none⟩ ∧
      (systemWith unfit).files.read "f.json" = .ok unfit.toUtf8 ∧
      (postOf "strict=false" unfit).Posts .vendor (some false) unfit ∧
      (false = true ↔ some false = some true) ∧ unfit.Encodable ∧
      Json.readDocument unfit = .ok unfitData ∧
      ¬ EndAlike (runUnder strictSettings vendorWords (systemWith unfit)).1
        (answer strictSettings (.numbered "n") (postOf "strict=false" unfit) .empty).1.reply := by
  have hposts : (postOf "strict=false" unfit).Posts .vendor (some false) unfit :=
    posts_postOf (by decide +kernel)
  have hencodable : unfit.Encodable :=
    Text.encodable_append_iff.mpr ⟨Text.encodable_ofString _, Text.encodable_ofString _⟩
  have hdata : Json.readDocument unfit = .ok unfitData := by decide +kernel
  refine ⟨read_vendorWords, rfl, hposts, iff_of_false nofun nofun, hencodable, hdata, ?_⟩
  rw [endAlike_read_iff read_vendorWords (read_systemWith unfit) hposts ⟨hencodable, hencodable⟩
    hdata hdata Codec.hasCharacters_utf8]
  exact mt (Generation.indifferent_iff _).mpr not_indifferent_unfit

end RuleDraft
