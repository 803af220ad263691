import RuleDraft.CommandLine
import RuleDraft.Proofs.Document.Forms
import RuleDraft.Proofs.Text.Codecs

/-!
# What becomes of a request

A request concerns a form: the one that a new document starts from, or the one in the data
that its source holds.  It may concern none, since the source cannot be read or its data are
no form.  Once there is a form, its generation and then its delivery decide how the run ends.
The ways to end are told apart by what is true before the run, and each of them fixes the
run up to its messages.

Where the document goes to a file, its delivery has two steps: the file is written, and then a
line says so.  If that line cannot be shown, the failure finds the file written.
-/

namespace RuleDraft
namespace CommandLine

variable {φ : Type} [FileSystem φ]

/-!
# What a request concerns
-/

inductive Source.Yields (system : System φ) : Source → List UInt8 → Prop
  | input : Yields system .input system.input
  | file {path : Text} {octets : List UInt8}
      (hread : FileSystem.read system.files path = .ok octets) : Yields system (.file path) octets

inductive Source.Holds (system : System φ) (source : Source) : Text → Prop
  | text {octets : List UInt8} {t : Text} (hoctets : source.Yields system octets)
      (htext : Utf8.read octets = .ok t) : Holds system source (Folder.unifyBreaks t)

namespace Request

def Gives (r : Request) (system : System φ) (v : Value) : Prop :=
  ∃ t, r.source.Holds system t ∧ Json.readDocument t = .ok v

inductive Concerns (r : Request) (system : System φ) : Form → Prop
  | starter (hsource : r.source = .starter) : Concerns r system (.starter r.kind system.ids)
  | given {v : Value} {f : Form} (hgives : r.Gives system v)
      (hform : Form.read r.kind v system.ids = .ok f) : Concerns r system f

/-- The source of the request is no text, or no data. -/
inductive Unreadable (r : Request) (system : System φ) : Prop
  | inaccessible {path : Text} {fault : FileFault} (hsource : r.source = .file path)
      (hread : FileSystem.read system.files path = .error fault)
      (hfiles : fault.isOfFiles = true)
  | undecodable {octets : List UInt8} {fault : Utf8.FaultAt}
      (hoctets : r.source.Yields system octets) (htext : Utf8.read octets = .error fault)
  | malformed {t : Text} {fault : Json.Fault} {position : Nat}
      (hholds : r.source.Holds system t)
      (hdata : Json.readDocument t = .error (.malformed fault position))

def Misshapen (r : Request) (system : System φ) : Prop :=
  ∃ v issues, r.Gives system v ∧ Form.read r.kind v system.ids = .error issues

/-- The request concerns a config form without a validation. -/
def Lacks (r : Request) (system : System φ) : Prop :=
  ∃ f, r.Concerns system f ∧ f.LacksValidation

/-- The request is strict, and it concerns a form with a value that does not fit its type. -/
def Unfit (s : Settings) (r : Request) (system : System φ) : Prop :=
  isStrict s r = true ∧ ∃ f, r.Concerns system f ∧ f.Unfit

/-- The request is refused: its form is unreadable, no form, or unfit under a strict reading. -/
inductive Refused (s : Settings) (r : Request) (system : System φ) : Prop
  | unreadable (h : r.Unreadable system)
  | misshapen (h : r.Misshapen system)
  | unfit (h : r.Unfit s system)

def lineOf (s : Settings) (v : Value) : Text :=
  (Rendering.ofValue s.indent v).content ++ [CodePoint.ofChar '\n']

def Makes (s : Settings) (r : Request) (system : System φ) (line : Text) : Prop :=
  ∃ f v, r.Concerns system f ∧ f.generate (isStrict s r) = .ok v ∧ line = lineOf s v

/-- The document has been written where it belongs, and the report of that cannot be shown. -/
inductive Unreported (s : Settings) (r : Request) (system : System φ) (files' : φ) : Prop
  | intro {line target : Text} {g : Gap} (hline : r.Makes s system line)
      (htarget : r.target = some target)
      (hwrite : FileSystem.write system.files (Folder.tidy target) line.toUtf8 = .ok files')
      (hgap : system.screen.gap? (writtenLine r.kind target) = some g)

/-- What the request meets that the command is not prepared for. -/
inductive Fails (s : Settings) (r : Request) (system : System φ) : Prop
  /-- The path of the form is no path at all. -/
  | path {path : Text} {fault : FileFault} (hsource : r.source = .file path)
      (hread : FileSystem.read system.files path = .error fault)
      (hpath : fault.isOfFiles = false)
  /-- The form has a numeral with too many digits. -/
  | numeral {t : Text} {digits : Nat} (hholds : r.source.Holds system t)
      (hdata : Json.readDocument t = .error (.integerTooLong digits))
  /-- The form nests its containers too deeply. -/
  | depth {t : Text} {container : Json.Container} (hholds : r.source.Holds system t)
      (hdata : Json.readDocument t = .error (.tooDeep container))
  /-- A value of the form breaks its strict reading. -/
  | value {f : Form} (hform : r.Concerns system f) (hstrict : isStrict s r = true)
      (hbreaks : ∃ c ∈ f.conditions, c.Breaks)
  /-- The document cannot be written where it belongs. -/
  | target {line target : Text} {fault : FileFault} (hline : r.Makes s system line)
      (htarget : r.target = some target)
      (hwrite : FileSystem.write system.files (Folder.tidy target) line.toUtf8 = .error fault)
  /-- The output cannot show the document. -/
  | output {line : Text} {g : Gap} (hline : r.Makes s system line) (htarget : r.target = none)
      (hgap : system.screen.gap? line = some g)
  /-- The output cannot show that the document is written. -/
  | report {files' : φ} (h : r.Unreported s system files')

end Request

/-!
# The stages of a run
-/

/-- The data that a request is about, or the end of a run that cannot read it. -/
def dataOf (r : Request) (system : System φ) : Except Closing Value :=
  match r.source with
  | .starter => .ok .null
  | .input => readOctets r.source.label system.input
  | .file path => readFile path (FileSystem.read system.files path)

/-- What is seen of a run that shows nothing and leaves the files as they are. -/
def silent (closing : Closing) (system : System φ) : Finish × φ :=
  (⟨closing.ending, [], closing.errors⟩, system.files)

section Stages

variable {s : Settings} {r : Request} {system : System φ} {trace : Trace φ}

omit [FileSystem φ] in
theorem run_bind {α β : Type} (first : Simulation φ α) (next : α → Simulation φ β)
    (trace : Trace φ) : (first >>= next) trace = next (first trace).1 (first trace).2 :=
  rfl

theorem run_load (r : Request) (trace : Trace φ) :
    (load r : Simulation φ (Except Closing Value)) trace = (dataOf r trace.toSystem, trace) := by
  unfold load dataOf
  cases r.source <;> rfl

theorem run_ids (trace : Trace φ) : (Host.ids : Simulation φ IdSupply) trace = (trace.ids, trace) :=
  rfl

theorem run_print (t : Text) (trace : Trace φ) :
    (Host.print t : Simulation φ (Except Incident Unit)) trace =
      match trace.screen.gap? t with
      | none => (.ok (), { trace with shown := trace.shown ++ t })
      | some g => (.error (trace.screen.incident g), trace) :=
  rfl

theorem run_write (path : Text) (octets : List UInt8) (trace : Trace φ) :
    (Host.write path octets : Simulation φ (Except FileFault Unit)) trace =
      match FileSystem.write trace.files path octets with
      | .ok files => (.ok (), { trace with files })
      | .error f => (.error f, trace) :=
  rfl

theorem run_conclude (t errors : Text) (trace : Trace φ) :
    (conclude t errors : Simulation φ Closing) trace =
      match trace.screen.gap? t with
      | none => (⟨.exit 0, errors⟩, { trace with shown := trace.shown ++ t })
      | some g => (.escape (trace.screen.incident g) errors, trace) := by
  rw [conclude, run_bind, run_print]
  cases trace.screen.gap? t <;> rfl

theorem simulate_conclude {t errors : Text} (hgap : system.screen.gap? t = none) :
    simulate (conclude t errors) system = (⟨.exit 0, t, errors⟩, system.files) := by
  rw [simulate, StateT.run, run_conclude, hgap]
  rfl

theorem simulate_conclude_unshown {t errors : Text} {g : Gap}
    (hgap : system.screen.gap? t = some g) :
    simulate (conclude t errors) system =
      silent (.escape (system.screen.incident g) errors) system := by
  rw [simulate, StateT.run, run_conclude, hgap]
  rfl

theorem run_deliver (r : Request) (content warnings : Text) (trace : Trace φ) :
    (deliver r content warnings : Simulation φ Closing) trace =
      match r.target with
      | none =>
          (conclude (content ++ [CodePoint.ofChar '\n']) warnings : Simulation φ Closing) trace
      | some target =>
          match FileSystem.write trace.files (Folder.tidy target)
              (content ++ [CodePoint.ofChar '\n']).toUtf8 with
          | .ok files =>
              (conclude (writtenLine r.kind target) warnings : Simulation φ Closing)
                { trace with files }
          | .error f => (.escape (f.incident (Folder.tidy target)) warnings, trace) := by
  rw [deliver]
  cases r.target with
  | none => rfl
  | some target =>
      dsimp only
      rw [run_bind, run_write]
      cases FileSystem.write trace.files (Folder.tidy target) _ <;> rfl

/-- A run for a request reads its data, generates, and delivers. -/
theorem perform_eq (s : Settings) (r : Request) (system : System φ) :
    perform s r system =
      match dataOf r system with
      | .error closing => silent closing system
      | .ok data =>
          match contentOf s (generationOf s r system.ids data) with
          | .error closing => silent closing system
          | .ok (content, warnings) => simulate (deliver r content warnings) system := by
  rw [perform, simulate, carryOut, StateT.run, run_bind, run_load]
  dsimp only
  cases dataOf r system with
  | error closing => rfl
  | ok data =>
      dsimp only
      rw [run_bind, run_ids]
      dsimp only
      cases contentOf s (generationOf s r system.ids data) <;> rfl

theorem perform_of_data {closing : Closing} (h : dataOf r system = .error closing) :
    perform s r system = silent closing system := by
  rw [perform_eq, h]

theorem perform_of_content {data : Value} {closing : Closing}
    (hdata : dataOf r system = .ok data)
    (hcontent : contentOf s (generationOf s r system.ids data) = .error closing) :
    perform s r system = silent closing system := by
  rw [perform_eq, hdata]
  dsimp only
  rw [hcontent]

theorem simulate_deliver_of_none {content warnings : Text} (htarget : r.target = none) :
    simulate (deliver r content warnings) system =
      simulate (conclude (content ++ [CodePoint.ofChar '\n']) warnings) system := by
  rw [simulate, StateT.run, run_deliver, htarget]
  rfl

section Targets

variable {content warnings target : Text} (htarget : r.target = some target)
include htarget

theorem simulate_deliver_unwritten {fault : FileFault}
    (hwrite : FileSystem.write system.files (Folder.tidy target)
      (content ++ [CodePoint.ofChar '\n']).toUtf8 = .error fault) :
    simulate (deliver r content warnings) system =
      silent (.escape (fault.incident (Folder.tidy target)) warnings) system := by
  rw [simulate, StateT.run, run_deliver, htarget]
  dsimp only
  rw [hwrite]
  rfl

variable {files' : φ}
  (hwrite : FileSystem.write system.files (Folder.tidy target)
    (content ++ [CodePoint.ofChar '\n']).toUtf8 = .ok files')
include hwrite

/-- Behind a write, the report is all that is left of a delivery. -/
theorem simulate_deliver_of_write :
    simulate (deliver r content warnings) system =
      simulate (conclude (writtenLine r.kind target) warnings)
        { system with files := files' } := by
  rw [simulate, StateT.run, run_deliver, htarget]
  dsimp only
  rw [hwrite]
  rfl

theorem simulate_deliver_written
    (hgap : system.screen.gap? (writtenLine r.kind target) = none) :
    simulate (deliver r content warnings) system =
      (⟨.exit 0, writtenLine r.kind target, warnings⟩, files') :=
  (simulate_deliver_of_write htarget hwrite).trans (simulate_conclude hgap)

theorem simulate_deliver_unreported {g : Gap}
    (hgap : system.screen.gap? (writtenLine r.kind target) = some g) :
    simulate (deliver r content warnings) system =
      (⟨.escaped (system.screen.incident g), [], warnings⟩, files') :=
  (simulate_deliver_of_write htarget hwrite).trans (simulate_conclude_unshown hgap)

end Targets

theorem Source.Yields.dataOf {octets : List UInt8} (h : r.source.Yields system octets) :
    dataOf r system = readOctets r.source.label octets := by
  unfold CommandLine.dataOf
  generalize r.source = source at h ⊢
  cases h with
  | input => rfl
  | file hread =>
      dsimp only
      rw [hread]
      rfl

theorem Source.Yields.ne_starter {source : Source} {octets : List UInt8}
    (h : source.Yields system octets) : source ≠ .starter := by
  cases h with
  | input => nofun
  | file _ => nofun

theorem dataOf_of_holds {t : Text} (h : r.source.Holds system t) :
    dataOf r system = readData r.source.label t := by
  cases h with
  | text hoctets htext => rw [hoctets.dataOf, readOctets, htext]

theorem dataOf_of_gives {v : Value} (h : r.Gives system v) : dataOf r system = .ok v := by
  rcases h with ⟨t, hholds, hdata⟩
  rw [dataOf_of_holds hholds, readData, hdata]

theorem generationOf_of_gives {v : Value} (h : r.Gives system v) (s : Settings) :
    generationOf s r system.ids v = .ofData r.kind (isStrict s r) v system.ids := by
  rcases h with ⟨_, ⟨hoctets, _⟩, _⟩
  have hne := hoctets.ne_starter
  unfold generationOf
  cases hsource : r.source with
  | starter => exact absurd hsource hne
  | input => rfl
  | file path => rfl

theorem contentOf_missing {g : Generation} (h : g.result = .error (.refused .noValidation)) :
    ∃ errors, contentOf s g = .error (.failed 2 errors) := by
  rw [contentOf, h]
  exact ⟨_, rfl⟩

theorem contentOf_refused {g : Generation} {refusal : Refusal}
    (h : g.result = .error (.refused refusal)) (hkind : refusal.kind = .validation) :
    ∃ errors, contentOf s g = .error (.failed 1 errors) := by
  have hother : ¬ refusal.kind = .missingValidation := by
    rw [hkind]
    nofun
  rw [contentOf, h]
  exact ⟨_, congrArg Except.error (if_neg hother)⟩

theorem contentOf_broken {g : Generation} {fault : Fault} (h : g.result = .error (.broken fault)) :
    ∃ i errors, contentOf s g = .error (.escape i errors) := by
  rw [contentOf, h]
  exact ⟨_, _, rfl⟩

theorem contentOf_document {g : Generation} {v : Value} (h : g.result = .ok v) :
    ∃ warnings, contentOf s g = .ok ((Rendering.ofValue s.indent v).content, warnings) := by
  rw [contentOf, h]
  exact ⟨_, rfl⟩

theorem contentOf_eq_ok {g : Generation} {content warnings : Text}
    (h : contentOf s g = .ok (content, warnings)) :
    ∃ v, g.result = .ok v ∧ content = (Rendering.ofValue s.indent v).content := by
  unfold contentOf at h
  cases hresult : g.result with
  | ok v =>
      rw [hresult] at h
      cases h
      exact ⟨v, rfl, rfl⟩
  | error e =>
      rw [hresult] at h
      cases e <;> cases h

/-- The generation of the form that a request concerns. -/
theorem Request.Concerns.generation {f : Form} (h : r.Concerns system f) (s : Settings) :
    ∃ data, dataOf r system = .ok data ∧
      (generationOf s r system.ids data).result = f.generate (isStrict s r) := by
  cases h with
  | starter hsource =>
      refine ⟨.null, ?_, ?_⟩
      · rw [dataOf, hsource]
      · rw [generationOf, hsource]
        exact Form.result_ofStarter r.kind (isStrict s r) system.ids
  | given hgives hform =>
      refine ⟨_, dataOf_of_gives hgives, ?_⟩
      rw [generationOf_of_gives hgives]
      exact Form.result_ofData hform (isStrict s r)

/-- Content that comes of given data is that of a form. -/
theorem Request.Gives.makes {v : Value} {content warnings : Text} (h : r.Gives system v)
    (hcontent : contentOf s (generationOf s r system.ids v) = .ok (content, warnings)) :
    r.Makes s system (content ++ [CodePoint.ofChar '\n']) := by
  rcases contentOf_eq_ok hcontent with ⟨document, hresult, rfl⟩
  rw [generationOf_of_gives h] at hresult
  cases hform : Form.read r.kind v system.ids with
  | error issues =>
      rw [Form.result_ofData_refused hform] at hresult
      cases hresult
  | ok f =>
      rw [Form.result_ofData hform] at hresult
      exact ⟨f, document, .given h hform, hresult, rfl⟩

end Stages

theorem runUnder_of_read {words : List Text} {r : Request} (h : Request.read words = .ok r)
    (s : Settings) (system : System φ) : runUnder s words system = perform s r system := by
  rw [runUnder, perform, command, h]

theorem runUnder_of_help {words : List Text} (h : Request.read words = .error .help)
    (s : Settings) (system : System φ) :
    runUnder s words system = simulate (conclude Arguments.help []) system := by
  rw [runUnder, command, h]

theorem runUnder_of_misuse {words : List Text} {message : Text}
    (h : Request.read words = .error (.misuse message)) (s : Settings) (system : System φ) :
    runUnder s words system = silent (.failed 2 (Arguments.misuse message)) system := by
  rw [runUnder, command, h]
  rfl

/-!
# The ways to end
-/

namespace Request

variable {s : Settings} {r : Request} {system : System φ}

theorem perform_of_unreadable (h : r.Unreadable system) :
    ∃ errors, perform s r system = silent (.failed 1 errors) system := by
  suffices hdata : ∃ errors, dataOf r system = .error (.failed 1 errors) by
    rcases hdata with ⟨errors, hdata⟩
    exact ⟨errors, perform_of_data hdata⟩
  cases h with
  | inaccessible hsource hread hfiles =>
      rw [dataOf, hsource]
      dsimp only
      rw [hread, readFile, if_pos hfiles]
      exact ⟨_, rfl⟩
  | undecodable hoctets htext =>
      rw [hoctets.dataOf, readOctets, htext]
      exact ⟨_, rfl⟩
  | malformed hholds hdata =>
      rw [dataOf_of_holds hholds, readData, hdata]
      exact ⟨_, rfl⟩

theorem perform_of_misshapen (h : r.Misshapen system) :
    ∃ errors, perform s r system = silent (.failed 1 errors) system := by
  rcases h with ⟨v, issues, hgives, hform⟩
  have hresult := Form.result_ofData_refused hform (isStrict s r)
  rw [← generationOf_of_gives hgives] at hresult
  rcases contentOf_refused (s := s) hresult rfl with ⟨errors, hcontent⟩
  exact ⟨errors, perform_of_content (dataOf_of_gives hgives) hcontent⟩

theorem perform_of_unfit (h : r.Unfit s system) :
    ∃ errors, perform s r system = silent (.failed 1 errors) system := by
  rcases h with ⟨hstrict, f, hform, hunfit⟩
  rcases hform.generation s with ⟨data, hdata, hresult⟩
  rcases Form.generate_of_unfit hunfit with ⟨found, hfound⟩
  rw [hstrict, hfound] at hresult
  rcases contentOf_refused (s := s) hresult rfl with ⟨errors, hcontent⟩
  exact ⟨errors, perform_of_content hdata hcontent⟩

theorem perform_of_refused (h : r.Refused s system) :
    ∃ errors, perform s r system = silent (.failed 1 errors) system := by
  cases h with
  | unreadable h => exact perform_of_unreadable h
  | misshapen h => exact perform_of_misshapen h
  | unfit h => exact perform_of_unfit h

theorem perform_of_lacks (h : r.Lacks system) :
    ∃ errors, perform s r system = silent (.failed 2 errors) system := by
  rcases h with ⟨f, hform, hlacks⟩
  rcases hform.generation s with ⟨data, hdata, hresult⟩
  rw [Form.generate_of_lacks hlacks] at hresult
  rcases contentOf_missing (s := s) hresult with ⟨errors, hcontent⟩
  exact ⟨errors, perform_of_content hdata hcontent⟩

/-- Once a document is made, only its delivery is left. -/
theorem perform_of_makes {line : Text} (h : r.Makes s system line) :
    ∃ content warnings, line = content ++ [CodePoint.ofChar '\n'] ∧
      perform s r system = simulate (deliver r content warnings) system := by
  rcases h with ⟨f, v, hform, hdocument, rfl⟩
  rcases hform.generation s with ⟨data, hdata, hresult⟩
  rw [hdocument] at hresult
  rcases contentOf_document (s := s) hresult with ⟨warnings, hcontent⟩
  refine ⟨_, warnings, rfl, ?_⟩
  rw [perform_eq, hdata]
  dsimp only
  rw [hcontent]

theorem perform_of_shown {line : Text} (h : r.Makes s system line) (htarget : r.target = none)
    (hgap : system.screen.gap? line = none) :
    ∃ warnings, perform s r system = (⟨.exit 0, line, warnings⟩, system.files) := by
  rcases perform_of_makes h with ⟨content, warnings, rfl, hperform⟩
  refine ⟨warnings, hperform.trans ?_⟩
  rw [simulate_deliver_of_none htarget, simulate_conclude hgap]

theorem perform_of_written {line target : Text} {files' : φ} (h : r.Makes s system line)
    (htarget : r.target = some target)
    (hwrite : FileSystem.write system.files (Folder.tidy target) line.toUtf8 = .ok files')
    (hgap : system.screen.gap? (writtenLine r.kind target) = none) :
    ∃ warnings, perform s r system =
      (⟨.exit 0, writtenLine r.kind target, warnings⟩, files') := by
  rcases perform_of_makes h with ⟨content, warnings, rfl, hperform⟩
  exact ⟨warnings, hperform.trans (simulate_deliver_written htarget hwrite hgap)⟩

theorem perform_of_unreported {files' : φ} (h : r.Unreported s system files') :
    ∃ i errors, perform s r system = (⟨.escaped i, [], errors⟩, files') := by
  cases h with
  | intro hline htarget hwrite hgap =>
      rcases perform_of_makes hline with ⟨content, warnings, rfl, hperform⟩
      exact ⟨_, warnings, hperform.trans (simulate_deliver_unreported htarget hwrite hgap)⟩

/-- A failing run shows nothing, and only the failure to report changes files. -/
theorem perform_of_fails (h : r.Fails s system) :
    ∃ i errors files', perform s r system = (⟨.escaped i, [], errors⟩, files') ∧
      (files' = system.files ∨ r.Unreported s system files') := by
  suffices hescape :
      (∃ i errors, perform s r system = silent (.escape i errors) system) ∨
        ∃ files', r.Unreported s system files' by
    rcases hescape with ⟨i, errors, hperform⟩ | ⟨files', hreport⟩
    · exact ⟨i, errors, _, hperform, Or.inl rfl⟩
    · rcases perform_of_unreported hreport with ⟨i, errors, hperform⟩
      exact ⟨i, errors, files', hperform, Or.inr hreport⟩
  cases h with
  | @path path fault hsource hread hpath =>
      have hdata : dataOf r system = .error (.escape (fault.incident path) []) := by
        rw [dataOf, hsource]
        dsimp only
        rw [hread, readFile, if_neg (by rw [hpath]; nofun)]
      exact Or.inl ⟨_, _, perform_of_data hdata⟩
  | numeral hholds hdata =>
      have hescape := dataOf_of_holds hholds
      rw [readData, hdata] at hescape
      exact Or.inl ⟨_, _, perform_of_data hescape⟩
  | depth hholds hdata =>
      have hescape := dataOf_of_holds hholds
      rw [readData, hdata] at hescape
      exact Or.inl ⟨_, _, perform_of_data hescape⟩
  | value hform hstrict hbreaks =>
      rcases hform.generation s with ⟨data, hdata, hresult⟩
      rcases Form.generate_of_breaks hbreaks with ⟨fault, hfault⟩
      rw [hstrict, hfault] at hresult
      rcases contentOf_broken (s := s) hresult with ⟨i, errors, hcontent⟩
      exact Or.inl ⟨i, errors, perform_of_content hdata hcontent⟩
  | target hline htarget hwrite =>
      rcases perform_of_makes hline with ⟨content, warnings, rfl, hperform⟩
      exact Or.inl ⟨_, _, hperform.trans (simulate_deliver_unwritten htarget hwrite)⟩
  | output hline htarget hgap =>
      rcases perform_of_makes hline with ⟨content, warnings, rfl, hperform⟩
      rw [simulate_deliver_of_none htarget, simulate_conclude_unshown hgap] at hperform
      exact Or.inl ⟨_, _, hperform⟩
  | report hreport => exact Or.inr ⟨_, hreport⟩

/-- How a run for the request ends, and why. -/
inductive Ends (s : Settings) (r : Request) (system : System φ) : Finish × φ → Prop
  | refused {errors : Text} (h : r.Refused s system) :
      Ends s r system (⟨.exit 1, [], errors⟩, system.files)
  | lacking {errors : Text} (h : r.Lacks system) :
      Ends s r system (⟨.exit 2, [], errors⟩, system.files)
  | failing {i : Incident} {errors : Text} {files' : φ} (h : r.Fails s system)
      (hfiles : files' = system.files ∨ r.Unreported s system files') :
      Ends s r system (⟨.escaped i, [], errors⟩, files')
  | shown {line warnings : Text} (h : r.Makes s system line) (htarget : r.target = none) :
      Ends s r system (⟨.exit 0, line, warnings⟩, system.files)
  | written {line target warnings : Text} {files' : φ} (h : r.Makes s system line)
      (htarget : r.target = some target)
      (hwrite : FileSystem.write system.files (Folder.tidy target) line.toUtf8 = .ok files') :
      Ends s r system (⟨.exit 0, writtenLine r.kind target, warnings⟩, files')

theorem ends_of_refused (h : r.Refused s system) : r.Ends s system (perform s r system) := by
  rcases perform_of_refused h with ⟨errors, hperform⟩
  rw [hperform]
  exact .refused h

theorem ends_of_lacks (h : r.Lacks system) : r.Ends s system (perform s r system) := by
  rcases perform_of_lacks (s := s) h with ⟨errors, hperform⟩
  rw [hperform]
  exact .lacking h

theorem ends_of_fails (h : r.Fails s system) : r.Ends s system (perform s r system) := by
  rcases perform_of_fails h with ⟨i, errors, files', hperform, hfiles⟩
  rw [hperform]
  exact .failing h hfiles

theorem ends_of_makes {line : Text} (h : r.Makes s system line) :
    r.Ends s system (perform s r system) := by
  cases htarget : r.target with
  | none =>
      cases hgap : system.screen.gap? line with
      | some g => exact ends_of_fails (.output h htarget hgap)
      | none =>
          rcases perform_of_shown h htarget hgap with ⟨warnings, hperform⟩
          rw [hperform]
          exact .shown h htarget
  | some target =>
      cases hwrite : FileSystem.write system.files (Folder.tidy target) line.toUtf8 with
      | error fault => exact ends_of_fails (.target h htarget hwrite)
      | ok files' =>
          cases hgap : system.screen.gap? (writtenLine r.kind target) with
          | some g => exact ends_of_fails (.report (.intro h htarget hwrite hgap))
          | none =>
              rcases perform_of_written h htarget hwrite hgap with ⟨warnings, hperform⟩
              rw [hperform]
              exact .written h htarget hwrite

theorem ends_of_form {f : Form} (hform : r.Concerns system f) :
    r.Ends s system (perform s r system) := by
  have hends := f.ends_generate (isStrict s r)
  generalize hresult : f.generate (isStrict s r) = result at hends
  cases hends with
  | missing hlacks => exact ends_of_lacks ⟨f, hform, hlacks⟩
  | unfit _ hstrict hunfit => exact ends_of_refused (.unfit ⟨hstrict, f, hform, hunfit⟩)
  | broken _ hstrict hbreaks => exact ends_of_fails (.value hform hstrict hbreaks)
  | document _ _ => exact ends_of_makes ⟨f, f.document, hform, hresult, rfl⟩

theorem ends_of_octets {octets : List UInt8} (hoctets : r.source.Yields system octets) :
    r.Ends s system (perform s r system) := by
  cases htext : Utf8.read octets with
  | error fault => exact ends_of_refused (.unreadable (.undecodable hoctets htext))
  | ok t =>
      have hholds : r.source.Holds system (Folder.unifyBreaks t) := .text hoctets htext
      cases hdata : Json.readDocument (Folder.unifyBreaks t) with
      | error e =>
          cases e with
          | malformed fault position =>
              exact ends_of_refused (.unreadable (.malformed hholds hdata))
          | integerTooLong digits => exact ends_of_fails (.numeral hholds hdata)
          | tooDeep container => exact ends_of_fails (.depth hholds hdata)
      | ok v =>
          cases hform : Form.read r.kind v system.ids with
          | error issues =>
              exact ends_of_refused (.misshapen ⟨v, issues, ⟨_, hholds, hdata⟩, hform⟩)
          | ok f => exact ends_of_form (.given ⟨_, hholds, hdata⟩ hform)

theorem ends_perform (s : Settings) (r : Request) (system : System φ) :
    r.Ends s system (perform s r system) := by
  cases hsource : r.source with
  | starter => exact ends_of_form (.starter hsource)
  | input =>
      have hoctets : r.source.Yields system system.input := by
        rw [hsource]
        exact .input
      exact ends_of_octets hoctets
  | file path =>
      cases hread : FileSystem.read system.files path with
      | error fault =>
          cases hfiles : fault.isOfFiles with
          | true => exact ends_of_refused (.unreadable (.inaccessible hsource hread hfiles))
          | false => exact ends_of_fails (.path hsource hread hfiles)
      | ok octets =>
          have hoctets : r.source.Yields system octets := by
            rw [hsource]
            exact .file hread
          exact ends_of_octets hoctets

/-!
# What each ending says
-/

theorem perform_refused_iff :
    (perform s r system).1.ending = .exit 1 ↔ r.Refused s system := by
  constructor
  · intro hend
    have hends := r.ends_perform s system
    generalize perform s r system = result at hends hend
    cases hends with
    | refused h => exact h
    | _ => cases hend
  · intro h
    rcases perform_of_refused h with ⟨errors, hperform⟩
    rw [hperform]
    rfl

theorem perform_lacking_iff : (perform s r system).1.ending = .exit 2 ↔ r.Lacks system := by
  constructor
  · intro hend
    have hends := r.ends_perform s system
    generalize perform s r system = result at hends hend
    cases hends with
    | lacking h => exact h
    | _ => cases hend
  · intro h
    rcases perform_of_lacks (s := s) h with ⟨errors, hperform⟩
    rw [hperform]
    rfl

theorem perform_failing_iff :
    (∃ i, (perform s r system).1.ending = .escaped i) ↔ r.Fails s system := by
  constructor
  · rintro ⟨i, hend⟩
    have hends := r.ends_perform s system
    generalize perform s r system = result at hends hend
    cases hends with
    | failing h _ => exact h
    | _ => cases hend
  · intro h
    rcases perform_of_fails h with ⟨i, errors, files', hperform, _⟩
    exact ⟨i, by rw [hperform]⟩

end Request

end CommandLine
end RuleDraft
