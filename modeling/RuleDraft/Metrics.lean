import RuleDraft.Incident

/-!
# Metrics

Counts of what has happened, by name and labels. A count exists from the first
time it is touched. Samples are listed by name and then by their label values.
-/

namespace RuleDraft

/-- What a count is about. -/
structure Series where
  name : String
  labels : List (String × Text)
  deriving DecidableEq, Repr

abbrev Metrics := Keyed Series Int

namespace Text

/-- Alphabetical order by code point. -/
def precedes : Text → Text → Bool
  | [], [] => false
  | [], _ :: _ => true
  | _ :: _, [] => false
  | a :: as, b :: bs => a.val < b.val || (a = b && precedes as bs)

end Text

namespace Series

def sortKey (s : Series) : List Text := Text.ofString s.name :: s.labels.map Prod.snd

def keyPrecedes : List Text → List Text → Bool
  | [], [] => false
  | [], _ :: _ => true
  | _ :: _, [] => false
  | a :: as, b :: bs => Text.precedes a b || (a = b && keyPrecedes as bs)

end Series

namespace Metrics

def empty : Metrics := []

/-- Add to a count, which starts at zero. -/
def add (name : String) (labels : List (String × Text)) (n : Int) (m : Metrics) : Metrics :=
  let s : Series := ⟨name, labels⟩
  m.put s ((m.get? s).getD 0 + n)

/-! ## Generations -/

inductive Outcome where
  | success
  | refused
  | error
  deriving DecidableEq, Repr

def Outcome.name : Outcome → String
  | success => "success"
  | refused => "refused"
  | error => "error"

/--
The outcome of a generation that something of a lineage was raised in, if anything was. It
counts as a success until a refusal or a failure is seen.
-/
def outcomeOf : Option Lineage → Outcome
  | none => .success
  | some l => if l.isRefusal then .refused else if l.isFailure then .error else .success

def outcome (i : Option Incident) : Outcome := outcomeOf (i.map Incident.lineage)

def generated (document : Text) (o : Outcome) (m : Metrics) : Metrics :=
  (m.add "dsl_generation_duration_seconds_count" [("document", document)] 1).add
    "dsl_generations_total" [("document", document), ("status", o.name)] 1

def raised? {ε α : Type} : Except ε α → Option ε
  | .ok _ => none
  | .error e => some e

/--
Watch a run that generates a document, given the lineage of what can be raised in it. The
run is counted however it ends, and its end is passed on.
-/
def track {ε α : Type} (lineage : ε → Lineage) (document : Text) (run : Except ε α)
    (m : Metrics) : Except ε α × Metrics :=
  (run, m.generated document (outcomeOf ((raised? run).map lineage)))

/-- The upper bounds of the document sizes, the last without bound. -/
def sizeBounds : List (Option Nat × String) :=
  [(some 256, "256.0"), (some 1024, "1024.0"), (some 4096, "4096.0"), (some 16384, "16384.0"),
   (some 65536, "65536.0"), (some 262144, "262144.0"), (none, "+Inf")]

def sized (document : Text) (octets : Nat) (m : Metrics) : Metrics :=
  let m := sizeBounds.foldl
    (fun m b =>
      m.add "dsl_document_bytes_bucket" [("document", document), ("le", b.2)]
        (if b.1.all fun bound => octets ≤ bound then 1 else 0))
    m
  (m.add "dsl_document_bytes_count" [("document", document)] 1).add
    "dsl_document_bytes_sum" [("document", document)] octets

/-! ## Requests -/

def requestBegan (method : Text) (m : Metrics) : Metrics :=
  m.add "http_requests_in_progress" [("method", method)] 1

def requestEnded (method route : Text) (status : Nat) (m : Metrics) : Metrics :=
  ((m.add "http_requests_in_progress" [("method", method)] (-1)).add
    "http_requests_total"
      [("method", method), ("route", route), ("status_code", Text.ofNat status)] 1).add
    "http_request_duration_seconds_count" [("method", method), ("route", route)] 1

/-- Count a failure that no handler answered. -/
def requestFailed (family method route : Text) (m : Metrics) : Metrics :=
  m.add "http_errors_total"
    [("error_type", family), ("method", method), ("route", route)] 1

/-! ## Families -/

/-- The families of counts: a name, what it counts, and how. -/
def familyList : List (String × String × String) :=
  [("http_requests_total", "Total HTTP requests", "counter"),
   ("http_request_duration_seconds", "HTTP request latency in seconds", "histogram"),
   ("http_requests_in_progress", "HTTP requests currently in progress", "gauge"),
   ("http_errors_total", "Total HTTP errors", "counter"),
   ("dsl_generations_total", "Total DSL document generations", "counter"),
   ("dsl_generation_duration_seconds", "DSL document generation duration in seconds",
     "histogram"),
   ("dsl_document_bytes", "Size of serialized DSL documents in bytes", "histogram")]

def families : List String :=
  familyList.flatMap fun (name, about, kind) =>
    ["# HELP " ++ name ++ " " ++ about, "# TYPE " ++ name ++ " " ++ kind]

/-! ## Samples -/

def samples (m : Metrics) : List (Series × Int) :=
  List.mergeSort m fun a b => !Series.keyPrecedes b.1.sortKey a.1.sortKey

def samplesValue (m : Metrics) : Value :=
  .list (m.samples.map fun (s, n) =>
    .list [.text s.name, Value.record (s.labels.map fun l => (l.1, .text l.2)), .int n])

end Metrics

end RuleDraft
