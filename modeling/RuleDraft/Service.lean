import RuleDraft.Service.Answer
import RuleDraft.Service.Origin

/-!
# The service

A request passes through layers. The outermost answers for failures that nobody
was prepared for; the next deals with origins; the next, if requests are
observed, names the request, counts it and writes about it; inside of them the
request is answered where its path leads.
-/

namespace RuleDraft
namespace Service

/-- A reply, and the failure that is passed on after it, if any. -/
structure Exchange where
  reply : Reply
  escaped : Option Incident
  deriving DecidableEq, Repr

/-- The entries that the inner layers know nothing of are written by these. -/
def requestLogger : String := "dsl_builder.request"

/-- Paths about which nothing is written when all is well. -/
def quietPaths : List String := ["/api/v1/health", "/metrics"]

def isQuiet (path : Text) : Bool := quietPaths.any fun p => (Text.ofString p).isPrefixOf path

/-- The name of a request: its own, or a fresh one when it has none. -/
def requestIdOf (s : Settings) (r : Request) : Text :=
  match (r.header? s.requestIdHeader).filter fun t => ¬ t.isEmpty with
  | some t => t
  | none => r.freshId

def requestEntry (c : Context) (route : String) (status : Nat) (level : Log.Level)
    (message : Text) (extra : List (String × Value)) : Log.Entry :=
  .of level requestLogger message
    ([("method", .text c.request.method), ("route", .text route), ("path", .text c.shownPath),
      ("status_code", .nat status)] ++ extra)

def requestLine (c : Context) : Text := Text.join [c.request.method, " ", c.shownPath]

/-- Count and write about an answered request, and name it in the reply. -/
def observeReply (c : Context) (route : String) (reply : Reply) (l : Ledger) :
    Outcome × Ledger :=
  let l := l.count (Metrics.requestEnded c.request.method route reply.status)
  let reply := reply.putHeader c.settings.requestIdHeader.lower c.requestId
  (.ok reply,
    if isQuiet c.shownPath then l
    else l.write [requestEntry c route reply.status .info (requestLine c) []])

def observeFailure (c : Context) (route : String) (i : Incident) (l : Ledger) :
    Outcome × Ledger :=
  let l := l.count fun m =>
    (m.requestEnded c.request.method route 500).requestFailed i.family c.request.method route
  (.error i,
    l.write [requestEntry c route 500 .error
      (Text.join [requestLine c, " - ", i.family, ": ", i.shown])
      [("error_type", .text i.family)]])

def observe (c : Context) (l : Ledger) : Outcome × Ledger :=
  let resolution := Resolution.of true c.request.method c.path
  let l := l.count (Metrics.requestBegan c.request.method)
  match resolution.answer c l with
  | (.ok reply, l) => observeReply c resolution.label reply l
  | (.error i, l) => observeFailure c resolution.label i l

def answerInside (c : Context) (l : Ledger) : Outcome × Ledger :=
  if c.settings.observed then observe c l
  else (Resolution.of false c.request.method c.path).answer c l

def contextOf (s : Settings) (ids : IdSupply) (r : Request) : Context :=
  ⟨s, r, if s.observed then requestIdOf s r else [], ids⟩

/-- Answer a request through all layers. -/
def answer (s : Settings) (ids : IdSupply) (r : Request) (l : Ledger) : Exchange × Ledger :=
  match Origin.inquiry? r with
  | some (origin, method) => (⟨Origin.answerInquiry s r origin method, none⟩, l)
  | none =>
      let c := contextOf s ids r
      match answerInside c l with
      | (.ok reply, l) => (⟨Origin.mark s r reply, none⟩, l)
      | (.error i, l) =>
          (⟨.unexpected, some i⟩,
            l.write [c.entry .error (Text.join ["Unhandled exception: ", i.shown])
              [("path", .text c.shownPath)]])

end Service
end RuleDraft
