import RuleDraft.Service.Address
import RuleDraft.Service.Ledger
import RuleDraft.Service.Message
import RuleDraft.Service.Payload
import RuleDraft.Settings

/-!
# Failures of requests

A refusal of the domain, a rejected payload and a denied access are answered,
each in its own form and with an entry in the log. Anything else stays a failure
and is left to the layers around the endpoints.
-/

namespace RuleDraft
namespace Service

/-- A request in the course of its work. -/
structure Context where
  settings : Settings
  request : Request
  /-- The name of the request, empty when requests are not observed. -/
  requestId : Text
  ids : IdSupply

/-- What an endpoint ends with: a reply, or a failure that it was not prepared for. -/
abbrev Outcome := Except Incident Reply

namespace Context

def logger : String := "dsl_builder.main"

def path (c : Context) : Text := Address.decode c.request.path

def shownPath (c : Context) : Text := Address.pathOf c.path

/-- Who asks, as named data. -/
def origin (c : Context) : List (String × Value) :=
  [("request_id", .text c.requestId), ("client_ip", .text (c.request.client.getD "unknown"))]

def entry (c : Context) (level : Log.Level) (message : Text) (extra : List (String × Value)) :
    Log.Entry :=
  .of level logger message (extra ++ c.origin)

def refuse (c : Context) (r : Refusal) (l : Ledger) : Outcome × Ledger :=
  (.ok (.failure r.kind.status r.kind.name r.message r.details),
    l.write [c.entry .warning (Text.join [r.kind.name, ": ", r.message])
      [("details", r.details), ("path", .text c.shownPath)]])

/-- Answer a failure, if it is a refusal. -/
def fail (c : Context) (f : Failure) (l : Ledger) : Outcome × Ledger :=
  match f with
  | .refused r => c.refuse r l
  | f => (.error (Incident.ofFailure f), l)

/-- Answer a rejected payload. The rejected input itself is not repeated. -/
def reject (c : Context) (r : Rejection) (l : Ledger) : Outcome × Ledger :=
  match r with
  | .undecodable => (.ok (.detail 400 "There was an error parsing the body"), l)
  | .issues found =>
      let errors : Value := .list (found.map Refusal.locatedIssue)
      (.ok (.failure 422 "RequestValidationError" "Request validation failed"
          (Value.record [("errors", errors)])),
        l.write [c.entry .warning "Request validation failed"
          [("path", .text c.shownPath), ("errors", errors)]])

/-- Answer with a status and a sentence; a failure of the service itself is logged. -/
def deny (c : Context) (status : Nat) (message : Text) (l : Ledger) : Outcome × Ledger :=
  (.ok (.failure status "HTTPException" message (.object [])),
    if 500 ≤ status then
      l.write [c.entry .error (Text.join ["HTTP ", Text.ofNat status, ": ", message])
        [("path", .text c.shownPath)]]
    else l)

end Context

end Service
end RuleDraft
