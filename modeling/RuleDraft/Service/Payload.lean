import RuleDraft.Intake.Scalar
import RuleDraft.Json.Reader
import RuleDraft.Service.Address
import RuleDraft.Service.Message
import RuleDraft.Text.Blank
import RuleDraft.Text.Encoding

/-!
# Payloads

What a request asks for stands in its body, a JSON document, and in its query.
A body that is no readable document is rejected at once; otherwise the issues of
the query come before those of the body.
-/

namespace RuleDraft
namespace Service

inductive Rejection where
  /-- The body is no text, or holds a number too long or a container too deep. -/
  | undecodable
  | issues (found : List Issue)
  deriving DecidableEq, Repr

inductive Body where
  | absent
  /-- Octets that are not declared to be JSON. -/
  | undeclared
  | document (v : Value)
  deriving DecidableEq, Repr

namespace Body

def declaresJson (contentType : Text) : Bool :=
  let kind := (Text.trim (contentType.cutAt (CodePoint.ofChar ';')).1).lower
  match kind.splitAt (CodePoint.ofChar '/') with
  | [main, sub] =>
      main = Text.ofString "application" &&
        (sub = Text.ofString "json" || (Text.ofString "+json").isSuffixOf sub)
  | _ => false

def readJson (octets : List UInt8) : Except Rejection Value :=
  match Encoding.readDocument octets with
  | none => .error .undecodable
  | some t =>
      match Json.readDocument t with
      | .ok v => .ok v
      | .error (.malformed _ position) =>
          .error (.issues [⟨[.field "body", .item position], .notJson⟩])
      | .error (.integerTooLong _) => .error .undecodable
      | .error (.tooDeep _) => .error .undecodable

/-- The body of a request; a document that is null counts as absent. -/
def ofRequest (r : Request) : Except Rejection Body :=
  if r.body.isEmpty then .ok absent
  else if (r.header? "content-type").any declaresJson then
    (readJson r.body).map fun v =>
      match v with
      | .null => absent
      | v => document v
  else .ok undeclared

end Body

/-- A cause as it shows in a request: any object would do for a model. -/
def shownCause : Cause → Cause
  | .notRecord _ => .notBody
  | c => c

def readBody {α : Type} (read : Value → Intake α) (body : Body) : Intake α :=
  let inBody (r : Intake α) := Intake.under (.field "body") r
  match body with
  | .absent => inBody (Intake.ofChecked (Checked.fail .missing))
  | .undeclared => inBody (Intake.ofChecked (Checked.fail .notBody))
  | .document v => fun ids =>
      let (result, ids) := (inBody (read v)).run ids
      (result.mapError fun issues => issues.map fun i => { i with cause := shownCause i.cause },
        ids)

/-- The strictness that a query asks for, if it does. -/
def readStrict (query : Text) : Checked (Option Bool) :=
  match Address.queryValue? "strict" query with
  | none => .ok none
  | some t =>
      Checked.under (.field "query")
        (Checked.under (.field "strict") ((Checked.bool (.text t)).map some))

def readRequest {α : Type} (read : Value → Intake α) (r : Request) (ids : IdSupply) :
    Except Rejection (α × IdSupply) := do
  let body ← Body.ofRequest r
  match (readBody read body).run ids with
  | (.ok x, ids) => return (x, ids)
  | (.error found, _) => throw (.issues found)

/-- Read the model in the body of a request together with the strictness. -/
def readStrictRequest {α : Type} (read : Value → Intake α) (r : Request) (ids : IdSupply) :
    Except Rejection (α × Option Bool) := do
  let body ← Body.ofRequest r
  let model := ((readBody read body).run ids).1
  match Checked.apply ((readStrict r.query).map fun s x => (x, s)) model with
  | .ok found => return found
  | .error found => throw (.issues found)

end Service
end RuleDraft
