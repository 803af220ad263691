import RuleDraft.Text.CodePoint

/-!
# Routes

The endpoints of the service, each with the template of its paths and the
methods that it answers. A request goes to the first endpoint that answers its
method on its path. If only the method is wrong, the path still names an
endpoint; if only a slash at the end is wrong, the request is sent to the other
form of its path.
-/

namespace RuleDraft
namespace Service

/-- What the service can be asked. -/
inductive Endpoint where
  | schema
  | reference
  | authorisation
  | overview
  | health
  | options
  | starter
  | vendor
  | config
  | addGroup
  | removeGroup
  | setOperator
  | addCondition
  | removeCondition
  | updateCondition
  | reconcile
  | updateNotice
  | addRow
  | removeRow
  | updateRow
  | metrics
  deriving DecidableEq, Repr

namespace Endpoint

/-- The endpoints in the order in which they are tried, without the counts. -/
def standing : List Endpoint :=
  [schema, reference, authorisation, overview, health, options, starter, vendor, config,
   addGroup, removeGroup, setOperator, addCondition, removeCondition, updateCondition,
   reconcile, updateNotice, addRow, removeRow, updateRow]

/-- The endpoints in order; an observed service also shows its counts. -/
def all (observed : Bool) : List Endpoint :=
  if observed then standing ++ [metrics] else standing

def starterStem : String := "/api/v1/dsl/defaults/"

def template : Endpoint → String
  | schema => "/openapi.json"
  | reference => "/docs"
  | authorisation => "/docs/oauth2-redirect"
  | overview => "/redoc"
  | health => "/api/v1/health"
  | options => "/api/v1/dsl/options"
  | starter => "/api/v1/dsl/defaults/\x7bkind\x7d"
  | vendor => "/api/v1/dsl/vendor"
  | config => "/api/v1/dsl/config"
  | addGroup => "/api/v1/editor/groups/add"
  | removeGroup => "/api/v1/editor/groups/remove"
  | setOperator => "/api/v1/editor/groups/operator"
  | addCondition => "/api/v1/editor/conditions/add"
  | removeCondition => "/api/v1/editor/conditions/remove"
  | updateCondition => "/api/v1/editor/conditions/update"
  | reconcile => "/api/v1/editor/validations/reconcile"
  | updateNotice => "/api/v1/editor/validations/error"
  | addRow => "/api/v1/editor/pairs/add"
  | removeRow => "/api/v1/editor/pairs/remove"
  | updateRow => "/api/v1/editor/pairs/update"
  | metrics => "/metrics"

def methods : Endpoint → List String
  | schema => ["GET", "HEAD"]
  | reference => ["GET", "HEAD"]
  | authorisation => ["GET", "HEAD"]
  | overview => ["GET", "HEAD"]
  | metrics => ["GET", "HEAD"]
  | health => ["GET"]
  | options => ["GET"]
  | starter => ["GET"]
  | _ => ["POST"]

/--
The argument of an endpoint in a path of its template, empty where the template
has none. A line break after a fixed path does not matter.
-/
def argument? (e : Endpoint) (path : Text) : Option Text :=
  if e = starter then
    match path.dropStart? starterStem with
    | some kind =>
        if kind.isEmpty || kind.contains (CodePoint.ofChar '/') then none else some kind
    | none => none
  else
    let fixed := Text.ofString e.template
    if path = fixed ∨ path = fixed ++ [CodePoint.ofChar '\n'] then some [] else none

def answers (e : Endpoint) (method : Text) : Bool :=
  e.methods.any fun m => Text.ofString m = method

end Endpoint

inductive Resolution where
  | found (e : Endpoint) (argument : Text)
  | wrongMethod (e : Endpoint)
  | moved (path : Text)
  | unknown
  deriving DecidableEq, Repr

namespace Resolution

/-- The other form of a path: without slashes at the end, or with one. -/
def otherForm (path : Text) : Text :=
  if path.getLast? = some (CodePoint.ofChar '/') then
    (path.reverse.dropWhile (· = CodePoint.ofChar '/')).reverse
  else path ++ [CodePoint.ofChar '/']

def among (endpoints : List Endpoint) (method path : Text) : Option Resolution :=
  match endpoints.filter fun e => (e.argument? path).isSome with
  | [] => none
  | first :: rest =>
      match (first :: rest).find? fun e => e.answers method with
      | some e => some (.found e ((e.argument? path).getD []))
      | none => some (.wrongMethod first)

def of (observed : Bool) (method path : Text) : Resolution :=
  let endpoints := Endpoint.all observed
  match among endpoints method path with
  | some r => r
  | none =>
      if path ≠ [CodePoint.ofChar '/'] ∧ (among endpoints method (otherForm path)).isSome then
        .moved (otherForm path)
      else .unknown

/-- The label of a resolution in the counts: the template of its endpoint, if it has one. -/
def label : Resolution → String
  | found e _ => e.template
  | wrongMethod e => e.template
  | moved _ => "unmatched"
  | unknown => "unmatched"

end Resolution

end Service
end RuleDraft
