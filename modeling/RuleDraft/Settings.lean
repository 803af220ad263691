import RuleDraft.Failure
import RuleDraft.Intake.Scalar
import RuleDraft.Text.LetterCase

/-!
# Settings

The settings of a deployment come from named options and from the environment.
Names are compared without regard to case; an option wins over the environment.
A production deployment has to protect its metrics and must not admit local
origins.
-/

namespace RuleDraft

inductive Deployment where
  | «local»
  | test
  | prod
  deriving DecidableEq, Repr

namespace Deployment

def name : Deployment → String
  | «local» => "local"
  | test => "test"
  | prod => "prod"

def options : List (String × Deployment) :=
  [«local», test, prod].map fun d => (d.name, d)

end Deployment

structure Settings where
  deployment : Deployment
  appName : Text
  logLevel : Text
  observed : Bool
  structuredLogs : Bool
  requestIdHeader : Text
  metricsToken : Option Text
  origins : Text
  indent : Int
  strict : Bool
  deriving DecidableEq, Repr

namespace Settings

def standard : Settings :=
  { deployment := .local
    appName := "dsl-builder-api"
    logLevel := "INFO"
    observed := true
    structuredLogs := true
    requestIdHeader := "X-Request-ID"
    metricsToken := none
    origins := "http://localhost:3000,http://localhost:5173,http://localhost:8080"
    indent := 2
    strict := false }

/-- The origins in the list, trimmed, without the blank ones. -/
def originList (s : Settings) : List Text :=
  ((s.origins.splitAt (CodePoint.ofChar ',')).map Text.trim).filter fun o => ¬ o.isEmpty

def deploymentNames : Text :=
  Text.join ["[", Text.joinWith ", "
    (Deployment.options.map fun d => (Text.ofString d.1).quoted), "]"]

inductive ReadError where
  | issues (found : List Issue)
  /-- The deployment is given by something that is no text. -/
  | notNamed (v : Value)

namespace ReadError

def name : ReadError → String
  | issues _ => "ValidationError"
  | notNamed _ => "AttributeError"

def message : ReadError → Text
  | issues found => Failure.unreadableMessage "Settings" found
  | notNamed v => Text.join ["'", v.kindName, "' object has no attribute 'lower'"]

end ReadError

def readDeployment (t : Text) : Checked Deployment :=
  match Deployment.options.find? fun d => Text.ofString d.1 = t.lower with
  | some d => .ok d.2
  | none =>
      Checked.fail (.rejected (Text.join
        ["app_env must be one of ", deploymentNames, ", got '", t, "'"]))

/-- Read an indent: from one to eight spaces. -/
def readIndent (v : Value) : Checked Int :=
  Checked.guarded
    (fun i =>
      if 1 ≤ i ∧ i ≤ 8 then none
      else some (.rejected (Text.join
        ["dsl_indent must be between 1 and 8, got ", Text.ofInt i])))
    (Checked.integer v)

def readOptionalText : Value → Checked (Option Text)
  | .null => .ok none
  | v => (Checked.text v).map some

/-- What speaks against an origin in production. -/
def isLocalOrigin (o : Text) : Bool :=
  let within (part : String) := (List.range (o.length + 1)).any fun n =>
    (Text.ofString part).isPrefixOf (o.drop n)
  within "localhost" || within "127.0.0.1"

/-- What speaks against settings as a whole. -/
def productionCause (s : Settings) : Option Cause :=
  if s.deployment ≠ .prod then none
  else if s.metricsToken.all List.isEmpty then
    some (.rejected "METRICS_TOKEN must be set in production")
  else (s.originList.find? isLocalOrigin).map fun o =>
    .rejected (Text.join ["CORS origins must not contain localhost in production: ", o])

/-- Named values with lower-case names; of one name the last value counts. -/
def lowerNames (fields : List (Text × Value)) : Keyed Text Value :=
  Keyed.ofRows (fields.map fun f => (f.1.lower, f.2))

/-- Read settings from named options and, behind them, from the environment. -/
def read (environment options : List (Text × Value)) : Except ReadError Settings :=
  -- Options count in any case as well: one named DSL_INDENT sets the indent.
  let named := Keyed.putAll (lowerNames options) (lowerNames environment)
  let get {α : Type} (name : String) (absent : α) (read : Value → Checked α) : Checked α :=
    match named.get? (Text.ofString name) with
    | some v => (read v).under (.field name)
    | none => .ok absent
  let deployment : Except ReadError (Checked Deployment) :=
    match named.get? (Text.ofString "app_env") with
    | none => .ok (.ok .local)
    | some (.text t) => .ok ((readDeployment t).under (.field "app_env"))
    | some v => .error (.notNamed v)
  match deployment with
  | .error e => .error e
  | .ok deployment =>
      let s := Checked.apply (deployment.map Settings.mk)
        (get "app_name" standard.appName Checked.text)
      let s := Checked.apply s (get "app_log_level" standard.logLevel Checked.text)
      let s := Checked.apply s (get "observability_enabled" standard.observed Checked.bool)
      let s := Checked.apply s
        (get "observability_structured_logs" standard.structuredLogs Checked.bool)
      let s := Checked.apply s
        (get "observability_request_id_header" standard.requestIdHeader Checked.text)
      let s := Checked.apply s (get "metrics_token" standard.metricsToken readOptionalText)
      let s := Checked.apply s (get "cors_origins" standard.origins Checked.text)
      let s := Checked.apply s (get "dsl_indent" standard.indent readIndent)
      let s := Checked.apply s (get "dsl_strict_values" standard.strict Checked.bool)
      match Checked.guarded productionCause s with
      | .ok s => .ok s
      | .error found => .error (.issues found)

def toValue (s : Settings) : Value :=
  Value.record
    [("app_env", .text s.deployment.name), ("app_name", s.appName), ("app_log_level", s.logLevel),
     ("observability_enabled", .bool s.observed),
     ("observability_structured_logs", .bool s.structuredLogs),
     ("observability_request_id_header", s.requestIdHeader),
     ("metrics_token", match s.metricsToken with | some t => .text t | none => .null),
     ("cors_origins", s.origins), ("dsl_indent", .int s.indent),
     ("dsl_strict_values", .bool s.strict), ("cors_origins_list", Value.texts s.originList)]

end Settings

end RuleDraft
