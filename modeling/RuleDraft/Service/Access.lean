import RuleDraft.Service.Context

/-!
# Access to the counts

The counts are guarded by a token when one is configured, which production
requires. Tokens are compared in constant time, and that comparison is defined
for ASCII only: with any other text it fails.
-/

namespace RuleDraft
namespace Service

/-- Whether a request may see the counts. -/
inductive Access where
  | granted
  | denied
  /-- Production without a token. -/
  | unconfigured
  /-- A token that cannot be compared. -/
  | incomparable
  deriving DecidableEq, Repr

namespace Access

/-- Whether two tokens are the same, if they can be compared. -/
def sameToken? (given expected : Text) : Option Bool :=
  if given.all CodePoint.isAscii && expected.all CodePoint.isAscii then some (given = expected)
  else none

def decide (s : Settings) (given : Option Text) : Access :=
  match s.metricsToken.filter fun t => ¬ t.isEmpty with
  | some expected =>
      match sameToken? (given.getD []) expected with
      | some true => granted
      | some false => denied
      | none => incomparable
  | none => if s.deployment = .prod then unconfigured else granted

end Access

def incomparableTokens : Incident :=
  ⟨"TypeError", "comparing strings with non-ASCII characters is not supported", .object []⟩

def answerMetrics (c : Context) (l : Ledger) : Outcome × Ledger :=
  match Access.decide c.settings (c.request.header? "x-metrics-token") with
  | .granted =>
      (.ok ⟨200, [("content-type", "text/plain; version=0.0.4; charset=utf-8")],
        .exposition (Metrics.families.map fun line => Text.ofString line)⟩, l)
  | .denied =>
      c.deny 403 "Invalid metrics token"
        (l.write [c.entry .warning "Unauthorized metrics access attempt"
          [("security_event", .bool true), ("event_type", .text "METRICS_ACCESS_DENIED")]])
  | .unconfigured =>
      c.deny 500 "Metrics token not configured. Set METRICS_TOKEN environment variable." l
  | .incomparable => (.error incomparableTokens, l)

end Service
end RuleDraft
