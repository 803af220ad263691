import RuleDraft.Log.Entry
import RuleDraft.Metrics

/-!
# The ledger of the service

What stays of the work when a request has been answered: the counts, and the
entries of the log in order.
-/

namespace RuleDraft
namespace Service

/-- Counts and log entries. -/
structure Ledger where
  metrics : Metrics
  log : List Log.Entry
  deriving DecidableEq, Repr

namespace Ledger

def empty : Ledger := ⟨Metrics.empty, []⟩

def write (entries : List Log.Entry) (l : Ledger) : Ledger := { l with log := l.log ++ entries }

def count (f : Metrics → Metrics) (l : Ledger) : Ledger := { l with metrics := f l.metrics }

end Ledger

end Service
end RuleDraft
