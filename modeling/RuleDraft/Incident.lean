import RuleDraft.Failure

/-!
# Incidents

An incident is a failure as it is seen from outside: the name of its family, a
message, and details where the domain gives them. The family decides which
status a service answers with and how a generation counts.
-/

namespace RuleDraft

/-- A failure with the name of its family. -/
structure Incident where
  family : Text
  message : Text
  details : Value
  deriving DecidableEq, Repr

namespace Incident

/-- The families of the domain, the common one first. -/
def domainFamilies : List String :=
  "DslBuilderError" ::
    [RefusalKind.validation, .notFound, .lastCondition, .missingValidation].map RefusalKind.name

def isDomain (i : Incident) : Bool := domainFamilies.any fun f => Text.ofString f = i.family

def refusalKind? (i : Incident) : Option RefusalKind :=
  [RefusalKind.validation, .notFound, .lastCondition, .missingValidation].find? fun k =>
    Text.ofString k.name = i.family

def status (i : Incident) : Nat := (i.refusalKind?.map RefusalKind.status).getD 500

/-- The text of an incident; a missing key is shown in quotes. -/
def shown (i : Incident) : Text :=
  if i.family = Text.ofString "KeyError" then i.message.quoted else i.message

def ofFailure : Failure → Incident
  | .refused r => ⟨r.kind.name, r.message, r.details⟩
  | .unreadable title issues =>
      ⟨"ValidationError", Failure.unreadableMessage title issues, .object []⟩
  | .broken f => ⟨f.name, f.message, .object []⟩

/-- Families that ask a program to stop rather than report a failure. -/
def stopFamilies : List String :=
  ["BaseException", "KeyboardInterrupt", "SystemExit", "GeneratorExit", "CancelledError",
   "BaseExceptionGroup"]

def isStop (i : Incident) : Bool := stopFamilies.any fun f => Text.ofString f = i.family

end Incident

/-! ## Lineages -/

/-- The families that something raised belongs to: its own, and those that its own descends from. -/
abbrev Lineage := List Text

namespace Lineage

/-- What is raised for want of a validation. -/
def isRefusal (l : Lineage) : Bool := l.contains (Text.ofString RefusalKind.missingValidation.name)

/-- What reports a failure. Everything else that is raised asks the program to stop. -/
def isFailure (l : Lineage) : Bool := l.contains (Text.ofString "Exception")

end Lineage

/-- The lineage of an incident, as far as it is told apart. -/
def Incident.lineage (i : Incident) : Lineage :=
  i.family ::
    ((if i.isDomain then [Text.ofString "DslBuilderError"] else []) ++
      (if i.isStop then [] else [Text.ofString "Exception"]) ++
      [Text.ofString "BaseException"])

end RuleDraft
