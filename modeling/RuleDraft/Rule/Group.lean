import RuleDraft.Rule.Condition

/-!
# Groups

A group is an ordered list of conditions under one operator. What a group
carries beside its conditions, its *notice*, is a parameter: nothing for a plain
group, a code and a message for a validation group, and either of the two in a
list where an edit has put plain groups among validation groups.

Reading a group refuses an empty list of conditions. The type does not: an edit
by id can take away several conditions that share an id.
-/

namespace RuleDraft

/-- What is reported when a validation group fails. -/
structure Notice where
  code : Text
  message : Text
  deriving DecidableEq, Repr

namespace Notice

def defaultCode : Text := "VALIDATION_ERROR"

def defaultMessage : Text := "Validation failed."

/-- The notice of a group that has none of its own. -/
def standard : Notice := ⟨defaultCode, defaultMessage⟩

inductive Field where
  | code
  | message
  deriving DecidableEq, Repr

def Field.name : Field → String
  | .code => "error_code"
  | .message => "error_message"

def Field.options : List (String × Field) :=
  [Field.code, .message].map fun f => (f.name, f)

def set (f : Field) (t : Text) (n : Notice) : Notice :=
  match f with
  | .code => { n with code := t }
  | .message => { n with message := t }

end Notice

/-- Conditions under one operator, with a notice. -/
structure Group (ν : Type) where
  id : Text
  operator : LogicalOperator
  conditions : List Condition
  notice : ν
  deriving DecidableEq, Repr

/-- A group without a notice. -/
abbrev ConditionGroup := Group Unit

abbrev ValidationGroup := Group Notice

/-- A group that may have a notice. -/
abbrev MixedGroup := Group (Option Notice)

/-- What a group carries, seen as a notice that may be absent. -/
class HasNotice (ν : Type) where
  notice? : ν → Option Notice

/-- What a group carries can be any notice. -/
class CarriesNotice (ν : Type) extends HasNotice ν where
  ofNotice : Notice → ν

instance : HasNotice Unit where
  notice? _ := none

instance : CarriesNotice Notice where
  notice? := some
  ofNotice := id

instance : CarriesNotice (Option Notice) where
  notice? := id
  ofNotice := some

namespace Group

variable {ν : Type}

/-- Read the conditions of a group: at least one. -/
def conditionsIntake (v : Value) : Intake (List Condition) :=
  Intake.guarded (fun cs => if cs.isEmpty then some (.tooFew 1) else none)
    (Intake.list Condition.intake v)

/-- Read a group with a reader for the notice. -/
def intakeWith (model : String) (notice : List (Text × Value) → Intake ν) :
    Value → Intake (Group ν) :=
  Intake.record model fun r =>
    Group.mk
      <$> Intake.optional r "id" Intake.fresh (Intake.lift Checked.cleanText)
      <*> Intake.optional r "operator" (pure .all)
        (Intake.lift (Checked.chosen .enumeration LogicalOperator.options))
      <*> Intake.required r "conditions" conditionsIntake
      <*> notice r

def plainIntake : Value → Intake ConditionGroup :=
  intakeWith "ConditionGroup" fun _ => pure ()

def noticeIntake (r : List (Text × Value)) : Intake Notice :=
  Notice.mk
    <$> Intake.optional r Notice.Field.code.name (pure Notice.defaultCode)
      (Intake.lift Checked.cleanText)
    <*> Intake.optional r Notice.Field.message.name (pure Notice.defaultMessage)
      (Intake.lift Checked.cleanText)

def validationIntake : Value → Intake ValidationGroup :=
  intakeWith "ValidationGroup" noticeIntake

def noticeFields : Option Notice → List (String × Value)
  | none => []
  | some n =>
      [(Notice.Field.code.name, .text n.code), (Notice.Field.message.name, .text n.message)]

def notice? [HasNotice ν] (g : Group ν) : Option Notice := HasNotice.notice? g.notice

def toValue [HasNotice ν] (g : Group ν) : Value :=
  Value.record <|
    [("id", .text g.id), ("operator", .text g.operator.name),
     ("conditions", .list (g.conditions.map Condition.toValue))] ++ noticeFields g.notice?

def findCondition (g : Group ν) (id : Text) : Option Condition :=
  g.conditions.find? fun c => c.id = id

def withNotice {μ : Type} (n : μ) (g : Group ν) : Group μ :=
  ⟨g.id, g.operator, g.conditions, n⟩

def forget (g : Group ν) : ConditionGroup := g.withNotice ()

end Group

end RuleDraft
