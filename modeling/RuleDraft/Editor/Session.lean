import RuleDraft.Editor.Rows

/-!
# Editing sessions

A session is a list of groups under edit, together with the groups as they were
last saved. A step that fails leaves the session as it was.
-/

namespace RuleDraft
namespace Editor

/-- The groups under edit, the saved ones, and the ids that are still fresh. -/
structure Session where
  groups : List MixedGroup
  saved : List MixedGroup
  ids : IdSupply

/-- One step of editing; arguments that name something are data. -/
inductive Edit where
  | addGroup (withFlags : Bool)
  | removeGroup (group : Text)
  | setOperator (group : Text) (operator : Value)
  | addCondition (group : Text) (withFlags : Bool)
  | removeCondition (group condition : Text)
  | updateCondition (group condition : Text) (field value : Value)
  | updateNotice (group : Text) (field value : Value)
  | save
  | reconcile
  deriving DecidableEq, Repr

namespace Session

/-- A session that starts with groups, saved as they are. -/
def start (groups : List MixedGroup) (ids : IdSupply) : Session := ⟨groups, groups, ids⟩

def withGroups (s : Session) (r : Except Failure (List MixedGroup)) : Except Failure Session :=
  r.map fun groups => { s with groups }

def perform (s : Session) : Edit → Except Failure Session
  | .addGroup withFlags =>
      let (groups, ids) := Editor.addGroup none withFlags s.groups s.ids
      .ok { s with groups, ids }
  | .removeGroup group => .ok { s with groups := Editor.removeGroup group s.groups }
  | .setOperator group operator => s.withGroups (setOperatorNamed group operator s.groups)
  | .addCondition group withFlags =>
      let (groups, ids) := Editor.addCondition group withFlags s.groups s.ids
      .ok { s with groups, ids }
  | .removeCondition group condition =>
      s.withGroups (Editor.removeCondition group condition s.groups)
  | .updateCondition group condition field value =>
      s.withGroups (updateConditionNamed group condition field value s.groups)
  | .updateNotice group field value =>
      s.withGroups (updateNoticeNamed group field value s.groups)
  | .save => .ok { s with saved := s.groups }
  | .reconcile =>
      s.withGroups <|
        (Editor.reconcile s.saved s.groups).map fun groups =>
          groups.map fun g => g.withNotice (some g.notice)

/-- The session after a step; a step that fails changes nothing. -/
def step (s : Session) (e : Edit) : Session :=
  match s.perform e with
  | .ok s => s
  | .error _ => s

def run (s : Session) (edits : List Edit) : Session := edits.foldl step s

end Session

end Editor
end RuleDraft
