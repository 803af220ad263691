import RuleDraft.Failure
import RuleDraft.Rule.Group

/-!
# Editing groups

Every edit takes a list of groups and gives a new list. An edit is aimed at the
groups with an id, and in them at the conditions with an id; ids need not be
unique, and nothing else changes. An edit that fails gives no list at all.

Reconciling turns edited groups back into validation groups: each takes the
notice of the previous validation with its id.
-/

namespace RuleDraft
namespace Editor

variable {ν : Type}

def mapGroups (id : Text) (f : Group ν → Group ν) (groups : List (Group ν)) :
    List (Group ν) :=
  groups.map fun g => if g.id = id then f g else g

/-- Change the groups with an id, unless the change fails for one of them. -/
def tryGroups (id : Text) (f : Group ν → Except Failure (Group ν)) :
    List (Group ν) → Except Failure (List (Group ν))
  | [] => .ok []
  | g :: rest => do
      let g ← if g.id = id then f g else pure g
      return g :: (← tryGroups id f rest)

/-! ## Groups -/

/-- Append a group with one blank condition. The condition's id is drawn first. -/
def addGroup (notice : ν) (withFlags : Bool) (groups : List (Group ν)) (ids : IdSupply) :
    List (Group ν) × IdSupply :=
  let (condition, ids) := ids.draw
  let (group, ids) := ids.draw
  (groups ++ [⟨group, .all, [Condition.blank condition withFlags], notice⟩], ids)

def removeGroup (id : Text) (groups : List (Group ν)) : List (Group ν) :=
  groups.filter fun g => ¬ g.id = id

def setOperator (id : Text) (operator : LogicalOperator) (groups : List (Group ν)) :
    List (Group ν) :=
  mapGroups id (fun g => { g with operator }) groups

def named? {α : Type} (options : List (String × α)) : Value → Option α
  | .text t => (options.find? fun o => Text.ofString o.1 = t).map Prod.snd
  | _ => none

def setOperatorNamed (id : Text) (operator : Value) (groups : List (Group ν)) :
    Except Failure (List (Group ν)) :=
  match named? LogicalOperator.options operator with
  | some o => .ok (setOperator id o groups)
  | none => .error (.refused (.unknownOperator operator))

/-! ## Conditions -/

/-- Append a blank condition to the groups with an id, each with a fresh id. -/
def addCondition (id : Text) (withFlags : Bool) :
    List (Group ν) → IdSupply → List (Group ν) × IdSupply
  | [], ids => ([], ids)
  | g :: rest, ids =>
      if g.id = id then
        let (condition, ids) := ids.draw
        let (rest, ids) := addCondition id withFlags rest ids
        ({ g with conditions := g.conditions ++ [Condition.blank condition withFlags] } :: rest,
          ids)
      else
        let (rest, ids) := addCondition id withFlags rest ids
        (g :: rest, ids)

/-- Drop the conditions with an id from a group that keeps another one. -/
def dropCondition (group condition : Text) (g : Group ν) : Except Failure (Group ν) :=
  if (g.findCondition condition).isNone then .ok g
  else if g.conditions.length = 1 then .error (.refused (.lastCondition group condition))
  else .ok { g with conditions := g.conditions.filter fun c => ¬ c.id = condition }

def removeCondition (group condition : Text) (groups : List (Group ν)) :
    Except Failure (List (Group ν)) :=
  tryGroups group (dropCondition group condition) groups

def tryConditions (id : Text) (f : Condition → Except Failure Condition) :
    List Condition → Except Failure (List Condition)
  | [] => .ok []
  | c :: rest => do
      let c ← if c.id = id then f c else pure c
      return c :: (← tryConditions id f rest)

/-- Replace a field of a condition, or refuse the value. -/
def replaceField (group condition : Text) (field : Condition.Field) (v : Value)
    (c : Condition) : Except Failure Condition :=
  (c.withField field v).mapError fun issues =>
    .refused (.badConditionField field.name group condition (Checked.messages issues))

def updateCondition (group condition : Text) (field : Condition.Field) (v : Value)
    (groups : List (Group ν)) : Except Failure (List (Group ν)) :=
  tryGroups group
    (fun g => do
      let conditions ← tryConditions condition (replaceField group condition field v) g.conditions
      return { g with conditions })
    groups

def updateConditionNamed (group condition : Text) (field v : Value) (groups : List (Group ν)) :
    Except Failure (List (Group ν)) :=
  match named? Condition.Field.options field with
  | some f => updateCondition group condition f v groups
  | none => .error (.refused (.fixedConditionField field))

/-! ## Notices -/

/-- A group as a validation group; building one checks that it has a condition. -/
def rebuild (n : Notice) (g : Group ν) : Except Failure ValidationGroup :=
  if g.conditions.isEmpty then
    .error (.unreadable "ValidationGroup" [⟨[.field "conditions"], .tooFew 1⟩])
  else .ok (g.withNotice n)

def lastWithId (id : Text) (groups : List (Group ν)) : Option (Group ν) :=
  groups.reverse.find? fun g => g.id = id

def orElse (t other : Text) : Text := if t.isEmpty then other else t

/-- The notice that a previous group hands on; empty texts count as absent. -/
def inheritedNotice [HasNotice ν] : Option (Group ν) → Except Failure Notice
  | none => .ok .standard
  | some g =>
      match g.notice? with
      | none => .error (.broken .noNotice)
      | some n =>
          .ok ⟨orElse n.code Notice.defaultCode, orElse n.message Notice.defaultMessage⟩

def reconcileOne {μ : Type} [HasNotice ν] [HasNotice μ] (previous : List (Group ν))
    (g : Group μ) : Except Failure ValidationGroup := do
  let notice ← inheritedNotice (lastWithId g.id previous)
  if g.notice? = some notice then return g.withNotice notice
  rebuild notice g

/-- Merge edited groups back into validation groups. -/
def reconcile {μ : Type} [HasNotice ν] [HasNotice μ] (previous : List (Group ν))
    (groups : List (Group μ)) : Except Failure (List ValidationGroup) :=
  groups.mapM (reconcileOne previous)

/-- The issues of building a validation group with a new text in its notice. -/
def noticeIssues (g : Group ν) (field : Notice.Field) (v : Value) : Checked Text :=
  let conditions : Checked Unit :=
    if g.conditions.isEmpty then Checked.under (.field "conditions") (Checked.fail (.tooFew 1))
    else .ok ()
  Checked.apply (conditions.map fun _ t => t)
    ((Checked.cleanText v).under (.field field.name))

def replaceNotice [CarriesNotice ν] (group : Text) (field : Notice.Field) (v : Value)
    (g : Group ν) : Except Failure (Group ν) :=
  match g.notice? with
  | none => .error (.broken .noNotice)
  | some n =>
      match noticeIssues g field v with
      | .ok t => .ok { g with notice := CarriesNotice.ofNotice (n.set field t) }
      | .error issues =>
          .error (.refused (.badNoticeField field.name group (Checked.messages issues)))

def updateNotice [CarriesNotice ν] (group : Text) (field : Notice.Field) (v : Value)
    (groups : List (Group ν)) : Except Failure (List (Group ν)) :=
  tryGroups group (replaceNotice group field v) groups

def updateNoticeNamed [CarriesNotice ν] (group : Text) (field v : Value)
    (groups : List (Group ν)) : Except Failure (List (Group ν)) :=
  match named? Notice.Field.options field with
  | some f => updateNotice group f v groups
  | none => .error (.refused (.fixedNoticeField field))

end Editor
end RuleDraft
