import RuleDraft.Document.Generation
import RuleDraft.Document.Rendering
import RuleDraft.Editor.Request
import RuleDraft.Editor.Rows
import RuleDraft.Editor.Groups
import RuleDraft.Service.Access
import RuleDraft.Service.Route

/-!
# Answers

What each endpoint does. The editing endpoints keep nothing between requests:
the nodes come with the request, and the edited nodes go with the reply.
-/

namespace RuleDraft
namespace Service

/-! ## Generation -/

def incident? {α : Type} : Except Failure α → Option Incident
  | .ok _ => none
  | .error f => some (Incident.ofFailure f)

def answerGeneration (c : Context) (g : Generation) (l : Ledger) : Outcome × Ledger :=
  let l := (l.write g.journal).count
    (Metrics.generated g.kind.name (Metrics.outcome (incident? g.result)))
  match g.result with
  | .error f => c.fail f l
  | .ok v =>
      let r := Rendering.ofValue c.settings.indent v
      (.ok (.data 200 (Value.record
          [("document", r.document), ("content", r.content), ("checksum", r.checksum)])),
        l.count (Metrics.sized g.kind.name r.content.utf8Size))

/-- Answer a request to generate the document of a form. -/
def generate {α : Type} (read : Value → Intake α) (make : Bool → α → Generation)
    (c : Context) (l : Ledger) : Outcome × Ledger :=
  match readStrictRequest read c.request c.ids with
  | .error r => c.reject r l
  | .ok (form, strict) => answerGeneration c (make (strict.getD c.settings.strict) form) l

/-! ## Editing -/

def answerEdit {α : Type} (name : String) (write : α → Value) (c : Context)
    (edited : Except Failure (List α)) (l : Ledger) : Outcome × Ledger :=
  match edited with
  | .ok nodes => (.ok (.data 200 (Value.record [(name, .list (nodes.map write))])), l)
  | .error f => c.fail f l

def edit {α β : Type} (title : String) (fields : RequestFields → Intake α) (name : String)
    (write : β → Value) (run : α → IdSupply → Except Failure (List β)) (c : Context)
    (l : Ledger) : Outcome × Ledger :=
  match readRequest (Intake.record title fields) c.request c.ids with
  | .error r => c.reject r l
  | .ok (q, ids) => answerEdit name write c (run q ids) l

def editGroups {α : Type} (title : String) (fields : RequestFields → Intake α)
    (run : α → IdSupply → Except Failure (List ConditionGroup)) (c : Context) (l : Ledger) :
    Outcome × Ledger :=
  edit title fields "groups" Group.toValue run c l

def editValidations {α : Type} (title : String) (fields : RequestFields → Intake α)
    (run : α → IdSupply → Except Failure (List ValidationGroup)) (c : Context) (l : Ledger) :
    Outcome × Ledger :=
  edit title fields "validations" Group.toValue run c l

def editRows {α : Type} (title : String) (fields : RequestFields → Intake α)
    (run : α → IdSupply → Except Failure (List Row)) (c : Context) (l : Ledger) :
    Outcome × Ledger :=
  edit title fields "pairs" Row.toValue run c l

/-! ## Endpoints -/

def answerStarter (kind : Text) (c : Context) (l : Ledger) : Outcome × Ledger :=
  match DocumentKind.ofName? kind with
  | some .vendor => (.ok (.data 200 (VendorForm.starter c.ids).toValue), l)
  | some .config => (.ok (.data 200 (ConfigForm.starter c.ids).toValue), l)
  | none => c.refuse (.unknownDocumentKind kind) l

def Endpoint.answer (e : Endpoint) (argument : Text) (c : Context) (l : Ledger) :
    Outcome × Ledger :=
  match e with
  | .schema | .reference | .authorisation | .overview => (.ok (.plain 200 []), l)
  | .health => (.ok (.data 200 (Value.record [("ok", .bool true)])), l)
  | .options => (.ok (.data 200 catalogs), l)
  | .starter => answerStarter argument c l
  | .vendor => generate VendorForm.intake Generation.ofVendor c l
  | .config => generate ConfigForm.intake Generation.ofConfig c l
  | .addGroup =>
      editGroups "GroupsRequest" GroupsRequest.fields
        (fun q ids => .ok (Editor.addGroup () q.withFlags q.groups ids).1) c l
  | .removeGroup =>
      editGroups "GroupRequest" GroupRequest.fields
        (fun q _ => .ok (Editor.removeGroup q.groupId q.groups)) c l
  | .setOperator =>
      editGroups "GroupOperatorRequest" OperatorRequest.fields
        (fun q _ => .ok (Editor.setOperator q.groupId q.operator q.groups)) c l
  | .addCondition =>
      editGroups "GroupRequest" GroupRequest.fields
        (fun q ids => .ok (Editor.addCondition q.groupId q.withFlags q.groups ids).1) c l
  | .removeCondition =>
      editGroups "ConditionRequest" ConditionRequest.fields
        (fun q _ => Editor.removeCondition q.groupId q.conditionId q.groups) c l
  | .updateCondition =>
      editGroups "ConditionUpdateRequest" ConditionUpdateRequest.fields
        (fun q _ =>
          Editor.updateCondition q.groupId q.conditionId q.field q.valueData q.groups) c l
  | .reconcile =>
      editValidations "ReconcileRequest" ReconcileRequest.fields
        (fun q _ => Editor.reconcile q.previous q.groups) c l
  | .updateNotice =>
      editValidations "ValidationErrorUpdateRequest" NoticeUpdateRequest.fields
        (fun q _ => Editor.updateNotice q.groupId q.field (.text q.value) q.validations) c l
  | .addRow =>
      editRows "PairsRequest" RowsRequest.fields
        (fun q ids => .ok (Editor.addRow q.rows ids).1) c l
  | .removeRow =>
      editRows "PairRequest" RowRequest.fields
        (fun q _ => .ok (Editor.removeRow q.rowId q.rows)) c l
  | .updateRow =>
      editRows "PairUpdateRequest" RowUpdateRequest.fields
        (fun q _ => Editor.updateRow q.rowId q.field (.text q.value) q.rows) c l
  | .metrics => answerMetrics c l

/-- Answer a request where its path leads. -/
def Resolution.answer (r : Resolution) (c : Context) (l : Ledger) : Outcome × Ledger :=
  match r with
  | .found e argument => e.answer argument c l
  | .wrongMethod e =>
      (.ok ((Reply.detail 405 "Method Not Allowed").withHeaders
        [("allow", Text.joinWith ", " (e.methods.map fun m => Text.ofString m))]), l)
  | .moved path =>
      (.ok ⟨307, [("location", Address.absolute c.request.host path c.request.query)],
        .text []⟩, l)
  | .unknown => (.ok (.detail 404 "Not Found"), l)

end Service
end RuleDraft
