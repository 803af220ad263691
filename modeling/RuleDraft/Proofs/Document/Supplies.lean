import RuleDraft.Proofs.Document.ChangeDetection
import RuleDraft.Proofs.Document.Forms
import RuleDraft.Proofs.Document.Generated
import RuleDraft.Proofs.Intake.Steady

/-!
# Documents from any supply of ids

Forms with the same content are generated alike, strictly or not: the gate looks at the tests of
the conditions only, and the document holds the content and nothing else.  Whatever supply of ids
a form is read with, it is read with the same content.
-/

namespace RuleDraft

open Relator

variable {ν : Type}

/-!
# The gate
-/

namespace Gate

theorem mismatch?_congr (path : Text) {c d : Condition} (h : c.SameTest d) :
    mismatch? path c = mismatch? path d := by
  rw [mismatch?, mismatch?, h.key, h.type, h.value]

theorem ofConditions_congr (path : Text) (i : Nat) {cs ds : List Condition}
    (h : List.Forall₂ Condition.SameTest cs ds) (j : Nat) :
    ofConditions path i j cs = ofConditions path i j ds := by
  induction h generalizing j with
  | nil => rfl
  | cons hcd _ ih => rw [ofConditions, ofConditions, mismatch?_congr _ hcd, ih (j + 1)]

theorem ofGroups_congr (path : Text) {gs hs : List (Group ν)}
    (h : List.Forall₂ Group.SameTests gs hs) (i : Nat) :
    ofGroups path i gs = ofGroups path i hs := by
  induction h generalizing i with
  | nil => rfl
  | cons hgh _ ih =>
      rw [ofGroups, ofGroups, ofConditions_congr path i hgh.conditions 0, ih (i + 1)]

theorem collect_congr (path : Text) {gs hs : List (Group ν)}
    (h : List.Forall₂ Group.SameTests gs hs) : collect path gs = collect path hs :=
  ofGroups_congr path h 0

end Gate

theorem Group.SameChecks.sameTests {g h : ValidationGroup} (hgh : g.SameChecks h) :
    g.SameTests h :=
  ⟨hgh.operator, hgh.conditions.imp fun _ _ hcd => hcd.test⟩

theorem VendorForm.gate_congr {f g : VendorForm} (h : f.SameContent g) : f.gate = g.gate := by
  simp only [gate, Gate.check, List.mapM_cons, List.mapM_nil,
    Gate.collect_congr _ h.preconditions, Gate.collect_congr _ h.responseMappings]

theorem ConfigForm.gate_congr {f g : ConfigForm} (h : f.SameContent g) : f.gate = g.gate := by
  have htests := h.validations.imp fun _ _ hgh => Group.SameChecks.sameTests hgh
  simp only [gate, Gate.check, List.mapM_cons, List.mapM_nil, Gate.collect_congr _ htests]

/-!
# Generation
-/

/-- Vendor forms with the same content are generated alike. -/
theorem VendorForm.generate_congr {f g : VendorForm} (h : f.SameContent g) (strict : Bool) :
    f.generate strict = g.generate strict := by
  rw [generate_eq, generate_eq, gate_congr h, (VendorDocument.ofForm_eq_iff f g).mpr h]

/-- Config forms with the same content are generated alike. -/
theorem ConfigForm.generate_congr {f g : ConfigForm} (h : f.SameContent g) (strict : Bool) :
    f.generate strict = g.generate strict := by
  have hempty : f.validations.isEmpty = g.validations.isEmpty := by
    rw [Bool.eq_iff_iff, List.isEmpty_iff_length_eq_zero, List.isEmpty_iff_length_eq_zero,
      h.validations.length_eq]
  rw [generate_eq, generate_eq, hempty, gate_congr h, (ConfigDocument.ofForm_eq_iff f g).mpr h]

/-!
# Parts of forms
-/

structure Row.SameEntry (r s : Row) : Prop where
  key : r.key = s.key
  value : r.value = s.value

/-- Two groups make the same checks in order and carry the same. -/
structure Group.SameRules (g h : Group ν) : Prop where
  operator : g.operator = h.operator
  conditions : List.Forall₂ Condition.SameCheck g.conditions h.conditions
  notice : g.notice = h.notice

theorem Group.SameRules.sameTests {g h : Group ν} (hgh : g.SameRules h) : g.SameTests h :=
  ⟨hgh.operator, hgh.conditions.imp fun _ _ hcd => hcd.test⟩

theorem Group.SameRules.sameChecks {g h : ValidationGroup} (hgh : g.SameRules h) :
    g.SameChecks h :=
  ⟨hgh.operator, hgh.conditions, congrArg Notice.code hgh.notice,
    congrArg Notice.message hgh.notice⟩

theorem Row.fold_congr {rows others : List Row} (h : List.Forall₂ Row.SameEntry rows others)
    (needsValue : Bool) : fold needsValue rows = fold needsValue others := by
  have hkept (r : Row) (s : Row) (hrs : r.SameEntry s) :
      isKept needsValue r = isKept needsValue s := by
    rw [isKept, isKept, hrs.key, hrs.value]
  have hentries : (rows.filter (isKept needsValue)).map (fun r => (r.key, r.value)) =
      (others.filter (isKept needsValue)).map (fun r => (r.key, r.value)) := by
    induction h with
    | nil => rfl
    | @cons r s rest more hrs _ ih =>
        by_cases hr : isKept needsValue r = true
        · rw [List.filter_cons_of_pos hr, List.filter_cons_of_pos (hkept r s hrs ▸ hr),
            List.map_cons, List.map_cons, ih, hrs.key, hrs.value]
        · rw [List.filter_cons_of_neg hr, List.filter_cons_of_neg (hkept r s hrs ▸ hr), ih]
  rw [fold, fold, hentries]

/-!
# Readings
-/

namespace Intake

theorem steady_id (fields : List (Text × Value)) :
    (optional fields "id" fresh (lift Checked.cleanText)).Steady fun _ _ => True :=
  steady_optional steady_fresh fun v => (steady_lift _ v).mono fun _ _ _ => trivial

theorem steady_field {α : Type} (fields : List (Text × Value)) (name : String) (x : α)
    (read : Value → Checked α) : (optional fields name (pure x) (lift read)).Steady Eq :=
  steady_optional (steady_pure rfl) (steady_lift read)

theorem steady_listField {α : Type} {R : α → α → Prop} (fields : List (Text × Value))
    (name : String) {read : Value → Intake α} (hread : ∀ v, (read v).Steady R) :
    (optional fields name (pure []) (list read)).Steady (List.Forall₂ R) :=
  steady_optional (steady_pure .nil) (steady_list hread)

theorem steady_row (v : Value) : (Row.intake v).Steady Row.SameEntry := by
  refine steady_record (fun r => ?_) v
  refine steady_seq (steady_seq (steady_map ?mk (steady_id r)) (steady_field r _ _ _))
    (steady_field r _ _ _)
  rintro _ _ _ key _ rfl value _ rfl
  exact ⟨rfl, rfl⟩

theorem steady_condition (v : Value) : (Condition.intake v).Steady Condition.SameCheck := by
  refine steady_record (fun r => ?_) v
  refine steady_seq (steady_seq (steady_seq (steady_seq (steady_seq (steady_map ?mk (steady_id r))
    (steady_field r _ _ _)) (steady_field r _ _ _)) (steady_field r _ _ _)) (steady_field r _ _ _))
      (steady_field r _ _ _)
  rintro _ _ _ key _ rfl type _ rfl value _ rfl negate _ rfl mandatory _ rfl
  exact ⟨⟨rfl, rfl, rfl⟩, rfl, rfl⟩

theorem steady_conditions (v : Value) :
    (Group.conditionsIntake v).Steady (List.Forall₂ Condition.SameCheck) := by
  refine steady_guarded (steady_list steady_condition v) ?_
  rintro _ _ (_ | _) <;> rfl

theorem steady_groupWith {model : String} {notice : List (Text × Value) → Intake ν}
    (hnotice : ∀ r, (notice r).Steady Eq) (v : Value) :
    (Group.intakeWith model notice v).Steady Group.SameRules := by
  refine steady_record (fun r => ?_) v
  refine steady_seq (steady_seq (steady_seq (steady_map ?mk (steady_id r)) (steady_field r _ _ _))
    (steady_required steady_conditions)) (hnotice r)
  rintro _ _ _ operator _ rfl conditions _ hconditions notice _ rfl
  exact ⟨rfl, hconditions, rfl⟩

theorem steady_plainGroup (v : Value) : (Group.plainIntake v).Steady Group.SameTests :=
  (steady_groupWith (fun _ => steady_pure rfl) v).mono fun _ _ => Group.SameRules.sameTests

theorem steady_notice (r : List (Text × Value)) : (Group.noticeIntake r).Steady Eq := by
  refine steady_seq (steady_map ?mk (steady_field r _ _ _)) (steady_field r _ _ _)
  rintro code _ rfl message _ rfl
  rfl

theorem steady_validation (v : Value) : (Group.validationIntake v).Steady Group.SameChecks :=
  (steady_groupWith steady_notice v).mono fun _ _ => Group.SameRules.sameChecks

end Intake

/-- Whatever the supply of ids, a vendor form is read with the same content. -/
theorem VendorForm.steady_intake (v : Value) : (intake v).Steady SameContent := by
  open Intake in
  refine steady_record (fun r => ?_) v
  refine steady_seq (steady_seq (steady_seq (steady_seq (steady_seq (steady_seq (steady_seq
    (steady_seq (steady_seq (steady_map ?mk (steady_field r _ _ _)) (steady_field r _ _ _))
      (steady_field r _ _ _)) (steady_field r _ _ _)) (steady_listField r _ steady_row))
        (steady_field r _ _ _)) (steady_listField r _ steady_row))
          (steady_listField r _ steady_plainGroup)) (steady_listField r _ steady_plainGroup))
            (steady_listField r _ steady_row)
  rintro vendor _ rfl endpoint _ rfl method _ rfl timeout _ rfl headers _ hheaders retryCases _ rfl
    body _ hbody preconditions _ hpreconditions mappings _ hmappings template _ htemplate
  exact ⟨rfl, rfl, rfl, Row.fold_congr hheaders true, rfl, rfl, Row.fold_congr hbody false,
    hpreconditions, hmappings, Row.fold_congr htemplate false⟩

/-- Whatever the supply of ids, a config form is read with the same content. -/
theorem ConfigForm.steady_intake (v : Value) : (intake v).Steady SameContent := by
  open Intake in
  refine steady_record (fun r => ?_) v
  refine steady_seq (steady_seq (steady_map ?mk (steady_listField r _ steady_validation))
    (steady_field r _ _ _)) (steady_listField r _ steady_row)
  rintro validations _ hvalidations additional _ rfl rows _ hrows
  exact ⟨hvalidations, rfl, (Row.foldKeyed?_eq_iff _ _).mpr (Row.fold_congr hrows false)⟩

/-!
# Forms of both kinds
-/

namespace Form

/-- No generation tells the forms apart. -/
structure Alike (f g : Form) : Prop where
  document : f.document = g.document
  generate : ∀ strict, f.generate strict = g.generate strict

theorem alike_vendor {f g : VendorForm} (h : f.SameContent g) : Alike (.vendor f) (.vendor g) where
  document := congrArg VendorDocument.toValue ((VendorDocument.ofForm_eq_iff f g).mpr h)
  generate strict :=
    congrArg (Except.map VendorDocument.toValue) (VendorForm.generate_congr h strict)

theorem alike_config {f g : ConfigForm} (h : f.SameContent g) : Alike (.config f) (.config g) where
  document := congrArg ConfigDocument.toValue ((ConfigDocument.ofForm_eq_iff f g).mpr h)
  generate strict :=
    congrArg (Except.map ConfigDocument.toValue) (ConfigForm.generate_congr h strict)

theorem agree_read (kind : DocumentKind) (v : Value) (ids ids' : IdSupply) :
    Checked.Agree Alike (read kind v ids) (read kind v ids') := by
  cases kind with
  | vendor => exact (VendorForm.steady_intake v ids ids').map fun _ _ => alike_vendor
  | config => exact (ConfigForm.steady_intake v ids ids').map fun _ _ => alike_config

theorem document_starter (kind : DocumentKind) (ids ids' : IdSupply) :
    (starter kind ids).document = (starter kind ids').document := by
  cases kind <;> rfl

end Form

/-- What comes of data that is read as a form does not depend on the supply of ids. -/
theorem Generation.result_ofData_eq (kind : DocumentKind) (strict : Bool) (v : Value)
    (ids ids' : IdSupply) :
    (ofData kind strict v ids).result = (ofData kind strict v ids').result := by
  have hagree := Form.agree_read kind v ids ids'
  generalize hfirst : Form.read kind v ids = first, hsecond : Form.read kind v ids' = second
    at hagree
  cases hagree with
  | ok halike =>
      rw [Form.result_ofData hfirst, Form.result_ofData hsecond, halike.generate]
  | error issues =>
      rw [Form.result_ofData_refused hfirst, Form.result_ofData_refused hsecond]

end RuleDraft
