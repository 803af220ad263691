import Mathlib.Data.List.Forall2
import RuleDraft.Document.Generation
import RuleDraft.Document.Rendering
import RuleDraft.Proofs.Document.Data
import RuleDraft.Proofs.Document.Generated
import RuleDraft.Proofs.Json.Determined
import RuleDraft.Proofs.KeyedRows
import RuleDraft.Proofs.Text.Octets

/-!
# Changes that a checksum can show

The checksum of a document is the digest of its octets.  These octets are the same for
two forms exactly if the forms have the same content: the parts that are listed here,
each with the type that it has.  Ids, rows that a fold leaves out, and the flags of
conditions around a call are not content.

Content is lost on the way from a form to its document only.  From there on each step
can be undone: the document as data, its compact text, and the octets of the text.
-/

namespace RuleDraft

variable {ν : Type}

/-!
## The content of forms
-/

/-- Two conditions compare the value under one key in one way with one operand. -/
structure Condition.SameTest (c d : Condition) : Prop where
  key : c.key = d.key
  type : c.type = d.type
  value : c.value = d.value

/-- Two conditions make one test, with flags that agree once open flags are settled. -/
structure Condition.SameCheck (c d : Condition) : Prop where
  test : c.SameTest d
  negate : c.negate.getD false = d.negate.getD false
  mandatory : c.mandatory.getD true = d.mandatory.getD true

structure Group.SameTests (g h : Group ν) : Prop where
  operator : g.operator = h.operator
  conditions : List.Forall₂ Condition.SameTest g.conditions h.conditions

structure Group.SameChecks (g h : ValidationGroup) : Prop where
  operator : g.operator = h.operator
  conditions : List.Forall₂ Condition.SameCheck g.conditions h.conditions
  code : g.notice.code = h.notice.code
  message : g.notice.message = h.notice.message

/-- Two vendor forms describe one call. -/
structure VendorForm.SameContent (f g : VendorForm) : Prop where
  vendor : f.vendor = g.vendor
  endpoint : f.endpoint = g.endpoint
  method : f.method.getD .post = g.method.getD .post
  headers : Row.fold true f.headers = Row.fold true g.headers
  timeout : f.timeout = g.timeout
  retryCases : f.retryCases = g.retryCases
  body : Row.fold false f.body = Row.fold false g.body
  preconditions : List.Forall₂ Group.SameTests f.preconditions g.preconditions
  responseMappings : List.Forall₂ Group.SameTests f.responseMappings g.responseMappings
  responseTemplate : Row.fold false f.responseTemplate = Row.fold false g.responseTemplate

/-- The mapping of rows, absent when no row has a key. -/
def Row.foldKeyed? (rows : List Row) : Option (Keyed Text Text) :=
  if rows.any fun r => ¬ r.key.isEmpty then some (Row.fold false rows) else none

structure ConfigForm.SameContent (f g : ConfigForm) : Prop where
  validations : List.Forall₂ Group.SameChecks f.validations g.validations
  additionalValidations : f.additionalValidations = g.additionalValidations
  readWrite : Row.foldKeyed? f.readWrite = Row.foldKeyed? g.readWrite

/-!
## Forms without what is not content
-/

def Condition.anonymous (c : Condition) : Condition := { c with id := [] }

def Condition.unflagged (c : Condition) : Condition :=
  { c with id := [], negate := none, mandatory := none }

def Group.anonymous (strip : Condition → Condition) (g : Group ν) : Group ν :=
  { g with id := [], conditions := g.conditions.map strip }

/-- The rows that take part in a fold, without their identities. -/
def Row.anonymous (needsValue : Bool) (rows : List Row) : List Row :=
  (rows.filter (Row.isKept needsValue)).map fun r => { r with id := [] }

/-- The form without ids, dropped rows, and flags of conditions. -/
def VendorForm.anonymous (f : VendorForm) : VendorForm :=
  { f with
    headers := Row.anonymous true f.headers
    body := Row.anonymous false f.body
    preconditions := f.preconditions.map (Group.anonymous Condition.unflagged)
    responseMappings := f.responseMappings.map (Group.anonymous Condition.unflagged)
    responseTemplate := Row.anonymous false f.responseTemplate }

def ConfigForm.anonymous (f : ConfigForm) : ConfigForm :=
  { f with
    validations := f.validations.map (Group.anonymous Condition.anonymous)
    readWrite := Row.anonymous false f.readWrite }

/-!
## Equal documents have the same content
-/

theorem map_eq_map_iff {α β : Type} {f : α → β} {r : α → α → Prop}
    (hr : ∀ x y, f x = f y ↔ r x y) (xs ys : List α) :
    xs.map f = ys.map f ↔ List.Forall₂ r xs ys := by
  have hrel : (fun x y => f x = f y) = r := by
    funext x y
    exact propext (hr x y)
  rw [← List.forall₂_eq_eq_eq, List.forall₂_map_left_iff, List.forall₂_map_right_iff, hrel]

theorem Condition.clause_eq_iff (c d : Condition) : c.clause = d.clause ↔ c.SameTest d := by
  constructor
  · intro h
    rcases Clause.mk.inj h with ⟨hkey, htype, hvalue⟩
    exact ⟨hkey, htype, hvalue⟩
  · rintro ⟨hkey, htype, hvalue⟩
    rw [clause, clause, hkey, htype, hvalue]

theorem Condition.checkedClause_eq_iff (c d : Condition) :
    c.checkedClause = d.checkedClause ↔ c.SameCheck d := by
  constructor
  · intro h
    rcases CheckedClause.mk.inj h with ⟨hclause, hnegate, hmandatory⟩
    exact ⟨(clause_eq_iff c d).mp hclause, hnegate, hmandatory⟩
  · rintro ⟨htest, hnegate, hmandatory⟩
    rw [checkedClause, checkedClause, (clause_eq_iff c d).mpr htest, hnegate, hmandatory]

theorem Group.toMatch_eq_iff (g h : Group ν) : g.toMatch = h.toMatch ↔ g.SameTests h := by
  have hconditions := map_eq_map_iff Condition.clause_eq_iff g.conditions h.conditions
  constructor
  · intro heq
    rcases Match.mk.inj heq with ⟨hoperator, hclauses⟩
    exact ⟨hoperator, hconditions.mp hclauses⟩
  · rintro ⟨hoperator, htests⟩
    rw [toMatch, toMatch, hoperator, hconditions.mpr htests]

theorem Group.toValidation_eq_iff (g h : ValidationGroup) :
    g.toValidation = h.toValidation ↔ g.SameChecks h := by
  have hconditions := map_eq_map_iff Condition.checkedClause_eq_iff g.conditions h.conditions
  constructor
  · intro heq
    rcases Validation.mk.inj heq with ⟨hoperator, hclauses, hnotice⟩
    exact ⟨hoperator, hconditions.mp hclauses, congrArg Notice.code hnotice,
      congrArg Notice.message hnotice⟩
  · rintro ⟨hoperator, hchecks, hcode, hmessage⟩
    have hnotice : g.notice = h.notice := by
      cases hg : g.notice with
      | mk code message =>
          cases hh : h.notice with
          | mk code' message' =>
              rw [hg, hh] at hcode hmessage
              rw [show code = code' from hcode, show message = message' from hmessage]
    rw [toValidation, toValidation, hoperator, hconditions.mpr hchecks, hnotice]

theorem VendorDocument.ofForm_eq_iff (f g : VendorForm) :
    ofForm f = ofForm g ↔ f.SameContent g := by
  have hmatches := map_eq_map_iff (Group.toMatch_eq_iff (ν := Unit))
  constructor
  · intro h
    rcases VendorDocument.mk.inj h with ⟨hvendor, hendpoint, hmethod, hheaders, htimeout, hretry,
      hbody, hpreconditions, hmappings, htemplate⟩
    exact ⟨hvendor, hendpoint, hmethod, hheaders, envPlaceholder_inj htimeout, hretry, hbody,
      (hmatches _ _).mp hpreconditions, (hmatches _ _).mp hmappings, htemplate⟩
  · intro h
    rw [ofForm, ofForm, h.vendor, h.endpoint, h.method, h.headers, h.timeout, h.retryCases, h.body,
      (hmatches _ _).mpr h.preconditions, (hmatches _ _).mpr h.responseMappings,
      h.responseTemplate]

/-!
## Folds
-/

namespace Row

theorem fold_eq_nil_iff {rows : List Row} :
    fold false rows = [] ↔ ¬ rows.any (fun r => ¬ r.key.isEmpty) = true := by
  have hkept (r : Row) : isKept false r = true ↔ ¬ r.key.isEmpty = true := by
    simp [isKept]
  rw [fold, Keyed.ofRows_eq_nil_iff, List.map_eq_nil_iff, List.filter_eq_nil_iff, List.any_eq_true]
  simp [hkept]

theorem foldKeyed?_eq_iff (rows others : List Row) :
    foldKeyed? rows = foldKeyed? others ↔ fold false rows = fold false others := by
  unfold foldKeyed?
  by_cases hrows : rows.any (fun r => ¬ r.key.isEmpty) = true
  · by_cases hothers : others.any (fun r => ¬ r.key.isEmpty) = true
    · rw [if_pos hrows, if_pos hothers, Option.some.injEq]
    · rw [if_pos hrows, if_neg hothers, fold_eq_nil_iff.mpr hothers]
      exact iff_of_false nofun fun hnil => fold_eq_nil_iff.mp hnil hrows
  · by_cases hothers : others.any (fun r => ¬ r.key.isEmpty) = true
    · rw [if_neg hrows, if_pos hothers, fold_eq_nil_iff.mpr hrows]
      exact iff_of_false nofun fun hnil => fold_eq_nil_iff.mp hnil.symm hothers
    · rw [if_neg hrows, if_neg hothers, fold_eq_nil_iff.mpr hrows, fold_eq_nil_iff.mpr hothers]
      exact iff_of_true rfl rfl

theorem fold_anonymous (needsValue : Bool) (rows : List Row) :
    fold needsValue (anonymous needsValue rows) = fold needsValue rows := by
  unfold fold anonymous
  have hkept : isKept needsValue ∘ (fun r => { r with id := [] }) = isKept needsValue := rfl
  rw [List.filter_map, hkept, List.filter_filter, List.map_map]
  simp only [Bool.and_self]
  rfl

end Row

theorem ConfigDocument.ofForm_eq_iff (f g : ConfigForm) :
    ofForm f = ofForm g ↔ f.SameContent g := by
  have hvalidations :=
    map_eq_map_iff Group.toValidation_eq_iff f.validations g.validations
  have hreadWrite := Row.foldKeyed?_eq_iff f.readWrite g.readWrite
  constructor
  · intro h
    rcases ConfigDocument.mk.inj h with ⟨hrules, hadditional, hfolds⟩
    exact ⟨hvalidations.mp hrules, hadditional, hreadWrite.mpr hfolds⟩
  · rintro ⟨hchecks, hadditional, hfolds⟩
    rw [ofForm, ofForm, hvalidations.mpr hchecks, hadditional, hreadWrite.mp hfolds]

/-!
## What is not content
-/

theorem Group.toMatch_anonymous (g : Group ν) :
    (g.anonymous Condition.unflagged).toMatch = g.toMatch := by
  rw [toMatch, anonymous, List.map_map]
  rfl

theorem Group.toValidation_anonymous (g : ValidationGroup) :
    Group.toValidation (g.anonymous Condition.anonymous) = g.toValidation := by
  rw [toValidation, anonymous, List.map_map]
  rfl

theorem VendorForm.sameContent_anonymous (f : VendorForm) : f.SameContent f.anonymous := by
  have hmatches : Group.toMatch ∘ Group.anonymous Condition.unflagged =
      Group.toMatch (ν := Unit) := funext Group.toMatch_anonymous
  refine (VendorDocument.ofForm_eq_iff f f.anonymous).mp ?_
  rw [VendorDocument.ofForm, VendorDocument.ofForm, anonymous]
  simp only [Row.fold_anonymous, List.map_map, hmatches]

theorem ConfigForm.sameContent_anonymous (f : ConfigForm) : f.SameContent f.anonymous := by
  have hrules : Group.toValidation ∘ Group.anonymous Condition.anonymous =
      Group.toValidation := funext Group.toValidation_anonymous
  refine (ConfigDocument.ofForm_eq_iff f f.anonymous).mp ?_
  rw [ConfigDocument.ofForm, ConfigDocument.ofForm, anonymous]
  simp only [Row.fold_anonymous, List.map_map, hrules]

/-!
## Octets
-/

/-- The octets of a document that its checksum is the digest of. -/
def hashedOctets (v : Value) : List UInt8 := (Json.render .compact v).toUtf8

theorem hashedOctets_inj {v w : Value} (h : hashedOctets v = hashedOctets w) : v = w :=
  Json.render_inj Json.Style.compact_spaced (Text.toUtf8_inj h)

theorem hashedOctets_vendor_iff (f g : VendorForm) :
    hashedOctets (VendorDocument.ofForm f).toValue =
      hashedOctets (VendorDocument.ofForm g).toValue ↔ f.SameContent g := by
  rw [← VendorDocument.ofForm_eq_iff]
  constructor
  · intro h
    exact VendorDocument.toValue_inj (hashedOctets_inj h)
  · intro h
    rw [h]

theorem hashedOctets_config_iff (f g : ConfigForm) :
    hashedOctets (ConfigDocument.ofForm f).toValue =
      hashedOctets (ConfigDocument.ofForm g).toValue ↔ f.SameContent g := by
  rw [← ConfigDocument.ofForm_eq_iff]
  constructor
  · intro h
    exact ConfigDocument.toValue_inj (hashedOctets_inj h)
  · intro h
    rw [h]

theorem Generation.ofVendor_lenient (f : VendorForm) :
    (Generation.ofVendor false f).result = .ok (VendorDocument.ofForm f).toValue := rfl

theorem Generation.ofConfig_lenient {f : ConfigForm} (h : f.validations ≠ []) :
    (Generation.ofConfig false f).result = .ok (ConfigDocument.ofForm f).toValue := by
  have hempty : ¬ f.validations.isEmpty = true := by
    rw [List.isEmpty_iff]
    exact h
  rw [ofConfig, ConfigForm.generate_eq, if_neg hempty]
  rfl

/--
The checksum is the digest of octets that two forms have in common exactly if they have
the same content; ids, dropped rows and the flags around a call are not content.
-/
theorem hashed_octets_eq_iff (indent : Int) (document : Value) (f g : VendorForm)
    (c d : ConfigForm) :
    (Rendering.ofValue indent document).checksum = Checksum.hex (hashedOctets document) ∧
      (∃ v w, (Generation.ofVendor false f).result = .ok v ∧
        (Generation.ofVendor false g).result = .ok w ∧
          (hashedOctets v = hashedOctets w ↔ f.SameContent g)) ∧
      (c.validations ≠ [] → d.validations ≠ [] →
        ∃ v w, (Generation.ofConfig false c).result = .ok v ∧
          (Generation.ofConfig false d).result = .ok w ∧
            (hashedOctets v = hashedOctets w ↔ c.SameContent d)) ∧
        f.SameContent f.anonymous ∧ c.SameContent c.anonymous := by
  refine ⟨rfl, ?_, ?_, f.sameContent_anonymous, c.sameContent_anonymous⟩
  · exact ⟨_, _, Generation.ofVendor_lenient f, Generation.ofVendor_lenient g,
      hashedOctets_vendor_iff f g⟩
  · intro hc hd
    exact ⟨_, _, Generation.ofConfig_lenient hc, Generation.ofConfig_lenient hd,
      hashedOctets_config_iff c d⟩

/-- One rule on an age, and a row without a key. -/
def ageRule (id : Text) (age : Scalar) : ConfigForm :=
  { validations :=
      [{ id, operator := .all, notice := .standard,
         conditions := [{ Condition.blank id false with key := "age", value := .one age }] }]
    additionalValidations := false
    readWrite := [⟨id, [], id⟩] }

theorem ageRule_sameContent (id id' : Text) (age : Scalar) :
    (ageRule id age).SameContent (ageRule id' age) :=
  ⟨.cons ⟨rfl, .cons ⟨⟨rfl, rfl, rfl⟩, rfl, rfl⟩ .nil, rfl, rfl⟩ .nil, rfl, rfl⟩

theorem eq_of_ageRule_sameContent {id id' : Text} {age age' : Scalar}
    (h : (ageRule id age).SameContent (ageRule id' age')) : age = age' := by
  rcases List.forall₂_cons.mp h.validations with ⟨hgroup, _⟩
  rcases List.forall₂_cons.mp hgroup.conditions with ⟨hcondition, _⟩
  exact Operand.one.inj hcondition.test.value

theorem hashed_octets_eq_iff_age :
    (ageRule "a" (.int 5)).validations ≠ [] ∧ (ageRule "b" (.int 5)).validations ≠ [] ∧
      (ageRule "b" (.text "5")).validations ≠ [] ∧
        (∃ v w, (Generation.ofConfig false (ageRule "a" (.int 5))).result = .ok v ∧
          (Generation.ofConfig false (ageRule "b" (.int 5))).result = .ok w ∧
            hashedOctets v = hashedOctets w) ∧
        ∃ v w, (Generation.ofConfig false (ageRule "a" (.int 5))).result = .ok v ∧
          (Generation.ofConfig false (ageRule "b" (.text "5"))).result = .ok w ∧
            hashedOctets v ≠ hashedOctets w := by
  have hrule (id : Text) (age : Scalar) : (ageRule id age).validations ≠ [] :=
    List.cons_ne_nil _ _
  refine ⟨hrule _ _, hrule _ _, hrule _ _, ?_, ?_⟩
  · have hrules := hashed_octets_eq_iff 2 .null .empty .empty (ageRule "a" (.int 5))
      (ageRule "b" (.int 5))
    rcases hrules.right.right.left (hrule _ _) (hrule _ _) with ⟨v, w, hv, hw, hiff⟩
    exact ⟨v, w, hv, hw, hiff.mpr (ageRule_sameContent "a" "b" (.int 5))⟩
  · have hrules := hashed_octets_eq_iff 2 .null .empty .empty (ageRule "a" (.int 5))
      (ageRule "b" (.text "5"))
    rcases hrules.right.right.left (hrule _ _) (hrule _ _) with ⟨v, w, hv, hw, hiff⟩
    refine ⟨v, w, hv, hw, fun hsame => ?_⟩
    cases eq_of_ageRule_sameContent (hiff.mp hsame)

end RuleDraft
