import RuleDraft.Document.Rendering
import RuleDraft.Proofs.Document.Generated
import RuleDraft.Proofs.Json.Standard

/-!
# Documents of the grammar

The values of conditions are the only numbers of a document that a form can choose, and
they are written as they came.  So both texts of a generated document are JSON exactly
when the values of all conditions are finite, whether the gate looked at them or not.
-/

namespace RuleDraft

open Value

variable {ν : Type}

def Scalar.IsFinite : Scalar → Prop
  | .float x => x.isFinite = true
  | _ => True

def Operand.IsFinite : Operand → Prop
  | .one s => s.IsFinite
  | .many ss => ∀ s ∈ ss, s.IsFinite

def Group.IsFinite (g : Group ν) : Prop := ∀ c ∈ g.conditions, c.value.IsFinite

def VendorForm.IsFinite (f : VendorForm) : Prop :=
  ∀ g ∈ f.preconditions ++ f.responseMappings, g.IsFinite

def ConfigForm.IsFinite (f : ConfigForm) : Prop := ∀ g ∈ f.validations, g.IsFinite

/--
Each text of the rendering is a document of the grammar exactly under the condition, and
shows a foreign word outside of its strings exactly without it.
-/
def Rendering.StandardIff (r : Rendering) (p : Prop) : Prop :=
  ∀ t ∈ [r.content, r.compact],
    (Json.Standard t ↔ p) ∧ (Json.Foreign (Json.outside t) ↔ ¬ p)

/-!
# Finite data
-/

theorem Value.isFinite_record {fields : List (String × Value)} :
    (Value.record fields).IsFinite ↔ ∀ f ∈ fields, f.2.IsFinite := by
  rw [Value.record, IsFinite, fieldsFinite_iff, List.forall_mem_map]

theorem Value.isFinite_list_map {α : Type} {f : α → Value} {xs : List α} :
    (Value.list (xs.map f)).IsFinite ↔ ∀ x ∈ xs, (f x).IsFinite := by
  rw [IsFinite, itemsFinite_iff, List.forall_mem_map]

theorem Value.isFinite_texts (ts : List Text) : (Value.texts ts).IsFinite := by
  rw [Value.texts, isFinite_list_map]
  intro t _
  trivial

theorem isFinite_mappingValue (m : Keyed Text Text) : (mappingValue m).IsFinite := by
  rw [mappingValue, IsFinite, fieldsFinite_iff, List.forall_mem_map]
  intro e _
  trivial

theorem Scalar.isFinite_toValue (s : Scalar) : s.toValue.IsFinite ↔ s.IsFinite := by
  cases s with
  | text t => exact Iff.rfl
  | int i => exact Iff.rfl
  | float x => exact Iff.rfl
  | bool b => exact Iff.rfl

theorem Operand.isFinite_toValue (o : Operand) : o.toValue.IsFinite ↔ o.IsFinite := by
  cases o with
  | one s => exact s.isFinite_toValue
  | many ss =>
      rw [toValue, isFinite_list_map]
      exact forall₂_congr fun s _ => s.isFinite_toValue

/-!
# Finite documents
-/

theorem Clause.isFinite_record (c : Clause) (more : List (String × Value)) :
    (Value.record (c.named ++ more)).IsFinite ↔
      c.value.IsFinite ∧ ∀ f ∈ more, f.2.IsFinite := by
  rw [Value.isFinite_record, List.forall_mem_append, named]
  simp [c.value.isFinite_toValue]

theorem Group.isFinite_toMatch (g : Group ν) : g.toMatch.toValue.IsFinite ↔ g.IsFinite := by
  have hclauses : (Value.list (g.toMatch.clauses.map fun c => Value.record c.named)).IsFinite ↔
      g.IsFinite := by
    rw [isFinite_list_map, toMatch, List.forall_mem_map]
    refine forall₂_congr fun c _ => ?_
    have hclause := c.clause.isFinite_record []
    rw [List.append_nil] at hclause
    simpa [Condition.clause] using hclause
  rw [Match.toValue, Value.isFinite_record]
  simpa using hclauses

theorem Group.isFinite_toValidation (g : ValidationGroup) :
    g.toValidation.toValue.IsFinite ↔ g.IsFinite := by
  have hclauses : (Value.list (g.toValidation.clauses.map CheckedClause.toValue)).IsFinite ↔
      g.IsFinite := by
    rw [isFinite_list_map, toValidation, List.forall_mem_map]
    refine forall₂_congr fun c _ => ?_
    rw [CheckedClause.toValue, Clause.isFinite_record]
    simp [Condition.checkedClause, Condition.clause]
  rw [Validation.toValue, Value.isFinite_record]
  simpa [noticeFields] using hclauses

theorem isFinite_matches (groups : List (Group ν)) (more : List (String × Value))
    (hmore : ∀ f ∈ more, f.2.IsFinite) :
    (Value.list ((groups.map Group.toMatch).map fun m =>
      Value.record (("match", m.toValue) :: more))).IsFinite ↔ ∀ g ∈ groups, g.IsFinite := by
  rw [isFinite_list_map, List.forall_mem_map]
  refine forall₂_congr fun g _ => ?_
  rw [Value.isFinite_record, List.forall_mem_cons, g.isFinite_toMatch]
  exact and_iff_left hmore

theorem VendorForm.isFinite_ofForm (f : VendorForm) :
    (VendorDocument.ofForm f).toValue.IsFinite ↔ f.IsFinite := by
  have hpreconditions := isFinite_matches f.preconditions [] (by simp)
  have hmappings := isFinite_matches f.responseMappings [("response", .object [])]
    (by simp [Value.IsFinite, FieldsFinite])
  rw [VendorDocument.toValue, Value.isFinite_record, VendorForm.IsFinite, List.forall_mem_append,
    ← hpreconditions, ← hmappings]
  simp [VendorDocument.ofForm, isFinite_mappingValue, isFinite_texts]

theorem ConfigForm.isFinite_ofForm (f : ConfigForm) :
    (ConfigDocument.ofForm f).toValue.IsFinite ↔ f.IsFinite := by
  have hvalidations : (Value.list ((f.validations.map Group.toValidation).map
      Validation.toValue)).IsFinite ↔ f.IsFinite := by
    rw [isFinite_list_map, List.forall_mem_map]
    exact forall₂_congr fun g _ => g.isFinite_toValidation
  have hrows : ∀ e ∈ (if (ConfigDocument.ofForm f).readWrite.isEmpty then []
      else [("read_write", mappingValue (ConfigDocument.ofForm f).readWrite)]),
      Value.IsFinite e.2 := by
    split
    · simp
    · simp [isFinite_mappingValue]
  rw [ConfigDocument.toValue, Value.isFinite_record, List.forall_mem_append, ← hvalidations,
    and_iff_left hrows]
  simp [ConfigDocument.ofForm]

/-!
# Generated texts
-/

theorem standardIff_ofValue (indent : Int) (v : Value) :
    (Rendering.ofValue indent v).StandardIff v.IsFinite := by
  intro t ht
  rcases List.mem_cons.mp ht with rfl | hcompact
  · exact ⟨Json.standard_render_iff (Json.Style.pretty_spaced indent) v,
      Json.foreign_render_iff (Json.Style.pretty_spaced indent) v⟩
  · rw [List.mem_singleton.mp hcompact]
    exact ⟨Json.standard_render_iff Json.Style.compact_spaced v,
      Json.foreign_render_iff Json.Style.compact_spaced v⟩

theorem generated_texts_standard_iff (indent : Int) (strict : Bool) :
    (∀ (f : VendorForm) d, f.generate strict = .ok d →
        (Rendering.ofValue indent d.toValue).StandardIff f.IsFinite) ∧
      ∀ (f : ConfigForm) d, f.generate strict = .ok d →
        (Rendering.ofValue indent d.toValue).StandardIff f.IsFinite := by
  constructor
  · intro f d hd
    have hrendering := standardIff_ofValue indent d.toValue
    rw [VendorForm.eq_of_generate hd, f.isFinite_ofForm] at hrendering
    rw [VendorForm.eq_of_generate hd]
    exact hrendering
  · intro f d hd
    have hrendering := standardIff_ofValue indent d.toValue
    rw [ConfigForm.eq_of_generate hd, f.isFinite_ofForm] at hrendering
    rw [ConfigForm.eq_of_generate hd]
    exact hrendering

def boundlessData : Value :=
  Value.record
    [("preconditions", .list [Value.record
      [("id", .text "g"), ("conditions", .list [Value.record
        [("id", .text "c"), ("key", .text "limit"), ("value", .float (.infinite false))]])]])]

def boundlessForm : VendorForm :=
  { VendorForm.empty with
    preconditions :=
      [⟨"g", .all,
        [{ Condition.blank "c" false with
           key := "limit", value := .one (.float (.infinite false)) }], ()⟩] }

theorem not_isFinite_boundlessForm : ¬ boundlessForm.IsFinite := by
  intro hfinite
  have hvalue := hfinite _ List.mem_cons_self _ List.mem_cons_self
  cases hvalue

/-- The form of one complete condition, with a number that is not whole. -/
def halfForm : ConfigForm :=
  ⟨[⟨"g", .all,
    [{ Condition.blank "c" true with
       key := "ratio", value := .one (.float (.finite false ⟨0x3FE <<< 52, by decide⟩)) }],
    .standard⟩], false, []⟩

theorem isFinite_halfForm : halfForm.IsFinite := by
  intro g hg c hc
  rw [List.mem_singleton.mp hg] at hc
  rw [List.mem_singleton.mp hc]
  rfl

/-- The gate lets an infinite value pass, and both texts show it; a half is written as it is. -/
theorem generated_texts_standard_iff_boundless :
    boundlessForm.generate true = .ok (.ofForm boundlessForm) ∧
      ¬ Json.Standard (Rendering.ofValue 2 (VendorDocument.ofForm boundlessForm).toValue).compact ∧
        halfForm.generate true = .ok (.ofForm halfForm) ∧
          Json.Standard (Rendering.ofValue 2 (ConfigDocument.ofForm halfForm).toValue).compact := by
  have hboundless : boundlessForm.generate true = .ok (.ofForm boundlessForm) := rfl
  have hhalf : halfForm.generate true = .ok (.ofForm halfForm) := rfl
  have htexts := generated_texts_standard_iff 2 true
  refine ⟨hboundless, ?infinite, hhalf, ?half⟩
  case infinite =>
    intro hstandard
    have hcompact := htexts.left boundlessForm _ hboundless _
      (List.mem_cons_of_mem _ List.mem_cons_self)
    exact not_isFinite_boundlessForm (hcompact.left.mp hstandard)
  case half =>
    have hcompact := htexts.right halfForm _ hhalf _ (List.mem_cons_of_mem _ List.mem_cons_self)
    exact hcompact.left.mpr isFinite_halfForm

/-- An accepted form can generate, strictly too, a document whose text is not JSON. -/
theorem boundless_text_not_standard :
    ¬ ∀ data ids (f : VendorForm) strict d indent,
        ((VendorForm.intake data).run ids).1 = .ok f → f.generate strict = .ok d →
          Json.Standard (Rendering.ofValue indent d.toValue).content ∧
            Json.Standard (Rendering.ofValue indent d.toValue).compact := by
  intro hall
  have hstandard := (hall boundlessData (.numbered []) boundlessForm true (.ofForm boundlessForm) 2
    rfl rfl).right
  have hfinite := (Json.standard_render_iff Json.Style.compact_spaced _).mp hstandard
  exact not_isFinite_boundlessForm (boundlessForm.isFinite_ofForm.mp hfinite)

end RuleDraft
