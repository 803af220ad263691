import RuleDraft.Document
import RuleDraft.Proofs.Text.Characters

/-!
# The data of a document determine the document

Writing a document as data forgets nothing: the names of a closed set are distinct, a
record keeps its fields in their places, scalars keep their types, and the placeholder
of an environment variable keeps its name.  The mapping that a config document leaves
out is the empty one.
-/

namespace RuleDraft

/-!
## Names and records
-/

theorem Value.record_inj {fs gs : List (String × Value)}
    (h : Value.record fs = Value.record gs) : fs = gs := by
  have hfield (f g : String × Value)
      (hfg : (Text.ofString f.1, f.2) = (Text.ofString g.1, g.2)) : f = g := by
    rcases Prod.mk.inj hfg with ⟨hname, hvalue⟩
    exact Prod.ext (Text.ofString_inj hname) hvalue
  exact (List.map_inj_right hfield).mp (Value.object.inj h)

/-- Members that are found in a list by their names have distinct names. -/
theorem eq_of_name {α : Type} {options : List (String × α)} {name : α → String}
    (hfound : ∀ a, (options.find? fun o => o.1 = name a).map Prod.snd = some a) {a b : α}
    (h : Text.ofString (name a) = Text.ofString (name b)) : a = b := by
  have hname := hfound a
  rw [Text.ofString_inj h, hfound b] at hname
  exact (Option.some.inj hname).symm

theorem LogicalOperator.name_inj {a b : LogicalOperator}
    (h : Text.ofString a.name = Text.ofString b.name) : a = b := by
  have hfound (o : LogicalOperator) :
      (options.find? fun p => p.1 = o.name).map Prod.snd = some o := by
    cases o <;> rfl
  exact eq_of_name hfound h

theorem ConditionType.name_inj {a b : ConditionType}
    (h : Text.ofString a.name = Text.ofString b.name) : a = b := by
  have hfound (t : ConditionType) :
      (options.find? fun p => p.1 = t.name).map Prod.snd = some t := by
    cases t <;> rfl
  exact eq_of_name hfound h

theorem CallMethod.name_inj {a b : CallMethod}
    (h : Text.ofString a.name = Text.ofString b.name) : a = b := by
  have hfound (m : CallMethod) :
      (options.find? fun p => p.1 = m.name).map Prod.snd = some m := by
    cases m <;> rfl
  exact eq_of_name hfound h

theorem RetryCase.name_inj {a b : RetryCase}
    (h : Text.ofString a.name = Text.ofString b.name) : a = b := by
  have hfound (r : RetryCase) :
      (options.find? fun p => p.1 = r.name).map Prod.snd = some r := by
    cases r <;> rfl
  exact eq_of_name hfound h

/-!
## Operands
-/

theorem Scalar.ofValue?_toValue (s : Scalar) : Scalar.ofValue? s.toValue = some s := by
  cases s <;> rfl

theorem Scalar.toValue_inj {r s : Scalar} (h : r.toValue = s.toValue) : r = s := by
  have hread := Scalar.ofValue?_toValue r
  rw [h, Scalar.ofValue?_toValue] at hread
  exact (Option.some.inj hread).symm

theorem Scalar.toValue_ne_list (s : Scalar) (vs : List Value) : s.toValue ≠ .list vs := by
  intro h
  have hread := Scalar.ofValue?_toValue s
  rw [h] at hread
  cases hread

theorem Operand.toValue_inj {o p : Operand} (h : o.toValue = p.toValue) : o = p := by
  cases o with
  | one r =>
      cases p with
      | one s => exact congrArg Operand.one (Scalar.toValue_inj h)
      | many ss => exact absurd h (Scalar.toValue_ne_list r _)
  | many rs =>
      cases p with
      | one s => exact absurd h.symm (Scalar.toValue_ne_list s _)
      | many ss =>
          have hscalars := Value.list.inj h
          exact congrArg Operand.many
            ((List.map_inj_right fun _ _ => Scalar.toValue_inj).mp hscalars)

/-!
## Clauses, matches and validations
-/

theorem Clause.named_inj {c d : Clause} (h : c.named = d.named) : c = d := by
  rw [Clause.named, Clause.named] at h
  simp only [List.cons.injEq, Prod.mk.injEq, Value.text.injEq, true_and, and_true] at h
  rcases h with ⟨hkey, htype, hvalue⟩
  cases c with
  | mk key type value =>
      cases d with
      | mk key' type' value' =>
          cases hkey
          cases ConditionType.name_inj htype
          cases Operand.toValue_inj hvalue
          rfl

theorem Match.toValue_inj {m n : Match} (h : m.toValue = n.toValue) : m = n := by
  have hfields := Value.record_inj h
  simp only [List.cons.injEq, Prod.mk.injEq, Value.text.injEq, Value.list.injEq, true_and,
    and_true] at hfields
  rcases hfields with ⟨hoperator, hclauses⟩
  have hinj (c d : Clause) (hcd : Value.record c.named = Value.record d.named) : c = d :=
    Clause.named_inj (Value.record_inj hcd)
  cases m with
  | mk operator clauses =>
      cases n with
      | mk operator' clauses' =>
          cases LogicalOperator.name_inj hoperator
          cases (List.map_inj_right hinj).mp hclauses
          rfl

theorem Match.eq_of_record {m n : Match} {others : List (String × Value)}
    (h : Value.record (("match", m.toValue) :: others) =
      Value.record (("match", n.toValue) :: others)) : m = n := by
  rcases List.cons.inj (Value.record_inj h) with ⟨hfield, _⟩
  exact Match.toValue_inj (Prod.mk.inj hfield).right

theorem CheckedClause.toValue_inj {c d : CheckedClause} (h : c.toValue = d.toValue) : c = d := by
  rcases List.append_inj (Value.record_inj h) rfl with ⟨hclause, hflags⟩
  simp only [List.cons.injEq, Prod.mk.injEq, Value.bool.injEq, true_and, and_true] at hflags
  rcases hflags with ⟨hnegate, hmandatory⟩
  cases c with
  | mk clause negate mandatory =>
      cases d with
      | mk clause' negate' mandatory' =>
          cases Clause.named_inj hclause
          cases hnegate
          cases hmandatory
          rfl

theorem Validation.toValue_inj {v w : Validation} (h : v.toValue = w.toValue) : v = w := by
  have hfields := Value.record_inj h
  simp only [Group.noticeFields, List.cons_append, List.nil_append, List.cons.injEq,
    Prod.mk.injEq, Value.text.injEq, Value.list.injEq, true_and, and_true] at hfields
  rcases hfields with ⟨hoperator, hclauses, hcode, hmessage⟩
  cases v with
  | mk operator clauses notice =>
      cases w with
      | mk operator' clauses' notice' =>
          cases LogicalOperator.name_inj hoperator
          cases (List.map_inj_right fun _ _ => CheckedClause.toValue_inj).mp hclauses
          cases notice with
          | mk code message =>
              cases hcode
              cases hmessage
              rfl

/-!
## Documents
-/

theorem mappingValue_inj {m n : Keyed Text Text} (h : mappingValue m = mappingValue n) :
    m = n := by
  have hentry (d e : Text × Text) (hde : (d.1, Value.text d.2) = (e.1, Value.text e.2)) :
      d = e := by
    rcases Prod.mk.inj hde with ⟨hkey, hvalue⟩
    exact Prod.ext hkey (Value.text.inj hvalue)
  exact (List.map_inj_right hentry).mp (Value.object.inj h)

theorem envPlaceholder_inj {s t : Text} (h : envPlaceholder s = envPlaceholder t) : s = t := by
  cases s with
  | nil =>
      cases t with
      | nil => rfl
      | cons d t => cases h
  | cons c s =>
      cases t with
      | nil => cases h
      | cons d t =>
          have htail : c :: s ++ Text.ofString "\x7d" = d :: t ++ Text.ofString "\x7d" :=
            List.append_cancel_left h
          exact List.append_cancel_right htail

theorem VendorDocument.toValue_inj {d e : VendorDocument} (h : d.toValue = e.toValue) :
    d = e := by
  have hfields := Value.record_inj h
  simp only [List.cons.injEq, Prod.mk.injEq, Value.text.injEq, Value.list.injEq, Value.texts,
    true_and, and_true] at hfields
  rcases hfields with ⟨hvendor, hendpoint, hmethod, hheaders, htimeout, hretry, hbody,
    hpreconditions, hmappings, htemplate⟩
  have hcases := (List.map_inj_right fun _ _ => RetryCase.name_inj).mp
    ((List.map_inj_right fun _ _ => Value.text.inj).mp hretry)
  cases d with
  | mk vendor endpoint method headers timeout retryCases body preconditions responseMappings
      responseTemplate =>
      cases e with
      | mk vendor' endpoint' method' headers' timeout' retryCases' body' preconditions'
          responseMappings' responseTemplate' =>
          cases hvendor
          cases hendpoint
          cases CallMethod.name_inj hmethod
          cases mappingValue_inj hheaders
          cases htimeout
          cases hcases
          cases mappingValue_inj hbody
          cases (List.map_inj_right fun _ _ => Match.eq_of_record).mp hpreconditions
          cases (List.map_inj_right fun _ _ => Match.eq_of_record).mp hmappings
          cases mappingValue_inj htemplate
          rfl

theorem ConfigDocument.toValue_inj {d e : ConfigDocument} (h : d.toValue = e.toValue) :
    d = e := by
  rcases List.append_inj (Value.record_inj h) rfl with ⟨hrules, hmapping⟩
  simp only [List.cons.injEq, Prod.mk.injEq, Value.list.injEq, Value.bool.injEq, true_and,
    and_true] at hrules
  rcases hrules with ⟨hvalidations, hadditional⟩
  cases d with
  | mk validations additional readWrite =>
      cases e with
      | mk validations' additional' readWrite' =>
          cases (List.map_inj_right fun _ _ => Validation.toValue_inj).mp hvalidations
          cases hadditional
          cases readWrite with
          | nil =>
              cases readWrite' with
              | nil => rfl
              | cons _ _ => cases hmapping
          | cons _ _ =>
              cases readWrite' with
              | nil => cases hmapping
              | cons _ _ =>
                  have hentries := congrArg Prod.snd (List.cons.inj hmapping).left
                  cases mappingValue_inj hentries
                  rfl

end RuleDraft
