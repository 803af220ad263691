import RuleDraft.Proofs.Intake.Scalars
import RuleDraft.Proofs.Json.Alphabets
import RuleDraft.Proofs.Text.Encodings

/-!
# Data without surrogates

Data is encodable if no text and no object key in it, at any depth, holds a surrogate.
The writer adds nothing but characters, so in every layout the text of encodable data
is encodable too.
-/

namespace RuleDraft

/-!
# Texts put together
-/

namespace Text

variable {t u : Text} {c : CodePoint}

theorem isSurrogate_ofChar (ch : Char) : (CodePoint.ofChar ch).isSurrogate = false :=
  encodable_ofString (String.singleton ch) _ (by simp [ofString])

theorem encodable_append_iff : Encodable (t ++ u) ↔ t.Encodable ∧ u.Encodable :=
  List.forall_mem_append

theorem encodable_replicate (h : c.isSurrogate = false) (n : Nat) :
    Encodable (List.replicate n c) := by
  intro d hd
  rw [List.eq_of_mem_replicate hd]
  exact h

theorem encodable_flatten {ts : List Text} (h : ∀ t ∈ ts, t.Encodable) : Encodable ts.flatten := by
  intro c hc
  rcases List.mem_flatten.mp hc with ⟨t, ht, hct⟩
  exact h t ht c hct

def loneSurrogate : Text := [.ofNat 0xD800]

theorem not_encodable_loneSurrogate : ¬ Encodable loneSurrogate := by
  intro h
  exact absurd (h (.ofNat 0xD800) List.mem_cons_self) (by decide)

end Text

/-!
# Encodable data
-/

namespace Value

mutual

/-- No text and no object key in the value has a surrogate. -/
def Encodable : Value → Prop
  | .text t => t.Encodable
  | .list vs => ItemsEncodable vs
  | .object fs => FieldsEncodable fs
  | _ => True

def ItemsEncodable : List Value → Prop
  | [] => True
  | v :: vs => v.Encodable ∧ ItemsEncodable vs

def FieldsEncodable : List (Text × Value) → Prop
  | [] => True
  | (k, v) :: fs => (k.Encodable ∧ v.Encodable) ∧ FieldsEncodable fs

end

@[simp] theorem encodable_null : Value.null.Encodable := trivial

@[simp] theorem encodable_bool (b : Bool) : (Value.bool b).Encodable := trivial

@[simp] theorem encodable_int (i : Int) : (Value.int i).Encodable := trivial

@[simp] theorem encodable_float (x : Binary64) : (Value.float x).Encodable := trivial

@[simp] theorem encodable_text {t : Text} : (Value.text t).Encodable ↔ t.Encodable := Iff.rfl

@[simp] theorem encodable_name (s : String) : (Text.ofString s).Encodable :=
  Text.encodable_ofString s

theorem itemsEncodable_iff {vs : List Value} : ItemsEncodable vs ↔ ∀ v ∈ vs, v.Encodable := by
  induction vs with
  | nil => simp [ItemsEncodable]
  | cons v vs ih => rw [ItemsEncodable, ih, List.forall_mem_cons]

theorem fieldsEncodable_iff {fs : List (Text × Value)} :
    FieldsEncodable fs ↔ ∀ f ∈ fs, f.1.Encodable ∧ f.2.Encodable := by
  induction fs with
  | nil => simp [FieldsEncodable]
  | cons f fs ih => rw [FieldsEncodable, ih, List.forall_mem_cons]

theorem encodable_list {vs : List Value} : (Value.list vs).Encodable ↔ ∀ v ∈ vs, v.Encodable :=
  itemsEncodable_iff

theorem encodable_object {fs : List (Text × Value)} :
    (Value.object fs).Encodable ↔ ∀ f ∈ fs, f.1.Encodable ∧ f.2.Encodable :=
  fieldsEncodable_iff

theorem encodable_record {fields : List (String × Value)} :
    (Value.record fields).Encodable ↔ ∀ f ∈ fields, f.2.Encodable := by
  rw [Value.record, encodable_object, List.forall_mem_map]
  exact forall₂_congr fun f _ => and_iff_right (Text.encodable_ofString f.1)

theorem encodable_list_map {α : Type} {f : α → Value} {xs : List α} :
    (Value.list (xs.map f)).Encodable ↔ ∀ x ∈ xs, (f x).Encodable := by
  rw [encodable_list, List.forall_mem_map]

theorem encodable_texts {ts : List Text} : (Value.texts ts).Encodable ↔ ∀ t ∈ ts, t.Encodable :=
  encodable_list_map

mutual

theorem allTexts_of_encodable : ∀ {v : Value}, v.Encodable → v.AllTexts Text.Encodable
  | .null, _ | .bool _, _ | .int _, _ | .float _, _ => trivial
  | .text _, h => h
  | .list _, h => allItems_of_encodable h
  | .object _, h => allFields_of_encodable h

theorem allItems_of_encodable :
    ∀ {vs : List Value}, ItemsEncodable vs → AllItems Text.Encodable vs
  | [], _ => trivial
  | _ :: _, h => ⟨allTexts_of_encodable h.left, allItems_of_encodable h.right⟩

theorem allFields_of_encodable :
    ∀ {fs : List (Text × Value)}, FieldsEncodable fs → AllFields Text.Encodable fs
  | [], _ => trivial
  | _ :: _, h =>
      ⟨⟨h.left.left, allTexts_of_encodable h.left.right⟩, allFields_of_encodable h.right⟩

end

end Value

/-!
# Written texts
-/

namespace Json

open Text Value

/-- A writer puts no surrogate around texts in any layout. -/
theorem Style.draws_encodable (s : Style) :
    s.Draws Text.Encodable fun c => c.isSurrogate = false where
  texts _ _ ht := ht
  plain _ h :=
    CodePoint.isSurrogate_eq_false_iff.mpr (Or.inl (Nat.lt_of_le_of_lt h.right (by decide)))
  lineFeed _ := isSurrogate_ofChar _
  afterComma := encodable_ofString _
  afterColon := encodable_ofString _

theorem encodable_render (s : Style) {v : Value} (h : v.Encodable) : (render s v).Encodable :=
  s.draws_encodable.render (allTexts_of_encodable h)

end Json

end RuleDraft
