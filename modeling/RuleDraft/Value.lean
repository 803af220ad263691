import RuleDraft.Keyed
import RuleDraft.Number.Binary64
import RuleDraft.Text.CodePoint

/-!
# Document values

The data that documents are made of. Integers and floating-point numbers are
different values, and an object keeps its fields in order.
-/

namespace RuleDraft

/-- A piece of structured data. -/
inductive Value where
  | null
  | bool (b : Bool)
  | int (i : Int)
  | float (x : Binary64)
  | text (t : Text)
  | list (items : List Value)
  | object (fields : List (Text × Value))
  deriving Repr

namespace Value

instance : Inhabited Value := ⟨.null⟩

instance : Coe Text Value := ⟨.text⟩

def record (fields : List (String × Value)) : Value :=
  .object (fields.map fun f => (Text.ofString f.1, f.2))

def texts (ts : List Text) : Value := .list (ts.map .text)

def nat (n : Nat) : Value := .int n

def field? (name : Text) : Value → Option Value
  | .object fields => Keyed.get? name fields
  | _ => none

mutual

/-- Equality as data. -/
def same : Value → Value → Bool
  | .null, .null => true
  | .bool a, .bool b => a = b
  | .int a, .int b => a = b
  | .float a, .float b => a = b
  | .text a, .text b => a = b
  | .list a, .list b => sameItems a b
  | .object a, .object b => sameFields a b
  | _, _ => false

def sameItems : List Value → List Value → Bool
  | [], [] => true
  | a :: as, b :: bs => same a b && sameItems as bs
  | _, _ => false

def sameFields : List (Text × Value) → List (Text × Value) → Bool
  | [], [] => true
  | (k, a) :: as, (l, b) :: bs => k = l && same a b && sameFields as bs
  | _, _ => false

end

mutual

theorem eq_of_same : ∀ {a b : Value}, same a b = true → a = b
  | .null, b, h => by cases b <;> simp_all [same]
  | .bool _, b, h => by cases b <;> simp_all [same]
  | .int _, b, h => by cases b <;> simp_all [same]
  | .float _, b, h => by cases b <;> simp_all [same]
  | .text _, b, h => by cases b <;> simp_all [same]
  | .list as, b, h => by
      cases b with
      | list bs => exact congrArg Value.list (eq_of_sameItems (by simpa [same] using h))
      | _ => simp [same] at h
  | .object as, b, h => by
      cases b with
      | object bs => exact congrArg Value.object (eq_of_sameFields (by simpa [same] using h))
      | _ => simp [same] at h

theorem eq_of_sameItems : ∀ {as bs : List Value}, sameItems as bs = true → as = bs
  | [], bs, h => by cases bs <;> simp_all [sameItems]
  | a :: as, bs, h => by
      cases bs with
      | nil => simp [sameItems] at h
      | cons b bs =>
          simp only [sameItems, Bool.and_eq_true] at h
          rw [eq_of_same h.1, eq_of_sameItems h.2]

theorem eq_of_sameFields :
    ∀ {as bs : List (Text × Value)}, sameFields as bs = true → as = bs
  | [], bs, h => by cases bs <;> simp_all [sameFields]
  | (k, a) :: as, bs, h => by
      cases bs with
      | nil => simp [sameFields] at h
      | cons b bs =>
          obtain ⟨l, b⟩ := b
          simp only [sameFields, Bool.and_eq_true, decide_eq_true_eq] at h
          rw [h.1.1, eq_of_same h.1.2, eq_of_sameFields h.2]

end

mutual

theorem same_self : ∀ a : Value, same a a = true
  | .null => rfl
  | .bool _ => by simp [same]
  | .int _ => by simp [same]
  | .float _ => by simp [same]
  | .text _ => by simp [same]
  | .list as => by simpa [same] using sameItems_self as
  | .object as => by simpa [same] using sameFields_self as

theorem sameItems_self : ∀ as : List Value, sameItems as as = true
  | [] => rfl
  | a :: as => by simp [sameItems, same_self a, sameItems_self as]

theorem sameFields_self : ∀ as : List (Text × Value), sameFields as as = true
  | [] => rfl
  | (k, a) :: as => by simp [sameFields, same_self a, sameFields_self as]

end

theorem same_iff {a b : Value} : same a b = true ↔ a = b :=
  ⟨eq_of_same, fun h => h ▸ same_self a⟩

instance : DecidableEq Value := fun _ _ => decidable_of_iff _ same_iff

end Value

end RuleDraft
