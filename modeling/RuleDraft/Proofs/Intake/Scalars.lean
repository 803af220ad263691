import RuleDraft.Proofs.Intake.Settled
import RuleDraft.Proofs.Number.Digits
import RuleDraft.Rule.Form

/-!
# Values read again as they were written

A text without surrogates, the name of a closed choice, a flag and an operand are read
as what they were written for.  What was read as clean text holds no surrogate, and
neither does a fresh id, or any name.
-/

namespace RuleDraft

/-!
# Texts without surrogates
-/

namespace Text

theorem surrogateAt?_eq_none_iff {t : Text} : t.surrogateAt? = none ↔ t.Encodable :=
  List.findIdx?_eq_none_iff

theorem Encodable.hasSurrogate {t : Text} (h : t.Encodable) : t.hasSurrogate = false := by
  rw [Text.hasSurrogate, List.any_eq_false]
  intro c hc
  rw [h c hc]
  exact Bool.false_ne_true

theorem encodable_nil : Encodable [] := by
  intro c hc
  cases hc

theorem encodable_ofString (s : String) : (ofString s).Encodable := by
  intro c hc
  rcases List.mem_map.mp hc with ⟨ch, _, rfl⟩
  -- A character is never in the range of the surrogates.
  have hvalid : ch.toNat < 0xD800 ∨ 0xDFFF < ch.toNat ∧ ch.toNat < 0x110000 := ch.valid
  rw [CodePoint.isSurrogate, Bool.and_eq_false_iff, decide_eq_false_iff_not,
    decide_eq_false_iff_not]
  change ¬ 0xD800 ≤ ch.toNat ∨ ¬ ch.toNat ≤ 0xDFFF
  omega

theorem encodable_ofNat (n : Nat) : (ofNat n).Encodable := by
  intro c hc
  have hdigit := CodePoint.isAsciiDigit_iff.mp (isAsciiDigit_of_mem_ofNat c hc)
  rw [CodePoint.isSurrogate, Bool.and_eq_false_iff, decide_eq_false_iff_not]
  exact Or.inl (by omega)

end Text

theorem IdSupply.encodable_numbered {stem : Text} (h : stem.Encodable) :
    (numbered stem).Encodable := by
  intro n c hc
  rcases List.mem_append.mp hc with hstem | hnumber
  · exact h c hstem
  · rcases List.mem_cons.mp hnumber with rfl | hdigits
    · decide
    · exact Text.encodable_ofNat n c hdigits

theorem Intake.ensures_fresh : Intake.fresh.Ensures Text.Encodable := by
  intro ids hids
  refine ⟨?_, hids⟩
  intro id hid
  rw [← Except.ok.inj hid]
  exact hids _

/-!
# Lenient readers
-/

namespace Checked

variable {α : Type}

theorem encodable_eq_none_iff {t : Text} : encodable t = none ↔ t.Encodable := by
  rw [encodable, Option.map_eq_none_iff, Text.surrogateAt?_eq_none_iff]

theorem encodable_of_cleanText {v : Value} {t : Text} (h : cleanText v = .ok t) :
    t.Encodable :=
  encodable_eq_none_iff.mp (guarded_eq_ok.mp h).right

theorem cleanText_text {t : Text} (h : t.Encodable) : cleanText (.text t) = .ok t :=
  guarded_eq_ok.mpr ⟨rfl, encodable_eq_none_iff.mpr h⟩

/-- The name of an option is read as the first option with this name. -/
theorem chosen_name {choice : Choice} {options : List (String × α)} {name : String} {a : α}
    (h : (options.find? fun o => Text.ofString o.1 = Text.ofString name).map Prod.snd =
      some a) : chosen choice options (.text (Text.ofString name)) = .ok a := by
  rcases Option.map_eq_some_iff.mp h with ⟨o, ho, rfl⟩
  rw [chosen, (Text.encodable_ofString name).hasSurrogate, if_neg Bool.false_ne_true, ho]

theorem items_map {read : Value → Checked α} {write : α → Value}
    (h : ∀ x, read (write x) = .ok x) (n : Nat) (xs : List α) :
    items read n (xs.map write) = .ok xs := by
  induction xs generalizing n with
  | nil => rfl
  | cons x xs ih =>
      rw [List.map_cons, items, h x, ih (n + 1)]
      rfl

theorem list_map {read : Value → Checked α} {write : α → Value}
    (h : ∀ x, read (write x) = .ok x) (xs : List α) :
    list read (.list (xs.map write)) = .ok xs :=
  items_map h 0 xs

end Checked

/-!
# Closed choices
-/

theorem LogicalOperator.chosen_name (choice : Choice) (o : LogicalOperator) :
    Checked.chosen choice options (.text o.name) = .ok o := by
  apply Checked.chosen_name
  cases o <;> rfl

theorem Condition.readType_name (t : ConditionType) : readType (.text t.name) = .ok t := by
  apply Checked.chosen_name
  cases t <;> rfl

theorem RetryCase.chosen_name (choice : Choice) (r : RetryCase) :
    Checked.chosen choice options (.text r.name) = .ok r := by
  apply Checked.chosen_name
  cases r <;> rfl

theorem RetryCase.list_names (rs : List RetryCase) :
    Checked.list (Checked.chosen .enumeration options)
      (Value.texts (rs.map fun r => Text.ofString r.name)) = .ok rs := by
  rw [Value.texts, List.map_map]
  exact Checked.list_map (chosen_name .enumeration) rs

theorem VendorForm.readMethod_name (m : Option CallMethod) :
    readMethod (.text (match m with | some m => m.name | none => "")) = .ok m := by
  cases m with
  | none => rfl
  | some m => cases m <;> rfl

theorem Condition.readFlag_flagValue (b : Option Bool) : readFlag (flagValue b) = .ok b := by
  cases b <;> rfl

/-!
# Operands
-/

namespace Operand

def Encodable (o : Operand) : Prop := ∀ t ∈ o.textsOf, t.Encodable

theorem encodable_eq_none_iff {o : Operand} : encodable o = none ↔ o.Encodable := by
  rw [encodable, List.findSome?_eq_none_iff]
  exact forall₂_congr fun _ _ => Checked.encodable_eq_none_iff

theorem encodable_empty : empty.Encodable := by
  intro t ht
  rw [List.mem_singleton.mp ht]
  exact Text.encodable_nil

end Operand

theorem Scalar.read_toValue (s : Scalar) : read s.toValue = .ok s := by
  cases s <;> rfl

theorem Operand.read_toValue (o : Operand) : read o.toValue = .ok o := by
  cases o with
  | one s => cases s <;> rfl
  | many ss =>
      have hscalar : Scalar.ofValue? (many ss).toValue = none := rfl
      have hlist : Checked.list Scalar.read (many ss).toValue = .ok ss :=
        Checked.list_map Scalar.read_toValue ss
      rw [read, hscalar]
      dsimp only
      rw [hlist]

theorem Operand.readClean_toValue {o : Operand} (h : o.Encodable) :
    readClean o.toValue = .ok o :=
  Checked.guarded_eq_ok.mpr ⟨read_toValue o, encodable_eq_none_iff.mpr h⟩

theorem Operand.encodable_of_readClean {v : Value} {o : Operand} (h : readClean v = .ok o) :
    o.Encodable :=
  encodable_eq_none_iff.mp (Checked.guarded_eq_ok.mp h).right

end RuleDraft
