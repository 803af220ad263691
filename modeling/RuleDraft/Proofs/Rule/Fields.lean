import Mathlib.Data.List.Nodup
import RuleDraft.Proofs.Intake.Required
import RuleDraft.Proofs.Rule.Revised
import RuleDraft.Proofs.Text.Encodings

/-!
# What the fields of a condition take

A key takes the texts without surrogates, a type its names, an operand the scalars and
lists of scalars without surrogates, and a flag what means a truth value, or null.  A
condition can be read with some data in the place of a field exactly if the field takes
the data, whatever the other fields hold.
-/

namespace RuleDraft

def Value.IsCleanText (v : Value) : Prop := ∃ t : Text, t.Encodable ∧ v = .text t

/--
The data means the truth value: it is this value, or its number, or one of its words in
small or capital letters.
-/
inductive Value.Means (b : Bool) : Value → Prop
  | bool : Means b (.bool b)
  | int : Means b (.int b.toInt)
  | float {x : Binary64} : x.toInt? = some b.toInt → Means b (.float x)
  | word {w : String} {t : Text} : (w, b) ∈ Checked.boolWords →
      t.asciiLower = Text.ofString w → Means b (.text t)

def Condition.Field.Takes (v : Value) : Condition.Field → Prop
  | .key => v.IsCleanText
  | .type => ∃ type : ConditionType, v = .text type.name
  | .value => ∃ o : Operand, o.Encodable ∧ v = o.toValue
  | .negate => v = .null ∨ ∃ b, v.Means b
  | .mandatory => v = .null ∨ ∃ b, v.Means b

/-!
# Options found by their names
-/

section Options

variable {α : Type} {options : List (String × α)} {t : Text} {o : String × α}

theorem find?_named_eq_none :
    (options.find? fun o => Text.ofString o.1 = t) = none ↔
      ∀ o ∈ options, Text.ofString o.1 ≠ t := by
  rw [List.find?_eq_none]
  exact forall₂_congr fun o _ => not_congr decide_eq_true_iff

/-- Of options with different names, the one with a name is found by this name. -/
theorem find?_named_eq_some (hnames : (options.map Prod.fst).Nodup) :
    (options.find? fun o => Text.ofString o.1 = t) = some o ↔
      o ∈ options ∧ t = Text.ofString o.1 := by
  constructor
  · intro h
    have hname := List.find?_some h
    exact ⟨List.mem_of_find?_eq_some h, (of_decide_eq_true hname).symm⟩
  · intro h
    rcases h with ⟨hmem, rfl⟩
    cases hfound : options.find? fun o' => Text.ofString o'.1 = Text.ofString o.1 with
    | none => exact absurd rfl (find?_named_eq_none.mp hfound o hmem)
    | some o' =>
        have hname := List.find?_some hfound
        have hsame := Text.ofString_inj (of_decide_eq_true hname)
        rw [List.inj_on_of_nodup_map hnames (List.mem_of_find?_eq_some hfound) hmem hsame]

end Options

/-!
# Truth values
-/

theorem Text.encodable_of_asciiLower {t : Text} (h : t.asciiLower.Encodable) : t.Encodable := by
  intro c hc
  have hlower := h _ (List.mem_map_of_mem hc)
  by_cases hcapital : 65 ≤ c.val ∧ c.val ≤ 90
  · exact CodePoint.isSurrogate_eq_false_iff.mpr (Or.inl (by omega))
  · rw [if_neg hcapital] at hlower
    exact hlower

namespace Checked

variable {v : Value} {b : Bool}

theorem bool_int_eq_ok {i : Int} : bool (.int i) = .ok b ↔ i = b.toInt := by
  rw [bool]
  split_ifs with hzero hone
  · cases b <;> simp [hzero]
  · cases b <;> simp [hone]
  all_goals cases b <;> simp [hzero, hone, fail]

theorem machineInteger?_eq_some {x : Binary64} :
    machineInteger? x = some b.toInt ↔ x.toInt? = some b.toInt := by
  rw [machineInteger?, Option.bind_eq_some_iff]
  constructor
  · intro h
    rcases h with ⟨i, hi, hsmall⟩
    split at hsmall
    · rw [hi, hsmall]
    · cases hsmall
  · intro h
    refine ⟨b.toInt, h, if_pos ?_⟩
    cases b <;> decide

theorem bool_float_eq_ok {x : Binary64} : bool (.float x) = .ok b ↔ x.toInt? = some b.toInt := by
  rw [← machineInteger?_eq_some, bool]
  cases machineInteger? x with
  | none =>
      constructor
      · intro h
        cases h
      · intro h
        cases h
  | some i =>
      dsimp only
      rw [Option.some_inj]
      split_ifs with hzero hone
      · cases b <;> simp [hzero]
      · cases b <;> simp [hone]
      · cases b <;> simp [hzero, hone, fail]

theorem find?_boolWords_eq_some {t : Text} {w : String × Bool} :
    (boolWords.find? fun w => Text.ofString w.1 = t) = some w ↔
      w ∈ boolWords ∧ t = Text.ofString w.1 :=
  find?_named_eq_some (by decide)

theorem bool_text_eq_ok {t : Text} :
    bool (.text t) = .ok b ↔ ∃ w, (w, b) ∈ boolWords ∧ t.asciiLower = Text.ofString w := by
  rw [bool]
  cases hfound : boolWords.find? fun w => Text.ofString w.1 = t.asciiLower with
  | none =>
      refine iff_of_false ?_ ?_
      · intro h
        split_ifs at h
        · cases h
        · cases h
      · intro h
        rcases h with ⟨w, hmem, hw⟩
        rw [find?_boolWords_eq_some.mpr ⟨hmem, hw⟩] at hfound
        cases hfound
  | some found =>
      rcases find?_boolWords_eq_some.mp hfound with ⟨hmem, hword⟩
      -- A word is in ASCII, so a text that is one in small letters has no surrogate.
      have hclean : t.Encodable := by
        apply Text.encodable_of_asciiLower
        rw [hword]
        exact Text.encodable_ofString found.1
      rw [hclean.hasSurrogate, if_neg Bool.false_ne_true]
      constructor
      · intro h
        cases h
        exact ⟨found.1, hmem, hword⟩
      · intro h
        rcases h with ⟨w, hw, hlower⟩
        have hsame := find?_boolWords_eq_some.mpr ⟨hw, hlower⟩
        rw [hfound] at hsame
        cases hsame
        rfl

theorem bool_eq_ok : bool v = .ok b ↔ v.Means b := by
  cases v with
  | bool b' =>
      constructor
      · intro h
        cases h
        exact .bool
      · intro h
        cases h
        rfl
  | int i =>
      rw [bool_int_eq_ok]
      constructor
      · intro h
        rw [h]
        exact .int
      · intro h
        cases h
        rfl
  | float x =>
      rw [bool_float_eq_ok]
      constructor
      · intro h
        exact .float h
      · intro h
        cases h with
        | float hx => exact hx
  | text t =>
      rw [bool_text_eq_ok]
      constructor
      · intro h
        rcases h with ⟨w, hw, hlower⟩
        exact .word hw hlower
      · intro h
        cases h with
        | word hw hlower => exact ⟨_, hw, hlower⟩
  | null => exact iff_of_false nofun nofun
  | list vs => exact iff_of_false nofun nofun
  | object fields => exact iff_of_false nofun nofun

/-!
# Readers that succeed
-/

theorem cleanText_isOk_iff : (∃ t, cleanText v = .ok t) ↔ v.IsCleanText := by
  constructor
  · intro h
    rcases h with ⟨t, ht⟩
    refine ⟨t, encodable_of_cleanText ht, ?_⟩
    have htext := (guarded_eq_ok.mp ht).left
    cases v with
    | text u =>
        cases htext
        rfl
    | _ => cases htext
  · intro h
    rcases h with ⟨t, ht, rfl⟩
    exact ⟨t, cleanText_text ht⟩

theorem chosen_isOk_iff {α : Type} {choice : Choice} {options : List (String × α)} :
    (∃ a, chosen choice options v = .ok a) ↔ ∃ o ∈ options, v = .text (Text.ofString o.1) := by
  constructor
  · intro h
    rcases h with ⟨a, ha⟩
    cases v with
    | text t =>
        rw [chosen] at ha
        by_cases hsurrogate : t.hasSurrogate = true
        · rw [if_pos hsurrogate] at ha
          cases ha
        · rw [if_neg hsurrogate] at ha
          cases hfound : options.find? fun o => Text.ofString o.1 = t with
          | none =>
              rw [hfound] at ha
              cases ha
          | some o =>
              have hname := List.find?_some hfound
              refine ⟨o, List.mem_of_find?_eq_some hfound, ?_⟩
              rw [of_decide_eq_true hname]
    | _ => cases ha
  · intro h
    rcases h with ⟨o, ho, rfl⟩
    rw [chosen, (Text.encodable_ofString o.1).hasSurrogate, if_neg Bool.false_ne_true]
    cases hfound : options.find? fun o' => Text.ofString o'.1 = Text.ofString o.1 with
    | none => exact absurd rfl (find?_named_eq_none.mp hfound o ho)
    | some o' => exact ⟨o'.2, rfl⟩

end Checked

theorem Operand.readClean_isOk_iff {v : Value} :
    (∃ o, readClean v = .ok o) ↔ ∃ o : Operand, o.Encodable ∧ v = o.toValue := by
  constructor
  · intro h
    rcases h with ⟨o, ho⟩
    exact ⟨o, encodable_of_readClean ho, eq_toValue_of_read (Checked.guarded_eq_ok.mp ho).left⟩
  · intro h
    rcases h with ⟨o, ho, rfl⟩
    exact ⟨o, readClean_toValue ho⟩

namespace Condition

variable {v : Value}

theorem readType_isOk_iff :
    (∃ type, readType v = .ok type) ↔ ∃ type : ConditionType, v = .text type.name := by
  rw [readType, Checked.chosen_isOk_iff]
  constructor
  · intro h
    rcases h with ⟨o, ho, rfl⟩
    rcases List.mem_map.mp ho with ⟨type, _, rfl⟩
    exact ⟨type, rfl⟩
  · intro h
    rcases h with ⟨type, rfl⟩
    refine ⟨(type.name, type), List.mem_map_of_mem ?_, rfl⟩
    cases type <;> decide

theorem readFlag_isOk_iff :
    (∃ flag, readFlag v = .ok flag) ↔ v = .null ∨ ∃ b, v.Means b := by
  by_cases hnull : v = .null
  · rw [hnull]
    exact iff_of_true ⟨none, rfl⟩ (Or.inl rfl)
  · have hread : readFlag v = (Checked.bool v).map some := by
      cases v with
      | null => exact absurd rfl hnull
      | _ => rfl
    rw [hread, map_isOk_iff, or_iff_right hnull]
    exact exists_congr fun b => Checked.bool_eq_ok

/-- A field can be replaced by what it takes, and by nothing else. -/
theorem withField_isOk_iff {c : Condition} {field : Field} :
    (∃ d, c.withField field v = .ok d) ↔ field.Takes v := by
  cases field with
  | key => exact map_isOk_iff.trans Checked.cleanText_isOk_iff
  | type => exact map_isOk_iff.trans readType_isOk_iff
  | value => exact map_isOk_iff.trans Operand.readClean_isOk_iff
  | negate => exact map_isOk_iff.trans readFlag_isOk_iff
  | mandatory => exact map_isOk_iff.trans readFlag_isOk_iff

/-- The condition is read again with the data in the place of the field if the field takes it. -/
theorem settles_putField_iff {c : Condition} (h : c.Sound) {field : Field} :
    (∃ d, (intake (c.toValue.putField (Text.ofString field.name) v)).Settles d) ↔
      field.Takes v := by
  rw [← withField_isOk_iff (c := c)]
  have hanswers := answers_putField h field v
  constructor
  · intro hread
    rcases hread with ⟨d, hd⟩
    have hsame := (hanswers (.numbered [])).symm.trans (hd (.numbered []))
    exact ⟨d, Checked.under_eq_ok.mp (congrArg Prod.fst hsame)⟩
  · intro hread
    rcases hread with ⟨d, hd⟩
    refine ⟨d, ?_⟩
    rw [hd] at hanswers
    exact hanswers

end Condition

end RuleDraft
