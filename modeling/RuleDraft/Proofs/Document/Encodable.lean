import RuleDraft.Document.Rendering
import RuleDraft.Proofs.Document.Generated
import RuleDraft.Proofs.Editor.Refused
import RuleDraft.Proofs.KeyedRows

/-!
# Documents without surrogates

Folding rows, putting in a placeholder and leaving out ids make no text that was not
there, but for names.  So the documents of a form without surrogates have none either,
neither in a text nor in a key, and their renderings are plain UTF-8.
-/

namespace RuleDraft

open Editor List

variable {ν : Type}

/-!
# Mappings
-/

theorem Row.encodable_fold {rows : List Row} (h : EncodableRows rows) (needsValue : Bool) :
    (mappingValue (fold needsValue rows)).Encodable := by
  rw [mappingValue, Value.encodable_object, forall_mem_map]
  intro e he
  rcases mem_map.mp (Keyed.mem_ofRows he) with ⟨r, hr, rfl⟩
  have hsound := Row.encodable_toValue.mp (h r (mem_of_mem_filter hr))
  exact ⟨hsound.key, hsound.value⟩

theorem encodable_envPlaceholder {name : Text} (h : name.Encodable) :
    (envPlaceholder name).Encodable := by
  unfold envPlaceholder
  split
  · exact Text.encodable_nil
  · refine Text.encodable_flatten ?_
    simp [h]

/-!
# Matches and validations
-/

theorem Condition.encodable_clause {c : Condition} (h : c.Sound) :
    ∀ f ∈ c.clause.named, f.2.Encodable := by
  simp [clause, Clause.named, h.key, Operand.encodable_toValue.mpr h.value]

theorem Group.encodable_toMatch [HasNotice ν] {g : Group ν} (h : g.toValue.Encodable) :
    g.toMatch.toValue.Encodable := by
  have hconditions := (encodable_toValue.mp h).right.left
  have hclauses : (Value.list
      (g.toMatch.clauses.map fun c => Value.record c.named)).Encodable := by
    rw [Value.encodable_list_map, toMatch, forall_mem_map]
    intro c hc
    exact Value.encodable_record.mpr (Condition.encodable_clause (hconditions c hc))
  rw [Match.toValue, Value.encodable_record]
  simp [hclauses]

theorem Group.encodable_toValidation {g : ValidationGroup} (h : g.toValue.Encodable) :
    g.toValidation.toValue.Encodable := by
  rcases encodable_toValue.mp h with ⟨_, hconditions, hnotice⟩
  have hclauses : (Value.list (g.toValidation.clauses.map CheckedClause.toValue)).Encodable := by
    rw [Value.encodable_list_map, toValidation, forall_mem_map]
    intro c hc
    rw [CheckedClause.toValue, Value.encodable_record, forall_mem_append]
    refine ⟨Condition.encodable_clause (hconditions c hc), ?_⟩
    simp
  rw [Validation.toValue, Value.encodable_record, forall_mem_append]
  refine ⟨?_, encodable_noticeFields.mpr hnotice⟩
  simp [hclauses]

/-!
# Documents
-/

theorem VendorForm.encodable_ofForm {f : VendorForm} (h : f.toValue.Encodable) :
    (VendorDocument.ofForm f).toValue.Encodable := by
  rcases encodable_toValue.mp h with ⟨htexts, hrows, hgroups⟩
  simp only [forall_mem_cons, forall_mem_append] at htexts hrows hgroups
  rcases hrows with ⟨⟨hheaders, hbody⟩, htemplate⟩
  have hmatches (groups : List ConditionGroup) (more : List (String × Value))
      (hmore : ∀ e ∈ more, e.2.Encodable) (hgroups : ∀ g ∈ groups, g.toValue.Encodable) :
      (Value.list ((groups.map Group.toMatch).map fun m =>
        Value.record (("match", m.toValue) :: more))).Encodable := by
    rw [Value.encodable_list_map, forall_mem_map]
    intro g hg
    exact Value.encodable_record.mpr
      (forall_mem_cons.mpr ⟨Group.encodable_toMatch (hgroups g hg), hmore⟩)
  have hpreconditions := hmatches f.preconditions [] (by simp) hgroups.left
  have hmappings := hmatches f.responseMappings [("response", .object [])]
    (by simp [Value.encodable_object]) hgroups.right
  have hretries : (Value.texts (f.retryCases.map fun r => Text.ofString r.name)).Encodable := by
    rw [Value.encodable_texts, forall_mem_map]
    exact fun r _ => Text.encodable_ofString r.name
  rw [VendorDocument.toValue, Value.encodable_record]
  simp [-map_map, VendorDocument.ofForm, htexts.left, htexts.right.left, hpreconditions,
    hmappings, hretries, encodable_envPlaceholder htexts.right.right.left,
    Row.encodable_fold hheaders, Row.encodable_fold hbody, Row.encodable_fold htemplate]

theorem ConfigForm.encodable_ofForm {f : ConfigForm} (h : f.toValue.Encodable) :
    (ConfigDocument.ofForm f).toValue.Encodable := by
  rcases encodable_toValue.mp h with ⟨hgroups, hrows⟩
  have hvalidations : (Value.list
      ((f.validations.map Group.toValidation).map Validation.toValue)).Encodable := by
    rw [Value.encodable_list_map, forall_mem_map]
    exact fun g hg => Group.encodable_toValidation (hgroups g hg)
  rw [ConfigDocument.toValue, Value.encodable_record, forall_mem_append]
  constructor
  · simp [-map_map, ConfigDocument.ofForm, hvalidations]
  · split
    · exact forall_mem_nil _
    · exact forall_mem_singleton.mpr (Row.encodable_fold hrows false)

/-- The document and both of its texts are plain UTF-8: read strictly, the octets give the text. -/
structure Rendering.Plain (r : Rendering) : Prop where
  document : r.document.Encodable
  content : Utf8.read r.content.toUtf8 = .ok r.content
  compact : Utf8.read r.compact.toUtf8 = .ok r.compact

theorem Rendering.plain_ofValue {v : Value} (h : v.Encodable) (indent : Int) :
    (ofValue indent v).Plain :=
  ⟨h, Utf8.read_toUtf8_iff.mpr (Json.encodable_render _ h),
    Utf8.read_toUtf8_iff.mpr (Json.encodable_render _ h)⟩

/-!
# Forms made by edits

A form under edit is made of groups and rows that edits have reached, each from groups and
rows without surrogates, such as those of an accepted form.
-/

/-- Edits reach the group from groups without surrogates. -/
def Editor.Reached (g : MixedGroup) : Prop :=
  ∃ (s : Session) (turns : List Turn), EncodableGroups s.groups ∧
    (∀ t ∈ turns, t.Encodable) ∧ g ∈ (s.play turns).groups

def Editor.RowReached (r : Row) : Prop :=
  ∃ (rows : List Row) (turns : List RowTurn), EncodableRows rows ∧
    (∀ t ∈ turns, t.ids.Encodable) ∧ r ∈ playRows rows turns

/-- The form is made of groups and rows that edits reach. -/
structure VendorForm.Edited (f : VendorForm) : Prop where
  texts : ∀ t ∈ [f.vendor, f.endpoint, f.timeout], t.Encodable
  rows : ∀ r ∈ f.headers ++ f.body ++ f.responseTemplate, RowReached r
  groups : ∀ g ∈ f.preconditions ++ f.responseMappings, ∃ h, Reached h ∧ h.forget = g

structure ConfigForm.Edited (f : ConfigForm) : Prop where
  groups : ∀ g ∈ f.validations, Reached (g.withNotice (some g.notice))
  rows : ∀ r ∈ f.readWrite, RowReached r

theorem Editor.Reached.encodable {g : MixedGroup} (h : Reached g) : g.toValue.Encodable := by
  rcases h with ⟨s, turns, hgroups, hturns, hg⟩
  exact encodable_play hgroups hturns g hg

theorem Editor.reached_of_encodable {g : MixedGroup} (h : g.toValue.Encodable) : Reached g :=
  ⟨⟨[g], [], .numbered []⟩, [], forall_mem_singleton.mpr h, forall_mem_nil _, mem_cons_self⟩

theorem Editor.RowReached.encodable {r : Row} (h : RowReached r) : r.toValue.Encodable := by
  rcases h with ⟨rows, turns, hrows, hturns, hr⟩
  exact hrows.play hturns r hr

theorem Editor.rowReached_of_encodable {r : Row} (h : r.toValue.Encodable) : RowReached r :=
  ⟨[r], [], forall_mem_singleton.mpr h, forall_mem_nil _, mem_cons_self⟩

theorem VendorForm.edited_iff {f : VendorForm} : f.Edited ↔ f.toValue.Encodable := by
  rw [encodable_toValue]
  constructor
  · rintro ⟨htexts, hrows, hgroups⟩
    refine ⟨htexts, fun r hr => (hrows r hr).encodable, ?_⟩
    intro g hg
    rcases hgroups g hg with ⟨h, hreached, rfl⟩
    rcases Group.encodable_toValue.mp hreached.encodable with ⟨hid, hconditions, _⟩
    refine Group.encodable_toValue.mpr ⟨hid, hconditions, ?_⟩
    rintro n ⟨⟩
  · rintro ⟨htexts, hrows, hgroups⟩
    refine ⟨htexts, fun r hr => rowReached_of_encodable (hrows r hr), ?_⟩
    intro g hg
    exact ⟨g.withNotice none, reached_of_encodable (hgroups g hg), rfl⟩

theorem ConfigForm.edited_iff {f : ConfigForm} : f.Edited ↔ f.toValue.Encodable := by
  rw [encodable_toValue]
  constructor
  · rintro ⟨hgroups, hrows⟩
    exact ⟨fun g hg => (hgroups g hg).encodable, fun r hr => (hrows r hr).encodable⟩
  · rintro ⟨hgroups, hrows⟩
    exact ⟨fun g hg => reached_of_encodable (hgroups g hg),
      fun r hr => rowReached_of_encodable (hrows r hr)⟩

/-!
# All texts
-/

theorem texts_stay_encodable :
    (Screens Condition.intake Condition.toValue Condition.Declares ∧
      Screens Group.plainIntake Group.toValue Group.Declares ∧
      Screens Group.validationIntake Group.toValue Group.DeclaresWithNotice ∧
      Screens Row.intake Row.toValue Row.Declares ∧
      Screens VendorForm.intake VendorForm.toValue VendorForm.Declares ∧
      Screens ConfigForm.intake ConfigForm.toValue ConfigForm.Declares) ∧
    (∀ (s : Session) (turns : List Turn), EncodableGroups s.groups →
      (∀ t ∈ turns, t.Encodable) → EncodableGroups (s.play turns).groups) ∧
    (∀ (s : Session) edits, s.Encodable → (s.run edits).Encodable) ∧
    (∀ rows (turns : List RowTurn), EncodableRows rows → (∀ t ∈ turns, t.ids.Encodable) →
      EncodableRows (playRows rows turns) ∧
        ∀ needsValue, (mappingValue (Row.fold needsValue (playRows rows turns))).Encodable) ∧
    (∀ f : VendorForm, f.Edited → f.toValue.Encodable ∧
      ∀ strict d indent, f.generate strict = .ok d → (Rendering.ofValue indent d.toValue).Plain) ∧
    (∀ f : ConfigForm, f.Edited → f.toValue.Encodable ∧
      ∀ strict d indent, f.generate strict = .ok d → (Rendering.ofValue indent d.toValue).Plain) ∧
    (∀ (s : Session) (e : Edit) v, e.data? = some v → ¬ v.Encodable →
      s.step e = s ∧ (e.AimsAt s.groups → Fails Failure.IsInvalid (s.perform e))) ∧
    ∀ rows (t : RowTurn) row field v, t.edit = .update row field v → ¬ v.Encodable →
      turnRows rows t = rows ∧
        ((∃ r ∈ rows, r.id = row) → Fails Failure.IsInvalid (performRows rows t)) := by
  refine ⟨models_screen, ?groups, ?run, ?rows, ?vendor, ?config, ?refusedEdit, ?refusedRow⟩
  case groups => exact fun s turns hs hturns => encodable_play hs hturns
  case run => exact fun s edits hs => encodable_run hs edits
  case rows =>
    intro rows turns hrows hturns
    have hplayed := hrows.play hturns
    exact ⟨hplayed, fun needsValue => Row.encodable_fold hplayed needsValue⟩
  case vendor =>
    intro f hf
    have hencodable := VendorForm.edited_iff.mp hf
    refine ⟨hencodable, ?_⟩
    intro strict d indent hd
    rw [VendorForm.eq_of_generate hd]
    exact Rendering.plain_ofValue (VendorForm.encodable_ofForm hencodable) indent
  case config =>
    intro f hf
    have hencodable := ConfigForm.edited_iff.mp hf
    refine ⟨hencodable, ?_⟩
    intro strict d indent hd
    rw [ConfigForm.eq_of_generate hd]
    exact Rendering.plain_ofValue (ConfigForm.encodable_ofForm hencodable) indent
  case refusedEdit => exact fun s e v he hv => step_of_surrogate he hv
  case refusedRow => exact fun rows t row field v he hv => turnRows_of_surrogate he hv

/-- Data of a form whose only condition has a surrogate for its key. -/
def strayData : Value :=
  Value.record
    [("preconditions", .list [Value.record
      [("id", .text "g"),
       ("conditions", .list [Value.record [("key", .text Text.loneSurrogate)]])]])]

theorem declares_strayData : VendorForm.Declares strayData (.text Text.loneSurrogate) :=
  Or.inr (Or.inr ⟨"preconditions", mem_cons_self, _, rfl, _, mem_cons_self,
    Or.inr ⟨"conditions", mem_cons_self, _, rfl, _, mem_cons_self,
      "key", mem_cons_of_mem _ mem_cons_self, rfl⟩⟩)

def plainGroup : MixedGroup := ⟨"g", .all, [Condition.blank "c" false], none⟩

theorem encodable_plainGroup : plainGroup.toValue.Encodable :=
  Group.encodable_toValue.mpr ⟨Text.encodable_ofString _,
    forall_mem_singleton.mpr (sound_blank (Text.encodable_ofString _) false), by rintro n ⟨⟩⟩

/-- The group after a condition was added to it. -/
def grownGroup : MixedGroup :=
  { plainGroup with
    conditions :=
      [Condition.blank "c" false, Condition.blank ((IdSupply.numbered "n").label 1) false] }

theorem reached_grownGroup : Reached grownGroup := by
  refine ⟨⟨[plainGroup], [], .numbered []⟩, [⟨[], .numbered "n", .addCondition "g" false⟩],
    forall_mem_singleton.mpr encodable_plainGroup, ?_, mem_cons_self⟩
  have hids := IdSupply.encodable_numbered (Text.encodable_ofString "n")
  exact forall_mem_singleton.mpr ⟨forall_mem_nil _, hids⟩

/-- A form with the edited group, and with a letter outside of ASCII. -/
def accentedForm : VendorForm :=
  { VendorForm.empty with
    vendor := "Büro"
    preconditions := [grownGroup.forget] }

theorem edited_accentedForm : accentedForm.Edited := by
  refine ⟨?texts, forall_mem_nil _, ?groups⟩
  case texts => simp [accentedForm, VendorForm.empty, Text.encodable_nil]
  case groups => exact forall_mem_singleton.mpr ⟨grownGroup, reached_grownGroup, rfl⟩

/-- A surrogate is refused at reading and at editing; an edited form has a plain document. -/
theorem texts_stay_encodable_accented :
    (∀ ids, ∃ issues, ((VendorForm.intake strayData).run ids).1 = .error issues) ∧
      (let s := Session.start [plainGroup] (.numbered "n")
       let e := Edit.updateCondition "g" "c" (.text "key") (.text Text.loneSurrogate)
       s.step e = s ∧ Fails Failure.IsInvalid (s.perform e)) ∧
      (Rendering.ofValue 2 (VendorDocument.ofForm accentedForm).toValue).Plain := by
  rcases texts_stay_encodable with ⟨⟨_, _, _, _, hvendor, _⟩, _, _, _, hform, _, hedit, _⟩
  refine ⟨?read, ?edit, ?document⟩
  case read => exact hvendor.refuses _ _ declares_strayData Text.not_encodable_loneSurrogate
  case edit =>
    intro s e
    have hrefused := hedit s e _ rfl Text.not_encodable_loneSurrogate
    exact ⟨hrefused.left, hrefused.right
      ⟨plainGroup, mem_cons_self, rfl, Condition.blank "c" false, mem_cons_self, rfl⟩⟩
  case document => exact (hform _ edited_accentedForm).right false _ 2 rfl

end RuleDraft
