import RuleDraft.Log.Record
import RuleDraft.Proofs.Json.Alphabets
import RuleDraft.Proofs.Json.Escapes
import RuleDraft.Proofs.Rule.Folding
import RuleDraft.Proofs.Rule.Places

/-!
# Log lines read back

Whatever a record is made to hold, its line is plain ASCII without a line break, so nobody can
add a line to a log by what they have written in a record.  And the line loses nothing: read
again it is the object of the record, every field in its place and the attributes under names
of their own as they were given.
-/

namespace RuleDraft
namespace Log

open Json

/-- The name of a further attribute: not one of those that a record has itself. -/
def IsFurther (name : Text) : Prop :=
  name ∉ reservedNames.map Text.ofString

instance : DecidablePred IsFurther := fun name =>
  inferInstanceAs (Decidable (name ∉ reservedNames.map Text.ofString))

/-- The further attributes as a mapping: each name in its first place, with its last value. -/
def further (attributes : List (Text × Value)) : Keyed Text Value :=
  Keyed.ofRows (attributes.filter fun a => decide (IsFurther a.1))

namespace Record

def withAttributes (r : Record) (attributes : List (Text × Value)) : Record :=
  attributes.foldl (fun r a => r.withAttribute a.1 a.2) r

/-- The values that a line takes over as they are can be read back. -/
structure Ready (r : Record) : Prop where
  name : r.name.JsonReady
  levelName : r.levelName.JsonReady
  path : r.path.JsonReady
  line : r.line.JsonReady
  function : r.function.JsonReady

variable {r : Record} {name : Text} {v : Value} {attributes : List (Text × Value)}

/-!
# Attributes
-/

theorem not_isFurther_of_toString {s : String} (hs : s ∈ reservedNames) (h : name.toString = s) :
    ¬ IsFurther name := by
  have hplain : ∀ s ∈ reservedNames, '\uFFFD' ∉ s.toList := by decide
  rw [Text.eq_ofString_of_toString (hplain s hs) h]
  exact not_not_intro (List.mem_map_of_mem hs)

theorem extra_withAttribute (r : Record) (name : Text) (v : Value) :
    (r.withAttribute name v).extra =
      if IsFurther name then Keyed.put name v r.extra else r.extra := by
  unfold withAttribute
  -- The names that are told apart are shown as strings, and all of them are reserved.
  split
  case h_11 =>
    have hreserved : (reservedNames.any fun n => Text.ofString n = name) = true ↔
        ¬ IsFurther name := by
      simp [IsFurther]
    by_cases hfurther : IsFurther name
    · rw [if_neg (mt hreserved.mp (not_not_intro hfurther)), if_pos hfurther]
    · rw [if_pos (hreserved.mpr hfurther), if_neg hfurther]
  all_goals
    rename_i h
    rw [if_neg (not_isFurther_of_toString (by decide) h)]

theorem extra_withAttributes (r : Record) (attributes : List (Text × Value)) :
    (r.withAttributes attributes).extra =
      Keyed.putAll (attributes.filter fun a => decide (IsFurther a.1)) r.extra := by
  induction attributes generalizing r with
  | nil => rfl
  | cons a attributes ih =>
      refine (ih (r.withAttribute a.1 a.2)).trans ?_
      rw [extra_withAttribute]
      by_cases hfurther : IsFurther a.1
      · rw [if_pos hfurther, List.filter_cons, if_pos (decide_eq_true hfurther)]
        rfl
      · rw [if_neg hfurther, List.filter_cons, if_neg (by simpa using hfurther)]

theorem Ready.withAttribute (hr : r.Ready) (hv : v.JsonReady) :
    (r.withAttribute name v).Ready := by
  unfold Record.withAttribute
  split
  case h_1 => exact { hr with name := hv }
  case h_2 => exact { hr with levelName := hv }
  case h_3 => exact { hr with path := hv }
  case h_4 => exact { hr with line := hv }
  case h_5 => exact { hr with function := hv }
  case h_11 =>
    split
    · exact hr
    · exact { hr with }
  all_goals exact { hr with }

theorem Ready.withAttributes (hr : r.Ready) (h : ∀ a ∈ attributes, a.2.JsonReady) :
    (r.withAttributes attributes).Ready := by
  induction attributes generalizing r with
  | nil => exact hr
  | cons a attributes ih =>
      rcases List.forall_mem_cons.mp h with ⟨ha, hrest⟩
      exact ih (hr.withAttribute ha) hrest

theorem further_ready (h : ∀ a ∈ attributes, a.2.JsonReady) :
    (Value.object (further attributes)).JsonReady := by
  refine Value.jsonReady_object.mpr ⟨Keyed.nodup_keys_ofRows _, fun f hf => h f ?_⟩
  exact List.mem_of_mem_filter (Keyed.mem_ofRows hf)

/-!
# The fields of a line
-/

def lineFields (r : Record) (requestId time message : Text) (raised : Option Value) :
    List (String × Value) :=
  [("timestamp", .text time), ("level", r.levelName), ("logger", r.name),
    ("message", .text message)] ++
  fieldIf "request_id" (if requestId.isEmpty then none else some (.text requestId)) ++
  fieldIf "exception" raised ++
  [("file", r.path), ("line", r.line), ("function", r.function)] ++
  fieldIf "extra" (if r.extra.isEmpty then none else some (.object r.extra))

def lineNames : List String :=
  ["timestamp", "level", "logger", "message"] ++ ["request_id"] ++ ["exception"] ++
    ["file", "line", "function"] ++ ["extra"]

variable {requestId time message : Text} {raised : Option Value}

theorem fields_eq (requestId : Text)
    (htime : (Instant.ofValue r.created).bind Instant.text = .ok time)
    (hmessage : r.filledMessage = .ok message) (hraised : raisedValue r.raised = .ok raised) :
    r.fields requestId = .ok (Value.record (r.lineFields requestId time message raised)) := by
  rw [fields, htime, hmessage, hraised]
  rfl

theorem fieldIf_sublist (name : String) (v : Option Value) :
    ((fieldIf name v).map Prod.fst).Sublist [name] := by
  cases v with
  | none => exact List.nil_sublist _
  | some v => exact List.Sublist.refl _

theorem lineFields_sublist :
    ((r.lineFields requestId time message raised).map Prod.fst).Sublist lineNames := by
  simp only [lineFields, List.map_append]
  exact ((((List.Sublist.refl _).append (fieldIf_sublist _ _)).append
    (fieldIf_sublist _ _)).append (List.Sublist.refl _)).append (fieldIf_sublist _ _)

theorem find?_fieldIf (name other : String) (v : Option Value) :
    ((fieldIf name v).find? fun f => f.1 = other) =
      if name = other then v.map (name, ·) else none := by
  cases v with
  | none => simp [fieldIf]
  | some v =>
      by_cases h : name = other
      · simp [fieldIf, h]
      · simp [fieldIf, h]

/-- What an object says that stands for a record. -/
structure Tells (requestId : Text) (attributes : List (Text × Value)) (r : Record)
    (time message : Text) (entry : Value) : Prop where
  /-- The names are in their order, each at most once, and there are no others. -/
  names : ∃ fields, entry = .object fields ∧
    (Keyed.keys fields).Sublist (lineNames.map Text.ofString)
  timestamp : entry.field? (Text.ofString "timestamp") = some (.text time)
  level : entry.field? (Text.ofString "level") = some r.levelName
  logger : entry.field? (Text.ofString "logger") = some r.name
  message : entry.field? (Text.ofString "message") = some (.text message)
  requestId : entry.field? (Text.ofString "request_id") =
    if requestId = [] then none else some (.text requestId)
  nothingRaised : r.raised = .nothing → entry.field? (Text.ofString "exception") = none
  noIncident : r.raised = .incident none → entry.field? (Text.ofString "exception") =
    some (Value.record [("type", .null), ("message", .null)])
  incident : ∀ i, r.raised = .incident (some i) → entry.field? (Text.ofString "exception") =
    some (Value.record [("type", .text i.family), ("message", .text i.shown)])
  file : entry.field? (Text.ofString "file") = some r.path
  line : entry.field? (Text.ofString "line") = some r.line
  function : entry.field? (Text.ofString "function") = some r.function
  extra : entry.field? (Text.ofString "extra") =
    if further attributes = [] then none else some (.object (further attributes))

theorem tells_lineFields (hextra : r.extra = further attributes)
    (hraised : raisedValue r.raised = .ok raised) :
    Tells requestId attributes r time message
      (Value.record (r.lineFields requestId time message raised)) where
  names := by
    refine ⟨_, rfl, ?_⟩
    rw [Value.keys_record]
    exact lineFields_sublist.map _
  timestamp := by simp [Value.field?_record, lineFields]
  level := by simp [Value.field?_record, lineFields]
  logger := by simp [Value.field?_record, lineFields]
  message := by simp [Value.field?_record, lineFields]
  requestId := by
    by_cases h : requestId = [] <;> simp [Value.field?_record, lineFields, find?_fieldIf, h]
  nothingRaised h := by
    rw [h] at hraised
    cases hraised
    simp [Value.field?_record, lineFields, find?_fieldIf]
  noIncident h := by
    rw [h] at hraised
    cases hraised
    simp [Value.field?_record, lineFields, find?_fieldIf, raisedFields]
  incident i h := by
    rw [h] at hraised
    cases hraised
    simp [Value.field?_record, lineFields, find?_fieldIf, raisedFields]
  file := by simp [Value.field?_record, lineFields, find?_fieldIf]
  line := by simp [Value.field?_record, lineFields, find?_fieldIf]
  function := by simp [Value.field?_record, lineFields, find?_fieldIf]
  extra := by
    rw [← hextra]
    by_cases h : r.extra = [] <;> simp [Value.field?_record, lineFields, find?_fieldIf, h]

theorem forall_mem_some {v : Value} {P : Value → Prop} (h : P v) : ∀ w ∈ some v, P w := by
  rintro w ⟨⟩
  exact h

theorem raisedFields_ready {type message : Value} (htype : type.JsonReady)
    (hmessage : message.JsonReady) : (raisedFields type message).JsonReady := by
  refine Value.jsonReady_record (show ["type", "message"].Nodup by decide) ?_
  exact List.forall_mem_cons.mpr ⟨htype, List.forall_mem_singleton.mpr hmessage⟩

theorem exists_raisedValue (h : ∀ v, r.raised ≠ .data v) :
    ∃ raised, raisedValue r.raised = .ok raised ∧ ∀ v ∈ raised, v.JsonReady := by
  cases hraised : r.raised with
  | nothing => exact ⟨none, rfl, nofun⟩
  | incident i =>
      cases i with
      | none => exact ⟨_, rfl, forall_mem_some (raisedFields_ready trivial trivial)⟩
      | some i => exact ⟨_, rfl, forall_mem_some (raisedFields_ready trivial trivial)⟩
  | data v => exact absurd hraised (h v)

theorem forall_mem_fieldIf {name : String} {value : Option Value} {P : Value → Prop}
    (h : ∀ v ∈ value, P v) : ∀ f ∈ fieldIf name value, P f.2 := by
  cases value with
  | none => nofun
  | some v => exact List.forall_mem_singleton.mpr (h v rfl)

theorem forall_mem_fieldIf_unless {name : String} {absent : Prop} [Decidable absent] {v : Value}
    {P : Value → Prop} (h : P v) :
    ∀ f ∈ fieldIf name (if absent then none else some v), P f.2 := by
  refine forall_mem_fieldIf ?_
  split
  · nofun
  · exact forall_mem_some h

theorem lineFields_ready (hr : r.Ready) (hextra : (Value.object r.extra).JsonReady)
    (hraised : ∀ v ∈ raised, v.JsonReady) :
    (Value.record (r.lineFields requestId time message raised)).JsonReady := by
  refine Value.jsonReady_record (lineFields_sublist.nodup (by decide)) ?_
  simp only [lineFields, List.forall_mem_append]
  refine ⟨⟨⟨⟨?_, forall_mem_fieldIf_unless trivial⟩, forall_mem_fieldIf hraised⟩, ?_⟩,
    forall_mem_fieldIf_unless hextra⟩
  · simp [Value.JsonReady, hr.levelName, hr.name]
  · simp [hr.path, hr.line, hr.function]

/--
A record whose time and message can be written, with data for attributes and nothing but an
incident raised, becomes a line of plain ASCII.  Unless a text holds a high surrogate with a low
one right behind it, the line is read as the object that tells the record, by every reader with
room for its depth.
-/
theorem line_restores_record {base : Record} (hplain : base.extra = []) (hbase : base.Ready)
    (hattributes : ∀ a ∈ attributes, a.2.JsonReady)
    (hraised : ∀ v, (base.withAttributes attributes).raised ≠ .data v)
    (htime : (Instant.ofValue (base.withAttributes attributes).created).bind Instant.text =
      .ok time)
    (hmessage : (base.withAttributes attributes).filledMessage = .ok message)
    (requestId : Text) :
    ∃ line entry, (base.withAttributes attributes).render requestId = .ok line ∧
      (base.withAttributes attributes).fields requestId = .ok entry ∧
      (∀ c ∈ line, PlainAscii c) ∧
      Tells requestId attributes (base.withAttributes attributes) time message entry ∧
      (entry.AllTexts Text.Unpaired →
        (∀ room, entry.depth ≤ room → readWithin room line = .ok entry) ∧
        (entry.depth ≤ maxDepth → readDocument line = .ok entry)) := by
  generalize hr : base.withAttributes attributes = r at hraised htime hmessage ⊢
  have hextra : r.extra = further attributes := by
    rw [← hr, extra_withAttributes, hplain]
    rfl
  have hready : r.Ready := hr ▸ hbase.withAttributes hattributes
  rcases exists_raisedValue hraised with ⟨raised, hvalue, hincident⟩
  have hfields := fields_eq requestId htime hmessage hvalue
  have hentry : (Value.record (r.lineFields requestId time message raised)).JsonReady :=
    lineFields_ready hready (hextra ▸ further_ready hattributes) hincident
  refine ⟨_, _, by rw [render, hfields]; rfl, hfields, plainAscii_render _,
    tells_lineFields hextra hvalue, fun htexts => ?_⟩
  have hread : ∀ room, (Value.record (r.lineFields requestId time message raised)).depth ≤ room →
      readWithin room _ = .ok _ := fun _ =>
    readWithin_render Style.asciiLine_restores htexts hentry
  exact ⟨hread, fun hdepth => readDocument_of_readWithin (hread maxDepth hdepth)⟩

/-- A record with line feeds in its texts, a template to fill in, and something raised. -/
def startup : Record where
  name := .text "app"
  levelName := .text "INFO"
  path := .text "app.py"
  line := .int 7
  function := .null
  created := .int 0
  message := .text "read %s"
  arguments := some (.inOrder [.text "a\nb"])
  raised := .incident (some ⟨"ValueError", "bad\r\n", .null⟩)
  replacedFill := none
  extra := []

def halves : Value :=
  .list [.text [CodePoint.ofNat 0x1F600, CodePoint.ofNat 0xD83D], .int 3]

/-- One attribute that replaces, one that is never written, and one under its own name. -/
def startupAttributes : List (Text × Value) :=
  [("lineno", .int 8), ("exc_text", .null), ("note\n", halves)]

theorem startupAttributes_ready : ∀ a ∈ startupAttributes, a.2.JsonReady :=
  List.forall_mem_cons.mpr ⟨Value.jsonReady_digit (by decide), List.forall_mem_cons.mpr
    ⟨trivial, List.forall_mem_singleton.mpr
      ⟨trivial, Value.jsonReady_digit (by decide), trivial⟩⟩⟩

theorem line_restores_record_startup :
    ∃ line entry,
      (startup.withAttributes startupAttributes).render "id\n" = .ok line ∧
      (∀ c ∈ line, PlainAscii c) ∧
      readDocument line = .ok entry ∧
      entry.field? (Text.ofString "message") = some (.text "read a\nb") ∧
      entry.field? (Text.ofString "request_id") = some (.text "id\n") ∧
      entry.field? (Text.ofString "line") = some (.int 8) ∧
      entry.field? (Text.ofString "extra") = some (.object [("note\n", halves)]) := by
  have htime : (Instant.ofValue (startup.withAttributes startupAttributes).created).bind
      Instant.text = .ok (Text.ofString "1970-01-01T00:00:00+00:00") := by
    decide +kernel
  have hmessage : (startup.withAttributes startupAttributes).filledMessage =
      .ok (Text.ofString "read a\nb") := by
    decide +kernel
  have hbase : startup.Ready :=
    ⟨trivial, trivial, trivial, Value.jsonReady_digit (by decide), trivial⟩
  rcases line_restores_record rfl hbase startupAttributes_ready nofun htime hmessage "id\n"
    with ⟨line, entry, hline, hfields, hplain, htells, hread⟩
  rw [fields_eq "id\n" htime hmessage rfl] at hfields
  have htexts : entry.AllTexts Text.Unpaired := by
    rw [← Except.ok.inj hfields]
    decide
  have hdepth : entry.depth ≤ maxDepth := by
    rw [← Except.ok.inj hfields]
    decide
  exact ⟨line, entry, hline, hplain, (hread htexts).right hdepth, htells.message,
    htells.requestId, htells.line, htells.extra⟩

end Record
end Log
end RuleDraft
