import RuleDraft.Proofs.CommandLine.Agreement

/-!
# Forms that nest too deeply

A form that nests its containers deeper than they can be read is refused by the service, but the
command ends with a failure that escapes: the two never end alike.
-/

namespace RuleDraft

open CommandLine Service

section Deep

variable {s : Settings} {words : List Text} {kind : DocumentKind} {path : Text} {strict : Bool}
  {system : System Folder} {asked : Option Bool} {form file body : Text} {r : Service.Request}

theorem run_deep {container : Json.Container}
    (hwords : Request.read words = .ok ⟨kind, .file path, strict, none⟩)
    (hfile : system.files.read path = .ok form.toUtf8) (hform : Json.WellFormed form)
    (hencodable : form.Encodable) (hdeep : Json.readDocument form = .error (.tooDeep container)) :
    (runUnder s words system).1.ending =
      .escaped (Incident.ofFailure (.broken (.documentTooDeep container))) := by
  have hholds : Source.Holds system (.file path) (Folder.unifyBreaks form) :=
    .text (.file hfile) (Utf8.read_toUtf8_iff.mpr hencodable)
  have hdata : dataOf ⟨kind, .file path, strict, none⟩ system =
      .error (.escape (Incident.ofFailure (.broken (.documentTooDeep container))) []) := by
    rw [dataOf_of_holds hholds, readData, Json.readDocument_unifyBreaks hform, hdeep]
  rw [runUnder_of_read hwords, perform_of_data hdata]
  rfl

theorem readJson_deep {container : Json.Container} (hform : Json.WellFormed form)
    (hencodable : form.Encodable) (hdeep : Json.readDocument form = .error (.tooDeep container)) :
    Body.readJson form.toUtf8 = .error .undecodable := by
  rw [Body.readJson, Json.readDocument_toUtf8 hform hencodable]
  dsimp only
  rw [hdeep]

/-- A form with containers too deep is refused by the service in words of no family. -/
theorem reply_deep {container : Json.Container} (hr : r.Posts kind asked body)
    (hencodable : body.Encodable) (hdeep : Json.readDocument body = .error (.tooDeep container))
    (ids : IdSupply) (l : Ledger) : (answer s ids r l).1.reply.status = 400 := by
  have hbody : Body.ofRequest r = .error .undecodable := by
    rw [ofRequest_posted hr (Json.WellFormed.of_deep hdeep),
      readJson_deep (Json.WellFormed.of_deep hdeep) hencodable hdeep]
    rfl
  have hgenerate {α : Type} (read : Value → Intake α) (make : Bool → α → Generation) (l : Ledger) :
      (Outcome.reply (generate read make (contextOf s ids r) l).1).status = 400 := by
    have hread : readStrictRequest read (contextOf s ids r).request (contextOf s ids r).ids =
        .error .undecodable := by
      change readStrictRequest read r ids = _
      rw [readStrictRequest, hbody]
      rfl
    rw [generate, hread]
    rfl
  rcases sameAnswer_posted hr s ids l with ⟨l', hsame⟩
  rw [hsame.status]
  cases kind with
  | vendor => exact hgenerate VendorForm.intake Generation.ofVendor l'
  | config => exact hgenerate ConfigForm.intake Generation.ofConfig l'

theorem not_endAlike_deep {outer inner : Json.Container}
    (hwords : Request.read words = .ok ⟨kind, .file path, strict, none⟩)
    (hfile : system.files.read path = .ok file.toUtf8) (hr : r.Posts kind asked body)
    (hfileText : file.Encodable) (hbodyText : body.Encodable)
    (houter : Json.readDocument file = .error (.tooDeep outer))
    (hinner : Json.readDocument body = .error (.tooDeep inner)) {ids : IdSupply} {l : Ledger} :
    ¬ EndAlike (runUnder s words system).1 (answer s ids r l).1.reply := by
  have hescaped := run_deep (s := s) hwords hfile (Json.WellFormed.of_deep houter) hfileText houter
  intro hend
  have hstatus := hend.escaped.mp ⟨_, hescaped⟩
  rw [reply_deep hr hbodyText hinner] at hstatus
  cases hstatus

end Deep

/-!
# Lists in lists
-/

def nested (n : Nat) (rest : Text) : Text :=
  List.replicate n (CodePoint.ofChar '[') ++ (List.replicate n (CodePoint.ofChar ']') ++ rest)

/-- A vendor form with a field of lists in lists. -/
def nestedForm (n : Nat) : Text :=
  Text.ofString "\x7b\"x\":" ++ nested n [CodePoint.ofChar '\x7d']

section Nested

open Json

/-- Lists that are nested further than there is room for are too deep. -/
theorem readValue_nested (room n fuel : Nat) (rest : Text) :
    readValue (fuel + (2 * room + 1)) room
        (List.replicate (room + 1 + n) (CodePoint.ofChar '[') ++ rest) =
      .error (.tooDeep .array) := by
  induction room with
  | zero =>
      rw [Nat.add_right_comm, List.replicate_succ, List.cons_append, readValue_list, if_pos rfl]
  | succ room ih =>
      rw [Nat.add_right_comm, List.replicate_succ, List.cons_append] at ih
      rw [show room + 1 + 1 + n = room + n + 1 + 1 by omega, List.replicate_succ, List.cons_append,
        show fuel + (2 * (room + 1) + 1) = fuel + (2 * room + 1) + 1 + 1 by omega, readValue_list,
        if_neg (Nat.succ_ne_zero room)]
      unfold readInside
      rw [List.replicate_succ, List.cons_append, skipSpace_cons (by decide)]
      dsimp only
      rw [if_neg (by decide), readItems_succ, Nat.add_sub_cancel, ih]
      rfl

theorem skipSpace_nested (n : Nat) (rest : Text) :
    skipSpace (nested (n + 1) rest) = nested (n + 1) rest := by
  rw [nested, List.replicate_succ, List.cons_append]
  exact skipSpace_cons (by decide)

theorem readValue_nestedForm (room n fuel : Nat) :
    readValue (fuel + (2 * room + 1) + 2) (room + 1) (nestedForm (room + 1 + n)) =
      .error (.tooDeep .array) := by
  have htext : nestedForm (room + 1 + n) = CodePoint.ofChar '\x7b' :: CodePoint.ofChar '\x22' ::
      CodePoint.ofChar 'x' :: CodePoint.ofChar '\x22' :: CodePoint.ofChar ':' ::
        nested (room + 1 + n) [CodePoint.ofChar '\x7d'] := rfl
  rw [htext, readValue_object, if_neg (Nat.succ_ne_zero room)]
  unfold readInside
  rw [skipSpace_cons (by decide)]
  dsimp only
  rw [if_neg (by decide), readFields_succ, readText_ordinary (by decide) (by decide) (by decide),
    readText_quote, Nat.add_sub_cancel]
  change Except.map _ (readBehindKey (readValue _ room) (CodePoint.ofChar ':' :: nested _ _)
    >>= _) = _
  unfold readBehindKey
  rw [skipSpace_cons (by decide)]
  dsimp only
  rw [if_neg (by simp), Nat.add_right_comm room 1 n, skipSpace_nested, nested,
    Nat.add_right_comm room n 1, readValue_nested]
  rfl

theorem readDocument_nestedForm {n : Nat} (hn : maxDepth ≤ n) :
    readDocument (nestedForm n) = .error (.tooDeep .array) := by
  have hlength : n ≤ (nestedForm n).length := by
    simp only [nestedForm, nested, List.length_append, List.length_replicate]
    omega
  have hmark : (nestedForm n).head? ≠ some (CodePoint.ofNat 0xFEFF) := by
    change some (CodePoint.ofChar '\x7b') ≠ _
    decide
  have hskip : skipSpace (nestedForm n) = nestedForm n := skipSpace_cons (by decide)
  have hdepth : maxDepth = 986 + 1 := rfl
  rcases Nat.exists_eq_add_of_le hn with ⟨m, rfl⟩
  rw [hdepth] at hlength hskip hmark ⊢
  have hroom : 2 * 986 + 1 ≤ 2 * (nestedForm (986 + 1 + m)).length := by omega
  rcases Nat.exists_eq_add_of_le' hroom with ⟨fuel, hfuel⟩
  unfold readDocument
  rw [readFromStart_eq hmark, hskip, hfuel, hdepth, readValue_nestedForm 986 m fuel]
  rfl

theorem encodable_nestedForm (n : Nat) : (nestedForm n).Encodable := by
  have hmark (ch : Char) := Text.encodable_replicate (Text.isSurrogate_ofChar ch) n
  refine Text.encodable_append_iff.mpr ⟨Text.encodable_ofString _, ?_⟩
  refine Text.encodable_append_iff.mpr ⟨hmark '[', ?_⟩
  exact Text.encodable_append_iff.mpr ⟨hmark ']', Text.encodable_ofString "\x7d"⟩

end Nested

/-- However the command and the service are set up, they end a form of nested lists unlike. -/
theorem nested_ends_unlike (s : Settings) {n : Nat} (hn : Json.maxDepth ≤ n)
    {system : System Folder} (hfile : system.files.read "f.json" = .ok (nestedForm n).toUtf8)
    (ids : IdSupply) (l : Ledger) :
    ¬ EndAlike (runUnder s vendorWords system).1
      (answer s ids (postOf [] (nestedForm n)) l).1.reply :=
  not_endAlike_deep read_vendorWords hfile (posts_postOf rfl) (encodable_nestedForm n)
    (encodable_nestedForm n) (readDocument_nestedForm hn) (readDocument_nestedForm hn)

end RuleDraft
