import RuleDraft.Proofs.CommandLine.Files
import RuleDraft.Proofs.CommandLine.Requests
import RuleDraft.Proofs.Document.Encodable
import RuleDraft.Proofs.Document.Supplies

/-!
# All or nothing, but for the report

A run that succeeds has written the whole document, in octets that give its text again, and
reports no more than that.  Any other run has shown nothing, and it has left the files as they
were, unless all that failed was to report the document that it had written.  What the request
concerns decides which code a run ends with.
-/

namespace RuleDraft

/-!
# Plain documents of forms
-/

theorem VendorForm.sound_starter {supply : IdSupply} (h : supply.Encodable) :
    (starter supply).Sound where
  vendor := Text.encodable_nil
  endpoint := Text.encodable_nil
  timeout := Text.encodable_nil
  headers := List.forall_mem_singleton.mpr
    ⟨h _, Text.encodable_ofString _, Text.encodable_ofString _⟩
  body := List.forall_mem_singleton.mpr
    ⟨h _, Text.encodable_ofString _, Text.encodable_ofString _⟩
  preconditions := List.forall_mem_nil _
  responseMappings := by
    refine List.forall_mem_singleton.mpr ⟨h _, nofun, ?_, nofun⟩
    refine List.forall_mem_singleton.mpr
      ⟨h _, Text.encodable_ofString _, ?_⟩
    exact List.forall_mem_singleton.mpr (Text.encodable_ofString _)
  responseTemplate := List.forall_mem_singleton.mpr
    ⟨h _, Text.encodable_ofString _, Text.encodable_ofString _⟩

theorem ConfigForm.sound_starter {supply : IdSupply} (h : supply.Encodable) :
    (starter supply).Sound where
  validations := by
    refine List.forall_mem_singleton.mpr
      ⟨h _, nofun, ?conditions, ?notice⟩
    case conditions =>
      refine List.forall_mem_singleton.mpr
        ⟨h _, Text.encodable_ofString _, ?_⟩
      exact List.forall_mem_singleton.mpr (Text.encodable_ofString _)
    case notice =>
      rintro n ⟨⟩
      exact ⟨Text.encodable_ofString _, Text.encodable_ofString _⟩
  readWrite := List.forall_mem_singleton.mpr
    ⟨h _, Text.encodable_ofString _, Text.encodable_ofString _⟩

namespace Form

variable {kind : DocumentKind} {supply : IdSupply} {v : Value} {f : Form}

theorem encodable_document_starter (kind : DocumentKind) (supply : IdSupply) :
    (starter kind supply).document.Encodable := by
  rw [document_starter kind supply (.numbered [])]
  have hids := IdSupply.encodable_numbered Text.encodable_nil
  cases kind with
  | vendor => exact VendorForm.encodable_ofForm (VendorForm.sound_starter hids).encodable
  | config => exact ConfigForm.encodable_ofForm (ConfigForm.sound_starter hids).encodable

theorem encodable_document_of_encodable (h : read kind v supply = .ok f)
    (hsupply : supply.Encodable) : f.document.Encodable := by
  cases kind with
  | vendor =>
      rcases map_eq_ok.mp h with ⟨form, hform, rfl⟩
      have hsound := (VendorForm.ensures_intake v supply hsupply).left form hform
      exact VendorForm.encodable_ofForm hsound.encodable
  | config =>
      rcases map_eq_ok.mp h with ⟨form, hform, rfl⟩
      have hsound := (ConfigForm.ensures_intake v supply hsupply).left form hform
      exact ConfigForm.encodable_ofForm hsound.encodable

/-- No id gets into a document, so it does not matter whether ids have surrogates. -/
theorem encodable_document_read (h : read kind v supply = .ok f) : f.document.Encodable := by
  have hids := IdSupply.encodable_numbered Text.encodable_nil
  have hagree := agree_read kind v supply (.numbered [])
  rw [h] at hagree
  generalize hother : read kind v (.numbered []) = other at hagree
  cases hagree with
  | ok halike =>
      rw [halike.document]
      exact encodable_document_of_encodable hother hids

end Form

namespace CommandLine

section Delivery

variable {φ : Type} [FileSystem φ] {s : Settings} {r : Request} {system : System φ}

theorem Request.Concerns.encodable_document {f : Form} (h : r.Concerns system f) :
    f.document.Encodable := by
  cases h with
  | starter _ => exact Form.encodable_document_starter r.kind system.ids
  | given _ hform => exact Form.encodable_document_read hform

theorem Request.Makes.encodable {line : Text} (h : r.Makes s system line) :
    line.Encodable := by
  rcases h with ⟨f, v, hform, hdocument, rfl⟩
  rw [Form.eq_document_of_generate hdocument]
  exact Text.encodable_append_iff.mpr
    ⟨Json.encodable_render _ hform.encodable_document, Text.encodable_ofString "\n"⟩

theorem Request.Makes.ne_nil {line : Text} (h : r.Makes s system line) : line ≠ [] := by
  rcases h with ⟨f, v, _, _, rfl⟩
  exact List.append_ne_nil_of_right_ne_nil _ (List.cons_ne_nil _ _)

/-!
# Deliveries
-/

/--
After the run the line is where the request wants it: it is all that is shown, or else a file
holds it in octets that give it again, and all that is shown is the report of that.  Where the
request names a device, the line has gone there, and the files are as they were.
-/
inductive Request.Delivered [LawfulFileSystem φ] (r : Request) (line : Text) (system : System φ)
    (finish : Finish) : φ → Prop
  | shown (htarget : r.target = none) (houtput : finish.output = line) :
      Delivered r line system finish system.files
  | written {target : Text} {files' : φ} (htarget : r.target = some target)
      (houtput : finish.output = writtenLine r.kind target)
      (hread : FileSystem.read files' (Folder.tidy target) = .ok line.toUtf8)
      (hplain : Utf8.read line.toUtf8 = .ok line) : Delivered r line system finish files'
  | passed {target : Text} (htarget : r.target = some target)
      (houtput : finish.output = writtenLine r.kind target)
      (hdevice : LawfulFileSystem.IsDevice system.files (Folder.tidy target))
      (hwrite : FileSystem.write system.files (Folder.tidy target) line.toUtf8 =
        .ok system.files) : Delivered r line system finish system.files

theorem writtenLine_ne_nil (kind : DocumentKind) (target : Text) :
    writtenLine kind target ≠ [] := by
  unfold writtenLine Text.join
  rw [List.flatten_cons]
  exact List.append_ne_nil_of_left_ne_nil (by decide) _

section Lawful

variable [LawfulFileSystem φ]

theorem Request.Delivered.output_ne_nil {line : Text} {finish : Finish} {files' : φ}
    (h : r.Delivered line system finish files') (hline : line ≠ []) : finish.output ≠ [] := by
  cases h with
  | shown _ houtput =>
      rw [houtput]
      exact hline
  | written _ houtput _ _ =>
      rw [houtput]
      exact writtenLine_ne_nil _ _
  | passed _ houtput _ _ =>
      rw [houtput]
      exact writtenLine_ne_nil _ _

/-- What has been written is in a file, or a device has it and the files are as they were. -/
theorem Request.Makes.delivered {line target : Text} {files' : φ} {finish : Finish}
    (h : r.Makes s system line) (htarget : r.target = some target)
    (hwrite : FileSystem.write system.files (Folder.tidy target) line.toUtf8 = .ok files')
    (houtput : finish.output = writtenLine r.kind target) :
    r.Delivered line system finish files' := by
  by_cases hdevice : LawfulFileSystem.IsDevice system.files (Folder.tidy target)
  · have hsame := LawfulFileSystem.write_device hwrite hdevice
    subst hsame
    exact .passed htarget houtput hdevice hwrite
  · exact .written htarget houtput (LawfulFileSystem.read_write hwrite hdevice)
      (Utf8.read_toUtf8_iff.mpr h.encodable)

/-- The request decides how the run ends, and whether its document is delivered. -/
structure Request.Decides (s : Settings) (r : Request) (system : System φ) (finish : Finish)
    (files' : φ) : Prop where
  delivered : finish.ending = .exit 0 ↔
    ∃ line, r.Makes s system line ∧ r.Delivered line system finish files'
  refused : finish.ending = .exit 1 ↔ r.Refused s system
  lacking : finish.ending = .exit 2 ↔ r.Lacks system
  failing : (∃ i, finish.ending = .escaped i) ↔ r.Fails s system

end Lawful

theorem perform_shows_nothing (h : (perform s r system).1.ending ≠ .exit 0) :
    (perform s r system).1.output = [] ∧
      ((perform s r system).2 = system.files ∨
        r.Unreported s system (perform s r system).2) := by
  have hends := r.ends_perform s system
  generalize perform s r system = result at hends h ⊢
  cases hends with
  | refused _ => exact ⟨rfl, Or.inl rfl⟩
  | lacking _ => exact ⟨rfl, Or.inl rfl⟩
  | failing _ hfiles => exact ⟨rfl, hfiles⟩
  | shown _ _ => exact absurd rfl h
  | written _ _ _ => exact absurd rfl h

theorem perform_delivers_iff [LawfulFileSystem φ] :
    (perform s r system).1.ending = .exit 0 ↔
      ∃ line, r.Makes s system line ∧
        r.Delivered line system (perform s r system).1 (perform s r system).2 := by
  constructor
  · intro hend
    have hends := r.ends_perform s system
    generalize perform s r system = result at hends hend ⊢
    cases hends with
    | shown hmakes htarget => exact ⟨_, hmakes, .shown htarget rfl⟩
    | written hmakes htarget hwrite => exact ⟨_, hmakes, hmakes.delivered htarget hwrite rfl⟩
    | _ => cases hend
  · rintro ⟨line, hmakes, hdelivered⟩
    by_contra hend
    exact hdelivered.output_ne_nil hmakes.ne_nil (perform_shows_nothing hend).left

theorem decides_perform [LawfulFileSystem φ] (s : Settings) (r : Request) (system : System φ) :
    r.Decides s system (perform s r system).1 (perform s r system).2 :=
  ⟨perform_delivers_iff, Request.perform_refused_iff, Request.perform_lacking_iff,
    Request.perform_failing_iff⟩

theorem run_shows_nothing {words : List Text}
    (h : (runUnder s words system).1.ending ≠ .exit 0) :
    (runUnder s words system).1.output = [] ∧
      ((runUnder s words system).2 = system.files ∨
        ∃ r, Request.read words = .ok r ∧ r.Unreported s system (runUnder s words system).2) := by
  cases hread : Request.read words with
  | ok r =>
      rw [runUnder_of_read hread] at h ⊢
      rcases perform_shows_nothing h with ⟨houtput, hfiles⟩
      exact ⟨houtput, hfiles.imp_right fun hreport => ⟨r, rfl, hreport⟩⟩
  | error stop =>
      cases stop with
      | misuse message =>
          rw [runUnder_of_misuse hread]
          exact ⟨rfl, Or.inl rfl⟩
      | help =>
          rw [runUnder_of_help hread] at h ⊢
          cases hgap : system.screen.gap? Arguments.help with
          | none =>
              rw [simulate_conclude hgap] at h
              exact absurd rfl h
          | some g =>
              rw [simulate_conclude_unshown hgap]
              exact ⟨rfl, Or.inl rfl⟩

end Delivery

def emptySystem : System Folder := ⟨[], .numbered "new", .utf8, []⟩

def wordsTo (target : Text) : List Text := ["config", "--defaults", "--output", target]

def requestTo (target : Text) : Request := ⟨.config, .starter, false, some target⟩

theorem makes_requestTo (target : Text) :
    (requestTo target).Makes .standard emptySystem
      (Request.lineOf .standard (Form.starter .config emptySystem.ids).document) :=
  ⟨_, _, .starter rfl, rfl, rfl⟩

theorem write_in_empty (path name : Text)
    (hlocate : Folder.locate [] path = .ok (.vacant [name])) (octets : List UInt8) :
    FileSystem.write ([] : Folder) path octets = .ok (Keyed.put [name] octets []) := by
  change Folder.write _ _ _ = _
  rw [Folder.write, hlocate]
  rfl

/-- A name with an octet that is no UTF-8. -/
def octetName : Text := "out" ++ [CodePoint.ofNat 0xDC80]

end CommandLine
end RuleDraft
