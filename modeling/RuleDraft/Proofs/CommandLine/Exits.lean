import RuleDraft.Proofs.CommandLine.Requests

/-!
# Runs that end with a code

Command lines that are not carried out end with a code.  A request does too, unless it meets
what the command is not prepared for: a path of the form that is no path, a numeral too long
or containers nested too deeply in the form, a value that breaks its strict reading, a file
that the document cannot be written to, or an output that cannot show the document or the name
of its file.
-/

namespace RuleDraft
namespace CommandLine

/-- The run ends with one of the codes of the command. -/
def Finish.Exits (finish : Finish) : Prop := ∃ code ≤ 2, finish.ending = .exit code

section Exits

variable {φ : Type} [FileSystem φ] {s : Settings} {r : Request} {system : System φ}

theorem perform_exits_iff : (perform s r system).1.Exits ↔ ¬ r.Fails s system := by
  constructor
  · rintro ⟨code, _, hcode⟩ hfails
    rcases Request.perform_failing_iff.mpr hfails with ⟨i, hescaped⟩
    rw [hescaped] at hcode
    cases hcode
  · intro hsafe
    have hends := r.ends_perform s system
    generalize perform s r system = result at hends ⊢
    cases hends with
    | refused _ => exact ⟨1, by decide, rfl⟩
    | lacking _ => exact ⟨2, by decide, rfl⟩
    | failing hfails _ => exact absurd hfails hsafe
    | shown _ _ => exact ⟨0, by decide, rfl⟩
    | written _ _ _ => exact ⟨0, by decide, rfl⟩

theorem help_exits_iff {words : List Text} (h : Request.read words = .error .help) :
    (runUnder s words system).1.Exits ↔ system.screen.gap? Arguments.help = none := by
  rw [runUnder_of_help h]
  cases hgap : system.screen.gap? Arguments.help with
  | none =>
      rw [simulate_conclude hgap]
      exact iff_of_true ⟨0, by decide, rfl⟩ rfl
  | some g =>
      rw [simulate_conclude_unshown hgap]
      refine iff_of_false ?_ nofun
      rintro ⟨code, _, ⟨⟩⟩

/--
A run ends with a code exactly if its request does not fail or, where help is asked for, the
output can show it.
-/
theorem exits_iff_not_fails (s : Settings) (words : List Text) (system : System φ) :
    (runUnder s words system).1.Exits ↔
      (Request.read words = .error .help → system.screen.gap? Arguments.help = none) ∧
        ∀ r, Request.read words = .ok r → ¬ r.Fails s system := by
  cases hread : Request.read words with
  | error stop =>
      cases stop with
      | help => exact (help_exits_iff hread).trans ⟨fun h => ⟨fun _ => h, nofun⟩, fun h => h.1 rfl⟩
      | misuse message =>
          rw [runUnder_of_misuse hread]
          exact iff_of_true ⟨2, by decide, rfl⟩ ⟨nofun, nofun⟩
  | ok r =>
      rw [runUnder_of_read hread]
      refine perform_exits_iff.trans ⟨fun hsafe => ⟨nofun, ?_⟩, fun h => h.right r rfl⟩
      rintro _ ⟨⟩
      exact hsafe

end Exits

/-- The words that ask for a document in a folder that may not be there. -/
def strayWords : List Text := ["vendor", "--defaults", "--output", "missing/out.json"]

def strayRequest : Request := ⟨.vendor, .starter, false, some "missing/out.json"⟩

theorem read_strayWords : Request.read strayWords = .ok strayRequest := by
  rfl

/-- Where the folder is not there, nothing can be written into it. -/
theorem fails_strayRequest {system : System Folder} (hfiles : system.files = []) :
    strayRequest.Fails .standard system := by
  have hline : strayRequest.Makes .standard system
      (Request.lineOf .standard (Form.starter .vendor system.ids).document) :=
    ⟨_, _, .starter rfl, rfl, rfl⟩
  have hlocate : Folder.locate [] (Folder.tidy "missing/out.json") = .error .missing := by
    rfl
  have hwrite (octets : List UInt8) :
      FileSystem.write system.files (Folder.tidy "missing/out.json") octets =
        .error .missing := by
    change Folder.write _ _ _ = _
    rw [hfiles, Folder.write, hlocate]
    rfl
  exact .target hline rfl (hwrite _)

theorem not_every_run_exits :
    ¬ ∀ (words : List Text) (system : System Folder), (run words system).1.Exits := by
  intro hall
  have hexits := hall strayWords ⟨[], .numbered "new", .utf8, []⟩
  rw [run, runUnder_of_read read_strayWords] at hexits
  exact perform_exits_iff.mp hexits (fails_strayRequest rfl)

end CommandLine
end RuleDraft
