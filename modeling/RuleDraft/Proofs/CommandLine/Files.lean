import RuleDraft.CommandLine.Folder
import RuleDraft.Proofs.KeyedRows
import RuleDraft.Proofs.Outcome

/-!
# Files that hold what was written

A file system is lawful if a file holds what was written to it, and writing to a device changes
no file.  A folder is: on the way to the file, a path leads through folders only, and these are
still there when the file has been written, so the path leads to the file.
-/

namespace RuleDraft
namespace CommandLine

/-- What has been written at a path is read there, unless a device has swallowed it. -/
class LawfulFileSystem (φ : Type) [FileSystem φ] where
  IsDevice : φ → Text → Prop
  read_write : ∀ {files files' : φ} {path : Text} {octets : List UInt8},
    FileSystem.write files path octets = .ok files' → ¬ IsDevice files path →
      FileSystem.read files' path = .ok octets
  write_device : ∀ {files files' : φ} {path : Text} {octets : List UInt8},
    FileSystem.write files path octets = .ok files' → IsDevice files path → files' = files

namespace Folder

variable {folder : Folder} {names : List Text} {octets : List UInt8}

/-!
# Places after a write
-/

theorem mem_put_key (names : List Text) (octets : List UInt8) {e : List Text × List UInt8}
    (h : e ∈ folder) :
    ∃ content, (e.1, content) ∈ Keyed.put names octets folder := by
  induction folder with
  | nil => cases h
  | cons first rest ih =>
      rw [Keyed.put]
      by_cases hfirst : first.1 = names
      · rw [if_pos hfirst]
        rcases List.mem_cons.mp h with rfl | hrest
        · exact ⟨octets, by rw [hfirst]; exact List.mem_cons_self⟩
        · exact ⟨e.2, List.mem_cons_of_mem _ hrest⟩
      · rw [if_neg hfirst]
        rcases List.mem_cons.mp h with rfl | hrest
        · exact ⟨e.2, List.mem_cons_self⟩
        · rcases ih hrest with ⟨content, hcontent⟩
          exact ⟨content, List.mem_cons_of_mem _ hcontent⟩

theorem hasBelow_put {other : List Text} (h : folder.hasBelow other = true) :
    Folder.hasBelow (Keyed.put names octets folder) other = true := by
  rw [hasBelow, Bool.or_eq_true] at h ⊢
  refine h.imp_right fun hany => ?_
  rcases List.any_eq_true.mp hany with ⟨e, he, hbelow⟩
  rcases mem_put_key names octets he with ⟨content, hcontent⟩
  exact List.any_eq_true.mpr ⟨_, hcontent, hbelow⟩

def Spot.Takes (s : Spot) (names : List Text) : Prop :=
  s = .vacant names ∨ ∃ old, s = .file names old

theorem Spot.Takes.not_folder {s : Spot} (h : s.Takes names) (other : List Text) :
    s ≠ .folder other := by
  rcases h with rfl | ⟨old, rfl⟩ <;> nofun

theorem Spot.Takes.names_eq {s : Spot} {other : List Text} (h : s.Takes names)
    (h' : s.Takes other) : other = names := by
  rcases h with rfl | ⟨old, rfl⟩
  · rcases h' with h' | ⟨_, h'⟩ <;> cases h'
    rfl
  · rcases h' with h' | ⟨_, h'⟩ <;> cases h'
    rfl

/-- What has a name is a folder, or it ends every way that leads to it. -/
theorem enter_cases (folder : Folder) (names : List Text) :
    folder.enter names = .folder names ∨
      folder.enter names = .device ∨ (folder.enter names).Takes names := by
  rw [enter]
  cases folder.get? names with
  | some old => exact Or.inr (Or.inr (Or.inr ⟨old, rfl⟩))
  | none =>
      dsimp only
      split_ifs with hdevice hbelow
      · exact Or.inr (Or.inl rfl)
      · exact Or.inl rfl
      · exact Or.inr (Or.inr (Or.inl rfl))

theorem enter_eq_folder_iff {other : List Text} :
    folder.enter names = .folder other ↔
      other = names ∧ folder.get? names = none ∧ names ≠ nullDevice ∧
        folder.hasBelow names = true := by
  rw [enter]
  cases folder.get? names with
  | some old => exact iff_of_false nofun nofun
  | none =>
      dsimp only
      split_ifs with hdevice hbelow
      · exact iff_of_false nofun fun h => h.right.right.left hdevice
      · rw [Spot.folder.injEq]
        exact ⟨fun h => ⟨h.symm, rfl, hdevice, hbelow⟩, fun h => h.left.symm⟩
      · exact iff_of_false nofun fun h => hbelow h.right.right.right

theorem enter_put_self :
    Folder.enter (Keyed.put names octets folder) names = .file names octets := by
  rw [enter, Keyed.get?_put, if_pos rfl]

theorem enter_put_folder {other : List Text} (hother : names ≠ other)
    (h : folder.enter other = .folder other) :
    Folder.enter (Keyed.put names octets folder) other = .folder other := by
  rcases enter_eq_folder_iff.mp h with ⟨_, hget, hdevice, hbelow⟩
  refine enter_eq_folder_iff.mpr ⟨rfl, ?_, hdevice, hasBelow_put hbelow⟩
  rw [Keyed.get?_put, if_neg hother, hget]

/-!
# The way to a file
-/

section Ways

variable {ns : List Text} {name : Text} {way : List Text} {s spot : Spot}

/-- A step moves between folders whatever the files are, or it enters what has a name. -/
theorem step_cases (h : folder.step (.folder ns) name = .ok s) :
    (∃ other, s = .folder other ∧
      ∀ files : Folder, files.step (.folder ns) name = .ok (.folder other)) ∨
      s = folder.enter (ns ++ [name]) ∧
        ∀ files : Folder, files.step (.folder ns) name = .ok (files.enter (ns ++ [name])) := by
  simp only [step] at h ⊢
  split_ifs at h ⊢ with hstay hup hlong
  · cases h
    exact Or.inl ⟨ns, rfl, fun _ => rfl⟩
  · cases h
    exact Or.inl ⟨above ns, rfl, fun _ => rfl⟩
  · cases h
    exact Or.inr ⟨rfl, fun _ => rfl⟩

/-- No way leads on from what is no folder. -/
theorem way_ends (hs : ∀ other, s ≠ .folder other) (h : way.foldlM folder.step s = .ok spot) :
    way = [] ∧ spot = s := by
  cases way with
  | nil =>
      cases h
      exact ⟨rfl, rfl⟩
  | cons name rest =>
      rw [List.foldlM_cons] at h
      rcases bind_eq_ok.mp h with ⟨s', hs', _⟩
      cases s with
      | folder other => exact absurd rfl (hs other)
      | file _ _ => cases hs'
      | vacant _ => cases hs'
      | device => cases hs'

theorem not_folder_device (other : List Text) : Spot.device ≠ .folder other := nofun

theorem Spot.Takes.ne_device (hspot : spot.Takes names) : spot ≠ .device := by
  rcases hspot with rfl | ⟨old, rfl⟩ <;> nofun

theorem enter_of_way (hspot : spot.Takes names)
    (h : way.foldlM folder.step (.folder ns) = .ok spot) : folder.enter names = spot := by
  induction way generalizing ns with
  | nil =>
      cases h
      exact absurd rfl (hspot.not_folder ns)
  | cons name rest ih =>
      rw [List.foldlM_cons] at h
      rcases bind_eq_ok.mp h with ⟨s, hs, hrest⟩
      rcases step_cases hs with ⟨other, rfl, _⟩ | ⟨rfl, _⟩
      · exact ih hrest
      · rcases enter_cases folder (ns ++ [name]) with hfolder | hdevice | htakes
        · rw [hfolder] at hrest
          exact ih hrest
        · rw [hdevice] at hrest
          exact absurd (way_ends not_folder_device hrest).right hspot.ne_device
        · rcases way_ends htakes.not_folder hrest with ⟨_, rfl⟩
          rw [htakes.names_eq hspot]

theorem way_put (hspot : spot.Takes names)
    (h : way.foldlM folder.step (.folder ns) = .ok spot) :
    way.foldlM (Folder.step (Keyed.put names octets folder)) (.folder ns) =
      .ok (.file names octets) := by
  -- No folder on the way can be the file itself, so what is entered on the way stays as it was.
  have hnames := enter_of_way hspot h
  induction way generalizing ns with
  | nil =>
      cases h
      exact absurd rfl (hspot.not_folder ns)
  | cons name rest ih =>
      rw [List.foldlM_cons] at h ⊢
      rcases bind_eq_ok.mp h with ⟨s, hs, hrest⟩
      rcases step_cases hs with ⟨other, rfl, hmove⟩ | ⟨rfl, henter⟩
      · rw [hmove]
        exact ih hrest
      · rw [henter]
        rcases enter_cases folder (ns ++ [name]) with hfolder | hdevice | htakes
        · have hother : names ≠ ns ++ [name] := by
            rintro rfl
            exact hspot.not_folder _ (hnames.symm.trans hfolder)
          rw [hfolder] at hrest
          rw [enter_put_folder hother hfolder]
          exact ih hrest
        · rw [hdevice] at hrest
          exact absurd (way_ends not_folder_device hrest).right hspot.ne_device
        · rcases way_ends htakes.not_folder hrest with ⟨rfl, rfl⟩
          rw [hspot.names_eq htakes, enter_put_self]
          rfl

end Ways

theorem write_eq_ok {folder' : Folder} {path : Text} (h : folder.write path octets = .ok folder') :
    folder.locate path = .ok .device ∧ folder' = folder ∨
      ∃ names spot, folder.locate path = .ok spot ∧ spot.Takes names ∧
        folder' = Keyed.put names octets folder := by
  rcases bind_eq_ok.mp h with ⟨spot, hspot, hput⟩
  cases spot with
  | folder names => cases hput
  | file names old =>
      cases hput
      exact Or.inr ⟨names, _, hspot, Or.inr ⟨old, rfl⟩, rfl⟩
  | vacant names =>
      cases hput
      exact Or.inr ⟨names, _, hspot, Or.inl rfl, rfl⟩
  | device =>
      cases hput
      exact Or.inl ⟨hspot, rfl⟩

theorem locate_put {path : Text} {spot : Spot} (hspot : spot.Takes names)
    (h : folder.locate path = .ok spot) :
    Folder.locate (Keyed.put names octets folder) path = .ok (.file names octets) := by
  unfold locate at h ⊢
  cases hfault : pathFault? path with
  | some f =>
      rw [hfault] at h
      cases h
  | none =>
      rw [hfault] at h
      exact way_put hspot h

instance : LawfulFileSystem Folder where
  IsDevice folder path := folder.locate path = .ok .device
  read_write := by
    intro folder folder' path octets h hfile
    rcases write_eq_ok h with ⟨hdevice, _⟩ | ⟨names, spot, hlocate, hspot, rfl⟩
    · exact absurd hdevice hfile
    · change Folder.read _ path = _
      rw [Folder.read, locate_put hspot hlocate]
      rfl
  write_device := by
    intro folder folder' path octets h hdevice
    rcases write_eq_ok h with ⟨_, rfl⟩ | ⟨names, spot, hlocate, hspot, rfl⟩
    · rfl
    · rw [hdevice] at hlocate
      exact absurd (Except.ok.inj hlocate).symm hspot.ne_device

end Folder

end CommandLine
end RuleDraft
