import DriverIndex.Command
import Mathlib.Data.List.TakeWhile
import Mathlib.Tactic.SplitIfs

/-!
# Accepted settings

A run has the settings of a document that is not refused, or else the usual ones. A document is read pair by pair, so what every pair keeps is true of the settings as a whole: no extension has a dot in front. That none of them is empty is looked at when the document has been read. Extensions from the arguments are trimmed in the same way, but nobody looks at what is left of them.
-/

namespace DriverIndex

/-- What every step of a fold keeps is true at its end. -/
theorem of_foldlM_eq_some {α σ : Type} {step? : σ → α → Option σ} {holds : σ → Prop}
    (hstep : ∀ state x next, holds state → step? state x = some next → holds next) {l : List α} {state last : σ}
    (hstart : holds state) (hfold : l.foldlM step? state = some last) : holds last := by
  induction l generalizing state with
  | nil =>
    rw [List.foldlM_nil] at hfold
    exact Option.some.inj hfold ▸ hstart
  | cons x l ih =>
    rw [List.foldlM_cons] at hfold
    obtain ⟨next, hnext, hrest⟩ := Option.bind_eq_some_iff.1 hfold
    exact ih (hstep state x next hstart hnext) hrest

theorem head?_trimDots (extension : String) : (trimDots extension).toList.head? ≠ some '.' := by
  intro hdot
  rw [trimDots, String.toList_ofList] at hdot
  have hhead := List.head?_dropWhile_not (fun c => decide (c = '.')) extension.toList
  rw [hdot] at hhead
  simp at hhead

theorem trimDots_eq_empty_iff {extension : String} : trimDots extension = "" ↔ ∀ c ∈ extension.toList, c = '.' := by
  rw [trimDots, ← String.toList_eq_nil_iff, String.toList_ofList, List.dropWhile_eq_nil_iff]
  simp only [decide_eq_true_eq]

namespace ScanSettings

/-- No extension has a dot in front. -/
def Trimmed (settings : ScanSettings) : Prop := ∀ extension ∈ settings.extensions, extension.toList.head? ≠ some '.'

variable {settings next : ScanSettings} {pair : String × Toml.Value}

theorem trimmed_usual : Trimmed {} := by
  simp [Trimmed]

theorem trimmed_of_set? (htrimmed : settings.Trimmed) (hset : settings.set? pair = some next) : next.Trimmed := by
  rw [set?.eq_def] at hset
  split at hset
  · obtain ⟨extensions, -, rfl⟩ := Option.map_eq_some_iff.1 hset
    intro extension hmem
    obtain ⟨given, -, rfl⟩ := List.mem_map.1 hmem
    exact head?_trimDots given
  · obtain ⟨exclude, -, rfl⟩ := Option.map_eq_some_iff.1 hset
    exact htrimmed
  · obtain ⟨sort, -, rfl⟩ := Option.map_eq_some_iff.1 hset
    exact htrimmed
  · cases hset

end ScanSettings

namespace Settings

variable {settings next : Settings} {pair : String × Toml.Value}

/-- Settings that a run can have: the usual ones, or those of a file that is not refused. -/
inductive Accepted : Settings → Prop where
  | usual : Accepted {}
  | loaded {system : FileSystem} {path : Path} {settings : Settings} (hloaded : system.settingsIn path = .ok settings) :
      Accepted settings

theorem trimmed_of_set? (htrimmed : settings.scan.Trimmed) (hset : settings.set? pair = some next) :
    next.scan.Trimmed := by
  rw [set?.eq_def] at hset
  split at hset
  · obtain ⟨pairs, -, hpairs⟩ := Option.bind_eq_some_iff.1 hset
    obtain ⟨scan, hscan, hnext⟩ := Option.bind_eq_some_iff.1 hpairs
    obtain rfl := Option.some.inj hnext
    exact of_foldlM_eq_some (fun _ _ _ => ScanSettings.trimmed_of_set?) ScanSettings.trimmed_usual hscan
  · obtain ⟨pairs, -, hpairs⟩ := Option.bind_eq_some_iff.1 hset
    obtain ⟨naming, -, hnext⟩ := Option.bind_eq_some_iff.1 hpairs
    obtain rfl := Option.some.inj hnext
    exact htrimmed
  · cases hset

theorem ofDocument_eq_ok {document : List Char} (hdocument : ofDocument document = .ok settings) :
    settings.scan.Trimmed ∧ "" ∉ settings.scan.extensions := by
  rw [ofDocument] at hdocument
  split at hdocument
  · cases hdocument
  · rename_i found hfound
    split_ifs at hdocument with hempty
    obtain rfl := Except.ok.inj hdocument
    obtain ⟨entries, -, hentries⟩ := Option.bind_eq_some_iff.1 hfound
    exact ⟨of_foldlM_eq_some (fun _ _ _ => trimmed_of_set?) ScanSettings.trimmed_usual hentries, hempty⟩

theorem exists_document {system : FileSystem} {path : Path} (hloaded : system.settingsIn path = .ok settings) :
    ∃ document, ofDocument document = .ok settings := by
  rw [FileSystem.settingsIn] at hloaded
  split at hloaded
  · cases hloaded
  · split at hloaded
    · cases hloaded
    · rename_i document _
      split at hloaded
      · rename_i hdocument
        exact ⟨document, Except.ok.inj hloaded ▸ hdocument⟩
      · cases hloaded

theorem Accepted.extensions (haccepted : settings.Accepted) :
    settings.scan.Trimmed ∧ "" ∉ settings.scan.extensions := by
  cases haccepted with
  | usual => exact ⟨ScanSettings.trimmed_usual, by decide⟩
  | loaded hloaded =>
    obtain ⟨document, hdocument⟩ := exists_document hloaded
    exact ofDocument_eq_ok hdocument

end Settings

namespace Invocation

variable {settings : Settings}

theorem trimmed_scanSettings (haccepted : settings.Accepted) (invocation : Invocation) :
    (invocation.scanSettings settings).Trimmed := by
  intro extension hmem
  rw [scanSettings] at hmem
  dsimp only at hmem
  split_ifs at hmem with hnone
  · exact haccepted.extensions.1 extension hmem
  · obtain ⟨given, -, rfl⟩ := List.mem_map.1 hmem
    exact head?_trimDots given

/-- Only an argument can leave an empty extension. -/
theorem empty_mem_scanSettings_iff (haccepted : settings.Accepted) (invocation : Invocation) :
    "" ∈ (invocation.scanSettings settings).extensions ↔
      ∃ given ∈ invocation.extensions, ∀ c ∈ given.toList, c = '.' := by
  rw [scanSettings]
  dsimp only
  split_ifs with hnone
  · exact iff_of_false haccepted.extensions.2 (by simp [hnone])
  · simp only [List.mem_map, trimDots_eq_empty_iff]

end Invocation

end DriverIndex
