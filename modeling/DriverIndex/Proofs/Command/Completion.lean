import DriverIndex.Command
import DriverIndex.Proofs.FileSystem.Writing
import DriverIndex.Proofs.Scan.Run
import DriverIndex.Proofs.Text.Encoding

/-!
# What a run leaves behind and how it ends

A run either ends before it writes anything, and then all files are what they were, or it has its settings, its marker and the registrations of all its files when it begins to write. If the writing succeeds, the two generated files hold what the numbered registrations say, no other file has changed, the summary is printed and the status counts the collisions. So a status of zero is truthful, but for one case: where both paths lead to one place, the definitions, which are written last, are all that is left.
-/

namespace DriverIndex

open Text (Utf8.encode Utf8.encode_injective)

namespace Invocation

/-- What ends a run before it writes anything: no settings, or a scan without a summary. -/
inductive Stops (invocation : Invocation) (system : FileSystem) : Prop where
  | settings {abort : Abort} (hsettings : invocation.settings system = .error abort)
  | scan {settings : Settings} (hsettings : invocation.settings system = .ok settings)
      (hscan : (invocation.scanRequest settings).Stops system)

/-- What a run has when it begins to write: its settings, and the registrations of all its files, numbered. -/
structure Prepares (invocation : Invocation) (system : FileSystem) (settings : Settings) (summary : Summary) : Prop where
  settings_eq : invocation.settings system = .ok settings
  summary_eq : ∃ marker files found, (invocation.scanRequest settings).Reads system marker files found ∧
    summary = ⟨files.length, .ofCalls (Scan.callsOf found files)⟩

/-- What a run writes. -/
def publication (invocation : Invocation) (today : Date) (settings : Settings) (summary : Summary) : Publication :=
  ⟨settings.naming, summary.table, today, invocation.header, invocation.source⟩

/-- A run has written its two files to two places and has told the truth about it. -/
structure Completes (invocation : Invocation) (before : FileSystem) (today : Date) (settings : Settings)
    (summary : Summary) (report : Report) (header source : List String) : Prop where
  header_leads : report.files.resolve .followed invocation.header = .ok (.present header)
  source_leads : report.files.resolve .followed invocation.source = .ok (.present source)
  definitions : report.files.kind? source =
    some (.file (Utf8.encode (Artifact.definitions settings.naming summary.table today).toList))
  declarations : header ≠ source → report.files.kind? header =
    some (.file (Utf8.encode (Artifact.declarations settings.naming summary.table today).toList))
  others : ∀ place content, place ≠ header → place ≠ source →
    (report.files.kind? place = some (.file content) ↔ before.kind? place = some (.file content))
  output : report.output = .text (if invocation.json then summary.json else summary.plain)
  status : report.status = min 255 summary.table.collisions.length

variable {invocation : Invocation} {system : FileSystem} {today : Date} {settings : Settings} {summary : Summary}

theorem run_of_stops (hstops : invocation.Stops system) (today : Date) :
    (invocation.run system today).status = 1 ∧ (invocation.run system today).files = system := by
  rw [run]
  cases hstops with
  | settings hsettings =>
    rw [hsettings]
    exact ⟨rfl, rfl⟩
  | scan hsettings hscan =>
    obtain ⟨failure, hfailure⟩ := ScanRequest.exists_outcome_run_eq_error_iff.2 hscan
    rw [hsettings]
    dsimp only
    rw [hfailure]
    exact ⟨rfl, rfl⟩

theorem exists_prepares (hgoes : ¬invocation.Stops system) :
    ∃ settings summary, invocation.Prepares system settings summary := by
  cases hsettings : invocation.settings system with
  | error abort => exact absurd (.settings hsettings) hgoes
  | ok settings =>
    cases hscan : ((invocation.scanRequest settings).run system).outcome with
    | error failure =>
      exact absurd (.scan hsettings (ScanRequest.exists_outcome_run_eq_error_iff.1 ⟨failure, hscan⟩)) hgoes
    | ok summary => exact ⟨settings, summary, hsettings, ScanRequest.outcome_run_eq_ok_iff.1 hscan⟩

/-- A run that begins to write ends as the writing does. -/
theorem run_of_prepares (hprepares : invocation.Prepares system settings summary) (today : Date) :
    ∃ events, invocation.run system today =
      match ((invocation.publication today settings summary).write system).2.outcome with
      | .error failure => aborted events ((invocation.publication today settings summary).write system).1
          ⟨"Failed to write generated artifacts", failure⟩
      | .ok () => ⟨summary.exitStatus, .text (invocation.summaryText summary), events, "",
          ((invocation.publication today settings summary).write system).1⟩ := by
  have hscan := ScanRequest.outcome_run_eq_ok_iff.2 hprepares.summary_eq
  rw [run, hprepares.settings_eq]
  dsimp only
  rw [hscan]
  dsimp only
  rw [publish, ← publication]
  cases (invocation.publication today settings summary).write system with
  | mk files written =>
    dsimp only
    cases written.outcome with
    | error failure => exact ⟨_, rfl⟩
    | ok done => exact ⟨_, rfl⟩

theorem completes_of_write (hprepares : invocation.Prepares system settings summary)
    (hwrite : ((invocation.publication today settings summary).write system).2.outcome = .ok ()) :
    ∃ header source, invocation.Completes system today settings summary (invocation.run system today) header source := by
  obtain ⟨header, source, hdone⟩ := Publication.write_done hwrite
  obtain ⟨events, hrun⟩ := run_of_prepares hprepares today
  rw [hwrite] at hrun
  rw [hrun]
  refine ⟨header, source, hdone.header_leads, hdone.source_leads, hdone.definitions, hdone.declarations, ?_, rfl, rfl⟩
  intro place content hheader hsource
  exact hdone.grows.file_iff (by simp [hheader, hsource])

theorem status_of_failed_write {failure : Failure} (hprepares : invocation.Prepares system settings summary)
    (hwrite : ((invocation.publication today settings summary).write system).2.outcome = .error failure) :
    (invocation.run system today).status = 1 := by
  obtain ⟨events, hrun⟩ := run_of_prepares hprepares today
  rw [hrun, hwrite]
  rfl

end Invocation

namespace Command

/-- A run whose arguments cannot be read ends with status two, one that is stopped before it writes with status one, and neither changes any file. Every other run that writes its files leaves just them behind, each at the place that its path leads to, and ends with the number of its collisions as far as a status can show it. A status of zero means help, version or files that are written without a collision; the declarations are missing only where both paths lead to one place. -/
theorem run_all_or_nothing (system : FileSystem) (today : Date) (arguments : List String) :
    (CommandLine.read arguments = .usageError →
      (run system today arguments).status = 2 ∧ (run system today arguments).files = system) ∧
    (∀ invocation, CommandLine.read arguments = .run invocation →
      (invocation.Stops system →
        (run system today arguments).status = 1 ∧ (run system today arguments).files = system) ∧
      (¬invocation.Stops system → ∃ settings summary, invocation.Prepares system settings summary ∧
        (((invocation.publication today settings summary).write system).2.outcome = .ok () →
          ∃ header source,
            invocation.Completes system today settings summary (run system today arguments) header source))) ∧
    ((run system today arguments).status = 0 →
      CommandLine.read arguments = .help ∨ CommandLine.read arguments = .version ∨
      ∃ invocation settings summary header source, CommandLine.read arguments = .run invocation ∧
        invocation.Prepares system settings summary ∧ summary.table.collisions = [] ∧
        invocation.Completes system today settings summary (run system today arguments) header source) := by
  have hrun : ∀ {invocation}, CommandLine.read arguments = .run invocation →
      run system today arguments = invocation.run system today := by
    intro invocation hread
    rw [run, hread]
  refine ⟨?_, ?_, ?_⟩
  · intro hread
    rw [run, hread]
    exact ⟨rfl, rfl⟩
  · intro invocation hread
    rw [hrun hread]
    refine ⟨fun hstops => Invocation.run_of_stops hstops today, fun hgoes => ?_⟩
    obtain ⟨settings, summary, hprepares⟩ := Invocation.exists_prepares hgoes
    exact ⟨settings, summary, hprepares, Invocation.completes_of_write hprepares⟩
  · intro hstatus
    cases hread : CommandLine.read arguments with
    | help => exact .inl rfl
    | version => exact .inr (.inl rfl)
    | usageError =>
      rw [run, hread] at hstatus
      cases hstatus
    | run invocation =>
      rw [hrun hread] at hstatus ⊢
      by_cases hstops : invocation.Stops system
      · rw [(Invocation.run_of_stops hstops today).1] at hstatus
        cases hstatus
      · obtain ⟨settings, summary, hprepares⟩ := Invocation.exists_prepares hstops
        cases hwrite : ((invocation.publication today settings summary).write system).2.outcome with
        | error failure =>
          rw [Invocation.status_of_failed_write hprepares hwrite] at hstatus
          cases hstatus
        | ok done =>
          obtain ⟨header, source, hcompletes⟩ := Invocation.completes_of_write hprepares hwrite
          refine .inr (.inr ⟨invocation, settings, summary, header, source, rfl, hprepares, ?_, hcompletes⟩)
          rw [hcompletes.status] at hstatus
          exact List.length_eq_zero_iff.1 (by omega)

/-- A run with a collision writes both files, and one collision is its status. -/
theorem run_with_one_collision :
    let system : FileSystem := ⟨.dir [("src", .dir [("a.c", .file "M(2,a,)\nM(1,a,)".toUTF8.toList)])], []⟩
    let today : Date := ⟨2024, 3, 7⟩
    let arguments := ["M", "src", "out/a.h", "out/a.c"]
    let invocation : Invocation := { marker := "M", root := ⟨"src"⟩, header := ⟨"out/a.h"⟩, source := ⟨"out/a.c"⟩ }
    let summary : Summary := ⟨1, .ofCalls [⟨⟨1⟩, "a", ""⟩, ⟨⟨2⟩, "a", ""⟩]⟩
    CommandLine.read arguments = .run invocation ∧ ¬invocation.Stops system ∧
      (run system today arguments).status = 1 ∧
      invocation.Completes system today {} summary (run system today arguments) ["out", "a.h"] ["out", "a.c"] := by
  intro system today arguments invocation summary
  have hread : CommandLine.read arguments = .run invocation := by decide +kernel
  have hsettings : invocation.settings system = .ok {} := by decide +kernel
  have hscan : ((invocation.scanRequest {}).run system).outcome = .ok summary := by decide +kernel
  have hwrite : ((invocation.publication today {} summary).write system).2.outcome = .ok () := by decide +kernel
  have hgoes : ¬invocation.Stops system := by
    intro hstops
    cases hstops with
    | settings hfails => cases hsettings.symm.trans hfails
    | scan hother hfails =>
      obtain rfl := Except.ok.inj (hsettings.symm.trans hother)
      obtain ⟨failure, hfailure⟩ := ScanRequest.exists_outcome_run_eq_error_iff.2 hfails
      cases hscan.symm.trans hfailure
  obtain ⟨settings, found, hprepares, hcompletes⟩ := ((run_all_or_nothing system today arguments).2.1 _ hread).2 hgoes
  obtain rfl := Except.ok.inj (hsettings.symm.trans hprepares.settings_eq)
  obtain rfl := Except.ok.inj (hscan.symm.trans (ScanRequest.outcome_run_eq_ok_iff.2 hprepares.summary_eq))
  obtain ⟨header, source, hdone⟩ := hcompletes hwrite
  have hheader : (run system today arguments).files.resolve .followed ⟨"out/a.h"⟩ = .ok (.present ["out", "a.h"]) := by
    decide +kernel
  have hsource : (run system today arguments).files.resolve .followed ⟨"out/a.c"⟩ = .ok (.present ["out", "a.c"]) := by
    decide +kernel
  obtain rfl := FileSystem.resolve_unique hheader hdone.header_leads
  obtain rfl := FileSystem.resolve_unique hsource hdone.source_leads
  have hone : summary.table.collisions.length = 1 := by decide +kernel
  refine ⟨hread, hgoes, ?_, hdone⟩
  rw [hdone.status, hone]
  rfl

/-- With one path for both files a run ends with status zero, and the declarations are not where they should be. -/
theorem run_with_one_path_for_both :
    let system : FileSystem := ⟨.dir [("src", .dir [("a.c", .file "M(2,a,)".toUTF8.toList)])], []⟩
    let today : Date := ⟨2024, 3, 7⟩
    let arguments := ["M", "src", "out", "out"]
    let invocation : Invocation := { marker := "M", root := ⟨"src"⟩, header := ⟨"out"⟩, source := ⟨"out"⟩ }
    let summary : Summary := ⟨1, .ofCalls [⟨⟨2⟩, "a", ""⟩]⟩
    CommandLine.read arguments = .run invocation ∧ invocation.Prepares system {} summary ∧
      (run system today arguments).status = 0 ∧
      (run system today arguments).files.read invocation.header ≠
        .ok (Utf8.encode (Artifact.declarations {} summary.table today).toList) := by
  intro system today arguments invocation summary
  have hread : CommandLine.read arguments = .run invocation := by decide +kernel
  have hsettings : invocation.settings system = .ok {} := by decide +kernel
  have hscan : ((invocation.scanRequest {}).run system).outcome = .ok summary := by decide +kernel
  have hwrite : ((invocation.publication today {} summary).write system).2.outcome = .ok () := by decide +kernel
  have htexts : Artifact.definitions {} summary.table today ≠ Artifact.declarations {} summary.table today := by
    decide +kernel
  have hprepares : invocation.Prepares system {} summary := ⟨hsettings, ScanRequest.outcome_run_eq_ok_iff.1 hscan⟩
  have hrun : run system today arguments = invocation.run system today := by rw [run, hread]
  obtain ⟨header, source, hcompletes⟩ := Invocation.completes_of_write hprepares hwrite
  rw [hrun]
  refine ⟨hread, hprepares, hcompletes.status, fun hheader => ?_⟩
  -- Both paths are the same, so what is read there is what was written last.
  obtain ⟨place, hplace, hfile⟩ := FileSystem.read_eq_ok_iff.1 hheader
  obtain rfl := FileSystem.resolve_unique hcompletes.source_leads hplace
  have hbytes := Kind.file.inj (Option.some.inj (hcompletes.definitions.symm.trans hfile))
  exact htexts (String.toList_injective (Utf8.encode_injective hbytes))

end Command

end DriverIndex
