import DriverIndex.Proofs.Scan.FirstFailure

/-!
# A whole scan

A scan from its request to its summary needs a marker, a root that can be walked and files that can be read line by line; if one of these is wanting it fails, and otherwise its summary counts the files and numbers their registrations, taken file by file. Files that a walk has found can be read in this account of file systems, which has no permissions; that a file cannot be read is kept among the failures all the same, as the scan looks for it.
-/

namespace DriverIndex.ScanRequest

open Log (Traced)

/-- What keeps a scan from its summary. -/
inductive Stops (request : ScanRequest) (system : FileSystem) : Prop where
  | marker (hmarker : Marker.ofText? request.marker = none)
  | walk {obstacle : Obstacle} (hsources : system.sources request.settings request.root = .error obstacle)
  | file {marker : Marker} {files : List Path} {file : Path} {failure : Failure}
      (hmarker : Marker.ofText? request.marker = some marker)
      (hsources : system.sources request.settings request.root = .ok files) (hmem : file ∈ files)
      (hfails : Scan.Fails system marker file failure)

/-- The files that a scan reads, and what each of them holds. -/
structure Reads (request : ScanRequest) (system : FileSystem) (marker : Marker) (files : List Path)
    (found : Path → List Sighting) : Prop where
  marker_eq : Marker.ofText? request.marker = some marker
  sources_eq : system.sources request.settings request.root = .ok files
  extract_eq : ∀ file ∈ files, ∃ bytes, system.read file = .ok bytes ∧ marker.extract bytes = .ok (found file)

variable {request : ScanRequest} {system : FileSystem} {marker : Marker} {files : List Path} {found : Path → List Sighting}
  {summary : Summary}

theorem outcome_summarize (filesScanned : Nat) (registry : Registry) :
    (Scan.summarize filesScanned registry).outcome = .ok ⟨filesScanned, .ofClosed registry.close⟩ := by
  rw [Scan.summarize]
  split_ifs <;> rfl

theorem outcome_run (request : ScanRequest) (system : FileSystem) : (request.run system).outcome =
    match Marker.ofText? request.marker with
    | none => .error .emptyMarker
    | some marker =>
      match system.sources request.settings request.root with
      | .error obstacle => .error (.walk obstacle)
      | .ok files => (Scan.scanFiles system marker files).outcome.map fun registry =>
          ⟨files.length, .ofClosed registry.close⟩ := by
  rw [run]
  cases Marker.ofText? request.marker with
  | none => rfl
  | some marker =>
    dsimp only
    cases system.sources request.settings request.root with
    | error obstacle => rfl
    | ok files =>
      dsimp only
      rw [Traced.bind_of_ok rfl]
      dsimp only
      cases hscan : (Scan.scanFiles system marker files).outcome with
      | error failure => rw [Traced.bind_of_error hscan, Except.map]
      | ok registry => rw [Traced.bind_of_ok hscan, outcome_summarize, Except.map]

theorem outcome_run_eq_ok_iff : (request.run system).outcome = .ok summary ↔
    ∃ marker files found, request.Reads system marker files found ∧
      summary = ⟨files.length, .ofCalls (Scan.callsOf found files)⟩ := by
  rw [outcome_run]
  constructor
  · intro hrun
    cases hmarker : Marker.ofText? request.marker with
    | none => simp [hmarker] at hrun
    | some marker =>
      cases hsources : system.sources request.settings request.root with
      | error obstacle => simp [hmarker, hsources] at hrun
      | ok files =>
        simp only [hmarker, hsources] at hrun
        cases hscan : (Scan.scanFiles system marker files).outcome with
        | error failure => simp [hscan, Except.map] at hrun
        | ok registry =>
          obtain ⟨found, hfound, rfl⟩ := Scan.outcome_scanFiles_eq_ok_iff.1 hscan
          rw [hscan] at hrun
          refine ⟨marker, files, found, ⟨hmarker, hsources, fun file hmem => ?_⟩, (Except.ok.inj hrun).symm⟩
          exact Scan.sightings_eq_ok_iff.1 (hfound file hmem)
  · rintro ⟨marker, files, found, ⟨hmarker, hsources, hfound⟩, rfl⟩
    have hscan : (Scan.scanFiles system marker files).outcome = .ok (.ofCalls (Scan.callsOf found files)) :=
      Scan.outcome_scanFiles_eq_ok_iff.2
        ⟨found, fun file hmem => Scan.sightings_eq_ok_iff.2 (hfound file hmem), rfl⟩
    rw [hmarker, hsources]
    dsimp only
    rw [hscan]
    rfl

/-- A scan fails exactly if something stops it. -/
theorem exists_outcome_run_eq_error_iff :
    (∃ failure, (request.run system).outcome = .error failure) ↔ request.Stops system := by
  rw [outcome_run]
  constructor
  · rintro ⟨failure, hrun⟩
    cases hmarker : Marker.ofText? request.marker with
    | none => exact .marker hmarker
    | some marker =>
      cases hsources : system.sources request.settings request.root with
      | error obstacle => exact .walk hsources
      | ok files =>
        simp only [hmarker, hsources] at hrun
        cases hscan : (Scan.scanFiles system marker files).outcome with
        | ok registry => simp [hscan, Except.map] at hrun
        | error first =>
          obtain ⟨file, hmem, other, hfails⟩ := Scan.exists_outcome_scanFiles_eq_error_iff.1 ⟨first, hscan⟩
          exact .file hmarker hsources hmem hfails
  · intro hstops
    cases hstops with
    | marker hmarker => exact ⟨_, by rw [hmarker]⟩
    | walk hsources =>
      rw [hsources]
      cases Marker.ofText? request.marker with
      | none => exact ⟨_, rfl⟩
      | some marker => exact ⟨_, rfl⟩
    | @file marker files file _ hmarker hsources hmem hfails =>
      obtain ⟨first, hscan⟩ := Scan.exists_outcome_scanFiles_eq_error_iff.2 ⟨file, hmem, _, hfails⟩
      rw [hmarker, hsources]
      dsimp only
      exact ⟨first, by rw [hscan, Except.map]⟩

end DriverIndex.ScanRequest
