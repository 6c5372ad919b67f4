import DriverIndex.Scan
import Mathlib.Data.List.Perm.Basic

/-!
# What a scan registers

A scan reads file after file. What a file holds does not depend on the registry that the files before it left, and a collision ends nothing, so a scan succeeds exactly if every file can be read, and its registry is then that of all registrations, file by file. Reading the same files in another order registers the same calls in another order.
-/

namespace DriverIndex.Scan

open Log (Traced)

variable {system : FileSystem} {marker : Marker}

theorem outcome_registerSightings (file : Path) (found : List Sighting) (registry : Registry) :
    (registerSightings file found registry).outcome =
      .ok (registry.registerAll (found.map Sighting.registration)) := by
  induction found generalizing registry with
  | nil => rfl
  | cons sighting rest ih =>
    rw [registerSightings, List.map_cons, Registry.registerAll_cons]
    obtain ⟨outcome, next⟩ := registry.register sighting.registration
    cases outcome with
    | collision collision => exact ih next
    | _ => exact ih next

theorem outcome_scanFile (file : Path) (registry : Registry) :
    (scanFile system marker file registry).outcome =
      (sightings system marker file).outcome.map fun found =>
        registry.registerAll (found.map Sighting.registration) := by
  rw [scanFile]
  cases hfound : (sightings system marker file).outcome with
  | error failure => rw [Traced.bind_of_ok rfl, Traced.bind_of_error hfound]; rfl
  | ok found =>
    rw [Traced.bind_of_ok rfl, Traced.bind_of_ok hfound]
    exact outcome_registerSightings file found registry

/-- The calls of files in order, where `found` is what each file holds. -/
def callsOf (found : Path → List Sighting) (files : List Path) : List Registration :=
  files.flatMap fun file => (found file).map Sighting.registration

theorem outcome_scanFrom {found : Path → List Sighting} {files : List Path}
    (hfound : ∀ file ∈ files, (sightings system marker file).outcome = .ok (found file)) (registry : Registry) :
    (scanFrom system marker files registry).outcome = .ok (registry.registerAll (callsOf found files)) := by
  induction files generalizing registry with
  | nil => rfl
  | cons file rest ih =>
    have hfile : (scanFile system marker file registry).outcome =
        .ok (registry.registerAll ((found file).map Sighting.registration)) := by
      rw [outcome_scanFile, hfound file List.mem_cons_self]
      rfl
    rw [scanFrom, Traced.bind_of_ok hfile, callsOf, List.flatMap_cons, Registry.registerAll_append]
    exact ih (fun other hmem => hfound other (List.mem_cons_of_mem file hmem)) _

/-- A scan that succeeds has read every one of its files. -/
theorem sightings_eq_ok_of_scanFrom {files : List Path} {registry last : Registry}
    (hscan : (scanFrom system marker files registry).outcome = .ok last) {file : Path} (hmem : file ∈ files) :
    ∃ found, (sightings system marker file).outcome = .ok found := by
  induction files generalizing registry with
  | nil => cases hmem
  | cons first rest ih =>
    rw [scanFrom] at hscan
    cases hfirst : (scanFile system marker first registry).outcome with
    | error failure =>
      rw [Traced.bind_of_error hfirst] at hscan
      cases hscan
    | ok next =>
      rw [Traced.bind_of_ok hfirst] at hscan
      rcases List.mem_cons.1 hmem with rfl | hrest
      · rw [outcome_scanFile] at hfirst
        cases hfound : (sightings system marker file).outcome with
        | error failure =>
          rw [hfound] at hfirst
          cases hfirst
        | ok found => exact ⟨found, rfl⟩
      · exact ih hscan hrest

/-- A scan succeeds exactly if every file can be read, and leaves the registry of their calls. -/
theorem outcome_scanFiles_eq_ok_iff {files : List Path} {registry : Registry} :
    (scanFiles system marker files).outcome = .ok registry ↔
      ∃ found : Path → List Sighting,
        (∀ file ∈ files, (sightings system marker file).outcome = .ok (found file)) ∧
        registry = .ofCalls (callsOf found files) := by
  constructor
  · intro hscan
    have hread : ∀ file, ∃ found, file ∈ files → (sightings system marker file).outcome = .ok found := by
      intro file
      by_cases hmem : file ∈ files
      · obtain ⟨found, hfound⟩ := sightings_eq_ok_of_scanFrom hscan hmem
        exact ⟨found, fun _ => hfound⟩
      · exact ⟨[], fun hfile => absurd hfile hmem⟩
    choose found hfound using hread
    refine ⟨found, hfound, ?_⟩
    have hcalls := outcome_scanFrom hfound .empty
    rw [← scanFiles, hscan] at hcalls
    exact Except.ok.inj hcalls
  · rintro ⟨found, hfound, rfl⟩
    exact outcome_scanFrom hfound .empty

theorem callsOf_perm (found : Path → List Sighting) {files others : List Path} (hperm : files.Perm others) :
    (callsOf found files).Perm (callsOf found others) :=
  hperm.flatMap_right _

end DriverIndex.Scan
