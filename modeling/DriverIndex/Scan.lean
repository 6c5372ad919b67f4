import DriverIndex.Discovery
import DriverIndex.Failure
import DriverIndex.Log.Traced
import DriverIndex.Summary
import DriverIndex.Text.Utf8

/-!
# Scanning

A scan reads files in a given order, registers what their marker lines say and numbers the result. It ends at the first file that cannot be read or holds a line that cannot be read. A collision is logged and does not end it.
-/

namespace DriverIndex

open Log (Traced)

/-- What a scan is asked for. -/
structure ScanRequest where
  marker : String
  root : Path
  settings : ScanSettings := {}

namespace Scan

/-- Reads the registrations of a file, from its last line upward. -/
def sightings (system : FileSystem) (marker : Marker) (file : Path) : Traced Failure (List Sighting) :=
  match system.read file with
  | .error fault => .fail (.io file fault)
  | .ok bytes =>
    let (found, malformed) := marker.read (Text.Utf8.decodeLossy bytes)
    { events := found.map (.definitionFound file)
      outcome := match malformed with
        | some line => .error (.malformed file line)
        | none => .ok found }

/-- Registers what was found in a file. -/
def registerSightings (file : Path) : List Sighting → Registry → Traced Failure Registry
  | [], registry => pure registry
  | sighting :: rest, registry => do
    let (outcome, registry) := registry.register sighting.registration
    if let .collision collision := outcome then
      Traced.log (.groupCollision file sighting.line collision)
    registerSightings file rest registry

def scanFile (system : FileSystem) (marker : Marker) (file : Path) (registry : Registry) :
    Traced Failure Registry := do
  Traced.log (.fileFound file)
  let found ← sightings system marker file
  registerSightings file found registry

/-- Scans files in order and goes on with a registry. -/
def scanFrom (system : FileSystem) (marker : Marker) : List Path → Registry → Traced Failure Registry
  | [], registry => pure registry
  | file :: rest, registry => do
    let registry ← scanFile system marker file registry
    scanFrom system marker rest registry

def scanFiles (system : FileSystem) (marker : Marker) (files : List Path) : Traced Failure Registry :=
  scanFrom system marker files .empty

/-- Numbers what a scan of some files registered. -/
def summarize (filesScanned : Nat) (registry : Registry) : Traced Failure Summary := do
  let table := SlotTable.ofClosed registry.close
  let summary : Summary := ⟨filesScanned, table⟩
  Traced.log (.slotsAssigned table.slots.length table.size)
  if 0 < summary.collisionCount then
    Traced.log (.collisionsDetected summary.collisionCount)
  Traced.log (.definitionsIndexed filesScanned table.definitions.length table.size summary.collisionCount)
  return summary

end Scan

/-- Finds the source files, scans them and numbers what they register. -/
def ScanRequest.run (request : ScanRequest) (system : FileSystem) : Traced Failure Summary := do
  match Marker.ofText? request.marker with
  | none => .fail .emptyMarker
  | some marker =>
    match system.sources request.settings request.root with
    | .error obstacle => .fail (.walk obstacle)
    | .ok files =>
      Traced.log (.filesGathered request.root files.length)
      let registry ← Scan.scanFiles system marker files
      Scan.summarize files.length registry

end DriverIndex
