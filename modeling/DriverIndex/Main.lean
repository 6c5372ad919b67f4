import DriverIndex.Command
import DriverIndex.Log.Filter
import Std.Time.Zoned

/-!
# The program

Runs the command on the real file system: what the run can look at is copied first, and the files that the run changed are written at its end. All decisions are those of `DriverIndex.Command`. Logs and failures go to the standard error, all else to the standard output.
-/

open DriverIndex

namespace DriverIndex.Program

/-- The names on the way from the top to a file. -/
def placeOf (file : String) : List String := (Path.mk file).segments.filter (· ≠ "")

def fileAt (place : List String) : String := "/" ++ "/".intercalate place

/-- The place that a file really has, if it exists. -/
def realPlace? (file : String) : IO (Option (List String)) := do
  match ← (IO.FS.realPath file).toBaseIO with
  | .ok real => return some (placeOf real.toString)
  | .error _ => return none

def contentOf (place : List String) : IO (List UInt8) := do return (← IO.FS.readBinFile (fileAt place)).toList

/-- Copies what a path leads to, with all directories and links on the way. -/
partial def copyPath (system : FileSystem) (place : List String) : List String → IO FileSystem
  | [] => return system
  | segment :: rest => do
    if segment = "" ∨ segment = "." then return ← copyPath system place rest
    if segment = ".." then return ← copyPath system place.dropLast rest
    let here := place ++ [segment]
    match ← realPlace? (fileAt here) with
    | none => return system
    | some real =>
      if real ≠ here then return ← copyPath (system.put here (.link ⟨fileAt real⟩)) [] (real ++ rest)
      match (← (← IO.FS.realPath (fileAt here)).metadata).type with
      | .dir =>
        let known := (system.top.get? here).isSome
        copyPath (if known then system else system.put here (.dir [])) here rest
      | .file => return system.put here (.file (← contentOf here))
      | _ => return system

/-- Copies all that is in a directory. Only of the files that a scan reads the content is copied. -/
partial def copyTree (settings : ScanSettings) (system : FileSystem) (place : List String) : IO FileSystem := do
  let mut system := system
  for entry in ← (← IO.FS.realPath (fileAt place)).readDir do
    let here := place ++ [entry.fileName]
    match (← entry.path.symlinkMetadata).type with
    | .dir =>
      system := system.put here (.dir [])
      unless entry.fileName ∈ settings.exclude do
        system ← copyTree settings system here
    | .file =>
      let scanned := (Path.nameExtension? entry.fileName).any fun extension => extension ∈ settings.extensions
      let content ← if scanned then contentOf here else pure []
      system := system.put here (.file content)
    | _ => system ← copyPath system place [entry.fileName]
  return system

def copyPaths (system : FileSystem) (paths : List Path) : IO FileSystem :=
  paths.foldlM (fun system path => copyPath system (FileSystem.startOf path system.base) path.segments) system

/-- Copies all that a run can look at. -/
def copyFor (invocation : Invocation) (bare : FileSystem) : IO FileSystem := do
  let paths := [invocation.root, invocation.root.join settingsFileName, invocation.header, invocation.source] ++
    invocation.config.toList
  let shallow ← copyPaths bare paths
  match invocation.settings shallow, ← realPlace? invocation.root.text with
  | .ok settings, some root =>
    if shallow.hasDir invocation.root then
      let deep ← copyTree (invocation.scanSettings settings) (bare.put root (.dir [])) root
      copyPaths deep paths
    else return shallow
  | _, _ => return shallow

def today : IO Date := do
  let date ← Std.Time.PlainDate.now
  return ⟨date.year.toInt, date.month.toNat, date.day.toNat⟩

/-- Makes the directories and writes the files that a run made and wrote. -/
def applyChanges (before after : FileSystem) : IO Unit := do
  for place in before.newDirs after do
    IO.FS.createDirAll (fileAt place)
  for (place, content) in before.changedFiles after do
    IO.FS.writeBinFile (fileAt place) ⟨content.toArray⟩

def usageText : String := "Usage: dridefs [OPTIONS] <MARKER> <SOURCE_ROOT> <HEADER_OUT> <SOURCE_OUT>\n"

def helpText : String := "Driver definition index generator\n\n" ++ usageText ++ "
Arguments:
  <MARKER>       Word that announces a driver registration
  <SOURCE_ROOT>  Root directory of the sources to scan
  <HEADER_OUT>   Output path of the declarations
  <SOURCE_OUT>   Output path of the definitions

Options:
      --config <FILE>  Settings file (dridefs.toml in the source root, if present)
      --ext <SUFFIX>   Source file suffix to scan; repeat for several
      --no-sort        Scan files in the order of the directories
      --json           Print the summary as JSON
  -h, --help           Print help
  -V, --version        Print version
"

def outputText : Output → String
  | .help => helpText
  | .usage => "error: the arguments cannot be read\n\n" ++ usageText
  | .text s => s

def run (arguments : List String) : IO UInt32 := do
  let base ← realPlace? "."
  let base := base.getD []
  let bare := FileSystem.put ⟨.dir [], base⟩ base (.dir [])
  let system ← match CommandLine.read arguments with
    | .run invocation => copyFor invocation bare
    | _ => pure bare
  let report := Command.run system (← today) arguments
  let filter := Log.Filter.ofText (← IO.getEnv "RUST_LOG")
  for event in filter.apply report.events do
    IO.eprintln (String.ofList event.toJson.compact)
  applyChanges system report.files
  IO.print (outputText report.output)
  IO.eprint report.complaint
  return UInt32.ofNat report.status

end DriverIndex.Program

def main (arguments : List String) : IO UInt32 := Program.run arguments
