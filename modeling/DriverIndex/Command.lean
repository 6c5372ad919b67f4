import DriverIndex.CommandLine
import DriverIndex.Publication
import DriverIndex.Scan

/-!
# The command

One run from its arguments to its exit status: settings, scan, generated files, summary. Every failure before the writing leaves all files as they were. The file system, the date and the arguments go in, and all that the run does comes out as a value.
-/

namespace DriverIndex

open Log (Event Traced)

/-- What a run prints to its standard output. -/
inductive Output where
  | help
  | usage
  | text (s : String)
deriving DecidableEq

/-- What a run did. -/
structure Report where
  status : Nat
  output : Output
  events : List Event
  /-- What it prints about its failure. -/
  complaint : String
  /-- The file system that it leaves behind. -/
  files : FileSystem

/-- A failure and what the run was about to do. -/
structure Abort where
  aim : String
  failure : Failure
deriving DecidableEq

namespace Abort

/-- A message behind its mark, with its further lines as far to the right as the first one. -/
def indented (mark : String) (message : String) : String :=
  let margin := String.ofList (List.replicate mark.length ' ')
  mark ++ ("\n" ++ margin).intercalate ((message.toList.splitOn '\n').map String.ofList) ++ "\n"

/-- The number of a message, five columns wide. -/
def numberMark (number : Nat) : String :=
  let digits := Text.Decimal.ofNat number
  String.ofList (List.replicate (5 - digits.length) ' ' ++ digits) ++ ": "

/-- The messages behind a failure, numbered if there are several. -/
def causes : List String → String
  | [message] => indented "    " message
  | messages => String.join (messages.zipIdx.map fun (message, number) => indented (numberMark number) message)

def text (abort : Abort) : String := "Error: " ++ abort.aim ++ "\n\nCaused by:\n" ++ causes abort.failure.chain

end Abort

/-- The name of the settings file that is looked for in the root of a scan. -/
def settingsFileName : String := "dridefs.toml"

namespace FileSystem

def settingsIn (system : FileSystem) (path : Path) : Except Failure Settings :=
  match system.read path with
  | .error fault => .error (.io path fault)
  | .ok bytes => match Text.Utf8.decode? bytes with
    | none => .error (.io path .notUtf8)
    | some document => match Settings.ofDocument document with
      | .ok settings => .ok settings
      | .error flaw => .error (.settings path flaw)

/-- The settings in the file that belongs to a root, if there is one. -/
def settingsFor? (system : FileSystem) (root : Path) : Except Failure (Option Settings) :=
  let path := root.join settingsFileName
  if system.has path then (system.settingsIn path).map some else .ok none

end FileSystem

namespace Invocation

/-- The settings of a run: those of the file that is named, else those of the root's own file. -/
def settings (invocation : Invocation) (system : FileSystem) : Except Abort Settings :=
  match invocation.config with
  | some path => (system.settingsIn path).mapError (⟨"Failed to load config " ++ path.text, ·⟩)
  | none => match system.settingsFor? invocation.root with
    | .ok settings => .ok (settings.getD {})
    | .error failure => .error ⟨"Failed to load config from " ++ invocation.root.text, failure⟩

/-- The settings of the scan, which arguments can overrule. -/
def scanSettings (invocation : Invocation) (settings : Settings) : ScanSettings where
  extensions :=
    if invocation.extensions = [] then settings.scan.extensions else invocation.extensions.map trimDots
  exclude := settings.scan.exclude
  sort := settings.scan.sort && !invocation.noSort

def scanRequest (invocation : Invocation) (settings : Settings) : ScanRequest where
  marker := invocation.marker
  root := invocation.root
  settings := invocation.scanSettings settings

/-- What is said of the arguments that are ignored. -/
def furtherRemarks (invocation : Invocation) : List Event :=
  if invocation.further = [] then []
  else [.remark ("ignoring extra arguments: " ++ " ".intercalate invocation.further)]

def lastWord (summary : Summary) : Event :=
  if 0 < summary.collisionCount then
    .complaint (Text.Decimal.natText summary.collisionCount ++
      " driver definition collision(s); artifacts were still written")
  else .remark "driver definitions generated"

/-- A report of a run that could not be finished. -/
def aborted (events : List Event) (files : FileSystem) (abort : Abort) : Report :=
  ⟨1, .text "", events, abort.text, files⟩

def summaryText (invocation : Invocation) (summary : Summary) : String :=
  if invocation.json then summary.json else summary.plain

/-- Writes the generated files of a scan and reports; `events` were logged before. -/
def publish (invocation : Invocation) (system : FileSystem) (today : Date) (naming : Naming) (events : List Event)
    (summary : Summary) : Report :=
  let (files, written) := Publication.write ⟨naming, summary.table, today, invocation.header, invocation.source⟩ system
  match written.outcome with
  | .error failure => aborted (events ++ written.events) files ⟨"Failed to write generated artifacts", failure⟩
  | .ok () => ⟨summary.exitStatus, .text (invocation.summaryText summary),
      events ++ written.events ++ [lastWord summary], "", files⟩

def run (invocation : Invocation) (system : FileSystem) (today : Date) : Report :=
  match invocation.settings system with
  | .error abort => aborted invocation.furtherRemarks system abort
  | .ok settings =>
    let scanned := (invocation.scanRequest settings).run system
    let events := invocation.furtherRemarks ++ scanned.events
    match scanned.outcome with
    | .error failure => aborted events system ⟨"Failed to scan " ++ invocation.root.text, failure⟩
    | .ok summary => invocation.publish system today settings.naming events summary

end Invocation

namespace Command

def versionText : String := "dridefs-cli 0.1.0\n"

/-- The exit status of a run whose arguments cannot be read. -/
def usageStatus : Nat := 2

def run (system : FileSystem) (today : Date) (arguments : List String) : Report :=
  match CommandLine.read arguments with
  | .help => ⟨0, .help, [], "", system⟩
  | .version => ⟨0, .text versionText, [], "", system⟩
  | .usageError => ⟨usageStatus, .usage, [], "", system⟩
  | .run invocation => invocation.run system today

end Command

end DriverIndex
