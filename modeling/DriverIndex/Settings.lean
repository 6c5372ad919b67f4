import DriverIndex.Naming
import DriverIndex.Toml.Reader

/-!
# Settings

The settings of a run: which files are scanned, and the names in the generated files. A configuration document can replace them one by one in the tables `scan` and `output`; a document with any other key, or with a value of the wrong kind, is refused as a whole. A table may also be given as a list of all its values in their fixed order.
-/

namespace DriverIndex

structure ScanSettings where
  /-- The extensions of the files that are scanned, without a dot in front. -/
  extensions : List String := ["c"]
  /-- The names of directories that are left out. -/
  exclude : List String := [".git"]
  /-- Whether files are scanned in the order of their paths. -/
  sort : Bool := true
deriving DecidableEq

structure Settings where
  scan : ScanSettings := {}
  naming : Naming := {}
deriving DecidableEq

/-- Why a configuration document is refused. -/
inductive SettingsFlaw where
  /-- It is not in the notation, or it holds a key or a value that no setting has. -/
  | unreadable
  | emptyExtension
deriving DecidableEq

def SettingsFlaw.message : SettingsFlaw → String
  | unreadable => "TOML parse error"
  | emptyExtension => "empty entry in scan.extensions"

/-- An extension without the dots in front of it. -/
def trimDots (extension : String) : String := String.ofList (extension.toList.dropWhile (· = '.'))

namespace Toml.Value

def text? : Value → Option String
  | text s => some s
  | _ => none

def flag? : Value → Option Bool
  | flag b => some b
  | _ => none

def texts? : Value → Option (List String)
  | list values => values.mapM text?
  | _ => none

/-- The pairs of a table, or of a list that gives a value for every key and perhaps more. -/
def pairs? (keys : List String) : Value → Option Entries
  | table _ entries => some entries
  | list values => if keys.length ≤ values.length then some (keys.zip values) else none
  | _ => none

end Toml.Value

namespace ScanSettings

def keys : List String := ["extensions", "exclude", "sort"]

def set? (settings : ScanSettings) : String × Toml.Value → Option ScanSettings
  | ("extensions", value) => value.texts?.map fun extensions =>
      { settings with extensions := extensions.map trimDots }
  | ("exclude", value) => value.texts?.map fun exclude => { settings with exclude }
  | ("sort", value) => value.flag?.map fun sort => { settings with sort }
  | _ => none

end ScanSettings

namespace Naming

def keys : List String := [
  "constant_prefix", "record_type", "record_prefix", "table_name", "include_guard", "resource_include",
  "header_include", "terminator_name", "generator"]

/-- Replaces the name with a key. -/
def replace? (naming : Naming) (key name : String) : Option Naming :=
  match key with
  | "constant_prefix" => some { naming with constantPrefix := name }
  | "record_type" => some { naming with recordType := name }
  | "record_prefix" => some { naming with recordPrefix := name }
  | "table_name" => some { naming with tableName := name }
  | "include_guard" => some { naming with includeGuard := name }
  | "resource_include" => some { naming with resourceInclude := name }
  | "header_include" => some { naming with headerInclude := name }
  | "terminator_name" => some { naming with terminatorName := name }
  | "generator" => some { naming with generator := name }
  | _ => none

def set? (naming : Naming) (pair : String × Toml.Value) : Option Naming := do
  naming.replace? pair.1 (← pair.2.text?)

end Naming

namespace Settings

def set? (settings : Settings) : String × Toml.Value → Option Settings
  | ("scan", value) => do
    let pairs ← value.pairs? ScanSettings.keys
    return { settings with scan := ← pairs.foldlM ScanSettings.set? {} }
  | ("output", value) => do
    let pairs ← value.pairs? Naming.keys
    return { settings with naming := ← pairs.foldlM Naming.set? {} }
  | _ => none

/-- The settings of a configuration document. -/
def ofDocument (document : List Char) : Except SettingsFlaw Settings :=
  match (Toml.read? document).bind fun entries => entries.foldlM set? {} with
  | none => .error .unreadable
  | some settings => if "" ∈ settings.scan.extensions then .error .emptyExtension else .ok settings

end Settings

end DriverIndex
