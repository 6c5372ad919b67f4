import DriverIndex.Text.Case

/-!
# Names in the generated files

The words that the generated files are built from. A slot's constant is in upper case and its record in lower case, each behind a configured word; names are joined by underscores.
-/

namespace DriverIndex

structure Naming where
  /-- Stands before every slot constant. -/
  constantPrefix : String := "ARC_DRIDEF"
  /-- The type of a record. -/
  recordType : String := "struct ARC_DriverDef"
  /-- Stands before every record. -/
  recordPrefix : String := "__driver"
  tableName : String := "__DRIVER_LOOKUP_TABLE"
  includeGuard : String := "AUTOGEN_ARC_DRIVERS_DRI_DEFS"
  /-- The header that the declarations include. -/
  resourceInclude : String := "lib/resource.h"
  /-- The header that the definitions include. -/
  headerInclude : String := "drivers/dri_defs.h"
  terminatorName : String := "ARC_DRIDEF_PCI_TERMINATOR"
  /-- The tool that the banner names. -/
  generator : String := "dridefs"
deriving DecidableEq

namespace Naming

def upperCase (s : String) : String := String.ofList (Text.upper s.toList)

def lowerCase (s : String) : String := String.ofList (Text.lower s.toList)

/-- The constant of a slot; an empty key leaves no underscore behind. -/
def constantName (naming : Naming) (name key : String) : String :=
  if key = "" then naming.constantPrefix ++ "_" ++ upperCase name
  else naming.constantPrefix ++ "_" ++ upperCase name ++ "_" ++ upperCase key

/-- The record of a slot; an empty key leaves its underscore. -/
def recordName (naming : Naming) (name key : String) : String :=
  naming.recordPrefix ++ "_" ++ lowerCase name ++ "_" ++ lowerCase key

end Naming

end DriverIndex
