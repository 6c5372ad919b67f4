import DriverIndex.Calendar
import DriverIndex.Naming
import DriverIndex.SlotTable

/-!
# The generated files

The declarations hold a constant for every slot, numbered as in the slot table, and name the records; the definitions hold the table that points at them. Both are lists of pieces, each of which ends in a line feed; a piece is one line unless a configured word breaks it.
-/

namespace DriverIndex

open Text (Decimal.natText)

namespace Artifact

/-- The value that ends a list of slots. -/
def terminatorValue : String := "0xFFFFFFFF"

def emptyIntFunction : String := "int dridefs_int_func_empty()"

def emptySizeFunction : String := "size_t dridefs_size_t_func_empty()"

def emptyPointerFunction : String := "void *dridefs_void_func_empty()"

def banner (naming : Naming) (date : Date) : List String := [
  "/*",
  " * This file was autogenerated by " ++ naming.generator ++ ".",
  " * Date of Generation: " ++ date.text,
  "*/"]

/-- The constant of a slot, and the record behind it unless the group is terminal. -/
def slotDeclaration (naming : Naming) (group : Group) (name : String) (slot : Slot) : List String :=
  ("#define " ++ naming.constantName name slot.key ++ " " ++ Decimal.natText slot.index) ::
    if group.isTerminal then []
    else ["extern " ++ naming.recordType ++ " " ++ naming.recordName name slot.key ++ ";"]

def slotDeclarations (naming : Naming) (table : SlotTable) : List String :=
  table.definitions.flatMap fun definition =>
    definition.slots.flatMap (slotDeclaration naming definition.group definition.name)

/-- The line of the table that points at a record. -/
def tableEntry (naming : Naming) (slot : RecordSlot) : String :=
  "\t[" ++ Decimal.natText slot.index ++ "] = &" ++ naming.recordName slot.name slot.key ++ ","

def declarationsPrologue (naming : Naming) (date : Date) : List String :=
  banner naming date ++ [
    "#ifndef " ++ naming.includeGuard,
    "#define " ++ naming.includeGuard,
    "#include <" ++ naming.resourceInclude ++ ">",
    ""]

def declarationsEpilogue (naming : Naming) : List String := [
  "#define " ++ naming.terminatorName ++ " " ++ terminatorValue,
  "extern " ++ naming.recordType ++ " *" ++ naming.tableName ++ "[];",
  emptyIntFunction ++ ";",
  emptySizeFunction ++ ";",
  emptyPointerFunction ++ ";",
  "#endif // " ++ naming.includeGuard]

def definitionsPrologue (naming : Naming) (date : Date) : List String :=
  banner naming date ++ [
    "#include <" ++ naming.headerInclude ++ ">",
    naming.recordType ++ " *" ++ naming.tableName ++ "[] = \x7b"]

def definitionsEpilogue : List String := [
  "\x7d;",
  emptyIntFunction ++ " \x7b return -1; \x7d",
  emptySizeFunction ++ " \x7b return 0; \x7d",
  emptyPointerFunction ++ " \x7b return NULL; \x7d"]

/-- The pieces, each with the line feed that ends it. -/
def write (pieces : List String) : String := String.join (pieces.map (· ++ "\n"))

def declarationPieces (naming : Naming) (table : SlotTable) (date : Date) : List String :=
  declarationsPrologue naming date ++ slotDeclarations naming table ++ declarationsEpilogue naming

def declarations (naming : Naming) (table : SlotTable) (date : Date) : String :=
  write (declarationPieces naming table date)

def definitionPieces (naming : Naming) (table : SlotTable) (date : Date) : List String :=
  definitionsPrologue naming date ++ table.recordSlots.map (tableEntry naming) ++ definitionsEpilogue

def definitions (naming : Naming) (table : SlotTable) (date : Date) : String :=
  write (definitionPieces naming table date)

end Artifact

end DriverIndex
