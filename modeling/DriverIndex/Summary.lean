import DriverIndex.SlotTable
import DriverIndex.Text.Json

/-!
# The summary of a run

What a run found, for a person in plain lines or for a program as one JSON document, and the exit status that it ends with: the number of collisions, as far as a status can show it.
-/

namespace DriverIndex

open Text (Json Decimal.natText)

structure Summary where
  filesScanned : Nat
  table : SlotTable
deriving DecidableEq

namespace Summary

/-- The highest exit status that a process can have. -/
def highestStatus : Nat := 255

def collisionCount (summary : Summary) : Nat := summary.table.collisions.length

/-- The number of collisions, and no more than a status can hold. -/
def exitStatus (summary : Summary) : Nat := min highestStatus summary.collisionCount

/-- A key as the plain summary shows it. -/
def keyText (key : String) : String := if key = "" then "<default>" else key

def slotText (slot : Slot) : String := keyText slot.key ++ "=" ++ Decimal.natText slot.index

def headLine (summary : Summary) : String :=
  "Scanned " ++ Decimal.natText summary.filesScanned ++ " source file(s), " ++
    Decimal.natText (summary.table.definitions.length - 1) ++ " definition(s), " ++
    Decimal.natText summary.table.size ++ " slot(s)."

def definitionLine (definition : IndexedDefinition) : String :=
  "- " ++ definition.name ++ " (group " ++ definition.group.text ++ "): " ++
    ", ".intercalate (definition.slots.map slotText)

def collisionLine (collision : Collision) : String :=
  "COLLISION: " ++ collision.name ++ " registered as group " ++ collision.attempted.text ++ " but already group " ++
    collision.existing.text

def countLine (summary : Summary) : String := "Collision Counter: " ++ Decimal.natText summary.collisionCount

/-- The definitions outside the terminal group, which the plain summary lists. -/
def listed (summary : Summary) : List IndexedDefinition :=
  summary.table.definitions.filter fun definition => !definition.group.isTerminal

def plainLines (summary : Summary) : List String :=
  summary.headLine :: summary.listed.map definitionLine ++ summary.table.collisions.map collisionLine ++
    [summary.countLine]

def plain (summary : Summary) : String := String.join (summary.plainLines.map (· ++ "\n"))

def slotJson (slot : Slot) : Json := .record [("key", .text slot.key), ("index", .number slot.index)]

def definitionJson (definition : IndexedDefinition) : Json := .record [
  ("name", .text definition.name),
  ("group", .number definition.group.value.toInt),
  ("slots", .list (definition.slots.map slotJson))]

def collisionJson (collision : Collision) : Json := .record [
  ("name", .text collision.name),
  ("existing", .number collision.existing.value.toInt),
  ("attempted", .number collision.attempted.value.toInt),
  ("extension", .text collision.tag)]

def toJson (summary : Summary) : Json := .record [
  ("files_scanned", .number summary.filesScanned),
  ("table_size", .number summary.table.size),
  ("definitions", .list (summary.table.definitions.map definitionJson)),
  ("collisions", .list (summary.table.collisions.map collisionJson))]

def json (summary : Summary) : String := String.ofList summary.toJson.pretty ++ "\n"

end Summary

end DriverIndex
