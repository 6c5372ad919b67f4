import DriverIndex.Path
import DriverIndex.Marker
import DriverIndex.Text.Json

/-!
# Log events

What a run has to tell while it goes on. An event has a level, a target, which names the part of the program it comes from, and named fields.
-/

namespace DriverIndex.Log

inductive Level where
  | error
  | warn
  | info
  | debug
deriving DecidableEq

def Level.text : Level → String
  | error => "ERROR"
  | warn => "WARN"
  | info => "INFO"
  | debug => "DEBUG"

inductive FieldValue where
  | text (s : String)
  | number (i : Int)
deriving DecidableEq

inductive Event where
  | filesGathered (root : Path) (count : Nat)
  | fileFound (file : Path)
  | definitionFound (file : Path) (sighting : Sighting)
  | groupCollision (file : Path) (line : Nat) (collision : Collision)
  | collisionsDetected (count : Nat)
  | slotsAssigned (slots size : Nat)
  | definitionsIndexed (files definitions size collisions : Nat)
  | artifactsWritten (header source : Path) (size : Nat)
  /-- A remark of the command. -/
  | remark (text : String)
  /-- A complaint of the command. -/
  | complaint (text : String)
deriving DecidableEq

namespace Event

def level : Event → Level
  | filesGathered .. | fileFound .. | slotsAssigned .. => .debug
  | definitionFound .. | definitionsIndexed .. | artifactsWritten .. | remark .. => .info
  | groupCollision .. => .warn
  | collisionsDetected .. | complaint .. => .error

def target : Event → String
  | filesGathered .. => "dridefs_core::scan"
  | definitionFound .. => "dridefs_core::extract"
  | fileFound .. | groupCollision .. | collisionsDetected .. | definitionsIndexed .. => "dridefs_core::builder"
  | slotsAssigned .. => "dridefs_core::index"
  | artifactsWritten .. => "dridefs_core::emit"
  | remark .. | complaint .. => "dridefs_core::logging"

/-- The fields of an event, its message among them. -/
def fields : Event → List (String × FieldValue)
  | filesGathered root count => [
    ("message", .text "source files gathered"), ("root", .text root.text), ("count", .number count)]
  | fileFound file => [("message", .text "found source file"), ("file", .text file.text)]
  | definitionFound file sighting => [
    ("message", .text "found driver definition"), ("file", .text file.text), ("line", .number sighting.line),
    ("group", .number sighting.registration.group.value.toInt), ("name", .text sighting.registration.name),
    ("ext", .text sighting.registration.tag)]
  | groupCollision file line collision => [
    ("message", .text "group collision"), ("file", .text file.text), ("line", .number line),
    ("name", .text collision.name), ("existing", .number collision.existing.value.toInt),
    ("attempted", .number collision.attempted.value.toInt)]
  | collisionsDetected count => [
    ("message", .text "driver definition collisions detected"), ("collisions", .number count)]
  | slotsAssigned slots size => [
    ("message", .text "indices assigned"), ("slots", .number slots), ("table_size", .number size)]
  | definitionsIndexed files definitions size collisions => [
    ("message", .text "driver definitions indexed"), ("files", .number files), ("definitions", .number definitions),
    ("table_size", .number size), ("collisions", .number collisions)]
  | artifactsWritten header source size => [
    ("message", .text "artifacts written"), ("header", .text header.text), ("source", .text source.text),
    ("table_size", .number size)]
  | remark text => [("detail", .text text)]
  | complaint text => [("detail", .text text)]

open Text (Json)

def valueJson : FieldValue → Json
  | .text s => .text s
  | .number i => .number i

/-- An event as a line of the log. -/
def toJson (event : Event) : Json := .record [
  ("level", .text event.level.text),
  ("fields", .record (event.fields.map fun (name, value) => (name, valueJson value))),
  ("target", .text event.target)]

end Event

end DriverIndex.Log
