import DriverIndex.Registry
import DriverIndex.Text.Blank
import DriverIndex.Text.Line

/-!
# Marker lines

A marker is a word that announces a registration in a source text: `MARKER(group, name, tag)`. A line that holds the marker must be readable, with all blanks ignored: the arguments stand between the first opening parenthesis after the marker's first occurrence and the first closing parenthesis after that. The lines of a text are read from the last one upward.
-/

namespace DriverIndex

/-- A word of which something is left when its blanks are dropped. -/
structure Marker where
  word : List Char
  compact_ne_nil : Text.compact word ≠ []

/-- Why a marker line cannot be read. -/
inductive MarkerFlaw where
  | noArguments
  | fieldCount (found : Nat)
  | notAnInteger (field : List Char)
deriving DecidableEq

/-- A line that cannot be read, by its number. -/
structure MalformedLine where
  number : Nat
  text : List Char
  flaw : MarkerFlaw
deriving DecidableEq

/-- A registration and the number of the line that holds it. -/
structure Sighting where
  registration : Registration
  line : Nat
deriving DecidableEq

/-- What stands after the first occurrence of a word. -/
def Text.after? (word : List Char) : List Char → Option (List Char)
  | [] => if word.isEmpty then some [] else none
  | c :: rest => if word.isPrefixOf (c :: rest) then some ((c :: rest).drop word.length) else after? word rest

/-- A field without the pair of quotes around it, if there is one. -/
def unquote (field : List Char) : List Char :=
  match field with
  | '"' :: rest => if rest.getLast? = some '"' then rest.dropLast else field
  | _ => field

namespace MarkerFlaw

def message : MarkerFlaw → String
  | noArguments => "no parenthesized argument list after marker"
  | fieldCount found => "expected 3 comma-separated fields, found " ++ Text.Decimal.natText found
  | notAnInteger field => "group `" ++ String.ofList field ++ "` is not an integer"

end MarkerFlaw

/-- The text of a line without the blanks around it. -/
def MalformedLine.excerpt (line : MalformedLine) : String := String.ofList (Text.trim line.text)

namespace Marker

def ofText? (word : String) : Option Marker :=
  if h : Text.compact word.toList ≠ [] then some ⟨word.toList, h⟩ else none

/-- Whether a line holds the marker, blanks and all. -/
def occursIn (marker : Marker) (line : List Char) : Bool := (Text.after? marker.word line).isSome

/-- The arguments after the marker in a line without blanks. -/
def arguments? (marker : Marker) (line : List Char) : Option (List Char) := do
  let rest ← Text.after? (Text.compact marker.word) line
  match rest.dropWhile (· ≠ '(') with
  | [] => none
  | _ :: inside => if ')' ∈ inside then some (inside.takeWhile (· ≠ ')')) else none

def readArguments (arguments : List Char) : Except MarkerFlaw Registration :=
  match arguments.splitOn ',' with
  | [group, name, tag] =>
    match Group.ofText? group with
    | some value => .ok ⟨value, String.ofList (unquote name), String.ofList (unquote tag)⟩
    | none => .error (.notAnInteger group)
  | fields => .error (.fieldCount fields.length)

def readLine (marker : Marker) (line : List Char) : Except MarkerFlaw Registration :=
  match marker.arguments? (Text.compact line) with
  | some arguments => readArguments arguments
  | none => .error .noArguments

/-- The lines that hold the marker with their numbers, the last one first. -/
def candidates (marker : Marker) (text : List Char) : List (List Char × Nat) :=
  (((Text.lines text).zipIdx 1).filter fun (line, _) => marker.occursIn line).reverse

/-- Reads numbered lines in order, up to the first that cannot be read. -/
def readLines (marker : Marker) : List (List Char × Nat) → List Sighting × Option MalformedLine
  | [] => ([], none)
  | (line, number) :: rest =>
    match marker.readLine line with
    | .ok registration =>
      let (sightings, malformed) := marker.readLines rest
      (⟨registration, number⟩ :: sightings, malformed)
    | .error flaw => ([], some ⟨number, line, flaw⟩)

/-- Reads the registrations of a text from its last line upward, up to the first line that cannot be read. -/
def read (marker : Marker) (text : List Char) : List Sighting × Option MalformedLine :=
  marker.readLines (marker.candidates text)

end Marker

end DriverIndex
