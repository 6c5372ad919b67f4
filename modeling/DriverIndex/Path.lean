/-!
# Paths

A path is kept as it was written. Its components are what stands between slashes, without the empty ones and without the dots that change nothing: only a dot at the very start counts. Paths are ordered by their components, not by their text.

A path is a text, and so is each name in it. Names whose bytes are no UTF-8 have no path here.
-/

namespace DriverIndex

structure Path where
  text : String
deriving DecidableEq

namespace Path

inductive Component where
  | root
  /-- A dot at the start of a path. -/
  | here
  | up
  | name (name : String)
deriving DecidableEq

namespace Component

/-- The kinds of component in ascending order. -/
def rank : Component → Nat
  | root => 0
  | here => 1
  | up => 2
  | name _ => 3

/-- Names by their code points, all else by its kind. -/
def precedes : Component → Component → Bool
  | name left, name right => left < right
  | left, right => left.rank < right.rank

end Component

/-- What stands between the slashes of a path. -/
def segments (path : Path) : List String := (path.text.toList.splitOn '/').map String.ofList

/-- The component that a segment stands for, by whether it is the first one. -/
def component? (first : Bool) (segment : String) : Option Component :=
  if segment = "" then if first then some .root else none
  else if segment = "." then if first then some .here else none
  else if segment = ".." then some .up
  else some (.name segment)

/-- The components of a path, each with the number of segments up to its end. -/
def parts (path : Path) : List (Component × Nat) :=
  if path.text = "" then []
  else (path.segments.zipIdx).filterMap fun (segment, index) =>
    (component? (index = 0) segment).map fun component => (component, index + 1)

def components (path : Path) : List Component := path.parts.map Prod.fst

/-- Whether one list of components comes before another or is the same. -/
def componentsLe : List Component → List Component → Bool
  | [], _ => true
  | _ :: _, [] => false
  | left :: lefts, right :: rights => left.precedes right || (left = right && componentsLe lefts rights)

def le (left right : Path) : Bool := componentsLe left.components right.components

def join (path : Path) (name : String) : Path :=
  match path.text.toList.getLast? with
  | none => ⟨name⟩
  | some '/' => ⟨path.text ++ name⟩
  | some _ => ⟨path.text ++ "/" ++ name⟩

/-- The start of a path, up to a component; the slash of an absolute path stays. -/
def upTo (path : Path) : Component × Nat → Path
  | (.root, _) => ⟨"/"⟩
  | (_, count) => ⟨"/".intercalate (path.segments.take count)⟩

/-- The path without its last component; none if there is nothing to take away. -/
def parent? (path : Path) : Option Path :=
  match path.parts.reverse with
  | [] => none
  | [(.root, _)] => none
  | [_] => some ⟨""⟩
  | _ :: above :: _ => some (path.upTo above)

/-- A path and all that is above it, the nearest first, without the empty path. -/
def ancestors (path : Path) : List Path :=
  match path.parts.reverse with
  | [] => []
  | _ :: above => path :: above.map path.upTo

/-- The name at the end of a path, if it ends in one. -/
def fileName? (path : Path) : Option String :=
  match path.components.getLast? with
  | some (.name name) => some name
  | _ => none

/-- What stands after the last dot of a name, unless that dot is its first character or there is none. -/
def nameExtension? (name : String) : Option String :=
  let after := name.toList.reverse.takeWhile (· ≠ '.')
  match name.toList.reverse.drop after.length with
  | _ :: _ :: _ => some (String.ofList after.reverse)
  | _ => none

def extension? (path : Path) : Option String := path.fileName?.bind nameExtension?

end Path

end DriverIndex
