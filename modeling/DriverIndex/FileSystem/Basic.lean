import DriverIndex.Path

/-!
# File systems

A file system is a tree of directories, files and symbolic links, seen from a working directory. A path leads from the working directory, or from the top if it starts with a slash, to a place in the tree. On the way links are followed, at most forty of them; the place itself is given by names from the top, none of which is a link.

There are no permissions and no failing devices: what a path leads to can be opened, listed, read and written. So a file that is seen can always be read, and one that exists can always be written; a path is refused only for what stands, or does not stand, along it, and for its length. Every node is a file, a link or a directory, and every name is a text; pipes, devices and sockets do not occur, nor do names whose bytes are no UTF-8.
-/

namespace DriverIndex

/-- Why a path cannot be used as it was asked for. -/
inductive Fault where
  | notFound
  | alreadyExists
  | notDirectory
  | isDirectory
  | nameTooLong
  | tooManyLinks
  /-- The path holds a character that no path can hold. -/
  | nulInPath
  /-- The bytes of a file are not the text that was asked for. -/
  | notUtf8
deriving DecidableEq

def Fault.message : Fault → String
  | notFound => "No such file or directory (os error 2)"
  | alreadyExists => "File exists (os error 17)"
  | notDirectory => "Not a directory (os error 20)"
  | isDirectory => "Is a directory (os error 21)"
  | nameTooLong => "File name too long (os error 36)"
  | tooManyLinks => "Too many levels of symbolic links (os error 40)"
  | nulInPath => "file name contained an unexpected NUL byte"
  | notUtf8 => "stream did not contain valid UTF-8"

inductive Node where
  | file (content : List UInt8)
  | link (target : Path)
  | dir (entries : List (String × Node))

namespace Node

def isDir : Node → Bool
  | dir _ => true
  | _ => false

def isFile : Node → Bool
  | file _ => true
  | _ => false

/-- The node at a place, which is a list of names. -/
def get? : Node → List String → Option Node
  | node, [] => some node
  | dir entries, name :: names => (entries.lookup name).bind fun node => node.get? names
  | _, _ :: _ => none

end Node

/-- Where a path leads: to a node, or to a name that a directory does not have yet. -/
inductive Spot where
  | present (place : List String)
  | absent (parent : List String) (name : String)
deriving DecidableEq

/-- What becomes of the last name of a path. -/
inductive LastName where
  /-- It is followed if it is a link. -/
  | followed
  /-- It is taken as it is, also if it is a link. -/
  | asLink
  /-- It is to hold a file, so no slash may stand behind it; if it is a link it is followed. -/
  | written
deriving DecidableEq

structure FileSystem where
  top : Node
  base : List String

namespace FileSystem

/-- The most bytes that a name can have. -/
def longestName : Nat := 255

/-- The most bytes that a path can have. -/
def longestPath : Nat := 4095

/-- The most links that are followed on the way along one path. -/
def mostLinks : Nat := 40

/-- The place that the segments of a path start from. -/
def startOf (path : Path) (base : List String) : List String := if path.text.toList.head? = some '/' then [] else base

/-- Goes along segments from a place; `onLink` goes on where a link leads. -/
def goAlong (top : Node) (last : LastName) (onLink : List String → List String → Except Fault Spot) :
    List String → List String → Except Fault Spot
  | place, [] => .ok (.present place)
  | place, segment :: rest =>
    match top.get? place with
    | none => .error .notFound
    | some (.dir entries) =>
      if segment = "" ∨ segment = "." then goAlong top last onLink place rest
      else if segment = ".." then goAlong top last onLink place.dropLast rest
      else if last = .written ∧ rest ≠ [] ∧ rest.all (· = "") then .error .isDirectory
      else if longestName < segment.utf8ByteSize then .error .nameTooLong
      else match entries.lookup segment with
        | none => if rest.all (· = "") then .ok (.absent place segment) else .error .notFound
        | some (.link target) =>
          if last = .asLink ∧ rest = [] then .ok (.present (place ++ [segment]))
          else onLink (startOf target place) (target.segments ++ rest)
        | some _ => goAlong top last onLink (place ++ [segment]) rest
    | some _ => .error .notDirectory

/-- Goes along segments from a place and follows a bounded number of links. -/
def follow (top : Node) (last : LastName) : Nat → List String → List String → Except Fault Spot
  | 0 => goAlong top last fun _ _ => .error .tooManyLinks
  | links + 1 => goAlong top last (follow top last links)

def resolve (system : FileSystem) (last : LastName) (path : Path) : Except Fault Spot :=
  if '\x00' ∈ path.text.toList then .error .nulInPath
  else if path.text = "" then .error .notFound
  else if longestPath < path.text.utf8ByteSize then .error .nameTooLong
  else follow system.top last mostLinks (startOf path system.base) path.segments

def node (system : FileSystem) (last : LastName) (path : Path) : Except Fault Node := do
  match ← system.resolve last path with
  | .present place => match system.top.get? place with
    | some node => return node
    | none => throw .notFound
  | .absent .. => throw .notFound

def hasFile (system : FileSystem) (path : Path) : Bool :=
  match system.node .followed path with
  | .ok node => node.isFile
  | .error _ => false

def hasDir (system : FileSystem) (path : Path) : Bool :=
  match system.node .followed path with
  | .ok node => node.isDir
  | .error _ => false

def has (system : FileSystem) (path : Path) : Bool :=
  match system.node .followed path with
  | .ok _ => true
  | .error _ => false

def read (system : FileSystem) (path : Path) : Except Fault (List UInt8) := do
  match ← system.node .followed path with
  | .file content => return content
  | _ => throw .isDirectory

end FileSystem

end DriverIndex
