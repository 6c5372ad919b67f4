import DriverIndex.FileSystem.Basic

/-!
# Changes to a file system

Directories are made, files written and links placed one at a time. An operation that fails leaves the tree as it was; making a directory with all that is above it is several operations, of which the first ones may stay. No operation is refused for want of a permission or of room.
-/

namespace DriverIndex

namespace Node

/-- Puts a node under a name, in the place of the node that has it. -/
def setEntry (name : String) (node : Node) : List (String × Node) → List (String × Node)
  | [] => [(name, node)]
  | (other, old) :: rest => if other = name then (name, node) :: rest else (other, old) :: setEntry name node rest

/-- Puts a node at a place. What stands above it stays, and a name that is missing there becomes a directory. -/
def put (node : Node) : List String → Node → Node
  | [], _ => node
  | name :: names, .dir entries =>
    .dir (setEntry name (put node names ((entries.lookup name).getD (.dir []))) entries)
  | _ :: _, other => other

mutual

/-- All files at and below a place, with their places. -/
def files (place : List String) : Node → List (List String × List UInt8)
  | .file content => [(place, content)]
  | .link _ => []
  | .dir entries => filesOf place entries

def filesOf (place : List String) : List (String × Node) → List (List String × List UInt8)
  | [] => []
  | (name, node) :: rest => node.files (place ++ [name]) ++ filesOf place rest

end

mutual

/-- All directories at and below a place, each before those inside it. -/
def dirs (place : List String) : Node → List (List String)
  | .dir entries => place :: dirsOf place entries
  | _ => []

def dirsOf (place : List String) : List (String × Node) → List (List String)
  | [] => []
  | (name, node) :: rest => node.dirs (place ++ [name]) ++ dirsOf place rest

end

end Node

namespace FileSystem

def put (system : FileSystem) (place : List String) (node : Node) : FileSystem :=
  { system with top := node.put place system.top }

def makeDir (system : FileSystem) (path : Path) : Except Fault FileSystem := do
  match ← system.resolve .asLink path with
  | .present _ => throw .alreadyExists
  | .absent parent name => return system.put (parent ++ [name]) (.dir [])

def makeLink (system : FileSystem) (path target : Path) : Except Fault FileSystem := do
  match ← system.resolve .asLink path with
  | .present _ => throw .alreadyExists
  | .absent parent name => return system.put (parent ++ [name]) (.link target)

/-- Writes a whole file, a new one or in the place of an old one. -/
def write (system : FileSystem) (path : Path) (content : List UInt8) : Except Fault FileSystem := do
  match ← system.resolve .written path with
  | .present place =>
    if ((system.top.get? place).map Node.isDir).getD false then throw .isDirectory
    else return system.put place (.file content)
  | .absent parent name => return system.put (parent ++ [name]) (.file content)

/-- Makes the first of some directories, each of which is in the next one, and what it needs of the others. -/
def makeDirs (system : FileSystem) : List Path → FileSystem × Except Fault Unit
  | [] => (system, .ok ())
  | path :: above =>
    match system.makeDir path with
    | .ok made => (made, .ok ())
    | .error .notFound =>
      match system.makeDirs above with
      | (under, .error fault) => (under, .error fault)
      | (under, .ok ()) => match under.makeDir path with
        | .ok made => (made, .ok ())
        | .error fault => (under, if under.hasDir path then .ok () else .error fault)
    | .error fault => (system, if system.hasDir path then .ok () else .error fault)

/-- The files of one tree that another tree does not have, or has with other bytes. -/
def changedFiles (before after : FileSystem) : List (List String × List UInt8) :=
  (after.top.files []).filter fun (place, content) =>
    match before.top.get? place with
    | some (.file old) => old ≠ content
    | _ => true

/-- The directories of one tree that another tree does not have. -/
def newDirs (before after : FileSystem) : List (List String) :=
  (after.top.dirs []).filter fun place => !((before.top.get? place).map Node.isDir).getD false

end FileSystem

end DriverIndex
