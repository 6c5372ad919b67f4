import DriverIndex.FileSystem.Basic
import DriverIndex.Settings

/-!
# Discovery of source files

The files at and below a root whose names have one of the wanted extensions. Directories with an excluded name are left out with all that is in them, but never the root. Links to directories are not entered, unless the root is one; links to files count as files. Paths grow on the way down, and the file system refuses those that grow too long: such a file is passed over, such a directory ends the walk.

All names are texts here. A file of any other name would have no extension, and a directory of any other name could not be excluded.
-/

namespace DriverIndex

/-- A place that a walk cannot enter. -/
structure Obstacle where
  path : Path
  fault : Fault
deriving DecidableEq

namespace Node

mutual

/-- All that is at and below a path and no directory, but nothing in the directories that are excluded. -/
def leaves (exclude : List String) (path : Path) : Node → List Path
  | .file _ => [path]
  | .link _ => [path]
  | .dir entries => leavesOf exclude path entries

def leavesOf (exclude : List String) (path : Path) : List (String × Node) → List Path
  | [] => []
  | (name, node) :: rest =>
    (if node.isDir && name ∈ exclude then [] else node.leaves exclude (path.join name)) ++
      leavesOf exclude path rest

end

mutual

/-- The directories at and below a path, but none that is excluded or inside one that is. -/
def branches (exclude : List String) (path : Path) : Node → List Path
  | .file _ => []
  | .link _ => []
  | .dir entries => path :: branchesOf exclude path entries

def branchesOf (exclude : List String) (path : Path) : List (String × Node) → List Path
  | [] => []
  | (name, node) :: rest =>
    (if node.isDir && name ∈ exclude then [] else node.branches exclude (path.join name)) ++
      branchesOf exclude path rest

end

end Node

namespace FileSystem

/-- Whether the name of a path has one of the extensions and the path leads to a file. -/
def isSource (system : FileSystem) (extensions : List String) (path : Path) : Bool :=
  path.extension?.any (· ∈ extensions) && system.hasFile path

/-- The node that a scan starts from: what the root is, and what it leads to if that is a directory. -/
def rootNode (system : FileSystem) (root : Path) : Except Fault Node := do
  match ← system.node .asLink root with
  | .link target =>
    let node ← system.node .followed root
    return if node.isDir then node else .link target
  | node => return node

/-- What keeps a walk from entering a directory that it found. -/
def obstacle? (path : Path) : Option Obstacle :=
  if longestPath < path.text.utf8ByteSize then some ⟨path, .nameTooLong⟩ else none

/-- The source files at and below a root, in the order of the tree. -/
def sourcesInTree (system : FileSystem) (settings : ScanSettings) (root : Path) : Except Obstacle (List Path) := do
  let node ← (system.rootNode root).mapError (Obstacle.mk root)
  match (node.branches settings.exclude root).findSome? obstacle? with
  | some obstacle => throw obstacle
  | none => return (node.leaves settings.exclude root).filter (system.isSource settings.extensions)

/-- The source files at and below a root, in the order of their paths if that is asked for. -/
def sources (system : FileSystem) (settings : ScanSettings) (root : Path) : Except Obstacle (List Path) := do
  let files ← system.sourcesInTree settings root
  return if settings.sort then files.mergeSort Path.le else files

end FileSystem

end DriverIndex
