import DriverIndex.Artifact
import DriverIndex.Failure
import DriverIndex.FileSystem.Edit
import DriverIndex.Log.Traced
import DriverIndex.Text.Utf8

/-!
# Writing the generated files

The declarations are written first and the definitions after them, each with the directories it needs. A failure leaves what was written before.
-/

namespace DriverIndex

open Log (Traced)

/-- What is written where. -/
structure Publication where
  naming : Naming
  table : SlotTable
  date : Date
  header : Path
  source : Path

namespace FileSystem

/-- Writes a text, and makes the directories above it. -/
def publish (system : FileSystem) (path : Path) (text : String) : FileSystem × Except Failure Unit :=
  let above := match path.parent? with
    | some parent => parent.ancestors
    | none => []
  match system.makeDirs above with
  | (made, .error fault) => (made, .error (.io ((path.parent?).getD path) fault))
  | (made, .ok ()) => match made.write path (Text.Utf8.encode text.toList) with
    | .ok written => (written, .ok ())
    | .error fault => (made, .error (.io path fault))

end FileSystem

namespace Publication

def declarations (publication : Publication) : String :=
  Artifact.declarations publication.naming publication.table publication.date

def definitions (publication : Publication) : String :=
  Artifact.definitions publication.naming publication.table publication.date

/-- Writes both files. -/
def write (publication : Publication) (system : FileSystem) : FileSystem × Traced Failure Unit :=
  match system.publish publication.header publication.declarations with
  | (system, .error failure) => (system, .fail failure)
  | (system, .ok ()) => match system.publish publication.source publication.definitions with
    | (system, .error failure) => (system, .fail failure)
    | (system, .ok ()) =>
      (system, .log (.artifactsWritten publication.header publication.source publication.table.size))

end Publication

end DriverIndex
