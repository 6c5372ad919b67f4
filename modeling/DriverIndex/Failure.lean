import DriverIndex.Discovery
import DriverIndex.Marker

/-!
# Failures

What can end a run early. Collisions are no failures: a run reports them and goes on.
-/

namespace DriverIndex

inductive Failure where
  /-- A file or a directory cannot be used. -/
  | io (path : Path) (fault : Fault)
  /-- The root of a scan or a directory below it cannot be entered. -/
  | walk (obstacle : Obstacle)
  | malformed (path : Path) (line : MalformedLine)
  | settings (path : Path) (flaw : SettingsFlaw)
  | emptyMarker
deriving DecidableEq

namespace Failure

/-- How the failure of a walk names itself. -/
def walkMessage (obstacle : Obstacle) : String :=
  "IO error for operation on " ++ obstacle.path.text ++ ": " ++ obstacle.fault.message

def message : Failure → String
  | io path fault => "I/O error at " ++ path.text ++ ": " ++ fault.message
  | walk obstacle => "I/O error at " ++ obstacle.path.text ++ ": " ++ walkMessage obstacle
  | malformed path line =>
    "Malformed marker in " ++ path.text ++ ":" ++ Text.Decimal.natText line.number ++ ": " ++ line.flaw.message ++
      " (line: `" ++ line.excerpt ++ "`)"
  | settings path flaw => "Config error at " ++ path.text ++ ": " ++ flaw.message
  | emptyMarker => "Invalid argument: marker token must not be empty"

/-- The messages of a failure and of what lies behind it, the outermost first. -/
def chain (failure : Failure) : List String :=
  failure.message :: match failure with
    | io _ fault => [fault.message]
    | walk obstacle => [walkMessage obstacle, obstacle.fault.message]
    | _ => []

end Failure

end DriverIndex
