import DriverIndex.Group
import Std.Data.TreeMap

/-!
# The registry

A registry collects registrations. The first one of a name defines the name and its group; later ones of the same group can only add tags, and those of another group are collisions, which are recorded and otherwise ignored. Names and tags keep the order in which they were first accepted, since the numbering of slots follows it. The name `COUNT` cannot be registered: closing a registry appends it, so it is always last.
-/

namespace DriverIndex

/-- The name of the definition that closes every index. -/
def closingName : String := "COUNT"

/-- A request to put a tag of a name into a group. -/
structure Registration where
  group : Group
  name : String
  tag : String
deriving DecidableEq

/-- A name with its group and its tags, in the order in which they were accepted. -/
structure Definition where
  name : String
  group : Group
  tags : List String
deriving DecidableEq

/-- A registration that was refused because its name belongs to another group. -/
structure Collision where
  name : String
  existing : Group
  attempted : Group
  tag : String
deriving DecidableEq

/-- What became of one registration. -/
inductive Outcome where
  /-- It defined its name. -/
  | inserted
  /-- It added a tag to its name. -/
  | extended
  /-- It was there already. -/
  | duplicate
  | collision (collision : Collision)
deriving DecidableEq

def Outcome.isCollision : Outcome → Bool
  | .collision _ => true
  | _ => false

/-- Definitions in the order of their names' first registrations, with the position of every name. -/
structure Registry where
  definitions : Array Definition
  positions : Std.TreeMap String Nat
  collisions : Array Collision

/-- A registry that takes no more registrations; its last definition is the closing one. -/
structure ClosedRegistry where
  definitions : List Definition
  collisions : List Collision
deriving DecidableEq

namespace Registry

def empty : Registry := ⟨#[], ∅, #[]⟩

def locate? (registry : Registry) (name : String) : Option (Nat × Definition) := do
  let position ← registry.positions[name]?
  let definition ← registry.definitions[position]?
  return (position, definition)

def get? (registry : Registry) (name : String) : Option Definition := (registry.locate? name).map Prod.snd

def size (registry : Registry) : Nat := registry.definitions.size

def define (registry : Registry) (call : Registration) : Registry :=
  let position := registry.size
  { registry with
    definitions := registry.definitions.push ⟨call.name, call.group, [call.tag]⟩
    positions := registry.positions.insert call.name position }

def extend (registry : Registry) (position : Nat) (tag : String) : Registry :=
  { registry with
    definitions := registry.definitions.modify position fun definition =>
      { definition with tags := definition.tags ++ [tag] } }

/-- Records that a registration came too late for its group. -/
def collide (registry : Registry) (existing : Group) (call : Registration) : Outcome × Registry :=
  let collision : Collision := ⟨call.name, existing, call.group, call.tag⟩
  (.collision collision, { registry with collisions := registry.collisions.push collision })

/-- Registers any name, the closing one included. -/
def insert (registry : Registry) (call : Registration) : Outcome × Registry :=
  match registry.locate? call.name with
  | none => (.inserted, registry.define call)
  | some (position, definition) =>
    if definition.group ≠ call.group then registry.collide definition.group call
    else if call.tag ∈ definition.tags then (.duplicate, registry)
    else (.extended, registry.extend position call.tag)

/-- Registers a name; the closing name always collides. -/
def register (registry : Registry) (call : Registration) : Outcome × Registry :=
  if call.name = closingName then registry.collide .closing call else registry.insert call

def registerAll (registry : Registry) (calls : List Registration) : Registry :=
  calls.foldl (fun registry call => (registry.register call).2) registry

def ofCalls (calls : List Registration) : Registry := empty.registerAll calls

def close (registry : Registry) : ClosedRegistry :=
  let closed := (registry.insert ⟨.closing, closingName, ""⟩).2
  ⟨closed.definitions.toList, closed.collisions.toList⟩

@[simp] theorem registerAll_nil (registry : Registry) : registry.registerAll [] = registry := rfl

@[simp] theorem registerAll_cons (registry : Registry) (call : Registration) (calls : List Registration) :
    registry.registerAll (call :: calls) = (registry.register call).2.registerAll calls := rfl

theorem registerAll_append (registry : Registry) (first later : List Registration) :
    registry.registerAll (first ++ later) = (registry.registerAll first).registerAll later :=
  List.foldl_append

end Registry

end DriverIndex
