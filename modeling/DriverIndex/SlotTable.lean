import DriverIndex.Registry

/-!
# The slot table

Every definition of a closed registry gets its keys numbered, definition by definition and without a gap. A layered definition has three fixed keys, any other has its tags. The closing definition comes last and its one slot has the number of all the slots before it, so that slot is also the length of the table.
-/

namespace DriverIndex

/-- The keys of a layered definition, in slot order. -/
def layeredKeys : List String := ["super", "directory", "file"]

structure Slot where
  key : String
  index : Nat
deriving DecidableEq

/-- A definition whose keys are numbered. -/
structure IndexedDefinition where
  name : String
  group : Group
  slots : List Slot
deriving DecidableEq

/-- A slot that a record stands behind. -/
structure RecordSlot where
  index : Nat
  name : String
  key : String
deriving DecidableEq

/-- All numbered definitions, and the number of slots before the closing one. -/
structure SlotTable where
  definitions : List IndexedDefinition
  collisions : List Collision
  size : Nat
deriving DecidableEq

/-- The keys a definition takes slots for. -/
def Definition.keys (definition : Definition) : List String :=
  if definition.group.isLayered then layeredKeys else definition.tags

def Definition.isClosing (definition : Definition) : Bool :=
  definition.group.isTerminal && definition.name = closingName

def numberKeys (next : Nat) (keys : List String) : List Slot := (keys.zipIdx next).map fun (key, index) => ⟨key, index⟩

namespace SlotTable

def numberFrom (next : Nat) : List Definition → List IndexedDefinition
  | [] => []
  | definition :: rest =>
    ⟨definition.name, definition.group, numberKeys next definition.keys⟩ ::
      numberFrom (next + definition.keys.length) rest

/-- The slots before the last closing definition, or `size` if there is none; `next` slots came before. -/
def sizeFrom (next size : Nat) : List Definition → Nat
  | [] => size
  | definition :: rest =>
    sizeFrom (next + definition.keys.length) (if definition.isClosing then next else size) rest

def ofClosed (registry : ClosedRegistry) : SlotTable where
  definitions := numberFrom 0 registry.definitions
  collisions := registry.collisions
  size := sizeFrom 0 0 registry.definitions

def slots (table : SlotTable) : List Slot := table.definitions.flatMap IndexedDefinition.slots

def get? (table : SlotTable) (name : String) : Option IndexedDefinition :=
  table.definitions.find? fun definition => definition.name = name

def closingSlot? (table : SlotTable) : Option Nat := do
  let definition ← table.get? closingName
  let slot ← definition.slots.head?
  return slot.index

/-- The slots of all definitions outside the terminal group, in the order of the definitions. -/
def recordSlots (table : SlotTable) : List RecordSlot :=
  (table.definitions.filter fun definition => !definition.group.isTerminal).flatMap fun definition =>
    definition.slots.map fun slot => ⟨slot.index, definition.name, slot.key⟩

end SlotTable

def SlotTable.ofCalls (calls : List Registration) : SlotTable := .ofClosed (Registry.ofCalls calls).close

@[simp] theorem length_numberKeys (next : Nat) (keys : List String) : (numberKeys next keys).length = keys.length := by
  simp [numberKeys]

@[simp] theorem key_numberKeys (next : Nat) (keys : List String) : (numberKeys next keys).map Slot.key = keys := by
  simp [numberKeys, Function.comp_def, List.zipIdx_map_fst]

@[simp] theorem index_numberKeys (next : Nat) (keys : List String) :
    (numberKeys next keys).map Slot.index = List.range' next keys.length := by
  simp [numberKeys, Function.comp_def, List.zipIdx_map_snd]

end DriverIndex
