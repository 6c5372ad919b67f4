import DriverIndex.Text.Decimal

/-!
# Groups

Every driver definition belongs to a group, a 64-bit number. The number decides how many slots the definition takes.
-/

namespace DriverIndex

open Text (Decimal.intText Decimal.toInt?)

structure Group where
  value : Int64
deriving DecidableEq

/-- How a group is laid out in the slot table. -/
inductive Layout where
  /-- Three slots, whatever tags were registered. -/
  | layered
  /-- One slot for every tag. -/
  | ordinary
  /-- One slot for every tag, but no record behind it. -/
  | terminal
deriving DecidableEq

namespace Group

/-- The group of the definition that closes every index. -/
def closing : Group := ⟨-1⟩

def layout (group : Group) : Layout :=
  if group.value = 0 ∨ group.value = 1 then .layered else if group.value = -1 then .terminal else .ordinary

def isLayered (group : Group) : Bool := group.layout = .layered

def isTerminal (group : Group) : Bool := group.layout = .terminal

def text (group : Group) : String := Decimal.intText group.value.toInt

/-- Reads a decimal number that fits into 64 bits. -/
def ofText? (digits : List Char) : Option Group :=
  match Decimal.toInt? digits with
  | some value => if Int64.minValue.toInt ≤ value ∧ value ≤ Int64.maxValue.toInt then some ⟨Int64.ofInt value⟩ else none
  | none => none

@[simp] theorem isTerminal_closing : closing.isTerminal = true := rfl

theorem isTerminal_iff {group : Group} : group.isTerminal = true ↔ group = closing := by
  obtain ⟨value⟩ := group
  simp only [isTerminal, layout, closing, decide_eq_true_eq, Group.mk.injEq]
  by_cases hterminal : value = -1
  · subst hterminal
    decide
  · by_cases hlayered : value = 0 ∨ value = 1 <;> simp [hterminal, hlayered]

end Group

end DriverIndex
