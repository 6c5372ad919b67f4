import DriverIndex.Proofs.Registry.Closing
import DriverIndex.SlotTable
import Mathlib.Algebra.GroupWithZero.Nat
import Mathlib.Data.List.Forall2

/-!
# How slots are numbered

The slots of a table, read definition by definition, have the numbers from zero on without a gap, and the closing slot has the last of them, which is also the size of the table. Numbering starts anywhere in the induction, since the counter that reaches a definition is the sum of the widths before it.
-/

namespace DriverIndex

theorem Group.isLayered_iff {group : Group} : group.isLayered = true ↔ group.value = 0 ∨ group.value = 1 := by
  rw [isLayered, decide_eq_true_eq, layout]
  split_ifs <;> simp_all

namespace Definition

def width (definition : Definition) : Nat := definition.keys.length

theorem keys_of_layered {definition : Definition} (hlayered : definition.group.isLayered = true) :
    definition.keys = layeredKeys :=
  if_pos hlayered

theorem keys_of_not_layered {definition : Definition} (hlayered : ¬definition.group.isLayered = true) :
    definition.keys = definition.tags :=
  if_neg hlayered

theorem isClosing_of_name_ne {definition : Definition} (hname : definition.name ≠ closingName) :
    definition.isClosing = false := by
  simp [isClosing, hname]

/-- Layered definitions are three slots wide, all others as wide as they have tags. -/
theorem sum_width (definitions : List Definition) :
    (definitions.map width).sum = 3 * definitions.countP (·.group.isLayered) +
      ((definitions.filter fun definition => !definition.group.isLayered).map fun definition =>
        definition.tags.length).sum := by
  induction definitions with
  | nil => rfl
  | cons definition rest ih =>
    rw [List.map_cons, List.sum_cons, ih, width]
    by_cases hlayered : definition.group.isLayered = true
    · rw [keys_of_layered hlayered, List.countP_cons_of_pos (by exact hlayered), List.filter_cons_of_neg (by simp [hlayered])]
      simp only [layeredKeys, List.length_cons, List.length_nil]
      omega
    · rw [keys_of_not_layered hlayered, List.countP_cons_of_neg (by exact hlayered),
        List.filter_cons_of_pos (by simp [hlayered]), List.map_cons, List.sum_cons]
      omega

end Definition

theorem mem_numberKeys {next : Nat} {keys : List String} {slot : Slot} :
    slot ∈ numberKeys next keys ↔ ∃ offset : Nat, keys[offset]? = some slot.key ∧ slot.index = next + offset := by
  rw [numberKeys, List.mem_map]
  constructor
  · rintro ⟨⟨key, index⟩, hmem, rfl⟩
    obtain ⟨hle, hkey⟩ := List.mem_zipIdx_iff_le_and_getElem?_sub.1 hmem
    exact ⟨index - next, hkey, (Nat.add_sub_cancel' hle).symm⟩
  · rintro ⟨offset, hkey, hindex⟩
    refine ⟨(slot.key, slot.index), List.mem_zipIdx_iff_le_and_getElem?_sub.2 ?_, rfl⟩
    simp only [hindex, Nat.add_sub_cancel_left, hkey, Nat.le_add_right, and_self]

namespace SlotTable

/-- A definition and the same definition with its keys numbered from `next` on. -/
def Numbers (next : Nat) (definition : Definition) (indexed : IndexedDefinition) : Prop :=
  indexed = ⟨definition.name, definition.group, numberKeys next definition.keys⟩

theorem numberFrom_append (next : Nat) (former latter : List Definition) :
    numberFrom next (former ++ latter) =
      numberFrom next former ++ numberFrom (next + (former.map Definition.width).sum) latter := by
  induction former generalizing next with
  | nil => simp [numberFrom]
  | cons definition rest ih =>
    simp only [List.cons_append, numberFrom, ih, List.map_cons, List.sum_cons, Definition.width, Nat.add_assoc]

theorem map_numberFrom {α : Type} (f : String → Group → α) (next : Nat) (definitions : List Definition) :
    (numberFrom next definitions).map (fun indexed => f indexed.name indexed.group) =
      definitions.map fun definition => f definition.name definition.group := by
  induction definitions generalizing next with
  | nil => rfl
  | cons definition rest ih => rw [numberFrom, List.map_cons, ih, List.map_cons]

theorem forall₂_numberFrom (next : Nat) (definitions : List Definition) :
    List.Forall₂ (fun definition indexed => ∃ start, Numbers start definition indexed) definitions
      (numberFrom next definitions) := by
  induction definitions generalizing next with
  | nil => exact .nil
  | cons definition rest ih => exact .cons ⟨next, rfl⟩ (ih _)

/-- A definition is numbered behind the widths of those before it. -/
theorem mem_numberFrom_iff {next : Nat} {definitions : List Definition} {indexed : IndexedDefinition} :
    indexed ∈ numberFrom next definitions ↔ ∃ front definition back, definitions = front ++ definition :: back ∧
      Numbers (next + (front.map Definition.width).sum) definition indexed := by
  constructor
  · induction definitions generalizing next with
    | nil => exact fun hmem => absurd hmem List.not_mem_nil
    | cons head rest ih =>
      rw [numberFrom, List.mem_cons]
      rintro (rfl | hmem)
      · exact ⟨[], head, rest, rfl, rfl⟩
      · obtain ⟨front, definition, back, rfl, hnumbers⟩ := ih hmem
        refine ⟨head :: front, definition, back, rfl, ?_⟩
        rwa [List.map_cons, List.sum_cons, ← Nat.add_assoc]
  · rintro ⟨front, definition, back, rfl, hnumbers⟩
    rw [numberFrom_append, numberFrom, hnumbers]
    exact List.mem_append_right _ List.mem_cons_self

theorem index_numberFrom (next : Nat) (definitions : List Definition) :
    ((numberFrom next definitions).flatMap IndexedDefinition.slots).map Slot.index =
      List.range' next (definitions.map Definition.width).sum := by
  induction definitions generalizing next with
  | nil => rfl
  | cons definition rest ih =>
    rw [numberFrom, List.flatMap_cons, List.map_append, index_numberKeys, ih, List.map_cons, List.sum_cons]
    exact List.range'_append_1

/-- Without a closing definition the size stays as it was; one at the end has all other slots before it. -/
theorem sizeFrom_concat {definitions : List Definition} {last : Definition} (next size : Nat)
    (hopen : ∀ definition ∈ definitions, definition.isClosing = false) (hlast : last.isClosing = true) :
    sizeFrom next size (definitions ++ [last]) = next + (definitions.map Definition.width).sum := by
  induction definitions generalizing next size with
  | nil => simp [sizeFrom, hlast]
  | cons definition rest ih =>
    rw [List.cons_append, sizeFrom, hopen definition List.mem_cons_self,
      ih _ _ fun former hmem => hopen former (List.mem_cons_of_mem _ hmem), List.map_cons, List.sum_cons,
      Definition.width, Nat.add_assoc]

variable (calls : List Registration)

theorem size_ofCalls :
    (ofCalls calls).size = ((Registry.ofCalls calls).definitions.toList.map Definition.width).sum := by
  rw [ofCalls, ofClosed, Registry.definitions_close, sizeFrom_concat, Nat.zero_add]
  · intro definition hmem
    exact Definition.isClosing_of_name_ne (Registry.name_ne_closing hmem)
  · rfl

/-- The closing definition comes last and has the one slot after all others. -/
theorem definitions_ofCalls :
    (ofCalls calls).definitions = numberFrom 0 (Registry.ofCalls calls).definitions.toList ++
      [⟨closingName, .closing, [⟨"", (ofCalls calls).size⟩]⟩] := by
  rw [size_ofCalls, ofCalls, ofClosed, Registry.definitions_close, numberFrom_append, Nat.zero_add]
  rfl

theorem closingSlot?_ofCalls : (ofCalls calls).closingSlot? = some (ofCalls calls).size := by
  have hopen : ((numberFrom 0 (Registry.ofCalls calls).definitions.toList).find? fun definition =>
      definition.name = closingName) = none := by
    rw [List.find?_eq_none]
    intro indexed hmem
    have hname : indexed.name ∈ (Registry.ofCalls calls).definitions.toList.map Definition.name := by
      rw [← map_numberFrom (fun name _ => name) 0]
      exact List.mem_map_of_mem hmem
    obtain ⟨definition, hdefinition, hsame⟩ := List.mem_map.1 hname
    simpa [← hsame] using Registry.name_ne_closing hdefinition
  rw [closingSlot?, get?, definitions_ofCalls, List.find?_append, hopen]
  rfl

theorem index_slots_ofCalls : (ofCalls calls).slots.map Slot.index = List.range ((ofCalls calls).size + 1) := by
  rw [slots, definitions_ofCalls, List.flatMap_append, List.map_append, index_numberFrom, ← size_ofCalls,
    List.range_succ, List.range_eq_range']
  rfl

/-- The slots of a table are numbered from zero on without a gap. Layered definitions have their three fixed keys on consecutive numbers and all others have their tags; the closing definition is the last, and the number of its slot is the size of the table: three for every layered definition and one for every tag of another, the closing tag not counted. -/
theorem ofCalls_numbers_slots :
    (ofCalls calls).slots.map Slot.index = List.range ((ofCalls calls).size + 1) ∧
    List.Forall₂ (fun definition indexed =>
      indexed.name = definition.name ∧ indexed.group = definition.group ∧
      (definition.group.value = 0 ∨ definition.group.value = 1 → ∃ next,
        indexed.slots = [⟨"super", next⟩, ⟨"directory", next + 1⟩, ⟨"file", next + 2⟩]) ∧
      (¬(definition.group.value = 0 ∨ definition.group.value = 1) → indexed.slots.map Slot.key = definition.tags))
      (Registry.ofCalls calls).close.definitions (ofCalls calls).definitions ∧
    (ofCalls calls).definitions.getLast? = some ⟨closingName, .closing, [⟨"", (ofCalls calls).size⟩]⟩ ∧
    (ofCalls calls).closingSlot? = some (ofCalls calls).size ∧
    (ofCalls calls).size =
      3 * (Registry.ofCalls calls).close.definitions.countP
        (fun definition => definition.group.value = 0 ∨ definition.group.value = 1) +
      (((Registry.ofCalls calls).close.definitions.filter fun definition =>
        ¬(definition.group.value = 0 ∨ definition.group.value = 1) ∧ definition.name ≠ closingName).map
          fun definition => definition.tags.length).sum := by
  refine ⟨index_slots_ofCalls calls, ?_, ?_, closingSlot?_ofCalls calls, ?_⟩
  · refine (forall₂_numberFrom 0 _).imp fun definition indexed hnumbers => ?_
    obtain ⟨start, rfl⟩ := hnumbers
    refine ⟨rfl, rfl, fun hlayered => ⟨start, ?_⟩, fun hlayered => ?_⟩
    · rw [Definition.keys_of_layered (Group.isLayered_iff.2 hlayered)]
      rfl
    · rw [key_numberKeys, Definition.keys_of_not_layered (mt Group.isLayered_iff.1 hlayered)]
  · rw [definitions_ofCalls, List.getLast?_concat]
  · rw [size_ofCalls, Definition.sum_width, Registry.definitions_close, List.countP_append, List.filter_append,
      List.map_append, List.sum_append]
    have hopen : ∀ definition ∈ (Registry.ofCalls calls).definitions.toList,
        (!definition.group.isLayered) = decide (¬(definition.group.value = 0 ∨ definition.group.value = 1) ∧
          definition.name ≠ closingName) := by
      intro definition hmem
      have hname := Registry.name_ne_closing hmem
      simp [← Group.isLayered_iff, hname]
    rw [List.filter_congr hopen]
    simp only [← Group.isLayered_iff, Bool.decide_eq_true]
    rfl

end SlotTable

end DriverIndex
