import DriverIndex.Proofs.SlotTable.Density
import DriverIndex.Summary

/-!
# What the plain summary counts and what it lists

The head line of the plain summary gives the number of all definitions but the closing one, and of all slots before it. The entries below it leave out every definition of the closing group. So the totals are those of the entries exactly if no other definition belongs to that group; otherwise both are too high, and the numbers that are listed have gaps. The collisions are listed and counted from one list, always alike.
-/

namespace DriverIndex

open Text (Decimal.natText)

namespace SlotTable

variable (calls : List Registration)

theorem length_definitions_ofCalls : (ofCalls calls).definitions.length = (History.names calls).length + 1 := by
  have hnames := congrArg List.length (map_numberFrom (fun name _ => name) 0 (Registry.ofCalls calls).definitions.toList)
  rw [List.length_map, List.length_map] at hnames
  rw [definitions_ofCalls, List.length_append, hnames, Registry.definitions_ofCalls, ← History.map_name_definitions,
    List.length_map, List.length_singleton]

theorem forall_numberFrom_iff (next : Nat) (definitions : List Definition) (p : Group → Prop) :
    (∀ indexed ∈ numberFrom next definitions, p indexed.group) ↔ ∀ definition ∈ definitions, p definition.group := by
  have hgroups := map_numberFrom (fun _ group => group) next definitions
  rw [← List.forall_mem_map (f := IndexedDefinition.group) (P := p), hgroups, List.forall_mem_map]

end SlotTable

namespace Summary

/-- The items of the entries that the plain summary lists, in the order in which they are printed. -/
def items (summary : Summary) : List Slot := summary.listed.flatMap IndexedDefinition.slots

variable (filesScanned : Nat) (calls : List Registration)

theorem index_items (summary : Summary) :
    summary.items.map Slot.index = summary.table.recordSlots.map RecordSlot.index :=
  (SlotTable.index_recordSlots summary.table).symm

theorem length_items (summary : Summary) : summary.items.length = summary.table.recordSlots.length := by
  rw [← List.length_map Slot.index, index_items, List.length_map]

theorem length_collisionLines (summary : Summary) :
    (summary.table.collisions.map collisionLine).length = summary.collisionCount :=
  List.length_map collisionLine

theorem length_listed_le : (⟨filesScanned, .ofCalls calls⟩ : Summary).listed.length ≤ (History.names calls).length := by
  have hdefinitions := SlotTable.length_definitions_ofCalls calls
  rw [SlotTable.definitions_ofCalls, List.length_append, List.length_singleton] at hdefinitions
  rw [listed, SlotTable.filter_definitions_ofCalls, ← Nat.add_right_cancel hdefinitions]
  exact List.length_filter_le _ _

/-- All definitions are listed exactly if none but the closing one has the closing group. -/
theorem length_listed_eq_iff :
    (⟨filesScanned, .ofCalls calls⟩ : Summary).listed.length = (History.names calls).length ↔
      ∀ definition ∈ (Registry.ofCalls calls).definitions.toList, definition.group ≠ .closing := by
  have hdefinitions := SlotTable.length_definitions_ofCalls calls
  rw [SlotTable.definitions_ofCalls, List.length_append, List.length_singleton] at hdefinitions
  rw [listed, SlotTable.filter_definitions_ofCalls, ← Nat.add_right_cancel hdefinitions,
    List.length_filter_eq_length_iff, ← SlotTable.forall_numberFrom_iff 0 _ fun group => group ≠ .closing]
  simp only [Bool.not_eq_true', ← Bool.not_eq_true, Group.isTerminal_iff, ne_eq]

theorem index_items_sublist :
    ((⟨filesScanned, .ofCalls calls⟩ : Summary).items.map Slot.index).Sublist
      (List.range (SlotTable.ofCalls calls).size) := by
  rw [index_items]
  exact SlotTable.index_recordSlots_sublist calls

/-- The entries and the items are as many as the totals say, and the items are numbered without a gap, all exactly if the closing group is left to the closing name. -/
theorem listed_tfae :
    let summary : Summary := ⟨filesScanned, .ofCalls calls⟩
    List.TFAE [
      ∀ name, name ≠ closingName → History.group? calls name ≠ some .closing,
      summary.listed.length = (History.names calls).length,
      summary.items.length = (SlotTable.ofCalls calls).size,
      summary.items.map Slot.index = List.range (SlotTable.ofCalls calls).size] := by
  intro summary
  tfae_have 1 ↔ 2 := by
    rw [length_listed_eq_iff, SlotTable.open_group_ne_closing_iff]
  tfae_have 1 ↔ 3 := by
    rw [length_items, SlotTable.length_recordSlots_eq_size_iff, SlotTable.open_group_ne_closing_iff]
  tfae_have 3 → 4 := by
    intro hlength
    refine (index_items_sublist filesScanned calls).eq_of_length ?_
    rwa [List.length_map, List.length_range]
  tfae_have 4 → 3 := by
    intro hindices
    rw [← List.length_map Slot.index, hindices, List.length_range]
  tfae_finish

/-- The plain summary gives as totals the number of names and the size of the table. What it lists is never more, and its items are numbered upwards. The totals agree with the entries and the items exactly if no name but the closing one was first called with the closing group, and then the items are numbered from zero on without a gap. Every entry and every collision is one line of its own. The collisions listed are as many as the last line says, and the exit status is zero exactly if there are none. -/
theorem plain_totals_tfae :
    let summary : Summary := ⟨filesScanned, .ofCalls calls⟩
    (summary.plain = String.join ((summary.headLine :: summary.listed.map definitionLine ++
        summary.table.collisions.map collisionLine ++ [summary.countLine]).map (· ++ "\n")) ∧
      summary.headLine = "Scanned " ++ Decimal.natText filesScanned ++ " source file(s), " ++
        Decimal.natText (History.names calls).length ++ " definition(s), " ++
        Decimal.natText (SlotTable.ofCalls calls).size ++ " slot(s)." ∧
      (∀ definition ∈ summary.listed, definitionLine definition = "- " ++ definition.name ++ " (group " ++
        definition.group.text ++ "): " ++ ", ".intercalate (definition.slots.map fun slot =>
          (if slot.key = "" then "<default>" else slot.key) ++ "=" ++ Decimal.natText slot.index)) ∧
      ∀ collision ∈ summary.table.collisions, collisionLine collision = "COLLISION: " ++ collision.name ++
        " registered as group " ++ collision.attempted.text ++ " but already group " ++ collision.existing.text) ∧
    (summary.listed.length ≤ (History.names calls).length ∧
      (summary.items.map Slot.index).Sublist (List.range (SlotTable.ofCalls calls).size)) ∧
    List.TFAE [
      ∀ name, name ≠ closingName → History.group? calls name ≠ some .closing,
      summary.listed.length = (History.names calls).length,
      summary.items.length = (SlotTable.ofCalls calls).size,
      summary.items.map Slot.index = List.range (SlotTable.ofCalls calls).size] ∧
    summary.countLine = "Collision Counter: " ++ Decimal.natText (summary.table.collisions.map collisionLine).length ∧
    summary.exitStatus = min 255 (summary.table.collisions.map collisionLine).length ∧
    (summary.exitStatus = 0 ↔ summary.table.collisions.map collisionLine = []) := by
  intro summary
  refine ⟨⟨rfl, ?_, fun _ _ => rfl, fun _ _ => rfl⟩, ⟨length_listed_le filesScanned calls, index_items_sublist filesScanned calls⟩,
    listed_tfae filesScanned calls, ?_, ?_, ?_⟩
  · rw [headLine, SlotTable.length_definitions_ofCalls, Nat.add_sub_cancel]
  · rw [length_collisionLines]
    rfl
  · rw [length_collisionLines]
    rfl
  · rw [← List.length_eq_zero_iff, length_collisionLines, exitStatus, highestStatus]
    omega

/-- A name of the closing group is counted with its slot and not listed. -/
theorem plain_totals_of_unlisted :
    (⟨1, .ofCalls [⟨⟨-1⟩, "a", ""⟩]⟩ : Summary).plainLines =
      ["Scanned 1 source file(s), 1 definition(s), 1 slot(s).", "Collision Counter: 0"] := by
  decide +kernel

end Summary

end DriverIndex
