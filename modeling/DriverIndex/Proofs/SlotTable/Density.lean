import DriverIndex.Artifact
import DriverIndex.Proofs.SlotTable.Numbering
import Mathlib.Algebra.Order.BigOperators.Group.List
import Mathlib.Algebra.Order.Ring.Nat
import Mathlib.Data.List.Flatten
import Mathlib.Data.List.Perm.Subperm
import Mathlib.Tactic.TFAE

/-!
# Which slots have a record

The records keep the numbers of their slots, so their numbers increase and stay below the size of the table. Whether they reach every number below it is a question of groups: a definition of the closing group takes slots like any other but has no record. The table is therefore dense exactly if no name but the closing one is defined with the closing group, and this file shows that this is the only thing that can go wrong.
-/

namespace DriverIndex

theorem Registry.width_pos {calls : List Registration} {definition : Definition}
    (hmem : definition ∈ (ofCalls calls).definitions.toList) : 0 < definition.width := by
  rw [Definition.width]
  by_cases hlayered : definition.group.isLayered = true
  · rw [Definition.keys_of_layered hlayered]
    decide
  · rw [Definition.keys_of_not_layered hlayered]
    exact List.length_pos_iff.2 ((wellFormed_ofCalls calls).definitions definition hmem).tags_ne_nil

/-- A sum of positive numbers stays the same only if nothing is left out. -/
theorem sum_map_filter_eq_iff {α : Type} {xs : List α} {f : α → Nat} {p : α → Bool} (hpos : ∀ x ∈ xs, 0 < f x) :
    ((xs.filter p).map f).sum = (xs.map f).sum ↔ ∀ x ∈ xs, p x = true := by
  induction xs with
  | nil => simp
  | cons x xs ih =>
    have hle : ((xs.filter p).map f).sum ≤ (xs.map f).sum := (List.filter_sublist.map f).sum_le_sum fun _ _ => Nat.zero_le _
    have hx := hpos x List.mem_cons_self
    specialize ih fun y hy => hpos y (List.mem_cons_of_mem x hy)
    by_cases hp : p x = true
    · rw [List.filter_cons_of_pos hp, List.map_cons, List.sum_cons, List.map_cons, List.sum_cons, Nat.add_left_cancel_iff,
        ih, List.forall_mem_cons]
      exact ⟨fun h => ⟨hp, h⟩, fun h => h.2⟩
    · rw [List.filter_cons_of_neg hp, List.map_cons, List.sum_cons, List.forall_mem_cons]
      constructor
      · intro heq
        omega
      · intro hall
        exact absurd hall.1 hp

namespace SlotTable

variable (calls : List Registration)

theorem filter_definitions_ofCalls :
    ((ofCalls calls).definitions.filter fun indexed => !indexed.group.isTerminal) =
      (numberFrom 0 (Registry.ofCalls calls).definitions.toList).filter fun indexed => !indexed.group.isTerminal := by
  rw [definitions_ofCalls, List.filter_append]
  exact List.append_nil _

theorem index_recordSlots (table : SlotTable) :
    table.recordSlots.map RecordSlot.index =
      ((table.definitions.filter fun indexed => !indexed.group.isTerminal).flatMap IndexedDefinition.slots).map
        Slot.index := by
  rw [recordSlots, List.map_flatMap, List.map_flatMap]
  simp only [List.map_map, Function.comp_def]

/-- The numbers of the records increase and stay below the size of the table. -/
theorem index_recordSlots_sublist :
    ((ofCalls calls).recordSlots.map RecordSlot.index).Sublist (List.range (ofCalls calls).size) := by
  rw [index_recordSlots, filter_definitions_ofCalls, size_ofCalls, List.range_eq_range', ← index_numberFrom]
  exact ((List.filter_sublist).flatMap _).map _

theorem length_filter_numberFrom (next : Nat) (definitions : List Definition) :
    (((numberFrom next definitions).filter fun indexed => !indexed.group.isTerminal).flatMap
      IndexedDefinition.slots).length =
    ((definitions.filter fun definition => !definition.group.isTerminal).map Definition.width).sum := by
  induction definitions generalizing next with
  | nil => rfl
  | cons definition rest ih =>
    rw [numberFrom]
    by_cases hterminal : definition.group.isTerminal = true
    · rw [List.filter_cons_of_neg (by simp [hterminal]), List.filter_cons_of_neg (by simp [hterminal]), ih]
    · rw [List.filter_cons_of_pos (by simp [hterminal]), List.filter_cons_of_pos (by simp [hterminal]), List.flatMap_cons,
        List.length_append, ih, length_numberKeys, List.map_cons, List.sum_cons, Definition.width]

theorem length_recordSlots_eq_size_iff :
    (ofCalls calls).recordSlots.length = (ofCalls calls).size ↔
      ∀ definition ∈ (Registry.ofCalls calls).definitions.toList, definition.group ≠ .closing := by
  rw [← List.length_map RecordSlot.index, index_recordSlots, List.length_map, filter_definitions_ofCalls,
    length_filter_numberFrom, size_ofCalls, sum_map_filter_eq_iff fun _ hmem => Registry.width_pos hmem]
  simp only [Bool.not_eq_true', ← Bool.not_eq_true, Group.isTerminal_iff, ne_eq]

theorem open_group_ne_closing_iff :
    (∀ definition ∈ (Registry.ofCalls calls).definitions.toList, definition.group ≠ .closing) ↔
      ∀ name, name ≠ closingName → History.group? calls name ≠ some .closing := by
  constructor
  · intro hopen name hname hgroup
    have hdefinition : History.definition? calls name = some ⟨name, .closing, History.tags calls name .closing⟩ :=
      History.definition?_eq_some_iff.2 ⟨hname, rfl, hgroup, rfl⟩
    exact hopen ⟨name, .closing, _⟩ (Registry.mem_definitions_ofCalls.2 hdefinition) rfl
  · intro hfirst definition hmem hgroup
    obtain ⟨hname, -, hcalled, -⟩ := History.definition?_eq_some_iff.1 (Registry.mem_definitions_ofCalls.1 hmem)
    exact hfirst definition.name hname (hgroup ▸ hcalled)

theorem closing_alone_iff :
    (∀ indexed ∈ (ofCalls calls).definitions, indexed.group = .closing → indexed.name = closingName) ↔
      ∀ definition ∈ (Registry.ofCalls calls).definitions.toList, definition.group ≠ .closing := by
  have hheads := map_numberFrom Prod.mk 0 (Registry.ofCalls calls).definitions.toList
  have hopen := congrArg (fun heads => ∀ head ∈ heads, head.2 = Group.closing → head.1 = closingName) hheads
  simp only [List.forall_mem_map] at hopen
  rw [definitions_ofCalls, List.forall_mem_append, hopen]
  constructor
  · intro halone definition hmem hgroup
    exact Registry.name_ne_closing hmem (halone.1 definition hmem hgroup)
  · intro hnone
    refine ⟨fun definition hmem hgroup => absurd hgroup (hnone definition hmem), fun indexed hmem _ => ?_⟩
    rw [List.mem_singleton.1 hmem]

/-- The records are dense exactly if no name but the closing one was first called with the closing group: then every number below the size of the table has its record and its entry, once and in order, and otherwise some number has none. -/
theorem recordSlots_dense_tfae (naming : Naming) :
    ((ofCalls calls).recordSlots.map RecordSlot.index).Sublist (List.range (ofCalls calls).size) ∧
    List.TFAE [
      ∀ name, name ≠ closingName → History.group? calls name ≠ some .closing,
      ∀ indexed ∈ (ofCalls calls).definitions, indexed.group = .closing → indexed.name = closingName,
      (ofCalls calls).recordSlots.map RecordSlot.index = List.range (ofCalls calls).size,
      ((ofCalls calls).recordSlots.map (Artifact.tableEntry naming)).length = (ofCalls calls).size,
      ∀ index < (ofCalls calls).size, ∃ slot ∈ (ofCalls calls).recordSlots, slot.index = index] := by
  have hsublist := index_recordSlots_sublist calls
  refine ⟨hsublist, ?_⟩
  tfae_have 1 ↔ 2 := ((closing_alone_iff calls).trans (open_group_ne_closing_iff calls)).symm
  tfae_have 1 ↔ 4 := by
    rw [List.length_map, length_recordSlots_eq_size_iff, open_group_ne_closing_iff]
  tfae_have 4 → 3 := by
    intro hlength
    refine hsublist.eq_of_length ?_
    rwa [List.length_map, List.length_range, ← List.length_map (Artifact.tableEntry naming)]
  tfae_have 3 → 5 := by
    intro hdense index hindex
    rw [← List.mem_range, ← hdense, List.mem_map] at hindex
    exact hindex
  tfae_have 5 → 4 := by
    intro hcovered
    have hsubset : List.range (ofCalls calls).size ⊆ (ofCalls calls).recordSlots.map RecordSlot.index := by
      intro index hindex
      exact List.mem_map.2 (hcovered index (List.mem_range.1 hindex))
    have hle := (List.nodup_range.subperm hsubset).length_le
    rw [List.length_range, List.length_map] at hle
    have hge := hsublist.length_le
    rw [List.length_range, List.length_map] at hge
    rw [List.length_map]
    omega
  tfae_finish

/-- One name of the closing group takes a slot below the size of the table and leaves it without a record. -/
theorem recordSlots_not_dense :
    (ofCalls [⟨⟨-1⟩, "a", ""⟩]).size = 1 ∧ (ofCalls [⟨⟨-1⟩, "a", ""⟩]).recordSlots = [] := by
  decide +kernel

end SlotTable

end DriverIndex
