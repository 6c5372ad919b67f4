import DriverIndex.Proofs.SlotTable.Numbering
import Mathlib.Data.List.Flatten

/-!
# Slots and their definitions

A slot is known by the name of its definition and its key, and in the table of a sequence of registrations each such pair stands once: names are defined once, and no definition has a key twice. The same holds of the numbers. The slots that have records are those outside the closing group, in the same order.
-/

namespace DriverIndex

namespace Registry

variable (calls : List Registration)

theorem nodup_names_close : ((ofCalls calls).close.definitions.map Definition.name).Nodup := by
  rw [definitions_close, List.map_append, List.map_singleton, List.nodup_append]
  refine ⟨(located_ofCalls calls).nodup_names, List.nodup_singleton _, fun name hname other hother => ?_⟩
  obtain ⟨definition, hmem, rfl⟩ := List.mem_map.1 hname
  rw [List.mem_singleton.1 hother]
  exact name_ne_closing hmem

theorem nodup_keys_close {definition : Definition} (hmem : definition ∈ (ofCalls calls).close.definitions) :
    definition.keys.Nodup := by
  by_cases hlayered : definition.group.isLayered = true
  · rw [Definition.keys_of_layered hlayered]
    decide
  · rw [Definition.keys_of_not_layered hlayered]
    rw [definitions_close, List.mem_append] at hmem
    rcases hmem with hopen | hlast
    · exact ((wellFormed_ofCalls calls).definitions definition hopen).nodup_tags
    · rw [List.mem_singleton.1 hlast]
      exact List.nodup_singleton _

end Registry

namespace SlotTable

/-- Every slot with the definition that it belongs to. -/
def placed (table : SlotTable) : List (IndexedDefinition × Slot) :=
  table.definitions.flatMap fun definition => definition.slots.map fun slot => (definition, slot)

/-- The name and the key that a slot is known by. -/
def label (place : IndexedDefinition × Slot) : String × String := (place.1.name, place.2.key)

theorem mem_placed {table : SlotTable} {place : IndexedDefinition × Slot} :
    place ∈ table.placed ↔ place.1 ∈ table.definitions ∧ place.2 ∈ place.1.slots := by
  rw [placed, List.mem_flatMap]
  constructor
  · rintro ⟨indexed, hindexed, hslot⟩
    obtain ⟨slot, hmem, rfl⟩ := List.mem_map.1 hslot
    exact ⟨hindexed, hmem⟩
  · rintro ⟨hindexed, hslot⟩
    exact ⟨place.1, hindexed, List.mem_map_of_mem hslot⟩

theorem map_snd_placed (table : SlotTable) : table.placed.map Prod.snd = table.slots := by
  rw [placed, List.map_flatMap, slots]
  simp only [List.map_map, Function.comp_def, List.map_id']

theorem recordSlots_eq_map_placed (table : SlotTable) :
    table.recordSlots = (table.placed.filter fun place => !place.1.group.isTerminal).map fun place =>
      ⟨place.2.index, place.1.name, place.2.key⟩ := by
  rw [recordSlots, placed]
  induction table.definitions with
  | nil => rfl
  | cons definition rest ih =>
    rw [List.flatMap_cons, List.filter_append, List.map_append, ← ih, List.filter_map, List.map_map]
    by_cases hterminal : definition.group.isTerminal = true
    · rw [List.filter_cons_of_neg (by simp [hterminal])]
      simp [Function.comp_def, hterminal]
    · rw [List.filter_cons_of_pos (by simp [hterminal]), List.flatMap_cons]
      simp [Function.comp_def, hterminal]

theorem label_numberFrom (next : Nat) (definitions : List Definition) :
    ((numberFrom next definitions).flatMap fun indexed => indexed.slots.map fun slot => (indexed.name, slot.key)) =
      definitions.flatMap fun definition => definition.keys.map fun key => (definition.name, key) := by
  induction definitions generalizing next with
  | nil => rfl
  | cons definition rest ih =>
    rw [numberFrom, List.flatMap_cons, ih, List.flatMap_cons]
    conv_rhs => rw [← key_numberKeys next definition.keys, List.map_map]
    rfl

variable (calls : List Registration)

theorem nodup_label_placed : ((ofCalls calls).placed.map label).Nodup := by
  have hlabels : (ofCalls calls).placed.map label =
      (Registry.ofCalls calls).close.definitions.flatMap fun definition =>
        definition.keys.map fun key => (definition.name, key) := by
    rw [placed, List.map_flatMap, ← label_numberFrom 0]
    simp only [List.map_map, Function.comp_def]
    rfl
  rw [hlabels, List.nodup_flatMap]
  constructor
  · intro definition hmem
    exact (Registry.nodup_keys_close calls hmem).map fun _ _ heq => (Prod.mk.inj heq).2
  · refine (List.pairwise_map.1 (Registry.nodup_names_close calls)).imp fun {former latter} hnames => ?_
    intro place hformer hlatter
    obtain ⟨key, -, rfl⟩ := List.mem_map.1 hformer
    obtain ⟨other, -, heq⟩ := List.mem_map.1 hlatter
    exact hnames (Prod.mk.inj heq).1.symm

theorem nodup_label_recordSlots : ((ofCalls calls).recordSlots.map fun slot => (slot.name, slot.key)).Nodup := by
  rw [recordSlots_eq_map_placed, List.map_map]
  exact (nodup_label_placed calls).sublist (List.filter_sublist.map label)

theorem nodup_index_placed : ((ofCalls calls).placed.map fun place => place.2.index).Nodup := by
  have hindices : (ofCalls calls).placed.map (fun place => place.2.index) = (ofCalls calls).slots.map Slot.index := by
    rw [← map_snd_placed, List.map_map]
    rfl
  rw [hindices, index_slots_ofCalls]
  exact List.nodup_range

end SlotTable

end DriverIndex
