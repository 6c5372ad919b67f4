import DriverIndex.Proofs.Registry.Step
import Mathlib.Data.List.Nodup

/-!
# What every registry keeps

The position map and the definitions are inverse to each other, so a position that the map gives is always one of a definition, and no two definitions have the same name. Each definition has a name that can be registered and at least one tag, and no tag twice. A registration keeps all of this in each of the ways in which it can end. The closing name is therefore always new when a registry is closed, however often it was registered.
-/

namespace DriverIndex

/-- A definition that registrations can make. -/
structure Definition.WellFormed (definition : Definition) : Prop where
  name_ne : definition.name ≠ closingName
  tags_ne_nil : definition.tags ≠ []
  nodup_tags : definition.tags.Nodup

theorem Definition.WellFormed.absorb {definition : Definition} (hwell : definition.WellFormed) (call : Registration) :
    (definition.absorb call).WellFormed := by
  rw [Definition.absorb]
  split_ifs with haccepted
  · obtain ⟨-, -, htag⟩ := haccepted
    refine ⟨hwell.name_ne, List.append_ne_nil_of_left_ne_nil hwell.tags_ne_nil _, ?_⟩
    rw [← List.concat_eq_append]
    exact hwell.nodup_tags.concat htag
  · exact hwell

theorem Registration.wellFormed_definition {call : Registration} (hfree : call.name ≠ closingName) :
    call.definition.WellFormed :=
  ⟨hfree, List.cons_ne_nil _ _, List.nodup_singleton _⟩

namespace Registry

variable {registry : Registry}

/-! ### Positions -/

theorem Located.positions_eq_some_iff (hlocated : registry.Located) {name : String} {position : Nat} :
    registry.positions[name]? = some position ↔
      ∃ hposition : position < registry.definitions.size, registry.definitions[position].name = name := by
  rw [hlocated, Option.map_eq_some_iff]
  constructor
  · rintro ⟨definition, hdefinition, hname⟩
    obtain ⟨hposition, rfl⟩ := Array.getElem?_eq_some_iff.1 hdefinition
    exact ⟨hposition, hname⟩
  · rintro ⟨hposition, hname⟩
    exact ⟨_, Array.getElem?_eq_getElem hposition, hname⟩

/-- A name with a position is found there. -/
theorem Located.locate?_of_position (hlocated : registry.Located) {name : String} {position : Nat}
    (hmap : registry.positions[name]? = some position) :
    ∃ hposition : position < registry.definitions.size,
      registry.locate? name = some (position, registry.definitions[position]) := by
  obtain ⟨hposition, -⟩ := hlocated.positions_eq_some_iff.1 hmap
  exact ⟨hposition, by simp [locate?, hmap, Array.getElem?_eq_getElem hposition]⟩

theorem Located.nodup_names (hlocated : registry.Located) : (registry.definitions.toList.map Definition.name).Nodup := by
  rw [List.nodup_iff_pairwise_ne, List.pairwise_map, List.pairwise_iff_getElem]
  intro first later hfirst hlater hlt hname
  have hformer : registry.definitions[first]? = some registry.definitions.toList[first] := by
    rw [← Array.getElem?_toList, List.getElem?_eq_getElem hfirst]
  have hlatter : registry.definitions[later]? = some registry.definitions.toList[later] := by
    rw [← Array.getElem?_toList, List.getElem?_eq_getElem hlater]
  exact Nat.ne_of_lt hlt (hlocated.position_unique hformer hlatter hname)

/-! ### What a registration keeps -/

/-- The invariant of a registry that takes registrations. -/
structure WellFormed (registry : Registry) : Prop where
  located : registry.Located
  definitions : ∀ definition ∈ registry.definitions.toList, definition.WellFormed

theorem wellFormed_empty : empty.WellFormed := ⟨located_empty, by simp [empty]⟩

theorem WellFormed.register (hwell : registry.WellFormed) (call : Registration) :
    (registry.register call).2.WellFormed := by
  refine ⟨hwell.located.register call, fun definition hmem => ?_⟩
  rw [hwell.located.definitions_register (fun former hformer => (hwell.definitions former hformer).name_ne) call,
    List.mem_append, List.mem_map] at hmem
  rcases hmem with ⟨former, hformer, rfl⟩ | hnew
  · exact (hwell.definitions former hformer).absorb call
  · split_ifs at hnew with hknown
    · cases hnew
    · rw [List.mem_singleton.1 hnew]
      exact Registration.wellFormed_definition fun hclosing => hknown (.inl hclosing)

theorem WellFormed.registerAll (hwell : registry.WellFormed) (calls : List Registration) :
    (registry.registerAll calls).WellFormed := by
  induction calls generalizing registry with
  | nil => exact hwell
  | cons call calls ih => exact ih (hwell.register call)

theorem wellFormed_ofCalls (calls : List Registration) : (ofCalls calls).WellFormed := wellFormed_empty.registerAll calls

/-! ### What closing finds -/

/-- The closing name is new to every registry. -/
theorem WellFormed.insert_closing (hwell : registry.WellFormed) :
    registry.insert ⟨.closing, closingName, ""⟩ = (.inserted, registry.define ⟨.closing, closingName, ""⟩) := by
  have hnew : registry.locate? closingName = none :=
    hwell.located.locate?_eq_none_iff.2 fun definition hmem => (hwell.definitions definition hmem).name_ne
  rw [insert, hnew]

end Registry

end DriverIndex
