import DriverIndex.Proofs.Registry.History

/-!
# Closing a registry

No sequence of registrations can define the closing name, so closing a registry always appends the closing definition and touches nothing else.
-/

namespace DriverIndex

/-- The definition that closes every index. -/
def Definition.closing : Definition := ⟨closingName, .closing, [""]⟩

namespace Registry

theorem name_ne_closing {calls : List Registration} {definition : Definition}
    (hmem : definition ∈ (ofCalls calls).definitions.toList) : definition.name ≠ closingName :=
  ((wellFormed_ofCalls calls).definitions definition hmem).name_ne

theorem definitions_close (calls : List Registration) :
    (ofCalls calls).close.definitions = (ofCalls calls).definitions.toList ++ [.closing] := by
  rw [close, (wellFormed_ofCalls calls).insert_closing]
  simp [define, Definition.closing]

theorem collisions_close (calls : List Registration) :
    (ofCalls calls).close.collisions = (ofCalls calls).collisions.toList := by
  rw [close, (wellFormed_ofCalls calls).insert_closing]
  rfl

/-- In the registry of any sequence of registrations the position map gives exactly the positions of the names, so that looking up a name never meets a position without a definition; names are distinct, none is the closing one, and each has at least one tag and no tag twice. So closing it always defines the closing name, as the last definition with the one tag that is empty, and leaves the other definitions and the collisions as they are. -/
theorem ofCalls_keeps_invariant (calls : List Registration) :
    let registry := ofCalls calls
    ((∀ name position, registry.positions[name]? = some position ↔
        ∃ hposition : position < registry.definitions.size, registry.definitions[position].name = name) ∧
      (∀ name position, registry.positions[name]? = some position →
        ∃ hposition : position < registry.definitions.size,
          registry.locate? name = some (position, registry.definitions[position]) ∧
          registry.get? name = some registry.definitions[position]) ∧
      (registry.definitions.toList.map Definition.name).Nodup ∧
      ∀ definition ∈ registry.definitions.toList,
        definition.tags ≠ [] ∧ definition.tags.Nodup ∧ definition.name ≠ "COUNT") ∧
    (registry.insert ⟨⟨-1⟩, "COUNT", ""⟩).1 = .inserted ∧
    registry.close.definitions = registry.definitions.toList ++ [⟨"COUNT", ⟨-1⟩, [""]⟩] ∧
    registry.close.collisions = registry.collisions.toList := by
  intro registry
  have hwell : registry.WellFormed := wellFormed_ofCalls calls
  refine ⟨⟨?_, ?_, hwell.located.nodup_names, ?_⟩, ?_, definitions_close calls, collisions_close calls⟩
  · intro name position
    exact hwell.located.positions_eq_some_iff
  · intro name position hmap
    obtain ⟨hposition, hlocate⟩ := hwell.located.locate?_of_position hmap
    exact ⟨hposition, hlocate, by rw [get?, hlocate, Option.map_some]⟩
  · intro definition hmem
    have hdefinition := hwell.definitions definition hmem
    exact ⟨hdefinition.tags_ne_nil, hdefinition.nodup_tags, hdefinition.name_ne⟩
  · exact congrArg Prod.fst hwell.insert_closing

end Registry

end DriverIndex
