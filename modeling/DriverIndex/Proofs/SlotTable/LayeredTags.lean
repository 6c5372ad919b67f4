import DriverIndex.Artifact
import DriverIndex.Proofs.Registry.Likeness

/-!
# Layered tags do not reach the output

The slot table reads a definition through its name, its group and its keys, and alike definitions have all three in common. So two sequences of registrations that differ in layered tags alone are numbered alike and written to the same files, and they are refused the same calls.
-/

namespace DriverIndex

namespace Definition

variable {former latter : Definition}

theorem Alike.keys_eq (halike : former.Alike latter) : former.keys = latter.keys := by
  by_cases hlayered : former.group.isLayered = true
  · rw [keys_of_layered hlayered, keys_of_layered (halike.group ▸ hlayered)]
  · rw [keys_of_not_layered hlayered, keys_of_not_layered (halike.group ▸ hlayered), halike.tags hlayered]

theorem Alike.width_eq (halike : former.Alike latter) : former.width = latter.width :=
  congrArg List.length halike.keys_eq

end Definition

namespace SlotTable

theorem numberFrom_eq_of_alike {formers latters : List Definition}
    (halike : List.Forall₂ Definition.Alike formers latters) (next : Nat) :
    numberFrom next formers = numberFrom next latters := by
  induction halike generalizing next with
  | nil => rfl
  | cons hhead _ ih => rw [numberFrom, numberFrom, hhead.name, hhead.group, hhead.keys_eq, ih]

theorem sum_width_eq_of_alike {formers latters : List Definition}
    (halike : List.Forall₂ Definition.Alike formers latters) :
    (formers.map Definition.width).sum = (latters.map Definition.width).sum := by
  induction halike with
  | nil => rfl
  | cons hhead _ ih => rw [List.map_cons, List.map_cons, List.sum_cons, List.sum_cons, hhead.width_eq, ih]

section

variable {calls others : List Registration}

theorem size_eq_of_alike
    (halike : List.Forall₂ Definition.Alike (History.definitions calls) (History.definitions others)) :
    (ofCalls calls).size = (ofCalls others).size := by
  rw [size_ofCalls, size_ofCalls, Registry.definitions_ofCalls, Registry.definitions_ofCalls, sum_width_eq_of_alike halike]

theorem definitions_eq_of_alike
    (halike : List.Forall₂ Definition.Alike (History.definitions calls) (History.definitions others)) :
    (ofCalls calls).definitions = (ofCalls others).definitions := by
  rw [definitions_ofCalls, definitions_ofCalls, Registry.definitions_ofCalls, Registry.definitions_ofCalls,
    numberFrom_eq_of_alike halike, size_eq_of_alike halike]

theorem collisions_alike (hcalls : List.Forall₂ Registration.Alike calls others) :
    List.Forall₂ Collision.Alike (ofCalls calls).collisions (ofCalls others).collisions := by
  rw [collisions_ofCalls, collisions_ofCalls]
  exact List.rel_filterMap (fun _ _ hcall => Registry.refusal?_alike hcalls hcall) hcalls

end

/-! ### The output -/

section

variable {former latter : SlotTable} (hdefinitions : former.definitions = latter.definitions)

include hdefinitions

theorem recordSlots_eq_of_definitions : former.recordSlots = latter.recordSlots := by
  rw [recordSlots, recordSlots, hdefinitions]

theorem declarations_eq_of_definitions (naming : Naming) (date : Date) :
    Artifact.declarations naming former date = Artifact.declarations naming latter date := by
  simp only [Artifact.declarations, Artifact.declarationPieces, Artifact.slotDeclarations, hdefinitions]

theorem rendered_eq_of_definitions (naming : Naming) (date : Date) :
    Artifact.definitions naming former date = Artifact.definitions naming latter date := by
  simp only [Artifact.definitions, Artifact.definitionPieces, recordSlots_eq_of_definitions hdefinitions]

end

/-- Two sequences of registrations that differ in the tags of layered groups alone have the same slots and records, a table of the same size and the same generated files. Their collisions agree one by one in the name and in both groups. -/
theorem layered_tags_invisible {calls others : List Registration}
    (hcalls : List.Forall₂ Registration.Alike calls others) :
    (ofCalls calls).definitions = (ofCalls others).definitions ∧
    (ofCalls calls).size = (ofCalls others).size ∧
    (ofCalls calls).recordSlots = (ofCalls others).recordSlots ∧
    (∀ naming date, Artifact.declarations naming (ofCalls calls) date = Artifact.declarations naming (ofCalls others) date ∧
      Artifact.definitions naming (ofCalls calls) date = Artifact.definitions naming (ofCalls others) date) ∧
    List.Forall₂ Collision.Alike (ofCalls calls).collisions (ofCalls others).collisions := by
  have halike := History.definitions_alike hcalls
  have hdefinitions : (ofCalls calls).definitions = (ofCalls others).definitions := definitions_eq_of_alike halike
  refine ⟨hdefinitions, size_eq_of_alike halike, recordSlots_eq_of_definitions hdefinitions, ?_, collisions_alike hcalls⟩
  intro naming date
  exact ⟨declarations_eq_of_definitions hdefinitions naming date, rendered_eq_of_definitions hdefinitions naming date⟩

/-- A layered call that is new on one side and was made already on the other, and one that is refused for its group. -/
theorem layered_tags_invisible_of_repeated :
    let calls : List Registration := [⟨⟨0⟩, "a", "x"⟩, ⟨⟨0⟩, "a", "y"⟩, ⟨⟨2⟩, "b", "z"⟩, ⟨⟨1⟩, "b", "x"⟩]
    let others : List Registration := [⟨⟨0⟩, "a", ""⟩, ⟨⟨0⟩, "a", ""⟩, ⟨⟨2⟩, "b", "z"⟩, ⟨⟨1⟩, "b", "y"⟩]
    List.Forall₂ Registration.Alike calls others ∧
    (ofCalls calls).definitions = (ofCalls others).definitions ∧ (ofCalls calls).size = 4 ∧
    (ofCalls others).collisions = [⟨"b", ⟨2⟩, ⟨1⟩, "y"⟩] ∧
    List.Forall₂ Collision.Alike (ofCalls calls).collisions (ofCalls others).collisions := by
  intro calls others
  have hcalls : List.Forall₂ Registration.Alike calls others := by
    refine .cons ⟨rfl, rfl, ?_⟩ (.cons ⟨rfl, rfl, ?_⟩ (.cons ⟨rfl, rfl, ?_⟩ (.cons ⟨rfl, rfl, ?_⟩ .nil))) <;> decide
  obtain ⟨hdefinitions, -, -, -, hcollisions⟩ := layered_tags_invisible hcalls
  exact ⟨hcalls, hdefinitions, by decide +kernel, by decide +kernel, hcollisions⟩

end SlotTable

end DriverIndex
