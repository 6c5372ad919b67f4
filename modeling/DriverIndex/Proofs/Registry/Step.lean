import DriverIndex.Registry
import Mathlib.Data.List.Basic

/-!
# One registration

What a registration does to a registry, said once for all later proofs. A registry finds a definition through its position map, so the first fact is that the map and the definitions stay inverse to each other; the second is the list of ways in which a registration can end, each with the condition that leads to it. From these follows the one description of the new definitions that the rest of the theory uses: every old definition absorbs the registration, and a new name is put at the end.
-/

namespace DriverIndex

namespace Registry

/-- The position map and the definitions are inverse to each other. -/
def Located (registry : Registry) : Prop :=
  ∀ name position, registry.positions[name]? = some position ↔
    registry.definitions[position]?.map Definition.name = some name

theorem mem_definitions_iff {registry : Registry} {definition : Definition} :
    definition ∈ registry.definitions.toList ↔ ∃ position : Nat, registry.definitions[position]? = some definition := by
  rw [Array.mem_toList_iff, Array.mem_iff_getElem?]

theorem located_empty : empty.Located := by
  intro name position
  simp [empty]

theorem Located.position_unique {registry : Registry} (hlocated : registry.Located) {first later : Nat}
    {former latter : Definition} (hformer : registry.definitions[first]? = some former)
    (hlatter : registry.definitions[later]? = some latter) (hname : former.name = latter.name) : first = later := by
  have hfirst : registry.positions[former.name]? = some first := (hlocated _ _).2 (by rw [hformer]; rfl)
  have hlater : registry.positions[former.name]? = some later := (hlocated _ _).2 (by rw [hlatter, hname]; rfl)
  rw [hfirst] at hlater
  exact Option.some.inj hlater

theorem Located.definition_unique {registry : Registry} (hlocated : registry.Located) {former latter : Definition}
    (hformer : former ∈ registry.definitions.toList) (hlatter : latter ∈ registry.definitions.toList)
    (hname : former.name = latter.name) : former = latter := by
  obtain ⟨first, hfirst⟩ := mem_definitions_iff.1 hformer
  obtain ⟨later, hlater⟩ := mem_definitions_iff.1 hlatter
  rw [hlocated.position_unique hfirst hlater hname, hlater] at hfirst
  exact (Option.some.inj hfirst).symm

theorem Located.locate?_eq_none_iff {registry : Registry} (hlocated : registry.Located) {name : String} :
    registry.locate? name = none ↔ ∀ definition ∈ registry.definitions.toList, definition.name ≠ name := by
  constructor
  · intro hnone definition hmem hname
    obtain ⟨position, hposition⟩ := mem_definitions_iff.1 hmem
    have hmap : registry.positions[name]? = some position := (hlocated _ _).2 (by rw [hposition, ← hname]; rfl)
    simp [locate?, hmap, hposition] at hnone
  · intro hall
    cases hmap : registry.positions[name]? with
    | none => simp [locate?, hmap]
    | some position =>
      obtain ⟨definition, hdefinition, hname⟩ := Option.map_eq_some_iff.1 ((hlocated _ _).1 hmap)
      exact absurd hname (hall definition (mem_definitions_iff.2 ⟨position, hdefinition⟩))

theorem Located.locate?_eq_some {registry : Registry} (hlocated : registry.Located) {name : String} {position : Nat}
    {definition : Definition} (hlocate : registry.locate? name = some (position, definition)) :
    registry.definitions[position]? = some definition ∧ definition.name = name := by
  simp only [locate?, Option.bind_eq_bind, Option.bind_eq_some_iff, Option.pure_def, Option.some.injEq,
    Prod.mk.injEq] at hlocate
  obtain ⟨_, hmap, _, hdefinition, rfl, rfl⟩ := hlocate
  have hname := (hlocated _ _).1 hmap
  rw [hdefinition] at hname
  exact ⟨hdefinition, Option.some.inj hname⟩

/-! ### The ways a registration ends -/

inductive Registers (registry : Registry) (call : Registration) : Outcome × Registry → Prop where
  | inserted (hfree : call.name ≠ closingName)
      (hnew : ∀ definition ∈ registry.definitions.toList, definition.name ≠ call.name) :
      Registers registry call (.inserted, registry.define call)
  | extended {position : Nat} {definition : Definition} (hfree : call.name ≠ closingName)
      (hposition : registry.definitions[position]? = some definition) (hname : definition.name = call.name)
      (hgroup : definition.group = call.group) (htag : call.tag ∉ definition.tags) :
      Registers registry call (.extended, registry.extend position call.tag)
  | duplicate {position : Nat} {definition : Definition} (hfree : call.name ≠ closingName)
      (hposition : registry.definitions[position]? = some definition) (hname : definition.name = call.name)
      (hgroup : definition.group = call.group) (htag : call.tag ∈ definition.tags) :
      Registers registry call (.duplicate, registry)
  | disagreed {position : Nat} {definition : Definition} (hfree : call.name ≠ closingName)
      (hposition : registry.definitions[position]? = some definition) (hname : definition.name = call.name)
      (hgroup : definition.group ≠ call.group) :
      Registers registry call (registry.collide definition.group call)
  | reserved (hclosing : call.name = closingName) :
      Registers registry call (registry.collide .closing call)

theorem Located.registers {registry : Registry} (hlocated : registry.Located) (call : Registration) :
    registry.Registers call (registry.register call) := by
  rw [register]
  by_cases hclosing : call.name = closingName
  · rw [if_pos hclosing]
    exact .reserved hclosing
  · rw [if_neg hclosing, insert]
    cases hlocate : registry.locate? call.name with
    | none => exact .inserted hclosing (hlocated.locate?_eq_none_iff.1 hlocate)
    | some found =>
      obtain ⟨position, definition⟩ := found
      obtain ⟨hposition, hname⟩ := hlocated.locate?_eq_some hlocate
      dsimp only
      by_cases hgroup : definition.group = call.group
      · rw [if_neg (not_not_intro hgroup)]
        by_cases htag : call.tag ∈ definition.tags
        · rw [if_pos htag]
          exact .duplicate hclosing hposition hname hgroup htag
        · rw [if_neg htag]
          exact .extended hclosing hposition hname hgroup htag
      · rw [if_pos hgroup]
        exact .disagreed hclosing hposition hname hgroup

theorem Located.define {registry : Registry} (hlocated : registry.Located) {call : Registration}
    (hnew : ∀ definition ∈ registry.definitions.toList, definition.name ≠ call.name) :
    (registry.define call).Located := by
  intro name position
  have hrange : ∀ definition, registry.definitions[position]? = some definition →
      position ≠ registry.definitions.size := fun definition hposition =>
    Nat.ne_of_lt (Array.getElem?_eq_some_iff.1 hposition).1
  rw [Registry.define, Std.TreeMap.getElem?_insert, Array.getElem?_push, size]
  by_cases hname : call.name = name
  · subst hname
    rw [if_pos Std.ReflCmp.compare_self]
    by_cases hlast : position = registry.definitions.size
    · simp [hlast]
    · rw [if_neg hlast]
      constructor
      · intro hsize
        exact absurd (Option.some.inj hsize).symm hlast
      · intro hposition
        obtain ⟨definition, hdefinition, hcall⟩ := Option.map_eq_some_iff.1 hposition
        exact absurd hcall (hnew definition (mem_definitions_iff.2 ⟨position, hdefinition⟩))
  · rw [if_neg (fun heq => hname (Std.LawfulEqCmp.eq_of_compare heq)), hlocated]
    by_cases hlast : position = registry.definitions.size
    · rw [if_pos hlast, hlast, Array.getElem?_eq_none (Nat.le_refl _)]
      simp [hname]
    · rw [if_neg hlast]

theorem Located.extend {registry : Registry} (hlocated : registry.Located) (changed : Nat) (tag : String) :
    (registry.extend changed tag).Located := by
  intro name position
  rw [Registry.extend, Array.getElem?_modify, hlocated]
  by_cases hposition : changed = position <;> simp [hposition, Function.comp_def]

theorem Located.register {registry : Registry} (hlocated : registry.Located) (call : Registration) :
    (registry.register call).2.Located := by
  have hregisters := hlocated.registers call
  generalize registry.register call = result at hregisters
  cases hregisters with
  | inserted hfree hnew => exact hlocated.define hnew
  | extended => exact hlocated.extend _ _
  | duplicate => exact hlocated
  | disagreed => exact hlocated
  | reserved => exact hlocated

theorem Located.registerAll {registry : Registry} (hlocated : registry.Located) (calls : List Registration) :
    (registry.registerAll calls).Located := by
  induction calls generalizing registry with
  | nil => exact hlocated
  | cons call calls ih => exact ih (hlocated.register call)

theorem located_ofCalls (calls : List Registration) : (ofCalls calls).Located := located_empty.registerAll calls

end Registry

/-! ### The new definitions -/

/-- What a definition is after a registration: a new tag of its name and group is put at the end of its tags. -/
def Definition.absorb (definition : Definition) (call : Registration) : Definition :=
  if definition.name = call.name ∧ definition.group = call.group ∧ call.tag ∉ definition.tags then
    { definition with tags := definition.tags ++ [call.tag] }
  else definition

/-- The definition that the first registration of a name makes. -/
def Registration.definition (call : Registration) : Definition := ⟨call.name, call.group, [call.tag]⟩

namespace Definition

variable {definition : Definition} {call : Registration}

@[simp] theorem name_absorb (definition : Definition) (call : Registration) :
    (definition.absorb call).name = definition.name := by
  rw [absorb]
  split <;> rfl

@[simp] theorem group_absorb (definition : Definition) (call : Registration) :
    (definition.absorb call).group = definition.group := by
  rw [absorb]
  split <;> rfl

theorem tags_absorb (definition : Definition) (call : Registration) :
    (definition.absorb call).tags = definition.tags ++
      if definition.name = call.name ∧ definition.group = call.group ∧ call.tag ∉ definition.tags then [call.tag]
      else [] := by
  rw [absorb]
  split
  · rfl
  · rw [List.append_nil]

theorem absorb_of_group_ne (hgroup : definition.group ≠ call.group) : definition.absorb call = definition :=
  if_neg fun haccepted => hgroup haccepted.2.1

theorem absorb_of_name_ne (hname : definition.name ≠ call.name) : definition.absorb call = definition :=
  if_neg fun haccepted => hname haccepted.1

end Definition

namespace Registry

theorem map_absorb_eq_self {definitions : List Definition} {call : Registration}
    (hkept : ∀ definition ∈ definitions, definition.name = call.name → definition.absorb call = definition) :
    definitions.map (·.absorb call) = definitions := by
  conv_rhs => rw [← List.map_id definitions]
  refine List.map_congr_left fun definition hmem => ?_
  by_cases hname : definition.name = call.name
  · exact hkept definition hmem hname
  · exact Definition.absorb_of_name_ne hname

/-- Since names are unique, absorbing a registration everywhere changes the definitions at one position only. -/
theorem Located.modify_eq_map_absorb {registry : Registry} (hlocated : registry.Located) {call : Registration}
    {position : Nat} {definition : Definition} (hposition : registry.definitions[position]? = some definition)
    (hname : definition.name = call.name) :
    registry.definitions.toList.modify position (·.absorb call) =
      registry.definitions.toList.map (·.absorb call) := by
  apply List.ext_getElem?
  intro other
  rw [List.getElem?_map, List.getElem?_modify, Array.getElem?_toList]
  cases hother : registry.definitions[other]? with
  | none => rfl
  | some former =>
    by_cases hsame : position = other
    · simp [hsame]
    · have hdistinct : former.name ≠ call.name := fun heq =>
        hsame (hlocated.position_unique hposition hother (hname.trans heq.symm))
      simp [hsame, Definition.absorb_of_name_ne hdistinct]

theorem Located.toList_extend {registry : Registry} (hlocated : registry.Located) {call : Registration}
    {position : Nat} {definition : Definition} (hposition : registry.definitions[position]? = some definition)
    (haccepted : definition.name = call.name ∧ definition.group = call.group ∧ call.tag ∉ definition.tags) :
    (registry.extend position call.tag).definitions.toList = registry.definitions.toList.map (·.absorb call) := by
  rw [← hlocated.modify_eq_map_absorb hposition haccepted.1, Registry.extend, Array.toList_modify]
  apply List.ext_getElem?
  intro other
  rw [List.getElem?_modify, List.getElem?_modify, Array.getElem?_toList]
  by_cases hsame : position = other
  · subst hsame
    simp [hposition, Definition.absorb, haccepted]
  · simp [hsame]

/-- Every definition absorbs the registration, and the definition of a new name follows them. -/
theorem Located.definitions_register {registry : Registry} (hlocated : registry.Located)
    (hfree : ∀ definition ∈ registry.definitions.toList, definition.name ≠ closingName) (call : Registration) :
    (registry.register call).2.definitions.toList = registry.definitions.toList.map (·.absorb call) ++
      if call.name = closingName ∨ ∃ definition ∈ registry.definitions.toList, definition.name = call.name then []
      else [call.definition] := by
  have hregisters := hlocated.registers call
  generalize registry.register call = result at hregisters
  -- A known name adds no definition; it is then left to say what its own definition absorbs.
  have hold : ∀ {position : Nat} {definition : Definition}, registry.definitions[position]? = some definition →
      definition.name = call.name → definition ∈ registry.definitions.toList ∧
      ∀ former ∈ registry.definitions.toList, former.name = call.name → former = definition := by
    intro position definition hposition hname
    have hknown := mem_definitions_iff.2 ⟨position, hposition⟩
    refine ⟨hknown, fun former hmem hformer => ?_⟩
    exact hlocated.definition_unique hmem hknown (hformer.trans hname.symm)
  cases hregisters with
  | inserted hcall hnew =>
    have hadded : ¬(call.name = closingName ∨ ∃ definition ∈ registry.definitions.toList, definition.name = call.name) := by
      rintro (hclosing | ⟨definition, hmem, hname⟩)
      · exact hcall hclosing
      · exact hnew definition hmem hname
    rw [if_neg hadded, map_absorb_eq_self fun definition hmem hname => absurd hname (hnew definition hmem)]
    simp [Registry.define, Registration.definition]
  | extended hcall hposition hname hgroup htag =>
    rw [if_pos (.inr ⟨_, (hold hposition hname).1, hname⟩), List.append_nil]
    exact hlocated.toList_extend hposition ⟨hname, hgroup, htag⟩
  | duplicate hcall hposition hname hgroup htag =>
    obtain ⟨hmem, hunique⟩ := hold hposition hname
    rw [if_pos (.inr ⟨_, hmem, hname⟩), List.append_nil, map_absorb_eq_self]
    intro former hformer hsame
    rw [hunique former hformer hsame]
    exact if_neg fun haccepted => haccepted.2.2 htag
  | disagreed hcall hposition hname hgroup =>
    obtain ⟨hmem, hunique⟩ := hold hposition hname
    rw [if_pos (.inr ⟨_, hmem, hname⟩), List.append_nil, map_absorb_eq_self]
    · rfl
    intro former hformer hsame
    rw [hunique former hformer hsame]
    exact if_neg fun haccepted => hgroup haccepted.2.1
  | reserved hclosing =>
    rw [if_pos (.inl hclosing), List.append_nil,
      map_absorb_eq_self fun definition hmem hname => absurd (hname.trans hclosing) (hfree definition hmem)]
    rfl

end Registry

end DriverIndex
