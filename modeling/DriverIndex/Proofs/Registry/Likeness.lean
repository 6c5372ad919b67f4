import DriverIndex.Proofs.Registry.Collisions
import DriverIndex.Proofs.SlotTable.Numbering

/-!
# What a layered tag can influence

A layered definition takes the same slots whatever its tags are, so the tag of a call with a layered group should not matter. It does matter to the registry, which stores it and asks for it to tell a new tag from one that is there already. What two runs keep in common when they differ in such tags alone is a relation between definitions: the same name and group, and the same tags unless the group is layered. One call on each side preserves it, and so do two sequences of calls. The relation also holds between the definitions before and after a call that adds nothing but a layered tag, or nothing at all.
-/

namespace DriverIndex

/-- Two calls that differ in nothing but the tag of a layered group. -/
structure Registration.Alike (call other : Registration) : Prop where
  group : call.group = other.group
  name : call.name = other.name
  tag : ¬(call.group.value = 0 ∨ call.group.value = 1) → call.tag = other.tag

theorem Registration.Alike.refl (call : Registration) : call.Alike call := ⟨rfl, rfl, fun _ => rfl⟩

/-- Two definitions that differ in nothing but the tags of a layered group. -/
structure Definition.Alike (former latter : Definition) : Prop where
  name : former.name = latter.name
  group : former.group = latter.group
  tags : ¬former.group.isLayered = true → former.tags = latter.tags

/-- Two collisions that agree in all but the tag. -/
structure Collision.Alike (former latter : Collision) : Prop where
  name : former.name = latter.name
  existing : former.existing = latter.existing
  attempted : former.attempted = latter.attempted

namespace Definition

variable {former latter : Definition} {call other : Registration}

theorem Alike.absorb (halike : former.Alike latter) (hcall : call.Alike other) :
    (former.absorb call).Alike (latter.absorb other) := by
  refine ⟨?_, ?_, fun hlayered => ?_⟩
  · rw [name_absorb, name_absorb, halike.name]
  · rw [group_absorb, group_absorb, halike.group]
  rw [group_absorb] at hlayered
  have htags := halike.tags hlayered
  by_cases hgroup : former.group = call.group
  · have htag : call.tag = other.tag := hcall.tag (mt Group.isLayered_iff.2 (hgroup ▸ hlayered))
    rw [tags_absorb, tags_absorb, halike.name, halike.group, htags, hcall.name, hcall.group, htag]
  · have hother : latter.group ≠ other.group := by
      rwa [← halike.group, ← hcall.group]
    rw [absorb_of_group_ne hgroup, absorb_of_group_ne hother, htags]

end Definition

theorem Registration.Alike.definition {call other : Registration} (hcall : call.Alike other) :
    call.definition.Alike other.definition where
  name := hcall.name
  group := hcall.group
  tags hlayered := congrArg (fun tag => [tag]) (hcall.tag (mt Group.isLayered_iff.2 hlayered))

namespace History

variable {calls others more mores : List Registration} {call other : Registration}

theorem names_eq_of_alike (halike : List.Forall₂ Definition.Alike (definitions calls) (definitions others)) :
    names calls = names others := by
  have hnames : List.Forall₂ Eq ((definitions calls).map Definition.name) ((definitions others).map Definition.name) := by
    rw [List.forall₂_map_left_iff, List.forall₂_map_right_iff]
    exact halike.imp fun _ _ hdefinition => hdefinition.name
  rwa [map_name_definitions, map_name_definitions, List.forall₂_eq_eq_eq] at hnames

/-! ### Two runs side by side -/

theorem definitions_concat_alike (halike : List.Forall₂ Definition.Alike (definitions calls) (definitions others))
    (hcall : call.Alike other) :
    List.Forall₂ Definition.Alike (definitions (calls ++ [call])) (definitions (others ++ [other])) := by
  rw [definitions_concat, definitions_concat, names_eq_of_alike halike, hcall.name]
  apply List.rel_append
  · rw [List.forall₂_map_left_iff, List.forall₂_map_right_iff]
    exact halike.imp fun former latter hdefinition => hdefinition.absorb hcall
  · split
    · exact .nil
    · exact .cons hcall.definition .nil

theorem definitions_append_alike (halike : List.Forall₂ Definition.Alike (definitions calls) (definitions others))
    (hmore : List.Forall₂ Registration.Alike more mores) :
    List.Forall₂ Definition.Alike (definitions (calls ++ more)) (definitions (others ++ mores)) := by
  induction hmore generalizing calls others with
  | nil => rwa [List.append_nil, List.append_nil]
  | cons hcall _ ih =>
    rw [List.append_cons, List.append_cons others]
    exact ih (definitions_concat_alike halike hcall)

theorem definitions_alike (hcalls : List.Forall₂ Registration.Alike calls others) :
    List.Forall₂ Definition.Alike (definitions calls) (definitions others) :=
  @definitions_append_alike [] [] calls others .nil hcalls

theorem group?_eq_of_alike (hcalls : List.Forall₂ Registration.Alike calls others) (name : String) :
    group? calls name = group? others name := by
  rw [group?, group?]
  induction hcalls with
  | nil => rfl
  | @cons call other _ _ hcall _ ih =>
    rw [List.find?_cons, List.find?_cons, hcall.name]
    split
    · exact congrArg some hcall.group
    · exact ih

end History

/-- Alike calls are refused together, whatever their tags are. -/
theorem Registry.refusal?_alike {calls others : List Registration} {call other : Registration}
    (hcalls : List.Forall₂ Registration.Alike calls others) (hcall : call.Alike other) :
    Option.Rel Collision.Alike ((ofCalls calls).refusal? call) ((ofCalls others).refusal? other) := by
  by_cases hclosing : call.name = closingName
  · rw [refusal?_closing _ hclosing, refusal?_closing _ (hcall.name ▸ hclosing)]
    exact .some ⟨rfl, rfl, hcall.group⟩
  · rw [refusal?_ofCalls hclosing, refusal?_ofCalls (hcall.name ▸ hclosing), History.group?_eq_of_alike hcalls, hcall.name,
      hcall.group]
    cases History.group? others other.name with
    | none => exact .none
    | some existing =>
      dsimp only [Option.bind_some]
      split
      · exact .some ⟨rfl, rfl, rfl⟩
      · exact .none

/-! ### Calls that give no slot -/

/-- A call that gives no slot to any definition: it is refused, was made already, or adds a tag to a layered definition. -/
def Registry.Idles (registry : Registry) (call : Registration) : Prop :=
  match (registry.register call).1 with
  | .inserted => False
  | .extended => call.group.isLayered = true
  | .duplicate => True
  | .collision _ => True

namespace History

variable {calls : List Registration} {call : Registration} {definition : Definition}

theorem known_of_idles (hidles : (Registry.ofCalls calls).Idles call) :
    call.name = closingName ∨ call.name ∈ names calls := by
  by_contra hnew
  rw [not_or] at hnew
  have hgroup : group? calls call.name = none := by
    rw [group?_eq_none_iff]
    intro former hmem hname
    exact hnew.2 (mem_names.2 ⟨hnew.1, former, hmem, hname⟩)
  have hinserted : outcome calls call = .inserted := (outcome_iff calls call).1.2 ⟨hnew.1, hgroup⟩
  rwa [Registry.Idles, Registry.outcome_register, hinserted] at hidles

/-- A definition takes up a tag only from a call that extends it. -/
theorem outcome_eq_extended (hmem : definition ∈ definitions calls) (hname : definition.name = call.name)
    (hgroup : definition.group = call.group) (htag : call.tag ∉ definition.tags) : outcome calls call = .extended := by
  obtain ⟨hfree, -, hfirst, htags⟩ := definition?_eq_some_iff.1 (mem_definitions.1 hmem)
  rw [hname] at hfree hfirst htags
  rw [hgroup] at hfirst htags
  exact (outcome_iff calls call).2.1.2 ⟨hfree, hfirst, htags ▸ htag⟩

theorem absorb_alike_of_idles (hidles : (Registry.ofCalls calls).Idles call) (hmem : definition ∈ definitions calls) :
    (definition.absorb call).Alike definition := by
  refine ⟨definition.name_absorb call, definition.group_absorb call, fun hlayered => ?_⟩
  rw [Definition.group_absorb] at hlayered
  rw [Definition.tags_absorb, if_neg, List.append_nil]
  rintro ⟨hname, hgroup, htag⟩
  rw [Registry.Idles, Registry.outcome_register, outcome_eq_extended hmem hname hgroup htag] at hidles
  exact hlayered (hgroup ▸ hidles)

theorem definitions_concat_of_idles (hidles : (Registry.ofCalls calls).Idles call) :
    List.Forall₂ Definition.Alike (definitions (calls ++ [call])) (definitions calls) := by
  rw [definitions_concat, if_pos (known_of_idles hidles), List.append_nil, List.forall₂_map_left_iff, List.forall₂_same]
  intro definition hmem
  exact absorb_alike_of_idles hidles hmem

/-- Without an idle call the definitions are alike at every later time. -/
theorem definitions_alike_without (hidles : (Registry.ofCalls calls).Idles call) (later : List Registration) :
    List.Forall₂ Definition.Alike (definitions (calls ++ call :: later)) (definitions (calls ++ later)) := by
  rw [List.append_cons]
  exact definitions_append_alike (definitions_concat_of_idles hidles) (List.forall₂_same.2 fun call _ => .refl call)

end History

end DriverIndex
