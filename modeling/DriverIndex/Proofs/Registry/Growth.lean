import DriverIndex.Proofs.Registry.History

/-!
# How a registry grows

Later calls never take anything back. Every definition keeps its place, its name, its group and its tags; what the later calls of its name and group bring is put behind its tags, in the order of the calls, and new definitions are put behind the old ones. This is said first of one more call, which is what absorbing it means, and from that of any number of them.
-/

namespace DriverIndex

/-- The tags that calls add to a definition: those of its name and group that it does not have yet. -/
def Definition.newTags (definition : Definition) (calls : List Registration) : List String :=
  (History.tags calls definition.name definition.group).filter fun tag => tag ∉ definition.tags

/-- The definition after calls. -/
def Definition.grown (definition : Definition) (calls : List Registration) : Definition :=
  { definition with tags := definition.tags ++ definition.newTags calls }

namespace Definition

variable {definition : Definition} {calls : List Registration} {call : Registration}

theorem grown_of_newTags_eq_nil (hnone : definition.newTags calls = []) : definition.grown calls = definition := by
  rw [grown, hnone, List.append_nil]

theorem grown_nil (definition : Definition) : definition.grown [] = definition :=
  grown_of_newTags_eq_nil rfl

theorem mem_newTags {tag : String} :
    tag ∈ definition.newTags calls ↔ ⟨definition.group, definition.name, tag⟩ ∈ calls ∧ tag ∉ definition.tags := by
  rw [newTags, List.mem_filter, History.mem_tags, decide_eq_true_eq]

theorem mem_tags_grown {tag : String} :
    tag ∈ (definition.grown calls).tags ↔
      tag ∈ definition.tags ∨ tag ∈ History.tags calls definition.name definition.group := by
  rw [grown, List.mem_append, newTags, List.mem_filter, decide_eq_true_eq]
  by_cases hold : tag ∈ definition.tags <;> simp [hold]

/-- A call that follows others brings a definition a tag that it does not have by then. -/
def Takes (definition : Definition) (calls : List Registration) (call : Registration) : Prop :=
  definition.name = call.name ∧ definition.group = call.group ∧ call.tag ∉ (definition.grown calls).tags

theorem newTags_concat_of_takes (htakes : definition.Takes calls call) :
    definition.newTags (calls ++ [call]) = definition.newTags calls ++ [call.tag] := by
  obtain ⟨hname, hgroup, htag⟩ := htakes
  rw [mem_tags_grown, not_or] at htag
  rw [newTags, History.tags_concat, if_pos ⟨⟨hname.symm, hgroup.symm⟩, htag.2⟩, List.filter_append, ← newTags,
    List.filter_cons_of_pos (by simpa using htag.1), List.filter_nil]

theorem newTags_concat_of_not_takes (htakes : ¬definition.Takes calls call) :
    definition.newTags (calls ++ [call]) = definition.newTags calls := by
  rw [newTags, History.tags_concat, List.filter_append, ← newTags, List.append_right_eq_self]
  split
  case isTrue hnew =>
    obtain ⟨⟨hname, hgroup⟩, htag⟩ := hnew
    have hold : call.tag ∈ definition.tags := by
      by_contra hold
      exact htakes ⟨hname.symm, hgroup.symm, mt mem_tags_grown.1 (not_or.2 ⟨hold, htag⟩)⟩
    exact List.filter_cons_of_neg (by simpa using hold)
  case isFalse => rfl

/-- To absorb a call after others is to grow by one call more. -/
theorem absorb_grown (definition : Definition) (calls : List Registration) (call : Registration) :
    (definition.grown calls).absorb call = definition.grown (calls ++ [call]) := by
  by_cases htakes : definition.Takes calls call
  · rw [absorb, if_pos (by exact htakes), grown, grown, newTags_concat_of_takes htakes, List.append_assoc]
  · rw [absorb, if_neg (by exact htakes), grown, grown, newTags_concat_of_not_takes htakes]

end Definition

namespace History

variable {calls later : List Registration} {definition : Definition} {name : String}

/-- The old definitions have grown in their places, and any new ones follow. -/
theorem definitions_append (calls later : List Registration) :
    ∃ added, definitions (calls ++ later) = (definitions calls).map (·.grown later) ++ added := by
  induction later using List.reverseRecOn with
  | nil =>
    refine ⟨[], ?_⟩
    simp only [Definition.grown_nil, List.append_nil, List.map_id']
  | append_singleton later call ih =>
    obtain ⟨added, hdefinitions⟩ := ih
    rw [← List.append_assoc, definitions_concat, hdefinitions, List.map_append, List.map_map, List.append_assoc]
    refine ⟨_, congrArg (· ++ _) (List.map_congr_left fun definition _ => ?_)⟩
    exact definition.absorb_grown later call

theorem grown_mem_definitions (hmem : definition ∈ definitions calls) (later : List Registration) :
    definition.grown later ∈ definitions (calls ++ later) := by
  obtain ⟨added, hdefinitions⟩ := definitions_append calls later
  rw [hdefinitions]
  exact List.mem_append_left _ (List.mem_map_of_mem hmem)

theorem group?_append_of_eq_some {group : Group} (hgroup : group? calls name = some group) (later : List Registration) :
    group? (calls ++ later) name = some group := by
  obtain ⟨call, hfind, hcall⟩ := Option.map_eq_some_iff.1 hgroup
  rw [group?, List.find?_append, hfind, Option.some_or, Option.map_some, hcall]

end History

namespace Registry

/-- Some call of a sequence that follows `calls` adds a tag to a name. -/
def Extends (calls later : List Registration) (name : String) : Prop :=
  ∃ front call back, later = front ++ call :: back ∧ call.name = name ∧
    ((ofCalls (calls ++ front)).register call).1 = .extended

/-- A definition gets a new tag exactly if some call extends its name, and the first call that brings a tag does. -/
theorem extends_iff {calls later : List Registration} {definition : Definition}
    (hmem : definition ∈ History.definitions calls) :
    Extends calls later definition.name ↔ definition.newTags later ≠ [] := by
  obtain ⟨hfree, -, hgroup, htags⟩ := History.definition?_eq_some_iff.1 (History.mem_definitions.1 hmem)
  constructor
  · rintro ⟨front, call, back, rfl, hname, hextended⟩
    rw [outcome_register] at hextended
    obtain ⟨-, hcalled, hfresh⟩ := (History.outcome_iff _ _).2.1.1 hextended
    rw [hname] at hcalled hfresh
    have hsame : definition.group = call.group :=
      Option.some.inj ((History.group?_append_of_eq_some hgroup front).symm.trans hcalled)
    rw [History.mem_tags, List.mem_append, not_or, ← History.mem_tags, ← hsame, ← htags] at hfresh
    have hcall : (⟨definition.group, definition.name, call.tag⟩ : Registration) = call := by
      rw [← hname, hsame]
    refine List.ne_nil_of_mem (Definition.mem_newTags.2 ⟨?_, hfresh.1⟩)
    rw [hcall]
    exact List.mem_append_right _ List.mem_cons_self
  · intro hnew
    obtain ⟨tag, htag⟩ := List.exists_mem_of_ne_nil _ hnew
    obtain ⟨hcall, htag⟩ := Definition.mem_newTags.1 htag
    obtain ⟨front, back, hlater, hfirst⟩ := List.eq_append_cons_of_mem hcall
    have hfresh : tag ∉ History.tags (calls ++ front) definition.name definition.group := by
      rw [History.mem_tags, List.mem_append, not_or, ← History.mem_tags, ← htags]
      exact ⟨htag, hfirst⟩
    refine ⟨front, _, back, hlater, rfl, ?_⟩
    rw [outcome_register]
    exact (History.outcome_iff _ _).2.1.2 ⟨hfree, History.group?_append_of_eq_some hgroup front, hfresh⟩

end Registry

end DriverIndex
