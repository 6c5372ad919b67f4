import DriverIndex.Proofs.Registry.Invariant
import Mathlib.Data.List.Induction

/-!
# A registry as a function of its history

What a registry holds can be read off the registrations alone, with no registry in between: which names were called and in which order, the group that the first call of a name gave, and the tags of the calls that agree with it. This file defines these readings and shows that the registry of a sequence of registrations is the one they describe, and that every outcome is decided by them. The induction adds registrations at the end, as a registry receives them, so each reading comes with one lemma about one more call.
-/

namespace DriverIndex

/-! ### The first occurrences in a list -/

theorem eraseDups_concat {α : Type} [BEq α] [LawfulBEq α] [DecidableEq α] (xs : List α) (x : α) :
    (xs ++ [x]).eraseDups = xs.eraseDups ++ if x ∈ xs then [] else [x] := by
  rw [List.eraseDups_append, List.removeAll]
  by_cases hmem : x ∈ xs <;> simp [hmem, List.eraseDups_cons]

theorem nodup_eraseDups {α : Type} [BEq α] [LawfulBEq α] [DecidableEq α] (xs : List α) : xs.eraseDups.Nodup := by
  induction xs using List.reverseRecOn with
  | nil => exact List.nodup_nil
  | append_singleton xs x ih =>
    rw [eraseDups_concat]
    by_cases hmem : x ∈ xs
    · rwa [if_pos hmem, List.append_nil]
    · rw [if_neg hmem, List.nodup_append]
      refine ⟨ih, List.nodup_singleton x, fun former hformer latter hlatter => ?_⟩
      rw [List.mem_singleton.1 hlatter]
      exact fun heq => hmem (heq ▸ List.mem_eraseDups.1 hformer)

namespace History

/-- The names that were called and can be defined, in the order of their first calls. -/
def names (calls : List Registration) : List String :=
  ((calls.map Registration.name).filter fun name => name ≠ closingName).eraseDups

/-- The group of the first call of a name. -/
def group? (calls : List Registration) (name : String) : Option Group :=
  (calls.find? fun call => call.name = name).map Registration.group

/-- The tags that were called for a name and a group, each once, in the order of their first calls. -/
def tags (calls : List Registration) (name : String) (group : Group) : List String :=
  ((calls.filter fun call => call.name = name ∧ call.group = group).map Registration.tag).eraseDups

/-- The definition that a sequence of calls makes of a name. -/
def definition? (calls : List Registration) (name : String) : Option Definition :=
  if name = closingName then none else (group? calls name).map fun group => ⟨name, group, tags calls name group⟩

def definitions (calls : List Registration) : List Definition := (names calls).filterMap (definition? calls)

/-- What becomes of a call that follows others. -/
def outcome (calls : List Registration) (call : Registration) : Outcome :=
  if call.name = closingName then .collision ⟨call.name, .closing, call.group, call.tag⟩
  else match group? calls call.name with
    | none => .inserted
    | some group =>
      if group ≠ call.group then .collision ⟨call.name, group, call.group, call.tag⟩
      else if call.tag ∈ tags calls call.name group then .duplicate else .extended

variable {calls : List Registration} {call : Registration} {name : String} {group : Group} {definition : Definition}

/-! ### Which names are known -/

theorem mem_names : name ∈ names calls ↔ name ≠ closingName ∧ ∃ call ∈ calls, call.name = name := by
  simp only [names, List.mem_eraseDups, List.mem_filter, List.mem_map, decide_eq_true_eq]
  exact and_comm

theorem nodup_names (calls : List Registration) : (names calls).Nodup := nodup_eraseDups _

theorem nodup_tags (calls : List Registration) (name : String) (group : Group) : (tags calls name group).Nodup :=
  nodup_eraseDups _

theorem group?_eq_none_iff : group? calls name = none ↔ ∀ call ∈ calls, call.name ≠ name := by
  simp [group?]

theorem exists_call_of_group? (hgroup : group? calls name = some group) :
    ∃ call ∈ calls, call.name = name ∧ call.group = group := by
  obtain ⟨call, hfind, hcall⟩ := Option.map_eq_some_iff.1 hgroup
  exact ⟨call, List.mem_of_find?_eq_some hfind, by simpa using List.find?_some hfind, hcall⟩

theorem exists_group?_of_mem (hmem : call ∈ calls) :
    ∃ group, group? calls call.name = some group :=
  Option.ne_none_iff_exists'.1 fun hnone => group?_eq_none_iff.1 hnone call hmem rfl

theorem mem_tags {tag : String} : tag ∈ tags calls name group ↔ ⟨group, name, tag⟩ ∈ calls := by
  simp only [tags, List.mem_eraseDups, List.mem_map, List.mem_filter, decide_eq_true_eq]
  constructor
  · rintro ⟨call, ⟨hmem, rfl, rfl⟩, rfl⟩
    exact hmem
  · intro hmem
    exact ⟨_, ⟨hmem, rfl, rfl⟩, rfl⟩

theorem definition?_eq_some_iff : definition? calls name = some definition ↔
    name ≠ closingName ∧ definition.name = name ∧ group? calls name = some definition.group ∧
      definition.tags = tags calls name definition.group := by
  obtain ⟨definedName, definedGroup, definedTags⟩ := definition
  by_cases hclosing : name = closingName
  · simp [definition?, hclosing]
  · simp only [definition?, if_neg hclosing, Option.map_eq_some_iff, Definition.mk.injEq]
    constructor
    · rintro ⟨_, hgroup, rfl, rfl, rfl⟩
      exact ⟨hclosing, rfl, hgroup, rfl⟩
    · rintro ⟨-, rfl, hgroup, rfl⟩
      exact ⟨_, hgroup, rfl, rfl, rfl⟩

theorem definition?_eq_none_iff : definition? calls name = none ↔ name ∉ names calls := by
  rw [mem_names, not_and, definition?]
  by_cases hclosing : name = closingName
  · simp [hclosing]
  · simp [hclosing, group?_eq_none_iff]

theorem mem_definitions : definition ∈ definitions calls ↔ definition? calls definition.name = some definition := by
  rw [definitions, List.mem_filterMap]
  constructor
  · rintro ⟨name, -, hdefinition⟩
    rwa [(definition?_eq_some_iff.1 hdefinition).2.1]
  · intro hdefinition
    refine ⟨definition.name, ?_, hdefinition⟩
    by_contra hunknown
    rw [definition?_eq_none_iff.2 hunknown] at hdefinition
    cases hdefinition

theorem map_name_definitions (calls : List Registration) : (definitions calls).map Definition.name = names calls := by
  rw [definitions, List.map_filterMap]
  conv_rhs => rw [← List.filterMap_some (l := names calls)]
  refine List.filterMap_congr fun name hmem => ?_
  cases hdefinition : definition? calls name with
  | none => exact absurd hmem (definition?_eq_none_iff.1 hdefinition)
  | some definition => exact congrArg some (definition?_eq_some_iff.1 hdefinition).2.1

/-! ### One more call -/

theorem names_concat (calls : List Registration) (call : Registration) :
    names (calls ++ [call]) =
      names calls ++ if call.name = closingName ∨ call.name ∈ names calls then [] else [call.name] := by
  simp only [names, List.map_append, List.map_cons, List.map_nil, List.filter_append]
  by_cases hclosing : call.name = closingName
  · simp [hclosing]
  · rw [List.filter_cons_of_pos (by simpa using hclosing), List.filter_nil, eraseDups_concat]
    simp [hclosing]

theorem group?_concat (calls : List Registration) (call : Registration) (name : String) :
    group? (calls ++ [call]) name = (group? calls name).or (if call.name = name then some call.group else none) := by
  simp only [group?, List.find?_append, Option.map_or]
  by_cases hname : call.name = name <;> simp [hname]

theorem tags_concat (calls : List Registration) (call : Registration) (name : String) (group : Group) :
    tags (calls ++ [call]) name group = tags calls name group ++
      if (call.name = name ∧ call.group = group) ∧ call.tag ∉ tags calls name group then [call.tag] else [] := by
  by_cases hagrees : call.name = name ∧ call.group = group
  · have hlast : tags (calls ++ [call]) name group = (((calls.filter fun call =>
        call.name = name ∧ call.group = group).map Registration.tag) ++ [call.tag]).eraseDups := by
      simp [tags, hagrees]
    rw [hlast, eraseDups_concat, ← tags]
    by_cases hknown : call.tag ∈ tags calls name group
    · rw [if_pos (List.mem_eraseDups.1 hknown), if_neg fun haccepted => haccepted.2 hknown]
    · rw [if_neg (mt List.mem_eraseDups.2 hknown), if_pos ⟨hagrees, hknown⟩]
  · rw [if_neg fun haccepted => hagrees haccepted.1, tags, List.filter_append,
      List.filter_cons_of_neg (by simpa using hagrees), List.filter_nil, List.append_nil, List.append_nil, ← tags]

theorem definition?_concat (calls : List Registration) (call : Registration) (name : String) :
    definition? (calls ++ [call]) name = ((definition? calls name).map (·.absorb call)).or
      (if name ≠ closingName ∧ call.name = name then some call.definition else none) := by
  by_cases hclosing : name = closingName
  · simp [definition?, hclosing]
  · rw [definition?, definition?, if_neg hclosing, if_neg hclosing, group?_concat]
    cases hgroup : group? calls name with
    | none =>
      by_cases hname : call.name = name
      · subst hname
        have hnone : tags calls call.name call.group = [] :=
          List.eq_nil_iff_forall_not_mem.2 fun tag htag => group?_eq_none_iff.1 hgroup _ (mem_tags.1 htag) rfl
        simp [tags_concat, hnone, hclosing, Registration.definition]
      · simp [hname]
    | some group =>
      simp only [Option.some_or, Option.map_some, tags_concat, Definition.absorb, Option.some.injEq, eq_comm (a := name),
        eq_comm (a := group), ← and_assoc]
      split <;> simp

theorem definitions_concat (calls : List Registration) (call : Registration) :
    definitions (calls ++ [call]) = (definitions calls).map (·.absorb call) ++
      if call.name = closingName ∨ call.name ∈ names calls then [] else [call.definition] := by
  rw [definitions, names_concat, List.filterMap_append]
  congr 1
  · rw [definitions, List.map_filterMap]
    refine List.filterMap_congr fun name hmem => ?_
    obtain ⟨definition, hdefinition⟩ := Option.ne_none_iff_exists'.1 (mt definition?_eq_none_iff.1 (not_not_intro hmem))
    rw [definition?_concat, hdefinition]
    rfl
  · by_cases hold : call.name = closingName ∨ call.name ∈ names calls
    · rw [if_pos hold, if_pos hold, List.filterMap_nil]
    · rw [if_neg hold, if_neg hold]
      rw [not_or] at hold
      simp [definition?_concat, definition?_eq_none_iff.2 hold.2, hold.1]

/-! ### Which outcome -/

/-- A call comes too late for its group: another group stands for its name, that of the closing definition if the name is reserved. -/
def Disagrees (calls : List Registration) (call : Registration) (existing : Group) : Prop :=
  call.name = closingName ∧ existing = .closing ∨
    call.name ≠ closingName ∧ group? calls call.name = some existing ∧ existing ≠ call.group

theorem outcome_cases (calls : List Registration) (call : Registration) :
    call.name ≠ closingName ∧ group? calls call.name = none ∧ outcome calls call = .inserted ∨
    call.name ≠ closingName ∧ group? calls call.name = some call.group ∧ call.tag ∉ tags calls call.name call.group ∧
      outcome calls call = .extended ∨
    call.name ≠ closingName ∧ group? calls call.name = some call.group ∧ call.tag ∈ tags calls call.name call.group ∧
      outcome calls call = .duplicate ∨
    ∃ existing, Disagrees calls call existing ∧
      outcome calls call = .collision ⟨call.name, existing, call.group, call.tag⟩ := by
  by_cases hclosing : call.name = closingName
  · exact .inr (.inr (.inr ⟨.closing, .inl ⟨hclosing, rfl⟩, if_pos hclosing⟩))
  · rw [outcome, if_neg hclosing]
    cases hgroup : group? calls call.name with
    | none => exact .inl ⟨hclosing, rfl, rfl⟩
    | some group =>
      dsimp only
      by_cases hagrees : group = call.group
      · subst hagrees
        rw [if_neg (not_not_intro rfl)]
        by_cases htag : call.tag ∈ tags calls call.name call.group
        · exact .inr (.inr (.inl ⟨hclosing, rfl, htag, if_pos htag⟩))
        · exact .inr (.inl ⟨hclosing, rfl, htag, if_neg htag⟩)
      · exact .inr (.inr (.inr ⟨group, .inr ⟨hclosing, hgroup, hagrees⟩, if_pos hagrees⟩))

theorem outcome_iff (calls : List Registration) (call : Registration) :
    (outcome calls call = .inserted ↔ call.name ≠ closingName ∧ group? calls call.name = none) ∧
    (outcome calls call = .extended ↔ call.name ≠ closingName ∧ group? calls call.name = some call.group ∧
      call.tag ∉ tags calls call.name call.group) ∧
    (outcome calls call = .duplicate ↔ call.name ≠ closingName ∧ group? calls call.name = some call.group ∧
      call.tag ∈ tags calls call.name call.group) ∧
    ((outcome calls call).isCollision = true ↔ ∃ existing, Disagrees calls call existing) := by
  rcases outcome_cases calls call with ⟨hfree, hgroup, heq⟩ | ⟨hfree, hgroup, htag, heq⟩ | ⟨hfree, hgroup, htag, heq⟩ |
    ⟨existing, hdisagrees, heq⟩ <;> rw [heq]
  · simp [Outcome.isCollision, Disagrees, hfree, hgroup]
  · simp [Outcome.isCollision, Disagrees, hfree, hgroup, htag]
  · simp [Outcome.isCollision, Disagrees, hfree, hgroup, htag]
  · have hcollision : ∃ existing, Disagrees calls call existing := ⟨existing, hdisagrees⟩
    rcases hdisagrees with ⟨hclosing, -⟩ | ⟨-, hgroup, hne⟩
    · simp [Outcome.isCollision, hclosing, hcollision]
    · simp [Outcome.isCollision, hgroup, hne, hcollision]

end History

/-! ### The registry of a history -/

namespace Registry

open History (mem_definitions definition?_eq_some_iff definition?_eq_none_iff)

theorem ofCalls_concat (calls : List Registration) (call : Registration) :
    ofCalls (calls ++ [call]) = ((ofCalls calls).register call).2 :=
  registerAll_append empty calls [call]

/-- A sequence of registrations defines what its history says. -/
theorem definitions_ofCalls (calls : List Registration) :
    (ofCalls calls).definitions.toList = History.definitions calls := by
  induction calls using List.reverseRecOn with
  | nil => rfl
  | append_singleton calls call ih =>
    have hfree : ∀ definition ∈ (ofCalls calls).definitions.toList, definition.name ≠ closingName :=
      fun definition hmem => ((wellFormed_ofCalls calls).definitions definition hmem).name_ne
    have hknown : (∃ definition ∈ (ofCalls calls).definitions.toList, definition.name = call.name) ↔
        call.name ∈ History.names calls := by
      rw [ih, ← History.map_name_definitions, List.mem_map]
    rw [ofCalls_concat, (located_ofCalls calls).definitions_register hfree, ih, History.definitions_concat, ← ih]
    simp only [hknown]

theorem mem_definitions_ofCalls {calls : List Registration} {definition : Definition} :
    definition ∈ (ofCalls calls).definitions.toList ↔ History.definition? calls definition.name = some definition := by
  rw [definitions_ofCalls, mem_definitions]

theorem get?_ofCalls (calls : List Registration) (name : String) :
    (ofCalls calls).get? name = History.definition? calls name := by
  have hlocated := located_ofCalls calls
  rw [get?]
  cases hlocate : (ofCalls calls).locate? name with
  | none =>
    refine (definition?_eq_none_iff.2 fun hmem => ?_).symm
    rw [← History.map_name_definitions, ← definitions_ofCalls, List.mem_map] at hmem
    obtain ⟨definition, hdefinition, hname⟩ := hmem
    exact hlocated.locate?_eq_none_iff.1 hlocate definition hdefinition hname
  | some found =>
    obtain ⟨position, definition⟩ := found
    obtain ⟨hposition, rfl⟩ := hlocated.locate?_eq_some hlocate
    exact (mem_definitions_ofCalls.1 (mem_definitions_iff.2 ⟨position, hposition⟩)).symm

/-- The outcome of a registration is decided by the registrations before it. -/
theorem outcome_register (calls : List Registration) (call : Registration) :
    ((ofCalls calls).register call).1 = History.outcome calls call := by
  have hregisters := (located_ofCalls calls).registers call
  generalize (ofCalls calls).register call = result at hregisters
  have hknown : ∀ {position : Nat} {definition : Definition}, (ofCalls calls).definitions[position]? = some definition →
      definition.name = call.name → History.group? calls call.name = some definition.group ∧
        definition.tags = History.tags calls call.name definition.group := by
    intro position definition hposition hname
    have hdefinition := mem_definitions_ofCalls.1 (mem_definitions_iff.2 ⟨position, hposition⟩)
    rw [hname] at hdefinition
    exact (definition?_eq_some_iff.1 hdefinition).2.2
  rw [History.outcome]
  cases hregisters with
  | inserted hcall hnew =>
    have hnone : History.definition? calls call.name = none := by
      rw [← get?_ofCalls, get?, (located_ofCalls calls).locate?_eq_none_iff.2 hnew]
      rfl
    rw [if_neg hcall]
    simp only [History.definition?, if_neg hcall, Option.map_eq_none_iff] at hnone
    rw [hnone]
  | extended hcall hposition hname hgroup htag =>
    obtain ⟨hfirst, htags⟩ := hknown hposition hname
    rw [if_neg hcall, hfirst]
    dsimp only
    rw [if_neg (not_not_intro hgroup), if_neg (htags ▸ htag)]
  | duplicate hcall hposition hname hgroup htag =>
    obtain ⟨hfirst, htags⟩ := hknown hposition hname
    rw [if_neg hcall, hfirst]
    dsimp only
    rw [if_neg (not_not_intro hgroup), if_pos (htags ▸ htag)]
  | disagreed hcall hposition hname hgroup =>
    rw [if_neg hcall, (hknown hposition hname).1]
    dsimp only
    rw [if_pos hgroup]
    rfl
  | reserved hclosing =>
    rw [if_pos hclosing]
    rfl

theorem get?_eq_some_iff {calls : List Registration} {name : String} {definition : Definition} :
    (ofCalls calls).get? name = some definition ↔
      definition ∈ (ofCalls calls).definitions.toList ∧ definition.name = name := by
  rw [get?_ofCalls, mem_definitions_ofCalls]
  constructor
  · intro hdefinition
    have hname := (definition?_eq_some_iff.1 hdefinition).2.1
    exact ⟨hname ▸ hdefinition, hname⟩
  · rintro ⟨hdefinition, rfl⟩
    exact hdefinition

/-- A sequence of registrations leaves one definition for every name but the closing one, in the order of the first calls. Its group is that of the first call, and its tags are those of the calls that agree with it, in order. A name is found exactly if it is defined, and each outcome is decided by the calls before it. -/
theorem ofCalls_reads_history (calls : List Registration) :
    (ofCalls calls).definitions.toList.map Definition.name = History.names calls ∧
    (∀ definition ∈ (ofCalls calls).definitions.toList,
      History.group? calls definition.name = some definition.group ∧
        definition.tags = History.tags calls definition.name definition.group) ∧
    (∀ name definition, (ofCalls calls).get? name = some definition ↔
      definition ∈ (ofCalls calls).definitions.toList ∧ definition.name = name) ∧
    (∀ name, (ofCalls calls).get? name = none ↔ name = closingName ∨ ∀ call ∈ calls, call.name ≠ name) ∧
    ∀ earlier call later, calls = earlier ++ call :: later →
      (((ofCalls earlier).register call).1 = .inserted ↔
        call.name ≠ closingName ∧ ∀ former ∈ earlier, former.name ≠ call.name) ∧
      (((ofCalls earlier).register call).1 = .extended ↔
        call.name ≠ closingName ∧ History.group? earlier call.name = some call.group ∧
          call.tag ∉ History.tags earlier call.name call.group) ∧
      (((ofCalls earlier).register call).1 = .duplicate ↔
        call.name ≠ closingName ∧ History.group? earlier call.name = some call.group ∧
          call.tag ∈ History.tags earlier call.name call.group) ∧
      (((ofCalls earlier).register call).1.isCollision = true ↔
        call.name = closingName ∨
          ∃ group, History.group? earlier call.name = some group ∧ group ≠ call.group) := by
  refine ⟨?_, ?_, ?_, ?_, ?_⟩
  · rw [definitions_ofCalls, History.map_name_definitions]
  · intro definition hmem
    exact (definition?_eq_some_iff.1 (mem_definitions_ofCalls.1 hmem)).2.2
  · intro name definition
    exact get?_eq_some_iff
  · intro name
    rw [get?_ofCalls, definition?_eq_none_iff, History.mem_names]
    by_cases hclosing : name = closingName <;> simp [hclosing]
  · intro earlier call later _
    rw [outcome_register]
    obtain ⟨hinserted, hextended, hduplicate, hcollision⟩ := History.outcome_iff earlier call
    refine ⟨?_, hextended, hduplicate, ?_⟩
    · rw [hinserted, History.group?_eq_none_iff]
    · rw [hcollision]
      by_cases hclosing : call.name = closingName <;> simp [History.Disagrees, hclosing]

end Registry

end DriverIndex
