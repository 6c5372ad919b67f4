import DriverIndex.Proofs.Registry.Closing
import DriverIndex.Summary

/-!
# Which registrations are refused

A registry judges a registration when it comes, by the group that its name has at that moment. The group of a name never changes once it is there, and the registration that brings it agrees with it, so nothing is lost by judging later: the collisions are those of the same registrations judged by the registry at the end. Closing the registry and numbering its definitions leave them alone, and the exit status counts them.
-/

namespace DriverIndex

/-- The collision that an outcome reports. -/
def Outcome.collision? : Outcome → Option Collision
  | .collision recorded => some recorded
  | _ => none

namespace Registry

/-- What a registry records of a registration that disagrees with it. -/
def refusal? (registry : Registry) (call : Registration) : Option Collision :=
  if call.name = closingName then some ⟨closingName, .closing, call.group, call.tag⟩
  else match registry.get? call.name with
    | none => none
    | some definition =>
      if definition.group ≠ call.group then some ⟨call.name, definition.group, call.group, call.tag⟩ else none

theorem refusal?_closing (registry : Registry) {call : Registration} (hclosing : call.name = closingName) :
    registry.refusal? call = some ⟨closingName, .closing, call.group, call.tag⟩ :=
  if_pos hclosing

theorem Located.collisions_register {registry : Registry} (hlocated : registry.Located) (call : Registration) :
    (registry.register call).2.collisions.toList =
      registry.collisions.toList ++ (registry.register call).1.collision?.toList := by
  have hregisters := hlocated.registers call
  generalize registry.register call = result at hregisters
  cases hregisters with
  | inserted => exact (List.append_nil _).symm
  | extended => exact (List.append_nil _).symm
  | duplicate => exact (List.append_nil _).symm
  | disagreed => exact Array.toList_push
  | reserved => exact Array.toList_push

section History

variable {calls : List Registration} {call latest : Registration}

theorem map_group_get?_ofCalls (hfree : call.name ≠ closingName) :
    ((ofCalls calls).get? call.name).map Definition.group = History.group? calls call.name := by
  rw [get?_ofCalls, History.definition?, if_neg hfree, Option.map_map]
  exact congrFun Option.map_id _

/-- A registry refuses what disagrees with the first call of its name. -/
theorem refusal?_ofCalls (hfree : call.name ≠ closingName) :
    (ofCalls calls).refusal? call = (History.group? calls call.name).bind fun existing =>
      if existing ≠ call.group then some ⟨call.name, existing, call.group, call.tag⟩ else none := by
  rw [refusal?, if_neg hfree, ← map_group_get?_ofCalls hfree]
  cases (ofCalls calls).get? call.name with
  | none => rfl
  | some definition => rfl

theorem collision?_register (calls : List Registration) (call : Registration) :
    ((ofCalls calls).register call).1.collision? = (ofCalls calls).refusal? call := by
  rw [outcome_register, History.outcome]
  by_cases hclosing : call.name = closingName
  · rw [if_pos hclosing, refusal?_closing _ hclosing, hclosing]
    rfl
  · rw [if_neg hclosing, refusal?_ofCalls hclosing]
    cases History.group? calls call.name with
    | none => rfl
    | some existing =>
      dsimp only [Option.bind_some]
      split_ifs <;> rfl

/-- One more call changes the judgement of no call that was made, its own included. -/
theorem refusal?_concat (hmade : call ∈ calls ++ [latest]) :
    (ofCalls (calls ++ [latest])).refusal? call = (ofCalls calls).refusal? call := by
  by_cases hclosing : call.name = closingName
  · rw [refusal?_closing _ hclosing, refusal?_closing _ hclosing]
  · rw [refusal?_ofCalls hclosing, refusal?_ofCalls hclosing, History.group?_concat]
    cases hgroup : History.group? calls call.name with
    | some existing => rw [Option.some_or]
    | none =>
      -- Only the call itself can be the first one of its name, and it brings the group that it asks for.
      have hnew : call ∉ calls := fun hmem => History.group?_eq_none_iff.1 hgroup call hmem rfl
      have hself : call = latest := by
        rcases List.mem_append.1 hmade with hmem | hlast
        · exact absurd hmem hnew
        · exact List.mem_singleton.1 hlast
      subst hself
      rw [Option.none_or, if_pos rfl, Option.bind_some, if_neg (not_not_intro rfl)]
      rfl

end History

theorem collisions_ofCalls (calls : List Registration) :
    (ofCalls calls).collisions.toList = calls.filterMap (ofCalls calls).refusal? := by
  induction calls using List.reverseRecOn with
  | nil => rfl
  | append_singleton calls latest ih =>
    have hearlier : calls.filterMap (ofCalls (calls ++ [latest])).refusal? =
        calls.filterMap (ofCalls calls).refusal? :=
      List.filterMap_congr fun call hmem => refusal?_concat (List.mem_append_left _ hmem)
    have hlatest : [latest].filterMap (ofCalls (calls ++ [latest])).refusal? =
        ((ofCalls calls).refusal? latest).toList := by
      rw [List.filterMap_cons, refusal?_concat (List.mem_append_right _ List.mem_cons_self)]
      cases (ofCalls calls).refusal? latest <;> rfl
    rw [List.filterMap_append, hearlier, hlatest, ofCalls_concat, (located_ofCalls calls).collisions_register,
      ih, collision?_register]

theorem get?_ne_none_of_mem {calls : List Registration} {call : Registration} (hmem : call ∈ calls)
    (hfree : call.name ≠ closingName) : (ofCalls calls).get? call.name ≠ none := by
  intro hnone
  have hgroup : ((ofCalls calls).get? call.name).map Definition.group = History.group? calls call.name :=
    map_group_get?_ofCalls hfree
  rw [hnone, Option.map_none] at hgroup
  exact History.group?_eq_none_iff.1 hgroup.symm call hmem rfl

end Registry

namespace SlotTable

theorem collisions_ofCalls (calls : List Registration) :
    (ofCalls calls).collisions = calls.filterMap (Registry.ofCalls calls).refusal? :=
  (Registry.collisions_close calls).trans (Registry.collisions_ofCalls calls)

end SlotTable

namespace Summary

variable (filesScanned : Nat) (calls : List Registration)

theorem collisionCount_ofCalls :
    (⟨filesScanned, .ofCalls calls⟩ : Summary).collisionCount =
      calls.countP fun call => ((Registry.ofCalls calls).refusal? call).isSome := by
  rw [collisionCount, SlotTable.collisions_ofCalls]
  exact List.length_filterMap_eq_countP

theorem exitStatus_eq_zero_iff :
    (⟨filesScanned, .ofCalls calls⟩ : Summary).exitStatus = 0 ↔
      ∀ call ∈ calls, (Registry.ofCalls calls).refusal? call = none := by
  have hpositive : 0 < highestStatus := by decide
  have hcount : (⟨filesScanned, .ofCalls calls⟩ : Summary).exitStatus = 0 ↔
      (⟨filesScanned, .ofCalls calls⟩ : Summary).collisionCount = 0 := by
    rw [exitStatus]
    omega
  rw [hcount, collisionCount_ofCalls, List.countP_eq_zero]
  simp only [Bool.not_eq_true, Option.isSome_eq_false_iff, Option.isNone_iff_eq_none]

end Summary

/-- The collisions of a registry, before and after it is closed and numbered, are what the registry at the end would record of each call, in the order of the calls. The exit status counts the calls that it refuses, up to the highest status, and is zero exactly if there are none. -/
theorem Registry.collisions_judged_at_end (calls : List Registration) (filesScanned : Nat) :
    (ofCalls calls).collisions.toList = calls.filterMap (ofCalls calls).refusal? ∧
    (ofCalls calls).close.collisions = (ofCalls calls).collisions.toList ∧
    (SlotTable.ofCalls calls).collisions = (ofCalls calls).collisions.toList ∧
    (∀ call ∈ calls, call.name ≠ closingName → (ofCalls calls).get? call.name ≠ none) ∧
    (⟨filesScanned, .ofCalls calls⟩ : Summary).exitStatus =
      min 255 (calls.countP fun call => ((ofCalls calls).refusal? call).isSome) ∧
    ((⟨filesScanned, .ofCalls calls⟩ : Summary).exitStatus = 0 ↔
      ∀ call ∈ calls, (ofCalls calls).refusal? call = none) := by
  refine ⟨collisions_ofCalls calls, collisions_close calls, collisions_close calls, ?_, ?_, ?_⟩
  · intro call hmem hfree
    exact get?_ne_none_of_mem hmem hfree
  · rw [← Summary.collisionCount_ofCalls filesScanned]
    rfl
  · exact Summary.exitStatus_eq_zero_iff filesScanned calls

/-- A second group for a name and a call of the closing name are refused, also with the closing group. -/
theorem Registry.collisions_of_two_refusals :
    let calls : List Registration := [⟨⟨2⟩, "a", ""⟩, ⟨⟨9⟩, "a", "x"⟩, ⟨.closing, closingName, ""⟩]
    (ofCalls calls).collisions.toList = [⟨"a", ⟨2⟩, ⟨9⟩, "x"⟩, ⟨closingName, .closing, .closing, ""⟩] ∧
    (⟨⟨9⟩, "a", "x"⟩ ∈ calls ∧ "a" ≠ closingName ∧ (ofCalls calls).get? "a" ≠ none) ∧
    (⟨1, .ofCalls calls⟩ : Summary).exitStatus = 2 := by
  intro calls
  obtain ⟨hcollisions, -, -, hknown, hstatus, -⟩ := collisions_judged_at_end calls 1
  have hrefused : calls.filterMap (ofCalls calls).refusal? =
      [⟨"a", ⟨2⟩, ⟨9⟩, "x"⟩, ⟨closingName, .closing, .closing, ""⟩] := by decide +kernel
  have hcount : calls.countP (fun call => ((ofCalls calls).refusal? call).isSome) = 2 := by decide +kernel
  have hmem : (⟨⟨9⟩, "a", "x"⟩ : Registration) ∈ calls := by decide
  have hfree : "a" ≠ closingName := by decide
  rw [hcount] at hstatus
  exact ⟨hcollisions.trans hrefused, ⟨hmem, hfree, hknown _ hmem hfree⟩, hstatus⟩

end DriverIndex
