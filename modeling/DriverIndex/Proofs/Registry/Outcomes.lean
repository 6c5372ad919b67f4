import DriverIndex.Proofs.Registry.Collisions
import DriverIndex.Proofs.SlotTable.Numbering

/-!
# Which calls leave a trace

A registry answers every call with an outcome. A call that is a duplicate or a collision leaves the definitions and their positions as they were, and no later answer asks for anything else, so such calls can be left out of a run: the other answers stay, and all that is missing is their own collisions. Calls that were made before are of this kind. What was accepted once is a duplicate the next time, and what was refused is refused again, because the group of a name is the same ever after.
-/

namespace DriverIndex

/-- Whether a call with this outcome changed a definition or made one. -/
def Outcome.isChange : Outcome → Bool
  | .inserted => true
  | .extended => true
  | .duplicate => false
  | .collision _ => false

/-- What stands at the kept positions of a list. -/
def keepAt {α : Type} (kept : Nat → Bool) (xs : List α) : List α :=
  (xs.zipIdx.filter fun place => kept place.2).map Prod.fst

theorem keepAt_concat {α : Type} (kept : Nat → Bool) (xs : List α) (x : α) :
    keepAt kept (xs ++ [x]) = keepAt kept xs ++ if kept xs.length = true then [x] else [] := by
  rw [keepAt, List.zipIdx_append, List.filter_append, List.map_append, ← keepAt, List.zipIdx_singleton, Nat.zero_add]
  by_cases hkept : kept xs.length = true <;> simp [hkept]

namespace Registry

/-- The outcomes of calls that are made one after the other. -/
def outcomes (registry : Registry) : List Registration → List Outcome
  | [] => []
  | call :: rest => (registry.register call).1 :: (registry.register call).2.outcomes rest

variable {registry former latter : Registry} {calls repeated : List Registration} {call : Registration} {outcome : Outcome}

theorem outcomes_append (registry : Registry) (first later : List Registration) :
    registry.outcomes (first ++ later) = registry.outcomes first ++ (registry.registerAll first).outcomes later := by
  induction first generalizing registry with
  | nil => rfl
  | cons call rest ih => rw [List.cons_append, outcomes, outcomes, ih, registerAll_cons, List.cons_append]

theorem outcomes_concat (calls : List Registration) (call : Registration) :
    empty.outcomes (calls ++ [call]) = empty.outcomes calls ++ [((ofCalls calls).register call).1] :=
  outcomes_append empty calls [call]

@[simp] theorem length_outcomes (registry : Registry) (calls : List Registration) :
    (registry.outcomes calls).length = calls.length := by
  induction calls generalizing registry with
  | nil => rfl
  | cons call rest ih => rw [outcomes, List.length_cons, ih, List.length_cons]

theorem mem_zip_outcomes : (call, outcome) ∈ calls.zip (registry.outcomes calls) ↔
    ∃ front back, calls = front ++ call :: back ∧ ((registry.registerAll front).register call).1 = outcome := by
  constructor
  · induction calls generalizing registry with
    | nil => exact fun hmem => absurd hmem List.not_mem_nil
    | cons first rest ih =>
      rw [outcomes, List.zip_cons_cons, List.mem_cons, Prod.mk.injEq]
      rintro (⟨rfl, rfl⟩ | hmem)
      · exact ⟨[], rest, rfl, rfl⟩
      · obtain ⟨front, back, rfl, houtcome⟩ := ih hmem
        exact ⟨first :: front, back, rfl, houtcome⟩
  · rintro ⟨front, back, rfl, rfl⟩
    rw [outcomes_append, List.zip_append (length_outcomes registry front).symm, outcomes, List.zip_cons_cons]
    exact List.mem_append_right _ List.mem_cons_self

/-- The collisions that calls add are those among their outcomes. -/
theorem Located.collisions_registerAll (hlocated : registry.Located) (calls : List Registration) :
    (registry.registerAll calls).collisions.toList =
      registry.collisions.toList ++ (registry.outcomes calls).filterMap Outcome.collision? := by
  induction calls generalizing registry with
  | nil => rw [registerAll_nil, outcomes, List.filterMap_nil, List.append_nil]
  | cons call rest ih =>
    rw [registerAll_cons, ih (hlocated.register call), hlocated.collisions_register, List.append_assoc, outcomes]
    cases hcollision : (registry.register call).1.collision? with
    | none => rw [List.filterMap_cons_none hcollision, Option.toList_none, List.nil_append]
    | some collision =>
      rw [List.filterMap_cons_some hcollision, Option.toList_some, List.singleton_append]

theorem collisions_ofCalls_eq_outcomes (calls : List Registration) :
    (ofCalls calls).collisions.toList = (empty.outcomes calls).filterMap Outcome.collision? :=
  located_empty.collisions_registerAll calls

/-! ### Calls that can be left out -/

/-- Two registries that differ in nothing but their collisions. -/
structure Agrees (former latter : Registry) : Prop where
  definitions : former.definitions = latter.definitions
  positions : former.positions = latter.positions

theorem Agrees.refl (registry : Registry) : registry.Agrees registry := ⟨rfl, rfl⟩

theorem Agrees.trans {middle : Registry} (hfirst : former.Agrees middle) (hsecond : middle.Agrees latter) :
    former.Agrees latter :=
  ⟨hfirst.definitions.trans hsecond.definitions, hfirst.positions.trans hsecond.positions⟩

theorem Agrees.symm (hagrees : former.Agrees latter) : latter.Agrees former :=
  ⟨hagrees.definitions.symm, hagrees.positions.symm⟩

theorem Agrees.locate?_eq (hagrees : former.Agrees latter) (name : String) :
    former.locate? name = latter.locate? name := by
  rw [locate?, locate?, hagrees.definitions, hagrees.positions]

/-- Registries that agree give the same answer and agree afterwards: no answer asks for the collisions. -/
theorem Agrees.register (hagrees : former.Agrees latter) (call : Registration) :
    (former.register call).1 = (latter.register call).1 ∧
      (former.register call).2.Agrees (latter.register call).2 := by
  have hcollide : ∀ existing, (former.collide existing call).1 = (latter.collide existing call).1 ∧
      (former.collide existing call).2.Agrees (latter.collide existing call).2 := fun _ => ⟨rfl, hagrees.1, hagrees.2⟩
  rw [Registry.register, Registry.register]
  by_cases hclosing : call.name = closingName
  · rw [if_pos hclosing, if_pos hclosing]
    exact hcollide .closing
  · rw [if_neg hclosing, if_neg hclosing, insert, insert, hagrees.locate?_eq]
    cases latter.locate? call.name with
    | none =>
      refine ⟨rfl, ?_, ?_⟩
      · rw [define, define, hagrees.definitions]
      · rw [define, define, hagrees.positions, size, size, hagrees.definitions]
    | some found =>
      dsimp only
      split_ifs
      · exact hcollide found.2.group
      · exact ⟨rfl, hagrees⟩
      · refine ⟨rfl, ?_, hagrees.positions⟩
        rw [extend, extend, hagrees.definitions]

/-- A duplicate or a collision leaves the definitions and their positions as they were. -/
theorem Located.agrees_register (hlocated : registry.Located) (hchange : (registry.register call).1.isChange = false) :
    (registry.register call).2.Agrees registry := by
  have hregisters := hlocated.registers call
  generalize registry.register call = result at hregisters hchange
  cases hregisters with
  | inserted => cases hchange
  | extended => cases hchange
  | duplicate => exact .refl registry
  | disagreed => exact ⟨rfl, rfl⟩
  | reserved => exact ⟨rfl, rfl⟩

/-- Without calls that changed nothing, a run has the same definitions and gives the other calls the same answers. -/
theorem agrees_keepAt {kept : Nat → Bool}
    (hleft : ∀ position outcome, (empty.outcomes calls)[position]? = some outcome → kept position = false →
      outcome.isChange = false) :
    (ofCalls (keepAt kept calls)).Agrees (ofCalls calls) ∧
      empty.outcomes (keepAt kept calls) = keepAt kept (empty.outcomes calls) := by
  induction calls using List.reverseRecOn with
  | nil => exact ⟨.refl empty, rfl⟩
  | append_singleton calls call ih =>
    rw [outcomes_concat] at hleft
    have hearlier : ∀ position outcome, (empty.outcomes calls)[position]? = some outcome → kept position = false →
        outcome.isChange = false := by
      intro position outcome hposition
      refine hleft position outcome ?_
      rwa [List.getElem?_append_left (List.getElem?_eq_some_iff.1 hposition).1]
    obtain ⟨hagrees, houtcomes⟩ := ih hearlier
    obtain ⟨hsame, hnext⟩ := hagrees.register call
    rw [keepAt_concat, outcomes_concat, keepAt_concat, length_outcomes]
    by_cases hkept : kept calls.length = true
    · rw [if_pos hkept, if_pos hkept, ofCalls_concat, ofCalls_concat, outcomes_concat, houtcomes, hsame]
      exact ⟨hnext, rfl⟩
    · rw [if_neg hkept, if_neg hkept, List.append_nil, List.append_nil, ofCalls_concat]
      have hlast : (empty.outcomes calls ++ [((ofCalls calls).register call).1])[calls.length]? =
          some ((ofCalls calls).register call).1 := by
        rw [← length_outcomes empty calls, List.getElem?_concat_length]
      have hunchanged := (located_ofCalls calls).agrees_register (hleft _ _ hlast (Bool.eq_false_iff.2 hkept))
      exact ⟨hagrees.trans hunchanged.symm, houtcomes⟩

/-! ### Calls that were made before -/

theorem refusal?_append (hmem : call ∈ calls) (later : List Registration) :
    (ofCalls (calls ++ later)).refusal? call = (ofCalls calls).refusal? call := by
  induction later using List.reverseRecOn with
  | nil => rw [List.append_nil]
  | append_singleton later latest ih =>
    have hmade : call ∈ calls ++ later ++ [latest] := List.mem_append_left _ (List.mem_append_left _ hmem)
    rw [← List.append_assoc, refusal?_concat hmade, ih]

/-- A call that was made before is a duplicate, or is refused again. -/
theorem outcome_of_mem (hmem : call ∈ calls) :
    ((ofCalls calls).register call).1 = ((ofCalls calls).refusal? call).elim .duplicate .collision := by
  rw [← collision?_register, outcome_register]
  rcases History.outcome_cases calls call with ⟨-, hgroup, -⟩ | ⟨-, -, htag, -⟩ | ⟨-, -, -, heq⟩ | ⟨existing, -, heq⟩
  · exact absurd rfl (History.group?_eq_none_iff.1 hgroup call hmem)
  · exact absurd (History.mem_tags.2 hmem) htag
  · rw [heq]
    rfl
  · rw [heq]
    rfl

theorem isChange_of_mem (hmem : call ∈ calls) : ((ofCalls calls).register call).1.isChange = false := by
  rw [outcome_of_mem hmem]
  cases (ofCalls calls).refusal? call <;> rfl

/-- Calls that were all made before change no definition. -/
theorem agrees_append (hrepeated : ∀ call ∈ repeated, call ∈ calls) :
    (ofCalls (calls ++ repeated)).Agrees (ofCalls calls) := by
  induction repeated using List.reverseRecOn with
  | nil => exact (List.append_nil calls).symm ▸ .refl _
  | append_singleton front call ih =>
    have hmem : call ∈ calls ++ front := List.mem_append_left _ (hrepeated call (by simp))
    have hunchanged := (located_ofCalls (calls ++ front)).agrees_register (isChange_of_mem hmem)
    rw [← List.append_assoc, ofCalls_concat]
    exact hunchanged.trans (ih fun former hformer => hrepeated former (List.mem_append_left _ hformer))

/-- The answer to a call says whether it is refused in the end. -/
theorem collision?_of_mem_zip_outcomes (hanswer : (call, outcome) ∈ calls.zip (empty.outcomes calls)) :
    outcome.collision? = (ofCalls calls).refusal? call := by
  obtain ⟨front, back, rfl, rfl⟩ := mem_zip_outcomes.1 hanswer
  have hlast : call ∈ front ++ [call] := List.mem_append_right _ List.mem_cons_self
  rw [List.append_cons, refusal?_append hlast, refusal?_concat hlast]
  exact collision?_register front call

/-- A call is answered again as it was, only that what was accepted is a duplicate now. -/
theorem outcome_of_repeated {first : Outcome} (hrepeated : ∀ call ∈ repeated, call ∈ calls)
    (hagain : (call, outcome) ∈ repeated.zip ((ofCalls calls).outcomes repeated))
    (hfirst : (call, first) ∈ calls.zip (empty.outcomes calls)) :
    outcome = if first.isCollision = true then first else .duplicate := by
  obtain ⟨front, back, rfl, rfl⟩ := mem_zip_outcomes.1 hagain
  have hmem : call ∈ calls := hrepeated call (List.mem_append_right _ List.mem_cons_self)
  rw [ofCalls, ← registerAll_append, ← ofCalls, outcome_of_mem (List.mem_append_left front hmem), refusal?_append hmem,
    ← collision?_of_mem_zip_outcomes hfirst]
  cases first <;> rfl

end Registry

theorem SlotTable.definitions_eq_of_agrees {calls others : List Registration}
    (hagrees : (Registry.ofCalls calls).Agrees (Registry.ofCalls others)) :
    (ofCalls calls).definitions = (ofCalls others).definitions ∧ (ofCalls calls).size = (ofCalls others).size := by
  rw [definitions_ofCalls, definitions_ofCalls, size_ofCalls, size_ofCalls, hagrees.definitions]
  exact ⟨rfl, rfl⟩

/-- Calls that were duplicates or collisions can be left out at any positions: the definitions, their positions and their slots stay, and so does the answer to every other call, and the collisions are those of the calls that are left. And calls that were made before can follow in any number: they change no definition and no slot, each is a duplicate if it was accepted and is refused as before if it was not, and their collisions are all that is added. -/
theorem Registry.rejected_calls_leave_no_trace (calls : List Registration) :
    (∀ kept : Nat → Bool, (∀ position outcome, (empty.outcomes calls)[position]? = some outcome →
        kept position = false → outcome = .duplicate ∨ outcome.isCollision = true) →
      (ofCalls (keepAt kept calls)).Agrees (ofCalls calls) ∧
      (SlotTable.ofCalls (keepAt kept calls)).definitions = (SlotTable.ofCalls calls).definitions ∧
      (SlotTable.ofCalls (keepAt kept calls)).size = (SlotTable.ofCalls calls).size ∧
      empty.outcomes (keepAt kept calls) = keepAt kept (empty.outcomes calls) ∧
      (ofCalls calls).collisions.toList = (empty.outcomes calls).filterMap Outcome.collision? ∧
      (ofCalls (keepAt kept calls)).collisions.toList =
        (keepAt kept (empty.outcomes calls)).filterMap Outcome.collision?) ∧
    ∀ repeated : List Registration, (∀ call ∈ repeated, call ∈ calls) →
      (ofCalls (calls ++ repeated)).Agrees (ofCalls calls) ∧
      (SlotTable.ofCalls (calls ++ repeated)).definitions = (SlotTable.ofCalls calls).definitions ∧
      (SlotTable.ofCalls (calls ++ repeated)).size = (SlotTable.ofCalls calls).size ∧
      (∀ call outcome first, (call, outcome) ∈ repeated.zip ((ofCalls calls).outcomes repeated) →
        (call, first) ∈ calls.zip (empty.outcomes calls) →
        outcome = if first.isCollision = true then first else .duplicate) ∧
      (ofCalls (calls ++ repeated)).collisions.toList =
        (ofCalls calls).collisions.toList ++ ((ofCalls calls).outcomes repeated).filterMap Outcome.collision? := by
  constructor
  · intro kept hleft
    have hchange : ∀ position outcome, (empty.outcomes calls)[position]? = some outcome → kept position = false →
        outcome.isChange = false := by
      intro position outcome hposition hkept
      have hrejected := hleft position outcome hposition hkept
      cases outcome <;> simp [Outcome.isChange, Outcome.isCollision] at hrejected ⊢
    obtain ⟨hagrees, houtcomes⟩ := agrees_keepAt hchange
    obtain ⟨hdefinitions, hsize⟩ := SlotTable.definitions_eq_of_agrees hagrees
    refine ⟨hagrees, hdefinitions, hsize, houtcomes, collisions_ofCalls_eq_outcomes calls, ?_⟩
    rw [collisions_ofCalls_eq_outcomes, houtcomes]
  · intro repeated hrepeated
    have hagrees := agrees_append hrepeated
    obtain ⟨hdefinitions, hsize⟩ := SlotTable.definitions_eq_of_agrees hagrees
    refine ⟨hagrees, hdefinitions, hsize, fun call outcome first => outcome_of_repeated hrepeated, ?_⟩
    rw [ofCalls, registerAll_append, ← ofCalls]
    exact (located_ofCalls calls).collisions_registerAll repeated

/-- Without a duplicate and one of two collisions the same tags are left, and a call that was refused twice is refused a third time. -/
theorem Registry.rejected_calls_left_out :
    let refused : Registration := ⟨⟨9⟩, "a", "x"⟩
    let collision : Collision := ⟨"a", ⟨2⟩, ⟨9⟩, "x"⟩
    let calls : List Registration := [⟨⟨2⟩, "a", ""⟩, refused, ⟨⟨2⟩, "a", ""⟩, ⟨⟨2⟩, "a", "y"⟩, refused]
    let kept : Nat → Bool := fun position => position ≠ 1 ∧ position ≠ 2
    let repeated : List Registration := [⟨⟨2⟩, "a", "y"⟩, refused]
    (empty.outcomes calls = [.inserted, .collision collision, .duplicate, .extended, .collision collision] ∧
      keepAt kept calls = [⟨⟨2⟩, "a", ""⟩, ⟨⟨2⟩, "a", "y"⟩, refused] ∧
      (ofCalls (keepAt kept calls)).Agrees (ofCalls calls) ∧
      (ofCalls (keepAt kept calls)).collisions.toList = [collision]) ∧
    refused ∈ repeated ∧ refused ∈ calls ∧ (ofCalls (calls ++ repeated)).Agrees (ofCalls calls) ∧
    (ofCalls calls).outcomes repeated = [.duplicate, .collision collision] ∧
    Outcome.collision collision =
      (if (Outcome.collision collision).isCollision = true then .collision collision else .duplicate) ∧
    (ofCalls (calls ++ repeated)).collisions.toList = [collision, collision, collision] := by
  intro refused collision calls kept repeated
  have houtcomes : empty.outcomes calls =
      [.inserted, .collision collision, .duplicate, .extended, .collision collision] := by decide +kernel
  have hagain : (ofCalls calls).outcomes repeated = [.duplicate, .collision collision] := by decide +kernel
  have hleft : ∀ position outcome, (empty.outcomes calls)[position]? = some outcome → kept position = false →
      outcome = .duplicate ∨ outcome.isCollision = true := by
    intro position outcome hposition hkept
    have hplace : position = 1 ∨ position = 2 := by simpa [kept, or_iff_not_imp_left] using hkept
    rw [houtcomes] at hposition
    rcases hplace with rfl | rfl
    · exact .inr (Option.some.inj hposition ▸ rfl)
    · exact .inl (Option.some.inj hposition).symm
  have hrepeated : ∀ call ∈ repeated, call ∈ calls := by decide
  obtain ⟨hkept, hadded⟩ := rejected_calls_leave_no_trace calls
  obtain ⟨hagrees, -, -, -, -, hcollisions⟩ := hkept kept hleft
  obtain ⟨hagreesAgain, -, -, hanswer, hcollisionsAgain⟩ := hadded repeated hrepeated
  refine ⟨⟨houtcomes, by decide, hagrees, ?_⟩, by decide, by decide, hagreesAgain, hagain, ?_, ?_⟩
  · rw [hcollisions, houtcomes]
    decide
  · refine hanswer refused _ _ ?_ ?_
    · rw [hagain]
      decide
    · rw [houtcomes]
      decide
  · rw [hcollisionsAgain, hagain, collisions_ofCalls_eq_outcomes, houtcomes]
    decide

end DriverIndex
