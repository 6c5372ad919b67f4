import DriverIndex.Proofs.Registry.Growth
import DriverIndex.Proofs.SlotTable.LayeredTags
import DriverIndex.Proofs.SlotTable.Placement

/-!
# How later calls move slots

The number of a slot is the place of its key behind the widths of all definitions before. Later calls put tags behind the tags of a definition and definitions behind the definitions, so a key keeps its place and only the widths before it can grow: by one for every tag that an earlier definition gets, unless that definition is layered. New definitions come behind the old ones and move none of them but the closing one.
-/

namespace DriverIndex

namespace Definition

variable (definition : Definition) (later : List Registration)

theorem keys_grown_of_layered (hlayered : definition.group.isLayered = true) :
    (definition.grown later).keys = definition.keys := by
  rw [keys_of_layered hlayered, keys_of_layered (by exact hlayered)]

theorem keys_isPrefix_keys_grown : definition.keys <+: (definition.grown later).keys := by
  by_cases hlayered : definition.group.isLayered = true
  · exact (definition.keys_grown_of_layered later hlayered).symm ▸ List.prefix_rfl
  · rw [keys_of_not_layered hlayered, keys_of_not_layered (by exact hlayered)]
    exact List.prefix_append _ _

/-- A grown definition keeps its slots, moved with its first one. -/
theorem mem_numberKeys_grown {definition : Definition} {next : Nat} {slot : Slot}
    (hslot : slot ∈ numberKeys next definition.keys) (later : List Registration) (moved : Nat) :
    ⟨slot.key, slot.index + moved⟩ ∈ numberKeys (next + moved) (definition.grown later).keys := by
  obtain ⟨offset, hkey, hindex⟩ := mem_numberKeys.1 hslot
  obtain ⟨more, hmore⟩ := definition.keys_isPrefix_keys_grown later
  refine mem_numberKeys.2 ⟨offset, ?_, ?_⟩
  · rw [← hmore, List.getElem?_append_left (List.getElem?_eq_some_iff.1 hkey).1, hkey]
  · show slot.index + moved = next + moved + offset
    omega

/-- Definitions grow by one slot for every new tag of a definition that is not layered. -/
theorem sum_width_grown (definitions : List Definition) :
    ((definitions.map (·.grown later)).map width).sum = (definitions.map width).sum +
      ((definitions.filter fun definition => !definition.group.isLayered).map fun definition =>
        (definition.newTags later).length).sum := by
  induction definitions with
  | nil => rfl
  | cons definition rest ih =>
    simp only [List.map_cons, List.sum_cons, ih]
    by_cases hlayered : definition.group.isLayered = true
    · rw [List.filter_cons_of_neg (by simp [hlayered]), width, keys_grown_of_layered definition later hlayered, width]
      omega
    · rw [List.filter_cons_of_pos (by simp [hlayered]), width, keys_of_not_layered (by exact hlayered), width,
        keys_of_not_layered hlayered, grown, List.length_append, List.map_cons, List.sum_cons]
      omega

end Definition

namespace SlotTable

/-- The number of tags that later calls add to the definitions that stand before a name and are not layered. -/
def shift (calls later : List Registration) (name : String) : Nat :=
  ((((Registry.ofCalls calls).definitions.toList.takeWhile fun definition => definition.name ≠ name).filter
    fun definition => !definition.group.isLayered).map fun definition => (definition.newTags later).length).sum

variable {calls later front back : List Registration} {place : IndexedDefinition × Slot}

theorem mem_numberFrom_of_mem_definitions {indexed : IndexedDefinition} (hmem : indexed ∈ (ofCalls calls).definitions)
    (hopen : indexed.name ≠ closingName) : indexed ∈ numberFrom 0 (History.definitions calls) := by
  rw [definitions_ofCalls, Registry.definitions_ofCalls, List.mem_append] at hmem
  rcases hmem with hmem | hlast
  · exact hmem
  · rw [List.mem_singleton.1 hlast] at hopen
    exact absurd rfl hopen

theorem takeWhile_definitions {formers latters : List Definition} {definition : Definition}
    (hsplit : History.definitions calls = formers ++ definition :: latters) :
    ((History.definitions calls).takeWhile fun former => former.name ≠ definition.name) = formers := by
  have hnodup := History.nodup_names calls
  rw [← History.map_name_definitions, hsplit, List.map_append, List.map_cons, List.nodup_append] at hnodup
  have hbefore : ∀ former ∈ formers, decide (former.name ≠ definition.name) = true := by
    intro former hmem
    exact decide_eq_true (hnodup.2.2 _ (List.mem_map_of_mem hmem) _ List.mem_cons_self)
  rw [hsplit, List.takeWhile_append_of_pos hbefore, List.takeWhile_cons_of_neg (by simp), List.append_nil]

/-- Every slot is found again with its name and its key, as many numbers later as the definitions before it have grown. -/
theorem exists_moved (hplace : place ∈ (ofCalls calls).placed) (hopen : place.1.name ≠ closingName) :
    ∃ moved ∈ (ofCalls (calls ++ later)).placed, label moved = label place ∧
      moved.2.index = place.2.index + shift calls later place.1.name := by
  obtain ⟨indexed, slot⟩ := place
  obtain ⟨hindexed, hslot⟩ := mem_placed.1 hplace
  obtain ⟨formers, definition, latters, hsplit, rfl⟩ :=
    mem_numberFrom_iff.1 (mem_numberFrom_of_mem_definitions hindexed hopen)
  have hshift : ((formers.map (·.grown later)).map Definition.width).sum =
      (formers.map Definition.width).sum + shift calls later definition.name := by
    rw [Definition.sum_width_grown, shift, Registry.definitions_ofCalls, takeWhile_definitions hsplit]
  let moved : IndexedDefinition := ⟨definition.name, definition.group,
    numberKeys (0 + (formers.map Definition.width).sum + shift calls later definition.name) (definition.grown later).keys⟩
  have hmoved : moved ∈ numberFrom 0 (History.definitions (calls ++ later)) := by
    obtain ⟨added, hadded⟩ := History.definitions_append calls later
    rw [hadded, hsplit, List.map_append, List.map_cons, List.append_assoc, List.cons_append]
    refine mem_numberFrom_iff.2 ⟨_, definition.grown later, _, rfl, ?_⟩
    rw [hshift, ← Nat.add_assoc]
    rfl
  have hkept : ⟨slot.key, slot.index + shift calls later definition.name⟩ ∈ moved.slots :=
    Definition.mem_numberKeys_grown hslot later _
  refine ⟨(moved, _), mem_placed.2 ⟨?_, hkept⟩, rfl, rfl⟩
  rw [definitions_ofCalls, Registry.definitions_ofCalls]
  exact List.mem_append_left _ hmoved

/-! ### What moves nothing -/

theorem numberFrom_grown {definitions : List Definition}
    (hkept : ∀ definition ∈ definitions, (definition.grown later).keys = definition.keys) (next : Nat) :
    numberFrom next (definitions.map (·.grown later)) = numberFrom next definitions := by
  induction definitions generalizing next with
  | nil => rfl
  | cons definition rest ih =>
    rw [List.map_cons, numberFrom, numberFrom, hkept definition List.mem_cons_self,
      ih fun former hmem => hkept former (List.mem_cons_of_mem _ hmem)]
    rfl

theorem mem_placed_of_unextended (hplace : place ∈ (ofCalls calls).placed) (hopen : place.1.name ≠ closingName)
    (hlayered : ∀ definition ∈ (Registry.ofCalls calls).definitions.toList,
      Registry.Extends calls later definition.name → definition.group.isLayered = true) :
    place ∈ (ofCalls (calls ++ later)).placed := by
  obtain ⟨hindexed, hslot⟩ := mem_placed.1 hplace
  have hkept : ∀ definition ∈ History.definitions calls, (definition.grown later).keys = definition.keys := by
    intro definition hmem
    by_cases hextends : Registry.Extends calls later definition.name
    · exact definition.keys_grown_of_layered later (hlayered definition (Registry.definitions_ofCalls calls ▸ hmem) hextends)
    · rw [Definition.grown_of_newTags_eq_nil (not_not.1 (mt (Registry.extends_iff hmem).2 hextends))]
  obtain ⟨added, hadded⟩ := History.definitions_append calls later
  refine mem_placed.2 ⟨?_, hslot⟩
  rw [definitions_ofCalls, Registry.definitions_ofCalls, hadded, numberFrom_append, numberFrom_grown hkept,
    List.append_assoc]
  exact List.mem_append_left _ (mem_numberFrom_of_mem_definitions hindexed hopen)

theorem size_le_size_append (calls later : List Registration) : (ofCalls calls).size ≤ (ofCalls (calls ++ later)).size := by
  obtain ⟨added, hadded⟩ := History.definitions_append calls later
  rw [size_ofCalls, size_ofCalls, Registry.definitions_ofCalls, Registry.definitions_ofCalls, hadded, List.map_append,
    List.sum_append, Definition.sum_width_grown]
  omega

/-- Later calls move a slot, other than the closing one, by the number of tags that they add before it to definitions that are not layered; the definitions themselves grow by those tags. So if they extend no name but layered ones then all these slots stay where they are. A call that is refused, was made already or extends a layered definition might as well not be made, and the table never gets shorter. -/
theorem later_calls_move_slots (calls later : List Registration) :
    (∀ place ∈ (ofCalls calls).placed, place.1.name ≠ closingName → ∃ moved ∈ (ofCalls (calls ++ later)).placed,
      label moved = label place ∧ moved.2.index = place.2.index + shift calls later place.1.name) ∧
    (∀ definition ∈ (Registry.ofCalls calls).definitions.toList,
      (Registry.ofCalls (calls ++ later)).get? definition.name = some (definition.grown later)) ∧
    ((∀ definition ∈ (Registry.ofCalls calls).definitions.toList,
      Registry.Extends calls later definition.name → definition.group.isLayered = true) →
      ∀ place ∈ (ofCalls calls).placed, place.1.name ≠ closingName → place ∈ (ofCalls (calls ++ later)).placed) ∧
    (∀ front call back, later = front ++ call :: back → (Registry.ofCalls (calls ++ front)).Idles call →
      (ofCalls (calls ++ later)).definitions = (ofCalls (calls ++ (front ++ back))).definitions ∧
      (ofCalls (calls ++ later)).size = (ofCalls (calls ++ (front ++ back))).size) ∧
    (ofCalls calls).size ≤ (ofCalls (calls ++ later)).size := by
  refine ⟨fun place => exists_moved, ?_, ?_, ?_, size_le_size_append calls later⟩
  · intro definition hmem
    rw [Registry.definitions_ofCalls] at hmem
    rw [Registry.get?_ofCalls]
    exact History.mem_definitions.1 (History.grown_mem_definitions hmem later)
  · intro hlayered place hplace hopen
    exact mem_placed_of_unextended hplace hopen hlayered
  · rintro front call back rfl hidles
    have halike := History.definitions_alike_without hidles back
    rw [List.append_assoc, List.append_assoc] at halike
    exact ⟨definitions_eq_of_alike halike, size_eq_of_alike halike⟩

/-- A new tag moves the slots behind its definition. A layered tag, a new name and a collision move none of them. -/
theorem later_calls_move_slots_by_one :
    let calls : List Registration := [⟨⟨2⟩, "a", "x"⟩, ⟨⟨0⟩, "l", ""⟩, ⟨⟨3⟩, "b", "z"⟩]
    let moving : List Registration := [⟨⟨2⟩, "a", "y"⟩, ⟨⟨9⟩, "b", "z"⟩]
    let still : List Registration := [⟨⟨9⟩, "b", "z"⟩, ⟨⟨0⟩, "l", "x"⟩, ⟨⟨5⟩, "c", ""⟩]
    let first : Definition := ⟨"a", ⟨2⟩, ["x"]⟩
    let place : IndexedDefinition × Slot := (⟨"b", ⟨3⟩, [⟨"z", 4⟩]⟩, ⟨"z", 4⟩)
    (place ∈ (ofCalls calls).placed ∧ place.1.name ≠ closingName ∧
      ∃ moved ∈ (ofCalls (calls ++ moving)).placed, label moved = ("b", "z") ∧ moved.2.index = 5) ∧
    (first ∈ (Registry.ofCalls calls).definitions.toList ∧
      (Registry.ofCalls (calls ++ moving)).get? "a" = some ⟨"a", ⟨2⟩, ["x", "y"]⟩) ∧
    ((∀ definition ∈ (Registry.ofCalls calls).definitions.toList,
      Registry.Extends calls still definition.name → definition.group.isLayered = true) ∧
      place ∈ (ofCalls (calls ++ still)).placed) ∧
    ((Registry.ofCalls (calls ++ [⟨⟨9⟩, "b", "z"⟩])).Idles ⟨⟨0⟩, "l", "x"⟩ ∧
      (ofCalls (calls ++ still)).definitions = (ofCalls (calls ++ [⟨⟨9⟩, "b", "z"⟩, ⟨⟨5⟩, "c", ""⟩])).definitions) ∧
    (ofCalls calls).size ≤ (ofCalls (calls ++ moving)).size := by
  intro calls moving still first place
  obtain ⟨hmoved, hgrown, -, -, hsize⟩ := later_calls_move_slots calls moving
  obtain ⟨-, -, hkept, hwithout, -⟩ := later_calls_move_slots calls still
  have hplace : place ∈ (ofCalls calls).placed := by decide +kernel
  have hopen : place.1.name ≠ closingName := by decide
  have hfirst : first ∈ (Registry.ofCalls calls).definitions.toList := by decide +kernel
  have hlayered : ∀ definition ∈ (Registry.ofCalls calls).definitions.toList,
      Registry.Extends calls still definition.name → definition.group.isLayered = true := by
    have hnone : ∀ definition ∈ History.definitions calls,
        definition.newTags still ≠ [] → definition.group.isLayered = true := by decide +kernel
    intro definition hmem hextends
    rw [Registry.definitions_ofCalls] at hmem
    exact hnone definition hmem ((Registry.extends_iff hmem).1 hextends)
  have hidles : (Registry.ofCalls (calls ++ [⟨⟨9⟩, "b", "z"⟩])).Idles ⟨⟨0⟩, "l", "x"⟩ := by
    have houtcome : ((Registry.ofCalls (calls ++ [⟨⟨9⟩, "b", "z"⟩])).register ⟨⟨0⟩, "l", "x"⟩).1 = .extended := by
      decide +kernel
    rw [Registry.Idles, houtcome]
    decide
  have hshift : shift calls moving "b" = 1 := by decide +kernel
  refine ⟨⟨hplace, hopen, ?_⟩, ⟨hfirst, ?_⟩, ⟨hlayered, hkept hlayered place hplace hopen⟩, ⟨hidles, ?_⟩, hsize⟩
  · obtain ⟨moved, hmem, hlabel, hindex⟩ := hmoved place hplace hopen
    exact ⟨moved, hmem, hlabel, hindex.trans (congrArg (4 + ·) hshift)⟩
  · have hgrowth : first.grown moving = ⟨"a", ⟨2⟩, ["x", "y"]⟩ := by decide +kernel
    exact (hgrown first hfirst).trans (congrArg some hgrowth)
  · exact (hwithout [⟨⟨9⟩, "b", "z"⟩] ⟨⟨0⟩, "l", "x"⟩ [⟨⟨5⟩, "c", ""⟩] rfl hidles).1

end SlotTable

end DriverIndex
