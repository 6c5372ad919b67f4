import DriverIndex.Proofs.Registry.Collisions
import DriverIndex.Proofs.Scan.Calls
import DriverIndex.Proofs.SlotTable.Numbering
import Mathlib.Algebra.BigOperators.Group.List.Basic
import Mathlib.Data.List.Perm.Lattice

/-!
# What the order of registrations decides

With collisions in play much depends on which registration of a name comes first: its group, its tags, how many calls are refused, the size of the table. Whether there is any collision does not: one is recorded exactly if the closing name is called or some name is called with two groups, and neither is a matter of order. Without collisions the first call of a name speaks for all of them, so two orders of the same calls differ in the order of names and tags only.
-/

namespace DriverIndex

namespace History

/-- The closing name is not called, and no name is called with two groups. -/
def Clean (calls : List Registration) : Prop :=
  ∀ call ∈ calls, call.name ≠ closingName ∧ ∀ other ∈ calls, other.name = call.name → other.group = call.group

variable {calls others : List Registration} {name : String} {group : Group}

/-! ### Without collisions -/

theorem Clean.group?_eq_some_iff (hclean : Clean calls) :
    group? calls name = some group ↔ ∃ call ∈ calls, call.name = name ∧ call.group = group := by
  constructor
  · exact exists_call_of_group?
  · rintro ⟨call, hmem, rfl, rfl⟩
    obtain ⟨first, hfirst⟩ := exists_group?_of_mem hmem
    obtain ⟨other, hother, hname, rfl⟩ := exists_call_of_group? hfirst
    rw [hfirst, (hclean call hmem).2 other hother hname]

theorem Clean.perm (hclean : Clean calls) (hperm : calls.Perm others) : Clean others := by
  intro call hmem
  obtain ⟨hfree, hagree⟩ := hclean call (hperm.mem_iff.2 hmem)
  exact ⟨hfree, fun other hother => hagree other (hperm.mem_iff.2 hother)⟩

theorem Clean.group?_eq_of_perm (hclean : Clean calls) (hperm : calls.Perm others) (name : String) :
    group? calls name = group? others name := by
  apply Option.ext
  intro group
  rw [hclean.group?_eq_some_iff, (hclean.perm hperm).group?_eq_some_iff]
  simp only [hperm.mem_iff]

theorem names_perm (hperm : calls.Perm others) : (names calls).Perm (names others) := by
  rw [List.perm_ext_iff_of_nodup (nodup_names calls) (nodup_names others)]
  intro name
  rw [mem_names, mem_names]
  simp only [hperm.mem_iff]

theorem tags_perm (hperm : calls.Perm others) (name : String) (group : Group) :
    (tags calls name group).Perm (tags others name group) := by
  rw [List.perm_ext_iff_of_nodup (nodup_tags calls name group) (nodup_tags others name group)]
  intro tag
  exact (mem_tags.trans hperm.mem_iff).trans mem_tags.symm

theorem Clean.definition?_of_perm (hclean : Clean calls) (hperm : calls.Perm others) {definition : Definition}
    (hdefinition : definition? calls name = some definition) :
    ∃ other, definition? others name = some other ∧ definition.group = other.group ∧
      definition.tags.Perm other.tags := by
  obtain ⟨hfree, -, hgroup, htags⟩ := definition?_eq_some_iff.1 hdefinition
  rw [hclean.group?_eq_of_perm hperm] at hgroup
  refine ⟨⟨name, definition.group, tags others name definition.group⟩, ?_, rfl, ?_⟩
  · exact definition?_eq_some_iff.2 ⟨hfree, rfl, hgroup, rfl⟩
  · rw [htags]
    exact tags_perm hperm name definition.group

/-! ### The size of the table -/

theorem width_eq_of_perm {former latter : Definition} (hgroup : former.group = latter.group)
    (htags : former.tags.Perm latter.tags) : former.width = latter.width := by
  rw [Definition.width, Definition.width]
  by_cases hlayered : latter.group.isLayered = true
  · rw [Definition.keys_of_layered hlayered, Definition.keys_of_layered (hgroup ▸ hlayered)]
  · rw [Definition.keys_of_not_layered hlayered, Definition.keys_of_not_layered (hgroup ▸ hlayered)]
    exact htags.length_eq

/-- The slots that a name takes. -/
def slotCount (calls : List Registration) (name : String) : Nat :=
  ((definition? calls name).map Definition.width).getD 0

theorem sum_width_definitions (calls : List Registration) :
    ((definitions calls).map Definition.width).sum = ((names calls).map (slotCount calls)).sum := by
  rw [definitions]
  induction names calls with
  | nil => rfl
  | cons name rest ih =>
    rw [List.map_cons, List.sum_cons, ← ih, slotCount]
    cases hdefinition : definition? calls name with
    | none =>
      rw [List.filterMap_cons_none hdefinition]
      exact (Nat.zero_add _).symm
    | some definition =>
      rw [List.filterMap_cons_some hdefinition]
      rfl

theorem Clean.slotCount_eq_of_perm (hclean : Clean calls) (hperm : calls.Perm others) (name : String) :
    slotCount calls name = slotCount others name := by
  rw [slotCount, slotCount]
  cases hdefinition : definition? calls name with
  | some definition =>
    obtain ⟨other, hother, hgroup, htags⟩ := hclean.definition?_of_perm hperm hdefinition
    rw [hother, Option.map_some, Option.map_some, width_eq_of_perm hgroup htags]
  | none =>
    have hunknown : name ∉ names others := by
      rw [← (names_perm hperm).mem_iff]
      exact definition?_eq_none_iff.1 hdefinition
    rw [definition?_eq_none_iff.2 hunknown]

end History

theorem SlotTable.size_eq_of_perm {calls others : List Registration} (hclean : History.Clean calls)
    (hperm : calls.Perm others) : (ofCalls calls).size = (ofCalls others).size := by
  have hcounts : (History.names calls).map (History.slotCount calls) =
      (History.names calls).map (History.slotCount others) :=
    List.map_congr_left fun name _ => hclean.slotCount_eq_of_perm hperm name
  rw [size_ofCalls, size_ofCalls, Registry.definitions_ofCalls, Registry.definitions_ofCalls,
    History.sum_width_definitions, History.sum_width_definitions, hcounts]
  exact ((History.names_perm hperm).map _).sum_eq

namespace Registry

variable {calls others : List Registration}

theorem refusal?_eq_none_iff {call : Registration} :
    (ofCalls calls).refusal? call = none ↔
      call.name ≠ closingName ∧ ∀ existing, History.group? calls call.name = some existing → existing = call.group := by
  by_cases hclosing : call.name = closingName
  · rw [refusal?_closing _ hclosing]
    simp [hclosing]
  · rw [refusal?_ofCalls hclosing]
    cases History.group? calls call.name with
    | none => simp [hclosing]
    | some existing => simp [hclosing]

/-- Whether any call is refused is not a matter of order. -/
theorem forall_refusal?_eq_none_iff :
    (∀ call ∈ calls, (ofCalls calls).refusal? call = none) ↔ History.Clean calls := by
  constructor
  · intro hnone call hmem
    obtain ⟨hfree, hexisting⟩ := refusal?_eq_none_iff.1 (hnone call hmem)
    refine ⟨hfree, fun other hother hname => ?_⟩
    obtain ⟨existing, hgroup⟩ := History.exists_group?_of_mem hmem
    have hcall := hexisting existing hgroup
    have hsame := (refusal?_eq_none_iff.1 (hnone other hother)).2 existing (hname ▸ hgroup)
    exact hsame.symm.trans hcall
  · intro hclean call hmem
    refine refusal?_eq_none_iff.2 ⟨(hclean call hmem).1, fun existing hgroup => ?_⟩
    obtain ⟨first, hfirst, hname, rfl⟩ := History.exists_call_of_group? hgroup
    exact (hclean call hmem).2 first hfirst hname

/-- The exit status of a run that ends with this registry. -/
def status (registry : Registry) (filesScanned : Nat) : Nat :=
  (⟨filesScanned, .ofClosed registry.close⟩ : Summary).exitStatus

theorem status_ofCalls_eq_zero_iff (filesScanned : Nat) :
    (ofCalls calls).status filesScanned = 0 ↔ History.Clean calls :=
  (Summary.exitStatus_eq_zero_iff filesScanned calls).trans forall_refusal?_eq_none_iff

theorem collisions_ofCalls_eq_nil_iff : (ofCalls calls).collisions.toList = [] ↔ History.Clean calls := by
  rw [collisions_ofCalls, List.filterMap_eq_nil_iff]
  exact forall_refusal?_eq_none_iff

/-- Two registries are both free of collisions or neither is, and if they are then they differ in order only. -/
structure SameVerdict (former latter : Registry) : Prop where
  collisions : former.collisions.toList = [] ↔ latter.collisions.toList = []
  status : ∀ filesScanned, former.status filesScanned = 0 ↔ latter.status filesScanned = 0
  names : former.collisions.toList = [] →
    (former.definitions.toList.map Definition.name).Perm (latter.definitions.toList.map Definition.name)
  definitions : former.collisions.toList = [] → ∀ name definition, former.get? name = some definition →
    ∃ other, latter.get? name = some other ∧ definition.group = other.group ∧ definition.tags.Perm other.tags
  size : former.collisions.toList = [] →
    (SlotTable.ofClosed former.close).size = (SlotTable.ofClosed latter.close).size

theorem sameVerdict_of_perm (hperm : calls.Perm others) : (ofCalls calls).SameVerdict (ofCalls others) := by
  have hverdict : History.Clean calls ↔ History.Clean others :=
    ⟨fun hclean => hclean.perm hperm, fun hclean => hclean.perm hperm.symm⟩
  refine ⟨?_, ?_, ?_, ?_, ?_⟩
  · rw [collisions_ofCalls_eq_nil_iff, collisions_ofCalls_eq_nil_iff, hverdict]
  · intro filesScanned
    rw [status_ofCalls_eq_zero_iff, status_ofCalls_eq_zero_iff, hverdict]
  · intro _
    rw [definitions_ofCalls, definitions_ofCalls, History.map_name_definitions, History.map_name_definitions]
    exact History.names_perm hperm
  · intro hnone name definition hdefinition
    rw [get?_ofCalls] at hdefinition ⊢
    exact (collisions_ofCalls_eq_nil_iff.1 hnone).definition?_of_perm hperm hdefinition
  · intro hnone
    exact SlotTable.size_eq_of_perm (collisions_ofCalls_eq_nil_iff.1 hnone) hperm

/-- Two orders of the same registrations come to the same verdict, and so do two orders of the same files. -/
theorem verdict_independent_of_order :
    (∀ calls others : List Registration, calls.Perm others → (ofCalls calls).SameVerdict (ofCalls others)) ∧
    ∀ (system : FileSystem) (marker : Marker) (files otherFiles : List Path), files.Perm otherFiles →
      ∀ registry, (Scan.scanFiles system marker files).outcome = .ok registry →
        ∃ other, (Scan.scanFiles system marker otherFiles).outcome = .ok other ∧ registry.SameVerdict other := by
  refine ⟨fun calls others => sameVerdict_of_perm, ?_⟩
  intro system marker files otherFiles hperm registry hscan
  obtain ⟨found, hfound, rfl⟩ := Scan.outcome_scanFiles_eq_ok_iff.1 hscan
  have hother : ∀ file ∈ otherFiles, (Scan.sightings system marker file).outcome = .ok (found file) :=
    fun file hmem => hfound file (hperm.mem_iff.2 hmem)
  refine ⟨_, Scan.outcome_scanFiles_eq_ok_iff.2 ⟨found, hother, rfl⟩, ?_⟩
  exact sameVerdict_of_perm (Scan.callsOf_perm found hperm)

/-- A directory of two files that register one name together. -/
def twoFiles : FileSystem where
  top := .dir [("a.c", .file "M(2,a,)".toUTF8.toList), ("b.c", .file "M(3,b,x)\nM(2,a,y)\n".toUTF8.toList)]
  base := []

theorem sameVerdict_two_orders :
    @List.Perm Registration [⟨⟨2⟩, "a", ""⟩, ⟨⟨9⟩, "a", ""⟩] [⟨⟨9⟩, "a", ""⟩, ⟨⟨2⟩, "a", ""⟩] ∧
    (ofCalls [⟨⟨2⟩, "a", ""⟩, ⟨⟨9⟩, "a", ""⟩]).SameVerdict (ofCalls [⟨⟨9⟩, "a", ""⟩, ⟨⟨2⟩, "a", ""⟩]) ∧
    (Scan.scanFiles twoFiles ⟨['M'], by decide⟩ [⟨"a.c"⟩, ⟨"b.c"⟩]).outcome =
      .ok (ofCalls [⟨⟨2⟩, "a", ""⟩, ⟨⟨2⟩, "a", "y"⟩, ⟨⟨3⟩, "b", "x"⟩]) ∧
    ∃ other, (Scan.scanFiles twoFiles ⟨['M'], by decide⟩ [⟨"b.c"⟩, ⟨"a.c"⟩]).outcome = .ok other ∧
      (ofCalls [⟨⟨2⟩, "a", ""⟩, ⟨⟨2⟩, "a", "y"⟩, ⟨⟨3⟩, "b", "x"⟩]).SameVerdict other := by
  have hcalls : @List.Perm Registration [⟨⟨2⟩, "a", ""⟩, ⟨⟨9⟩, "a", ""⟩] [⟨⟨9⟩, "a", ""⟩, ⟨⟨2⟩, "a", ""⟩] := by decide
  have hfiles : @List.Perm Path [⟨"a.c"⟩, ⟨"b.c"⟩] [⟨"b.c"⟩, ⟨"a.c"⟩] := by decide
  have hscan : (Scan.scanFiles twoFiles ⟨['M'], by decide⟩ [⟨"a.c"⟩, ⟨"b.c"⟩]).outcome =
      .ok (ofCalls [⟨⟨2⟩, "a", ""⟩, ⟨⟨2⟩, "a", "y"⟩, ⟨⟨3⟩, "b", "x"⟩]) :=
    Scan.outcome_scanFiles_eq_ok_iff.2 ⟨fun file => if file.text = "a.c" then [⟨⟨⟨2⟩, "a", ""⟩, 1⟩]
      else [⟨⟨⟨2⟩, "a", "y"⟩, 2⟩, ⟨⟨⟨3⟩, "b", "x"⟩, 1⟩], by decide +kernel, rfl⟩
  refine ⟨hcalls, verdict_independent_of_order.1 _ _ hcalls, hscan, ?_⟩
  exact verdict_independent_of_order.2 twoFiles ⟨['M'], by decide⟩ _ _ hfiles _ hscan

end Registry

end DriverIndex
