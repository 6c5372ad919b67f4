import DriverIndex.Artifact
import DriverIndex.Proofs.Artifact.Agreement
import DriverIndex.Proofs.Artifact.Identifier
import DriverIndex.Proofs.Text.Decimal

/-!
# When generated files clash

The declarations define a macro for every slot, beside the include guard and the terminator, and the table of the definitions has an entry for every record. No macro gets two values and no two entries share a record as long as the identifiers of the slots are told apart, so everything rests on the words that an identifier keeps. A table can only fail where these words agree: its labels and its numbers are distinct.
-/

namespace DriverIndex

open Text (Decimal.natText)

/-- Where one label tells the members of a list apart, another does so if it determines the first. -/
theorem nodup_map_iff_determines {α β γ : Type} {l : List α} {f : α → β} {g : α → γ} (hg : (l.map g).Nodup) :
    (l.map f).Nodup ↔ ∀ former ∈ l, ∀ latter ∈ l, f former = f latter → g former = g latter := by
  rw [List.nodup_map_iff_inj_on (List.Nodup.of_map g hg)]
  constructor
  · intro hinj former hformer latter hlatter heq
    rw [hinj former hformer latter hlatter heq]
  · intro hdetermines former hformer latter hlatter heq
    exact List.inj_on_of_nodup_map hg hformer hlatter (hdetermines former hformer latter hlatter heq)

namespace SlotTable

/-- What the constant of a slot keeps of its name and key. -/
def constantWords (place : IndexedDefinition × Slot) : String :=
  Naming.upperCase (Naming.joined place.1.name place.2.key)

def recordWords (slot : RecordSlot) : String := Naming.lowerCase (slot.name ++ "_" ++ slot.key)

/-- No two constants keep the same words, and none keeps those of the terminator. -/
def ConstantsApart (table : SlotTable) : Prop := ("PCI_TERMINATOR" :: table.placed.map constantWords).Nodup

def RecordsApart (table : SlotTable) : Prop := (table.recordSlots.map recordWords).Nodup

end SlotTable

namespace Naming

def slotConstant (naming : Naming) (place : IndexedDefinition × Slot) : String :=
  naming.constantName place.1.name place.2.key

def slotRecord (naming : Naming) (slot : RecordSlot) : String := naming.recordName slot.name slot.key

/-- No identifier stands for two things. -/
structure Unambiguous (naming : Naming) (table : SlotTable) : Prop where
  constants : ∀ former ∈ table.placed, ∀ latter ∈ table.placed, SlotTable.label former ≠ SlotTable.label latter →
    naming.slotConstant former ≠ naming.slotConstant latter
  terminator : ∀ place ∈ table.placed, naming.slotConstant place ≠ naming.terminatorName
  guard : ∀ place ∈ table.placed, naming.slotConstant place ≠ naming.includeGuard
  records : ∀ former ∈ table.recordSlots, ∀ latter ∈ table.recordSlots,
    (former.name, former.key) ≠ (latter.name, latter.key) → naming.slotRecord former ≠ naming.slotRecord latter

end Naming

namespace SlotTable

variable (table : SlotTable)

theorem nodup_slotConstant_iff :
    (({} : Naming).terminatorName :: table.placed.map ({} : Naming).slotConstant).Nodup ↔ table.ConstantsApart := by
  have hconstants : ({} : Naming).terminatorName :: table.placed.map ({} : Naming).slotConstant =
      ("PCI_TERMINATOR" :: table.placed.map constantWords).map ("ARC_DRIDEF" ++ "_" ++ ·) := by
    rw [List.map_cons, List.map_map]
    exact congrArg₂ List.cons (by decide) (List.map_congr_left fun place _ => Naming.constantName_eq _ _ _)
  rw [hconstants, ConstantsApart]
  exact List.nodup_map_iff fun _ _ => (String.append_right_inj _).1

theorem nodup_slotRecord_iff :
    (table.recordSlots.map ({} : Naming).slotRecord).Nodup ↔ table.RecordsApart := by
  have hrecords : table.recordSlots.map ({} : Naming).slotRecord =
      (table.recordSlots.map recordWords).map ("__driver" ++ "_" ++ ·) := by
    rw [List.map_map]
    exact List.map_congr_left fun slot _ => Naming.recordName_eq _ _ _
  rw [hrecords, RecordsApart]
  exact List.nodup_map_iff fun _ _ => (String.append_right_inj _).1

end SlotTable

namespace Artifact

/-! ### Macros -/

def macros (naming : Naming) (table : SlotTable) : List (String × Option String) :=
  (naming.includeGuard, none) ::
    (table.placed.map fun place => (naming.slotConstant place, some (Decimal.natText place.2.index))) ++
      [(naming.terminatorName, some terminatorValue)]

def macroPiece : String × Option String → String
  | (name, none) => "#define " ++ name
  | (name, some value) => "#define " ++ name ++ " " ++ value

def definesMacro (piece : String) : Bool := "#define ".toList.isPrefixOf piece.toList

/-- Every slot has one piece that defines a macro. -/
theorem filter_definesMacro_slotDeclarations (naming : Naming) (table : SlotTable) :
    (slotDeclarations naming table).filter definesMacro =
      table.placed.map fun place => macroPiece (naming.slotConstant place, some (Decimal.natText place.2.index)) := by
  have hslot : ∀ place : IndexedDefinition × Slot,
      (slotDeclaration naming place.1.group place.1.name place.2).filter definesMacro =
        [macroPiece (naming.slotConstant place, some (Decimal.natText place.2.index))] := by
    intro place
    rw [slotDeclaration]
    split <;> simp [definesMacro, macroPiece, Naming.slotConstant, String.toList_append, List.isPrefixOf]
  rw [slotDeclarations_eq_flatMap_placed, List.filter_flatMap, List.map_eq_flatMap]
  exact List.flatMap_congr fun place _ => hslot place

theorem filter_definesMacro_declarationPieces (naming : Naming) (table : SlotTable) (date : Date) :
    (declarationPieces naming table date).filter definesMacro = (macros naming table).map macroPiece := by
  have hprologue : (declarationsPrologue naming date).filter definesMacro = [macroPiece (naming.includeGuard, none)] := by
    simp [declarationsPrologue, banner, definesMacro, macroPiece, String.toList_append, List.isPrefixOf]
  have hepilogue : (declarationsEpilogue naming).filter definesMacro =
      [macroPiece (naming.terminatorName, some terminatorValue)] := by
    simp [declarationsEpilogue, definesMacro, macroPiece, String.toList_append, List.isPrefixOf,
      emptyIntFunction, emptySizeFunction, emptyPointerFunction]
  rw [declarationPieces, List.filter_append, List.filter_append, hprologue, hepilogue,
    filter_definesMacro_slotDeclarations, macros]
  simp only [List.map_cons, List.map_append, List.map_map, List.map_nil, List.cons_append]
  rfl

/-- No macro is defined twice with different values. -/
def OneValueEach (macros : List (String × Option String)) : Prop :=
  ∀ former ∈ macros, ∀ latter ∈ macros, former.1 = latter.1 → former.2 = latter.2

theorem macros_perm (naming : Naming) (table : SlotTable) :
    (macros naming table).Perm ((naming.includeGuard, none) :: (naming.terminatorName, some terminatorValue) ::
      table.placed.map fun place => (naming.slotConstant place, some (Decimal.natText place.2.index))) :=
  (List.perm_append_singleton _ _).cons _

theorem natText_ne_terminatorValue (n : Nat) : Decimal.natText n ≠ terminatorValue := by
  intro heq
  have hmem : 'x' ∈ (Decimal.natText n).toList := by
    rw [heq]
    decide
  rw [Text.Decimal.toList_natText] at hmem
  exact absurd (Text.Decimal.isDigit_of_mem_ofNat hmem) (by decide)

section Values

variable (calls : List Registration)

/-- The values of the macros are all different, so a macro with one value is one that is defined once. -/
theorem nodup_values_macros (naming : Naming) : ((macros naming (SlotTable.ofCalls calls)).map Prod.snd).Nodup := by
  rw [((macros_perm naming _).map Prod.snd).nodup_iff, List.map_cons, List.map_cons, List.map_map, List.nodup_cons,
    List.nodup_cons]
  refine ⟨by simp, ?_, ?_⟩
  · intro hmem
    obtain ⟨place, -, heq⟩ := List.mem_map.1 hmem
    exact natText_ne_terminatorValue place.2.index (Option.some.inj heq)
  · have hnumbers := (SlotTable.nodup_index_placed calls).map Text.Decimal.natText_injective
    have hvalues := hnumbers.map fun _ _ => Option.some.inj
    rwa [List.map_map, List.map_map] at hvalues

theorem nodup_names_macros (table : SlotTable) : ((macros {} table).map Prod.fst).Nodup ↔ table.ConstantsApart := by
  have hguard : ({} : Naming).includeGuard ∉
      ({} : Naming).terminatorName :: table.placed.map ({} : Naming).slotConstant := by
    intro hmem
    rcases List.mem_cons.1 hmem with hterminator | hslot
    · exact absurd hterminator (by decide)
    · obtain ⟨place, -, heq⟩ := List.mem_map.1 hslot
      exact Naming.constantName_ne_includeGuard heq
  rw [((macros_perm {} table).map Prod.fst).nodup_iff, List.map_cons, List.map_cons, List.map_map]
  exact (List.nodup_cons.trans (and_iff_right hguard)).trans table.nodup_slotConstant_iff

theorem oneValueEach_macros_iff :
    OneValueEach (macros {} (SlotTable.ofCalls calls)) ↔ (SlotTable.ofCalls calls).ConstantsApart := by
  rw [← nodup_names_macros, nodup_map_iff_determines (nodup_values_macros calls {})]
  rfl

end Values

/-! ### Entries -/

def isEntry (piece : String) : Bool := "\t[".toList.isPrefixOf piece.toList

theorem filter_isEntry_definitionPieces (table : SlotTable) (date : Date) :
    (definitionPieces {} table date).filter isEntry = table.recordSlots.map (tableEntry {}) := by
  have hprologue : (definitionsPrologue {} date).filter isEntry = [] := by
    simp [definitionsPrologue, banner, isEntry, String.toList_append, List.isPrefixOf]
  have hepilogue : definitionsEpilogue.filter isEntry = [] := by decide +kernel
  have hentries : (table.recordSlots.map (tableEntry {})).filter isEntry = table.recordSlots.map (tableEntry {}) := by
    rw [List.filter_eq_self]
    intro piece hmem
    obtain ⟨slot, -, rfl⟩ := List.mem_map.1 hmem
    simp [tableEntry, isEntry, String.toList_append, List.isPrefixOf]
  rw [definitionPieces, List.filter_append, List.filter_append, hprologue, hepilogue, hentries, List.append_nil,
    List.nil_append]

end Artifact

namespace Naming

variable (calls : List Registration)

theorem unambiguous_iff :
    Unambiguous {} (SlotTable.ofCalls calls) ↔
      (SlotTable.ofCalls calls).ConstantsApart ∧ (SlotTable.ofCalls calls).RecordsApart := by
  rw [← SlotTable.nodup_slotConstant_iff, ← SlotTable.nodup_slotRecord_iff, List.nodup_cons,
    nodup_map_iff_determines (SlotTable.nodup_label_placed calls),
    nodup_map_iff_determines (SlotTable.nodup_label_recordSlots calls)]
  constructor
  · intro happart
    refine ⟨⟨?_, ?_⟩, ?_⟩
    · intro hmem
      obtain ⟨place, hplace, heq⟩ := List.mem_map.1 hmem
      exact happart.terminator place hplace heq
    · intro former hformer latter hlatter
      exact not_imp_not.1 (happart.constants former hformer latter hlatter)
    · intro former hformer latter hlatter
      exact not_imp_not.1 (happart.records former hformer latter hlatter)
  · rintro ⟨⟨hterminator, hconstants⟩, hrecords⟩
    refine ⟨?_, ?_, ?_, ?_⟩
    · intro former hformer latter hlatter
      exact mt (hconstants former hformer latter hlatter)
    · intro place hplace heq
      exact hterminator (List.mem_map.2 ⟨place, hplace, heq⟩)
    · intro place hplace
      exact constantName_ne_includeGuard
    · intro former hformer latter hlatter
      exact mt (hrecords former hformer latter hlatter)

/-- Identifiers are told apart as far as their words are. -/
theorem identifiers_clash_iff (date : Date) :
    (∀ place ∈ (SlotTable.ofCalls calls).placed,
      ({} : Naming).slotConstant place ≠ ({} : Naming).includeGuard ∧
      (({} : Naming).slotConstant place = ({} : Naming).terminatorName ↔
        upperCase place.1.name = "PCI_TERMINATOR" ∧ place.2.key = "" ∨
          upperCase place.1.name = "PCI" ∧ upperCase place.2.key = "TERMINATOR") ∧
      (({} : Naming).slotConstant place = ({} : Naming).constantName closingName "" ↔
        upperCase place.1.name = closingName ∧ place.2.key = "")) ∧
    (∀ former ∈ (SlotTable.ofCalls calls).placed, ∀ latter ∈ (SlotTable.ofCalls calls).placed,
      (({} : Naming).slotConstant former = ({} : Naming).slotConstant latter ↔
        SlotTable.constantWords former = SlotTable.constantWords latter) ∧
      (Separable former.1.name latter.1.name →
        (({} : Naming).slotConstant former = ({} : Naming).slotConstant latter ↔
          upperCase former.1.name = upperCase latter.1.name ∧ upperCase former.2.key = upperCase latter.2.key))) ∧
    (∀ former ∈ (SlotTable.ofCalls calls).recordSlots, ∀ latter ∈ (SlotTable.ofCalls calls).recordSlots,
      (({} : Naming).slotRecord former = ({} : Naming).slotRecord latter ↔
        SlotTable.recordWords former = SlotTable.recordWords latter) ∧
      (Separable former.name latter.name →
        (({} : Naming).slotRecord former = ({} : Naming).slotRecord latter ↔
          lowerCase former.name = lowerCase latter.name ∧ lowerCase former.key = lowerCase latter.key))) ∧
    (Unambiguous {} (SlotTable.ofCalls calls) ↔
      (SlotTable.ofCalls calls).ConstantsApart ∧ (SlotTable.ofCalls calls).RecordsApart) ∧
    (Artifact.declarationPieces {} (SlotTable.ofCalls calls) date).filter Artifact.definesMacro =
      (Artifact.macros {} (SlotTable.ofCalls calls)).map Artifact.macroPiece ∧
    (Artifact.OneValueEach (Artifact.macros {} (SlotTable.ofCalls calls)) ↔
      (SlotTable.ofCalls calls).ConstantsApart) ∧
    (Artifact.definitionPieces {} (SlotTable.ofCalls calls) date).filter Artifact.isEntry =
      (SlotTable.ofCalls calls).recordSlots.map (Artifact.tableEntry {}) ∧
    (((SlotTable.ofCalls calls).recordSlots.map ({} : Naming).slotRecord).Nodup ↔
      (SlotTable.ofCalls calls).RecordsApart) := by
  refine ⟨?_, ?_, ?_, unambiguous_iff calls, Artifact.filter_definesMacro_declarationPieces _ _ _,
    Artifact.oneValueEach_macros_iff calls, Artifact.filter_isEntry_definitionPieces _ _,
    SlotTable.nodup_slotRecord_iff _⟩
  · intro place _
    exact ⟨constantName_ne_includeGuard, constantName_eq_terminatorName_iff, constantName_eq_closing_iff _⟩
  · intro former _ latter _
    have hconstants : ({} : Naming).slotConstant former = ({} : Naming).slotConstant latter ↔
        SlotTable.constantWords former = SlotTable.constantWords latter := constantName_eq_iff {}
    exact ⟨hconstants, fun hnames => hconstants.trans (upperCase_joined_eq_iff hnames)⟩
  · intro former _ latter _
    have hrecords : ({} : Naming).slotRecord former = ({} : Naming).slotRecord latter ↔
        SlotTable.recordWords former = SlotTable.recordWords latter := recordName_eq_iff {}
    exact ⟨hrecords, fun hnames => hrecords.trans (lowerCase_joined_eq_iff hnames)⟩

/-- Letter case is enough to tell two names apart in the registry and not enough in the generated files. -/
theorem not_unambiguous_of_letter_case :
    ¬Unambiguous {} (SlotTable.ofCalls [⟨⟨2⟩, "a", ""⟩, ⟨⟨2⟩, "A", ""⟩]) := by
  rw [unambiguous_iff]
  rintro ⟨hconstants, -⟩
  have hclash : ¬(SlotTable.ofCalls [⟨⟨2⟩, "a", ""⟩, ⟨⟨2⟩, "A", ""⟩]).ConstantsApart := by
    unfold SlotTable.ConstantsApart
    decide +kernel
  exact hclash hconstants

end Naming

end DriverIndex
