import DriverIndex.Artifact
import DriverIndex.Proofs.SlotTable.Placement

/-!
# How the two generated files agree

The declarations go through the definitions and their slots, the definitions of the table through the records only, and both print the number that a slot was given. Read slot by slot the two files say the same: a slot's number is its place in the table's order, its constant has that number, and the entry with that number points at the record that is declared right behind the constant. A slot of the closing group has neither. The last slot is the closing one, so its constant is the size of the table. What stands before the slots and behind them is fixed but for the configured words and the date, and is given as text.
-/

namespace DriverIndex

open Text (Decimal.natText)

/-- Where a test keeps some members of a list, the images of those are all that is left. -/
theorem flatMap_unless {α β : Type} (l : List α) (p : α → Bool) (f : α → β) :
    (l.flatMap fun x => if p x then [] else [f x]) = (l.filter fun x => !p x).map f := by
  induction l with
  | nil => rfl
  | cons x l ih =>
    rw [List.flatMap_cons, ih]
    cases hp : p x <;> simp [hp]

namespace SlotTable

variable (calls : List Registration)

theorem length_placed : (ofCalls calls).placed.length = (ofCalls calls).size + 1 := by
  have hslots := congrArg List.length (map_snd_placed (ofCalls calls))
  have hindices := congrArg List.length (index_slots_ofCalls calls)
  rw [List.length_map] at hslots
  rw [List.length_map, List.length_range] at hindices
  exact hslots.trans hindices

/-- A slot has the number of its place in the table. -/
theorem zipIdx_placed : (ofCalls calls).placed.zipIdx = (ofCalls calls).placed.map fun place => (place, place.2.index) := by
  have hindices : (ofCalls calls).placed.map (fun place => place.2.index) = List.range (ofCalls calls).placed.length := by
    rw [length_placed, ← index_slots_ofCalls, ← map_snd_placed, List.map_map]
    rfl
  rw [List.zipIdx_eq_zip_range', ← List.range_eq_range', ← hindices]
  exact List.map_prod_left_eq_zip.symm

/-- The closing slot is the last one. -/
theorem getLast?_placed : (ofCalls calls).placed.getLast? =
    some (⟨closingName, .closing, [⟨"", (ofCalls calls).size⟩]⟩, ⟨"", (ofCalls calls).size⟩) := by
  rw [placed, definitions_ofCalls, List.flatMap_append, List.flatMap_singleton, List.map_singleton,
    List.getLast?_concat]

end SlotTable

namespace Artifact

theorem write_append (front back : List String) : write (front ++ back) = write front ++ write back := by
  rw [write, List.map_append, String.join_append]
  rfl

theorem write_flatMap {α : Type} (l : List α) (pieces : α → List String) :
    write (l.flatMap pieces) = String.join (l.map fun x => write (pieces x)) := by
  induction l with
  | nil => rfl
  | cons x l ih => rw [List.flatMap_cons, write_append, ih, List.map_cons, String.join_cons]

/-! ### The fixed parts -/

section Fixed

variable (naming : Naming) (date : Date)

theorem write_banner : write (banner naming date) =
    "/*\n * This file was autogenerated by " ++ naming.generator ++ ".\n * Date of Generation: " ++ date.text ++
      "\n*/\n" := by
  simp [write, banner, ← String.toList_inj]

theorem write_declarationsPrologue : write (declarationsPrologue naming date) =
    "/*\n * This file was autogenerated by " ++ naming.generator ++ ".\n * Date of Generation: " ++ date.text ++ "\n*/\n" ++
      "#ifndef " ++ naming.includeGuard ++ "\n#define " ++ naming.includeGuard ++ "\n" ++
      "#include <" ++ naming.resourceInclude ++ ">\n\n" := by
  rw [declarationsPrologue, write_append, write_banner]
  simp [write, ← String.toList_inj]

theorem write_declarationsEpilogue : write (declarationsEpilogue naming) =
    "#define " ++ naming.terminatorName ++ " 0xFFFFFFFF\n" ++
      "extern " ++ naming.recordType ++ " *" ++ naming.tableName ++ "[];\n" ++
      "int dridefs_int_func_empty();\nsize_t dridefs_size_t_func_empty();\nvoid *dridefs_void_func_empty();\n" ++
      "#endif // " ++ naming.includeGuard ++ "\n" := by
  simp [write, declarationsEpilogue, terminatorValue, emptyIntFunction, emptySizeFunction, emptyPointerFunction,
    ← String.toList_inj]

theorem write_definitionsPrologue : write (definitionsPrologue naming date) =
    "/*\n * This file was autogenerated by " ++ naming.generator ++ ".\n * Date of Generation: " ++ date.text ++ "\n*/\n" ++
      "#include <" ++ naming.headerInclude ++ ">\n" ++ naming.recordType ++ " *" ++ naming.tableName ++ "[] = \x7b\n" := by
  rw [definitionsPrologue, write_append, write_banner]
  simp [write, ← String.toList_inj]

theorem write_definitionsEpilogue : write definitionsEpilogue =
    "\x7d;\nint dridefs_int_func_empty() \x7b return -1; \x7d\n" ++
      "size_t dridefs_size_t_func_empty() \x7b return 0; \x7d\n" ++
      "void *dridefs_void_func_empty() \x7b return NULL; \x7d\n" := by
  simp [write, definitionsEpilogue, emptyIntFunction, emptySizeFunction, emptyPointerFunction]

end Fixed

/-! ### The slots -/

/-- What the declarations say of the slot with a number. -/
def declared (naming : Naming) (place : IndexedDefinition × Slot) (number : Nat) : String :=
  "#define " ++ naming.constantName place.1.name place.2.key ++ " " ++ Decimal.natText number ++ "\n" ++
    if place.1.group = .closing then ""
    else "extern " ++ naming.recordType ++ " " ++ naming.recordName place.1.name place.2.key ++ ";\n"

/-- What the table says of the slot with a number. -/
def listed (naming : Naming) (place : IndexedDefinition × Slot) (number : Nat) : String :=
  "\t[" ++ Decimal.natText number ++ "] = &" ++ naming.recordName place.1.name place.2.key ++ ",\n"

def constantLine (naming : Naming) (slot : RecordSlot) : String :=
  "#define " ++ naming.constantName slot.name slot.key ++ " " ++ Decimal.natText slot.index

def recordLine (naming : Naming) (slot : RecordSlot) : String :=
  "extern " ++ naming.recordType ++ " " ++ naming.recordName slot.name slot.key ++ ";"

def declaresRecord (piece : String) : Bool := "extern ".toList.isPrefixOf piece.toList

section Slots

variable (naming : Naming)

theorem slotDeclarations_eq_flatMap_placed (table : SlotTable) :
    slotDeclarations naming table =
      table.placed.flatMap fun place => slotDeclaration naming place.1.group place.1.name place.2 := by
  rw [slotDeclarations, SlotTable.placed, List.flatMap_assoc]
  refine List.flatMap_congr fun definition _ => ?_
  rw [List.flatMap_map]

theorem write_slotDeclaration (place : IndexedDefinition × Slot) :
    write (slotDeclaration naming place.1.group place.1.name place.2) = declared naming place place.2.index := by
  rw [slotDeclaration, declared]
  by_cases hclosing : place.1.group = .closing
  · rw [if_pos (Group.isTerminal_iff.2 hclosing), if_pos hclosing]
    simp [write]
  · rw [if_neg (mt Group.isTerminal_iff.1 hclosing), if_neg hclosing]
    simp [write, String.append_assoc]

theorem write_slotDeclarations (calls : List Registration) :
    write (slotDeclarations naming (SlotTable.ofCalls calls)) =
      String.join ((SlotTable.ofCalls calls).placed.zipIdx.map fun (place, number) => declared naming place number) := by
  rw [slotDeclarations_eq_flatMap_placed, write_flatMap, SlotTable.zipIdx_placed, List.map_map]
  simp only [write_slotDeclaration, Function.comp_def]

theorem write_tableEntries (calls : List Registration) :
    write ((SlotTable.ofCalls calls).recordSlots.map (tableEntry naming)) =
      String.join (((SlotTable.ofCalls calls).placed.zipIdx.filter fun (place, _) => place.1.group ≠ .closing).map
        fun (place, number) => listed naming place number) := by
  have hrecord : ∀ place : IndexedDefinition × Slot,
      (!place.1.group.isTerminal) = decide (place.1.group ≠ .closing) := by
    intro place
    rw [Bool.eq_iff_iff]
    simp [← Group.isTerminal_iff]
  have hentry : ∀ place : IndexedDefinition × Slot,
      tableEntry naming ⟨place.2.index, place.1.name, place.2.key⟩ ++ "\n" = listed naming place place.2.index := by
    intro place
    simp [tableEntry, listed, String.append_assoc]
  rw [SlotTable.zipIdx_placed, List.filter_map, List.map_map, SlotTable.recordSlots_eq_map_placed, List.map_map, write,
    List.map_map]
  simp only [hrecord, hentry, Function.comp_def]

theorem filter_declaresRecord_slotDeclarations (table : SlotTable) :
    (slotDeclarations naming table).filter declaresRecord = table.recordSlots.map (recordLine naming) := by
  have hslot : ∀ place : IndexedDefinition × Slot,
      (slotDeclaration naming place.1.group place.1.name place.2).filter declaresRecord =
        if place.1.group.isTerminal then []
        else [recordLine naming ⟨place.2.index, place.1.name, place.2.key⟩] := by
    intro place
    rw [slotDeclaration]
    split <;> simp [declaresRecord, recordLine, String.toList_append, List.isPrefixOf]
  rw [slotDeclarations_eq_flatMap_placed, List.filter_flatMap, SlotTable.recordSlots_eq_map_placed, List.map_map]
  simp only [hslot, flatMap_unless, Function.comp_def]

/-- A record is declared right behind its constant. -/
theorem constantLine_recordLine_infix {table : SlotTable} {slot : RecordSlot} (hmem : slot ∈ table.recordSlots) :
    [constantLine naming slot, recordLine naming slot] <:+: slotDeclarations naming table := by
  rw [SlotTable.recordSlots_eq_map_placed] at hmem
  obtain ⟨place, hplace, rfl⟩ := List.mem_map.1 hmem
  obtain ⟨hplaced, hrecord⟩ := List.mem_filter.1 hplace
  have hterminal : ¬place.1.group.isTerminal = true := by simpa using hrecord
  obtain ⟨front, back, hsplit⟩ := List.append_of_mem hplaced
  rw [slotDeclarations_eq_flatMap_placed, hsplit, List.flatMap_append, List.flatMap_cons, slotDeclaration,
    if_neg hterminal]
  exact ⟨_, _, (List.append_assoc ..).trans rfl⟩

theorem getLast?_slotDeclarations (calls : List Registration) :
    (slotDeclarations naming (SlotTable.ofCalls calls)).getLast? =
      some ("#define " ++ naming.constantPrefix ++ "_COUNT " ++ Decimal.natText (SlotTable.ofCalls calls).size) := by
  have hconstant : naming.constantName closingName "" = naming.constantPrefix ++ "_COUNT" := by
    have hupper : Naming.upperCase closingName = "COUNT" := by decide +kernel
    rw [Naming.constantName, if_pos rfl, hupper, String.append_assoc]
    rfl
  obtain ⟨front, hfront⟩ := List.getLast?_eq_some_iff.1 (SlotTable.getLast?_placed calls)
  rw [slotDeclarations_eq_flatMap_placed, hfront, List.flatMap_append, List.flatMap_singleton, slotDeclaration,
    if_pos Group.isTerminal_closing, List.getLast?_concat, hconstant]
  simp only [String.append_assoc]
  rfl

end Slots

/-- Between their fixed parts both files go through the slots in the order of their numbers: the declarations give every slot its constant with its number, and its record unless it is of the closing group; the definitions give exactly those slots an entry with the same number and the same record. The fixed parts are the banner with the date, the include guard and the includes, the opening of the table, and what stands behind the slots. The last constant is the closing one, with the size of the table. -/
theorem declarations_definitions_agree (calls : List Registration) (naming : Naming) (date : Date) :
    (SlotTable.ofCalls calls).placed.length = (SlotTable.ofCalls calls).size + 1 ∧
    declarations naming (SlotTable.ofCalls calls) date =
      ("/*\n * This file was autogenerated by " ++ naming.generator ++ ".\n * Date of Generation: " ++ date.text ++
        "\n*/\n" ++
        "#ifndef " ++ naming.includeGuard ++ "\n#define " ++ naming.includeGuard ++ "\n" ++
        "#include <" ++ naming.resourceInclude ++ ">\n\n") ++
      String.join ((SlotTable.ofCalls calls).placed.zipIdx.map fun (place, number) => declared naming place number) ++
      ("#define " ++ naming.terminatorName ++ " 0xFFFFFFFF\n" ++
        "extern " ++ naming.recordType ++ " *" ++ naming.tableName ++ "[];\n" ++
        "int dridefs_int_func_empty();\nsize_t dridefs_size_t_func_empty();\nvoid *dridefs_void_func_empty();\n" ++
        "#endif // " ++ naming.includeGuard ++ "\n") ∧
    definitions naming (SlotTable.ofCalls calls) date =
      ("/*\n * This file was autogenerated by " ++ naming.generator ++ ".\n * Date of Generation: " ++ date.text ++
        "\n*/\n" ++
        "#include <" ++ naming.headerInclude ++ ">\n" ++ naming.recordType ++ " *" ++ naming.tableName ++ "[] = \x7b\n") ++
      String.join (((SlotTable.ofCalls calls).placed.zipIdx.filter fun (place, _) => place.1.group ≠ .closing).map
        fun (place, number) => listed naming place number) ++
      ("\x7d;\nint dridefs_int_func_empty() \x7b return -1; \x7d\n" ++
        "size_t dridefs_size_t_func_empty() \x7b return 0; \x7d\n" ++
        "void *dridefs_void_func_empty() \x7b return NULL; \x7d\n") ∧
    (slotDeclarations naming (SlotTable.ofCalls calls)).getLast? =
      some ("#define " ++ naming.constantPrefix ++ "_COUNT " ++ Decimal.natText (SlotTable.ofCalls calls).size) ∧
    (∀ slot ∈ (SlotTable.ofCalls calls).recordSlots,
      [constantLine naming slot, recordLine naming slot] <:+: slotDeclarations naming (SlotTable.ofCalls calls)) ∧
    (slotDeclarations naming (SlotTable.ofCalls calls)).filter declaresRecord =
      (SlotTable.ofCalls calls).recordSlots.map (recordLine naming) := by
  refine ⟨SlotTable.length_placed calls, ?_, ?_, getLast?_slotDeclarations naming calls, ?_,
    filter_declaresRecord_slotDeclarations naming _⟩
  · rw [declarations, declarationPieces, write_append, write_append, write_slotDeclarations, write_declarationsPrologue,
      write_declarationsEpilogue]
  · rw [definitions, definitionPieces, write_append, write_append, write_tableEntries, write_definitionsPrologue,
      write_definitionsEpilogue]
  · intro slot hmem
    exact constantLine_recordLine_infix naming hmem

/-- The second role of a layered definition behind one slot of another: constant and record go together, and the whole of both files. -/
theorem record_behind_constant :
    let calls : List Registration := [⟨⟨3⟩, "rtc", ""⟩, ⟨⟨0⟩, "ext2", "super"⟩]
    let table := SlotTable.ofCalls calls
    ⟨2, "ext2", "directory"⟩ ∈ table.recordSlots ∧
    ["#define ARC_DRIDEF_EXT2_DIRECTORY 2", "extern struct ARC_DriverDef __driver_ext2_directory;"] <:+:
      slotDeclarations {} table ∧
    declarations {} table ⟨2024, 3, 7⟩ = write [
      "/*",
      " * This file was autogenerated by dridefs.",
      " * Date of Generation: 07-03-2024",
      "*/",
      "#ifndef AUTOGEN_ARC_DRIVERS_DRI_DEFS",
      "#define AUTOGEN_ARC_DRIVERS_DRI_DEFS",
      "#include <lib/resource.h>",
      "",
      "#define ARC_DRIDEF_RTC 0",
      "extern struct ARC_DriverDef __driver_rtc_;",
      "#define ARC_DRIDEF_EXT2_SUPER 1",
      "extern struct ARC_DriverDef __driver_ext2_super;",
      "#define ARC_DRIDEF_EXT2_DIRECTORY 2",
      "extern struct ARC_DriverDef __driver_ext2_directory;",
      "#define ARC_DRIDEF_EXT2_FILE 3",
      "extern struct ARC_DriverDef __driver_ext2_file;",
      "#define ARC_DRIDEF_COUNT 4",
      "#define ARC_DRIDEF_PCI_TERMINATOR 0xFFFFFFFF",
      "extern struct ARC_DriverDef *__DRIVER_LOOKUP_TABLE[];",
      "int dridefs_int_func_empty();",
      "size_t dridefs_size_t_func_empty();",
      "void *dridefs_void_func_empty();",
      "#endif // AUTOGEN_ARC_DRIVERS_DRI_DEFS"] ∧
    definitions {} table ⟨2024, 3, 7⟩ = write [
      "/*",
      " * This file was autogenerated by dridefs.",
      " * Date of Generation: 07-03-2024",
      "*/",
      "#include <drivers/dri_defs.h>",
      "struct ARC_DriverDef *__DRIVER_LOOKUP_TABLE[] = \x7b",
      "\t[0] = &__driver_rtc_,",
      "\t[1] = &__driver_ext2_super,",
      "\t[2] = &__driver_ext2_directory,",
      "\t[3] = &__driver_ext2_file,",
      "\x7d;",
      "int dridefs_int_func_empty() \x7b return -1; \x7d",
      "size_t dridefs_size_t_func_empty() \x7b return 0; \x7d",
      "void *dridefs_void_func_empty() \x7b return NULL; \x7d"] := by
  intro calls table
  have hmem : (⟨2, "ext2", "directory"⟩ : RecordSlot) ∈ table.recordSlots := by decide +kernel
  have hlines : [constantLine {} ⟨2, "ext2", "directory"⟩, recordLine {} ⟨2, "ext2", "directory"⟩] =
      ["#define ARC_DRIDEF_EXT2_DIRECTORY 2", "extern struct ARC_DriverDef __driver_ext2_directory;"] := by
    decide +kernel
  obtain ⟨-, hdeclarations, hdefinitions, -, hinfix, -⟩ := declarations_definitions_agree calls {} ⟨2024, 3, 7⟩
  exact ⟨hmem, hlines ▸ hinfix _ hmem, hdeclarations.trans (by decide +kernel), hdefinitions.trans (by decide +kernel)⟩

end Artifact

end DriverIndex
