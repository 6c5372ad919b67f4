import DriverIndex.Proofs.SlotTable.Numbering
import DriverIndex.Proofs.Text.Json.Reader
import DriverIndex.Summary

/-!
# The JSON summary loses nothing

The document of a summary is looked up field by field, as a program would that reads it. That gives the summary back, whatever its names, keys and tags are and whatever its groups. Together with the grammar this goes back to the text: the text that is printed is a text of that document and of no other, so two summaries that are not the same are printed as two texts.
-/

namespace DriverIndex

open Text (Json)

namespace Text.Json

/-- The value of the first field that has the name. -/
def member? (name : String) : Json → Option Json
  | .record fields => fields.lookup name
  | _ => none

def string? : Json → Option String
  | .text s => some s
  | _ => none

def natural? : Json → Option Nat
  | .number i => i.toNat?
  | _ => none

/-- The items of a list, each looked up by itself. -/
def items? {α : Type} (item? : Json → Option α) : Json → Option (List α)
  | .list items => items.mapM item?
  | _ => none

theorem natural?_number (n : Nat) : natural? (.number n) = some n := rfl

theorem items?_map {α : Type} {document : α → Json} {item? : Json → Option α}
    (hitem : ∀ item, item? (document item) = some item) (items : List α) :
    items? item? (.list (items.map document)) = some items := by
  rw [items?]
  induction items with
  | nil => rfl
  | cons item items ih =>
    rw [List.map_cons, List.mapM_cons, hitem, ih]
    rfl

end Text.Json

/-- The group of a number that fits into 64 bits. -/
def Group.ofJson? : Json → Option Group
  | .number i => if Int64.minValue.toInt ≤ i ∧ i ≤ Int64.maxValue.toInt then some ⟨Int64.ofInt i⟩ else none
  | _ => none

theorem Group.ofJson?_number (group : Group) : ofJson? (.number group.value.toInt) = some group := by
  rw [ofJson?, if_pos ⟨Int64.minValue_le_toInt _, Int64.toInt_le _⟩, Int64.ofInt_toInt]

namespace Summary

/-! ### Looking up a summary -/

def slot? (document : Json) : Option Slot := do
  let key ← document.member? "key"
  let index ← document.member? "index"
  return ⟨← key.string?, ← index.natural?⟩

def definition? (document : Json) : Option IndexedDefinition := do
  let name ← document.member? "name"
  let group ← document.member? "group"
  let slots ← document.member? "slots"
  return ⟨← name.string?, ← Group.ofJson? group, ← slots.items? slot?⟩

def collision? (document : Json) : Option Collision := do
  let name ← document.member? "name"
  let existing ← document.member? "existing"
  let attempted ← document.member? "attempted"
  let tag ← document.member? "extension"
  return ⟨← name.string?, ← Group.ofJson? existing, ← Group.ofJson? attempted, ← tag.string?⟩

/-- The summary that a document is of. -/
def ofJson? (document : Json) : Option Summary := do
  let filesScanned ← document.member? "files_scanned"
  let size ← document.member? "table_size"
  let definitions ← document.member? "definitions"
  let collisions ← document.member? "collisions"
  return ⟨← filesScanned.natural?, ← definitions.items? definition?, ← collisions.items? collision?, ← size.natural?⟩

/-- The summary that a text is of. -/
def ofText? (text : String) : Option Summary := (Json.read? text.toList).bind ofJson?

theorem slot?_slotJson (slot : Slot) : slot? (slotJson slot) = some slot := rfl

theorem definition?_definitionJson (definition : IndexedDefinition) :
    definition? (definitionJson definition) = some definition := by
  have hname : (definitionJson definition).member? "name" = some (.text definition.name) := rfl
  have hgroup : (definitionJson definition).member? "group" = some (.number definition.group.value.toInt) := rfl
  have hslots : (definitionJson definition).member? "slots" = some (.list (definition.slots.map slotJson)) := rfl
  rw [definition?, hname, hgroup, hslots]
  simp only [Option.bind_eq_bind, Option.bind_some, Json.string?, Group.ofJson?_number, Json.items?_map slot?_slotJson]
  rfl

theorem collision?_collisionJson (collision : Collision) : collision? (collisionJson collision) = some collision := by
  have hname : (collisionJson collision).member? "name" = some (.text collision.name) := rfl
  have hexisting : (collisionJson collision).member? "existing" = some (.number collision.existing.value.toInt) := rfl
  have hattempted : (collisionJson collision).member? "attempted" = some (.number collision.attempted.value.toInt) := rfl
  have htag : (collisionJson collision).member? "extension" = some (.text collision.tag) := rfl
  rw [collision?, hname, hexisting, hattempted, htag]
  simp only [Option.bind_eq_bind, Option.bind_some, Json.string?, Group.ofJson?_number]
  rfl

theorem ofJson?_toJson (summary : Summary) : ofJson? summary.toJson = some summary := by
  have hfiles : summary.toJson.member? "files_scanned" = some (.number summary.filesScanned) := rfl
  have hsize : summary.toJson.member? "table_size" = some (.number summary.table.size) := rfl
  have hdefinitions : summary.toJson.member? "definitions" =
    some (.list (summary.table.definitions.map definitionJson)) := rfl
  have hcollisions : summary.toJson.member? "collisions" =
    some (.list (summary.table.collisions.map collisionJson)) := rfl
  rw [ofJson?, hfiles, hsize, hdefinitions, hcollisions]
  simp only [Option.bind_eq_bind, Option.bind_some, Json.natural?_number, Json.items?_map definition?_definitionJson,
    Json.items?_map collision?_collisionJson]
  rfl

/-! ### Reading the text -/

theorem isDocument_json (summary : Summary) : Json.IsDocument summary.json.toList summary.toJson := by
  have htext : summary.json.toList = summary.toJson.pretty ++ ['\n'] := by
    rw [json, String.toList_append, String.toList_ofList]
    rfl
  rw [htext]
  exact Json.isDocument_pretty summary.toJson

theorem ofText?_json (summary : Summary) : ofText? summary.json = some summary := by
  rw [ofText?, Json.read?_of_isDocument (isDocument_json summary)]
  exact ofJson?_toJson summary

/-- What is printed for a summary is a text of its document and of nothing else, and the summary can be looked up in that document: the number of files, the size of the table, all definitions in their order with names, groups and slots, and all collisions in theirs. For a run the last of the definitions is the closing one. So no two summaries are printed as one text. -/
theorem json_loses_nothing :
    (∀ summary : Summary,
      (∀ document, Json.IsDocument summary.json.toList document ↔ document = summary.toJson) ∧
      ofJson? summary.toJson = some summary ∧ ofText? summary.json = some summary) ∧
    (∀ filesScanned calls, ∃ read, ofText? (⟨filesScanned, .ofCalls calls⟩ : Summary).json = some read ∧
      read.table.definitions.getLast? = some ⟨closingName, .closing, [⟨"", read.table.size⟩]⟩) ∧
    Function.Injective json := by
  refine ⟨fun summary => ⟨fun document => ?_, ofJson?_toJson summary, ofText?_json summary⟩, ?_, ?_⟩
  · constructor
    · exact fun hdocument => hdocument.unique (isDocument_json summary)
    · rintro rfl
      exact isDocument_json summary
  · intro filesScanned calls
    refine ⟨_, ofText?_json _, ?_⟩
    dsimp only
    rw [SlotTable.definitions_ofCalls, List.getLast?_concat]
  · intro first second heq
    have hread := ofText?_json first
    rw [heq, ofText?_json second] at hread
    exact (Option.some.inj hread).symm

end Summary

end DriverIndex
