import DriverIndex.Proofs.Artifact.Agreement

/-!
# The date in a generated file

Both files say in one line of their banner when they were made. Nothing else in them depends on the date.
-/

namespace DriverIndex.Artifact

/-- The line that says when a file was made. -/
def dateLine (date : Date) : String := " * Date of Generation: " ++ date.text ++ "\n"

/-- Two files are the same but for the date in one line. -/
def SameButDate (first second : Date) (left right : String) : Prop :=
  ∃ front back, left = front ++ dateLine first ++ back ∧ right = front ++ dateLine second ++ back

/-- The date stands in one line of a file, and all that stands around it is the same on every day. -/
def DatedOnce (file : Date → String) : Prop := ∃ front back, ∀ date, file date = front ++ dateLine date ++ back

variable {naming : Naming}

theorem DatedOnce.sameButDate {file : Date → String} (hfile : DatedOnce file) (first second : Date) :
    SameButDate first second (file first) (file second) := by
  obtain ⟨front, back, hdate⟩ := hfile
  exact ⟨front, back, hdate first, hdate second⟩

theorem write_singleton (piece : String) : write [piece] = piece ++ "\n" := by
  rw [write, List.map_singleton, String.join_cons, String.join_nil, String.append_empty]

theorem datedOnce_of_banner {file : Date → String}
    (hfile : ∃ pieces, ∀ date, file date = write (banner naming date ++ pieces)) : DatedOnce file := by
  obtain ⟨pieces, hfile⟩ := hfile
  refine ⟨write ["/*", " * This file was autogenerated by " ++ naming.generator ++ "."], write ("*/" :: pieces), fun date => ?_⟩
  have hline : write [" * Date of Generation: " ++ date.text] = dateLine date := write_singleton _
  rw [hfile, ← hline, ← write_append, ← write_append]
  rfl

theorem datedOnce_declarations (naming : Naming) (table : SlotTable) : DatedOnce (declarations naming table) :=
  datedOnce_of_banner ⟨_, fun date => by
    rw [declarations, declarationPieces, declarationsPrologue, List.append_assoc, List.append_assoc]⟩

theorem datedOnce_definitions (naming : Naming) (table : SlotTable) : DatedOnce (definitions naming table) :=
  datedOnce_of_banner ⟨_, fun date => by
    rw [definitions, definitionPieces, definitionsPrologue, List.append_assoc, List.append_assoc]⟩

end DriverIndex.Artifact
