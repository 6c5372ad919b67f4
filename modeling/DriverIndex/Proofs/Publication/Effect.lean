import DriverIndex.Proofs.FileSystem.Writing

/-!
# What writing the generated files leaves behind

Each of the two steps makes the directories it needs and then writes one file, and it can fail at either. Directories that a failed step has made stay, but no file is touched by it. So there are three ways for the writing to end: nothing has happened to any file, or the declarations alone are written, or both files are. In each of them the paths lead where they led before, and the second step spoils the first file only by writing to the same place.

No file refuses to be opened, so a step fails only for what stands, or does not stand, at the places along its path.
-/

namespace DriverIndex

open Text (Utf8.encode)

namespace FileSystem

/-- Outside some places the files are the same, with the same bytes. -/
def SameFilesBut (written : List (List String)) (before after : FileSystem) : Prop :=
  ∀ place content, place ∉ written →
    (after.top.get? place = some (.file content) ↔ before.top.get? place = some (.file content))

/-- A path leads to a place, and to no other one if it led anywhere before. -/
structure Leads (before after : FileSystem) (path : Path) (place : List String) : Prop where
  now : after.resolve .followed path = .ok (.present place)
  earlier : ∀ other, before.resolve .followed path = .ok (.present other) → other = place

/-- A file at a place holds exactly a text. -/
def HasText (system : FileSystem) (place : List String) (text : String) : Prop :=
  system.top.get? place = some (.file (Utf8.encode text.toList))

variable {written : List (List String)} {system before middle after : FileSystem} {place : List String} {path : Path} {text : String}

theorem Grows.sameFilesBut (hgrows : Grows written before after) : SameFilesBut written before after := by
  intro place content hother
  rw [← Node.kind?_eq_file_iff, ← Node.kind?_eq_file_iff]
  exact hgrows.file_iff hother

theorem Grows.leads (hgrows : Grows written before after)
    (hnow : after.resolve .followed path = .ok (.present place)) : Leads before after path place :=
  ⟨hnow, fun _ hearlier => resolve_unique (resolve_mono hgrows hearlier) hnow⟩

theorem HasText.kept (htext : middle.HasText place text) (hgrows : Grows written middle after) (hother : place ∉ written) :
    after.HasText place text :=
  (hgrows.sameFilesBut place _ hother).2 htext

end FileSystem

namespace Publication

open FileSystem

variable {publication : Publication} {system middle after : FileSystem} {failure : Failure}

/-- The first step fails. -/
def HeaderFails (publication : Publication) (system after : FileSystem) (failure : Failure) : Prop :=
  system.publish publication.header (Artifact.declarations publication.naming publication.table publication.date) =
    (after, .error failure)

/-- The first step succeeds and the second one fails. -/
def SourceFails (publication : Publication) (system after : FileSystem) (failure : Failure) : Prop :=
  ∃ middle,
    system.publish publication.header (Artifact.declarations publication.naming publication.table publication.date) =
      (middle, .ok ()) ∧
    middle.publish publication.source (Artifact.definitions publication.naming publication.table publication.date) =
      (after, .error failure)

theorem write_of_headerFails (hfails : publication.HeaderFails system after failure) :
    publication.write system = (after, .fail failure) := by
  rw [write, declarations, hfails]

theorem write_of_sourceFails (hfails : publication.SourceFails system after failure) :
    publication.write system = (after, .fail failure) := by
  obtain ⟨middle, hheader, hsource⟩ := hfails
  rw [write, declarations, hheader]
  dsimp only
  rw [definitions, hsource]

/-- Writing fails in one of its two steps. -/
theorem fails_of_write (hwrite : (publication.write system).2.outcome = .error failure) :
    publication.HeaderFails system (publication.write system).1 failure ∨
      publication.SourceFails system (publication.write system).1 failure := by
  have hcourse := publication.course_write system
  generalize publication.write system = result at hcourse hwrite ⊢
  cases hcourse with
  | headerFailed hheader => exact .inl (Except.error.inj hwrite ▸ hheader)
  | sourceFailed hheader hsource => exact .inr ⟨_, hheader, Except.error.inj hwrite ▸ hsource⟩
  | finished => cases hwrite

/-- Writing the generated files changes no file but theirs. If it succeeds, the source path leads to the definitions and the header path to the declarations, unless both lead to one place. If it fails, one of its two steps does: after the first one no file has changed, and after the second one the declarations are written and nothing else. -/
theorem write_changes_own_files (publication : Publication) (system : FileSystem) :
    ((publication.write system).2.outcome = .ok () → ∃ header source,
      Leads system (publication.write system).1 publication.header header ∧
      Leads system (publication.write system).1 publication.source source ∧
      (publication.write system).1.HasText source
        (Artifact.definitions publication.naming publication.table publication.date) ∧
      (header ≠ source → (publication.write system).1.HasText header
        (Artifact.declarations publication.naming publication.table publication.date)) ∧
      SameFilesBut [header, source] system (publication.write system).1) ∧
    (∀ failure, (publication.write system).2.outcome = .error failure ↔
      publication.HeaderFails system (publication.write system).1 failure ∨
        publication.SourceFails system (publication.write system).1 failure) ∧
    (∀ after failure, publication.HeaderFails system after failure →
      publication.write system = (after, .fail failure) ∧ SameFilesBut [] system after) ∧
    ∀ after failure, publication.SourceFails system after failure →
      publication.write system = (after, .fail failure) ∧
      ∃ header, Leads system after publication.header header ∧
        after.HasText header (Artifact.declarations publication.naming publication.table publication.date) ∧
        SameFilesBut [header] system after := by
  refine ⟨?_, ?_, ?_, ?_⟩
  · intro hwrite
    obtain ⟨header, source, hdone⟩ := write_done hwrite
    refine ⟨header, source, hdone.grows.leads hdone.header_leads, hdone.grows.leads hdone.source_leads,
      Node.kind?_eq_file_iff.1 hdone.definitions, fun hne => Node.kind?_eq_file_iff.1 (hdone.declarations hne),
      hdone.grows.sameFilesBut⟩
  · intro failure
    constructor
    · exact fails_of_write
    · rintro (hfails | hfails)
      · rw [write_of_headerFails hfails]
        rfl
      · rw [write_of_sourceFails hfails]
        rfl
  · intro after failure hfails
    exact ⟨write_of_headerFails hfails, (grows_of_publish_error hfails).sameFilesBut⟩
  · intro after failure hfails
    refine ⟨write_of_sourceFails hfails, ?_⟩
    obtain ⟨middle, hheader, hsource⟩ := hfails
    obtain ⟨header, hfirst, hpath, hfile⟩ := grows_of_publish_ok hheader
    have htext : middle.HasText header (Artifact.declarations publication.naming publication.table publication.date) :=
      Node.kind?_eq_file_iff.1 hfile
    have hsecond : Grows [] middle after := grows_of_publish_error hsource
    have hboth : Grows [header] system after := hfirst.trans hsecond
    exact ⟨header, hboth.leads (resolve_mono hsecond hpath), htext.kept hsecond List.not_mem_nil, hboth.sameFilesBut⟩

/-- Declarations behind a link, whose directory is made, and definitions in a new directory; then a file where a directory is needed, in the first step and in the second. -/
theorem write_changes_own_files_behind_link :
    let system : FileSystem := ⟨.dir [("inc", .link ⟨"real"⟩), ("real", .dir []), ("old.c", .file "x".toUTF8.toList)], []⟩
    let table := SlotTable.ofCalls [⟨⟨2⟩, "a", ""⟩]
    let date : Date := ⟨2024, 3, 7⟩
    let publication : Path → Path → Publication := fun header source => ⟨{}, table, date, header, source⟩
    let written := publication ⟨"inc/new/a.h"⟩ ⟨"src/a.c"⟩
    let blockedFirst := publication ⟨"old.c/a.h"⟩ ⟨"src/a.c"⟩
    let blockedLast := publication ⟨"inc/new/a.h"⟩ ⟨"old.c/a.c"⟩
    let fault : Failure := .io ⟨"old.c"⟩ .alreadyExists
    ((written.write system).2.outcome = .ok () ∧
      (written.write system).1.HasText ["src", "a.c"] (Artifact.definitions {} table date) ∧
      (written.write system).1.HasText ["real", "new", "a.h"] (Artifact.declarations {} table date) ∧
      SameFilesBut [["real", "new", "a.h"], ["src", "a.c"]] system (written.write system).1) ∧
    (∃ after, blockedFirst.HeaderFails system after fault ∧ SameFilesBut [] system after) ∧
    ∃ after, blockedLast.SourceFails system after fault ∧
      after.HasText ["real", "new", "a.h"] (Artifact.declarations {} table date) ∧
      SameFilesBut [["real", "new", "a.h"]] system after := by
  intro system table date publication written blockedFirst blockedLast fault
  have hwrite : (written.write system).2.outcome = .ok () := by decide +kernel
  have hheaderPath : (written.write system).1.resolve .followed ⟨"inc/new/a.h"⟩ = .ok (.present ["real", "new", "a.h"]) := by
    decide +kernel
  have hsourcePath : (written.write system).1.resolve .followed ⟨"src/a.c"⟩ = .ok (.present ["src", "a.c"]) := by
    decide +kernel
  have hblocked : (system.publish blockedFirst.header blockedFirst.declarations).2 = .error fault := by decide +kernel
  have hfirst : (system.publish blockedLast.header blockedLast.declarations).2 = .ok () := by decide +kernel
  have hlast : ((system.publish blockedLast.header blockedLast.declarations).1.publish blockedLast.source
      blockedLast.definitions).2 = .error fault := by decide +kernel
  have hbehind : ((system.publish blockedLast.header blockedLast.declarations).1.publish blockedLast.source
      blockedLast.definitions).1.resolve .followed ⟨"inc/new/a.h"⟩ = .ok (.present ["real", "new", "a.h"]) := by
    decide +kernel
  have hheaderFails : blockedFirst.HeaderFails system _ fault := Prod.ext rfl hblocked
  have hsourceFails : blockedLast.SourceFails system _ fault := ⟨_, Prod.ext rfl hfirst, Prod.ext rfl hlast⟩
  refine ⟨?_, ⟨_, hheaderFails, ?_⟩, ⟨_, hsourceFails, ?_⟩⟩
  · obtain ⟨header, source, hheader, hsource, hdefinitions, hdeclarations, hsame⟩ :=
      (write_changes_own_files written system).1 hwrite
    obtain rfl := resolve_unique hheaderPath hheader.now
    obtain rfl := resolve_unique hsourcePath hsource.now
    exact ⟨hwrite, hdefinitions, hdeclarations (by decide), hsame⟩
  · exact ((write_changes_own_files blockedFirst system).2.2.1 _ _ hheaderFails).2
  · obtain ⟨-, header, hheader, htext, hsame⟩ :=
      (write_changes_own_files blockedLast system).2.2.2 _ _ hsourceFails
    obtain rfl := resolve_unique hbehind hheader.now
    exact ⟨htext, hsame⟩

end Publication

end DriverIndex
