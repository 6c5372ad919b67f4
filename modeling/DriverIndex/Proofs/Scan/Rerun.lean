import DriverIndex.Proofs.Artifact.Dating
import DriverIndex.Proofs.Discovery.Growth
import DriverIndex.Proofs.FileSystem.Writing
import DriverIndex.Proofs.Marker.Occurrence
import DriverIndex.Proofs.Scan.Run

/-!
# A scan of what was generated

The generated files may lie below the root of the scan that they come from, and then a second scan reads them too. They register nothing as long as the marker is not in them, wherever they stand in the order of the files, and all other files are what they were. So the second scan numbers the same registrations, and the files that it would generate are the same but for the date.

Two things can come between. Making the directories of a generated file can make its path lead to a file that the path did not lead to before, and that file is overwritten. And a directory that was made can be so far down that the second walk is not let in.
-/

namespace DriverIndex

open FileSystem (Grows Walkable Reaches LeadsToFile)

/-- What is written piece by piece avoids a word if all pieces lack one of its characters. -/
theorem Artifact.avoids_write {pieces : List String} {word : String} {c : Char} (hword : c ∈ word.toList)
    (hnewline : c ≠ '\n') (hpieces : ∀ piece ∈ pieces, c ∉ piece.toList) :
    Text.Avoids word (write pieces).toList := by
  refine Text.avoids_of_notMem hword fun hmem => ?_
  rw [write, String.toList_join, List.mem_flatMap] at hmem
  obtain ⟨_, hline, hc⟩ := hmem
  obtain ⟨piece, hpiece, rfl⟩ := List.mem_map.1 hline
  rw [String.toList_append, List.mem_append] at hc
  rcases hc with hc | hc
  · exact hpieces piece hpiece hc
  · exact hnewline (by simpa using hc)

namespace Publication

variable {publication : Publication} {system : FileSystem}

/-- The paths of a publication lead to no file with a word. -/
def Spares (publication : Publication) (word : String) (system : FileSystem) : Prop :=
  ∀ path ∈ [publication.header, publication.source], ∀ bytes, system.read path = .ok bytes →
    Text.Avoids word (Text.Utf8.decodeLossy bytes)

theorem spares_of_notFound (hheader : system.read publication.header = .error .notFound)
    (hsource : system.read publication.source = .error .notFound) (word : String) : publication.Spares word system := by
  intro path hpath bytes hread
  rcases List.mem_pair.1 hpath with rfl | rfl
  · cases hheader.symm.trans hread
  · cases hsource.symm.trans hread

end Publication

namespace Scan

/-- Files that register nothing have no part in the calls. -/
theorem callsOf_filter (found : Path → List Sighting) (files old : List Path) :
    callsOf (fun file => if file ∈ old then found file else []) files = callsOf found (files.filter (· ∈ old)) := by
  induction files with
  | nil => rfl
  | cons file rest ih =>
    rw [callsOf, List.flatMap_cons, ← callsOf, ih]
    by_cases hold : file ∈ old
    · rw [if_pos hold, List.filter_cons, if_pos (decide_eq_true hold), callsOf, callsOf, List.flatMap_cons]
    · rw [if_neg hold, List.filter_cons, if_neg (by simpa using hold), List.map_nil, List.nil_append]

end Scan

namespace ScanRequest

/-- A scan and the writing of the files that come from it have succeeded, in a tree without dangling links. The files are read in the order of their paths, and the generated files do not contain the marker. -/
structure FirstRun (request : ScanRequest) (publication : Publication) (system : FileSystem) (summary : Summary) : Prop where
  wellFormed : system.top.WellFormed
  not_dangles : ∀ place, ¬system.Dangles place
  sorts : request.settings.sort = true
  scanned : (request.run system).outcome = .ok summary
  table_eq : publication.table = summary.table
  written : (publication.write system).2.outcome = .ok ()
  declarations_avoids : Text.Avoids request.marker publication.declarations.toList
  definitions_avoids : Text.Avoids request.marker publication.definitions.toList

/-- No file with the marker is overwritten, and the second walk is let into every directory that was made. -/
structure Undisturbed (request : ScanRequest) (publication : Publication) (before after : FileSystem) : Prop where
  avoids : ∀ path ∈ [publication.header, publication.source], ∀ place bytes,
    after.resolve .followed path = .ok (.present place) → before.kind? place = some (.file bytes) →
    Text.Avoids request.marker (Text.Utf8.decodeLossy bytes)
  fits : ∀ place names, before.resolve .followed request.root = .ok (.present place) →
    after.kind? (place ++ names) = some .dir → before.kind? (place ++ names) = none →
    (∀ name ∈ names, name ∉ request.settings.exclude) →
    (request.root.descend names).text.utf8ByteSize ≤ FileSystem.longestPath

variable {request : ScanRequest} {publication : Publication} {system after : FileSystem} {summary : Summary}
  {marker : Marker} {files others : List Path} {found : Path → List Sighting}
  {header source place : List String} {file : Path} {content : List UInt8}

/-- What was written at a place registers nothing. -/
theorem FirstRun.extract_of_written (hfirst : request.FirstRun publication system summary)
    (hdone : publication.Done system after header source) (hmarker : Marker.ofText? request.marker = some marker)
    (hwritten : place ∈ [header, source]) (hcontent : after.kind? place = some (.file content)) :
    marker.extract content = .ok [] := by
  by_cases hsource : place = source
  · subst hsource
    obtain rfl := Kind.file.inj (Option.some.inj (hdone.definitions.symm.trans hcontent))
    exact Marker.extract_encode_of_avoids hmarker hfirst.definitions_avoids
  · obtain rfl : place = header := by simpa [hsource] using hwritten
    obtain rfl := Kind.file.inj (Option.some.inj ((hdone.declarations hsource).symm.trans hcontent))
    exact Marker.extract_encode_of_avoids hmarker hfirst.declarations_avoids

/-- A file of the first scan that is written has registered nothing before. -/
theorem Undisturbed.found_of_written (hsafe : request.Undisturbed publication system after)
    (hdone : publication.Done system after header source) (hreads : request.Reads system marker files found)
    (hfile : file ∈ files) (hplace : after.resolve .followed file = .ok (.present place))
    (hwritten : place ∈ [header, source]) : found file = [] := by
  obtain ⟨bytes, hread, hextract⟩ := hreads.extract_eq file hfile
  obtain ⟨old, hold, hbytes⟩ := FileSystem.read_eq_ok_iff.1 hread
  obtain rfl : old = place := FileSystem.resolve_unique (FileSystem.resolve_mono hdone.grows hold) hplace
  have havoids : Text.Avoids request.marker (Text.Utf8.decodeLossy bytes) := by
    rcases List.mem_pair.1 hwritten with rfl | rfl
    · exact hsafe.avoids _ (by simp) _ bytes hdone.header_leads hbytes
    · exact hsafe.avoids _ (by simp) _ bytes hdone.source_leads hbytes
  exact Except.ok.inj (hextract.symm.trans (Marker.extract_of_avoids hreads.marker_eq havoids))

/-- What the second scan comes by holds what the first scan has found in it, or registers nothing. -/
theorem extract_again (hfirst : request.FirstRun publication system summary)
    (hdone : publication.Done system after header source) (hsafe : request.Undisturbed publication system after)
    (hreads : request.Reads system marker files found) (hreaches : Reaches after request.settings.exclude request.root file)
    (hextension : file.HasExtension request.settings.extensions) (hleads : LeadsToFile after file) :
    ∃ bytes, after.read file = .ok bytes ∧ marker.extract bytes = .ok (if file ∈ files then found file else []) := by
  obtain ⟨last, content, hlast, hcontent⟩ := hleads
  refine ⟨content, FileSystem.read_eq_ok_iff.2 ⟨last, hlast, hcontent⟩, ?_⟩
  by_cases hwritten : last ∈ [header, source]
  · rw [hfirst.extract_of_written hdone hreads.marker_eq hwritten hcontent]
    split_ifs with hold
    · rw [hsafe.found_of_written hdone hreads hold hlast hwritten]
    · rfl
  · obtain ⟨root, hwalk⟩ := (FileSystem.exists_sources_iff hfirst.wellFormed).1 ⟨files, hreads.sources_eq⟩
    obtain ⟨hback, hlastBefore, hcontentBefore⟩ := hreaches.back hdone.grows hfirst.wellFormed hfirst.not_dangles
      hwalk.leads hlast hcontent hwritten
    have hold : file ∈ files := (FileSystem.mem_sources_iff hfirst.wellFormed hreads.sources_eq).2
      ⟨hback, hextension, last, content, hlastBefore, hcontentBefore⟩
    obtain ⟨bytes, hread, hextract⟩ := hreads.extract_eq file hold
    obtain rfl : bytes = content :=
      Except.ok.inj (hread.symm.trans (FileSystem.read_eq_ok_iff.2 ⟨last, hlastBefore, hcontentBefore⟩))
    rw [if_pos hold, hextract]

/-- The second scan reads the files of the first one, in their order, among others that register nothing. -/
theorem reads_again (hfirst : request.FirstRun publication system summary)
    (hdone : publication.Done system after header source) (hsafe : request.Undisturbed publication system after)
    (hreads : request.Reads system marker files found) :
    ∃ others, request.Reads after marker others (fun file => if file ∈ files then found file else []) ∧
      others.filter (· ∈ files) = files := by
  have hwell := hfirst.wellFormed
  have hwellAfter := hdone.grows.wellFormed hwell
  obtain ⟨place, hwalk⟩ := (FileSystem.exists_sources_iff hwell).1 ⟨files, hreads.sources_eq⟩
  have hwalkAfter : Walkable after request.settings.exclude request.root place :=
    hwalk.grown hdone.grows fun names => hsafe.fits place names hwalk.leads
  obtain ⟨others, hothers⟩ := (FileSystem.exists_sources_iff hwellAfter).2 ⟨place, hwalkAfter⟩
  refine ⟨others, ⟨hreads.marker_eq, hothers, ?_⟩, ?_⟩
  · intro file hfile
    obtain ⟨hreaches, hextension, hleads⟩ := (FileSystem.mem_sources_iff hwellAfter hothers).1 hfile
    exact extract_again hfirst hdone hsafe hreads hreaches hextension hleads
  · refine Path.eq_of_mem_iff_of_before ?_ (FileSystem.pairwise_sources hwell hfirst.sorts hreads.sources_eq) ?_
    · exact (FileSystem.pairwise_sources hwellAfter hfirst.sorts hothers).filter _
    · intro path
      rw [List.mem_filter, decide_eq_true_iff, and_iff_right_iff_imp, FileSystem.mem_sources_iff hwell hreads.sources_eq,
        FileSystem.mem_sources_iff hwellAfter hothers]
      rintro ⟨hreaches, hextension, hleads⟩
      exact ⟨hreaches.grown hdone.grows, hextension, hleads.grown hdone.grows⟩

/-- A second scan after the writing finds the same as the first one, and the files that it would generate on a later day are the same but for the date. -/
theorem run_again (hfirst : request.FirstRun publication system summary)
    (hsafe : request.Undisturbed publication system (publication.write system).1) :
    ∃ again, (request.run (publication.write system).1).outcome = .ok again ∧ again.table = summary.table ∧
      ∀ later : Date,
        Artifact.SameButDate publication.date later publication.declarations
          (Artifact.declarations publication.naming again.table later) ∧
        Artifact.SameButDate publication.date later publication.definitions
          (Artifact.definitions publication.naming again.table later) := by
  obtain ⟨header, source, hdone⟩ := Publication.write_done hfirst.written
  obtain ⟨marker, files, found, hreads, hsummary⟩ := outcome_run_eq_ok_iff.1 hfirst.scanned
  obtain ⟨others, hagain, hfilter⟩ := reads_again hfirst hdone hsafe hreads
  have htable : SlotTable.ofCalls (Scan.callsOf (fun file => if file ∈ files then found file else []) others) =
      summary.table := by
    rw [Scan.callsOf_filter, hfilter, hsummary]
  refine ⟨_, outcome_run_eq_ok_iff.2 ⟨marker, others, _, hagain, rfl⟩, htable, fun later => ?_⟩
  rw [htable, ← hfirst.table_eq, Publication.declarations, Publication.definitions]
  exact ⟨(Artifact.datedOnce_declarations _ _).sameButDate _ _, (Artifact.datedOnce_definitions _ _).sameButDate _ _⟩

/-- A first run over one file with one registration, wherever the generated files are written. -/
private theorem firstRun_of_one_file (header source : Path) :
    let system : FileSystem := ⟨.dir [("src", .dir [("b.c", .file "@M(2,b,)".toUTF8.toList)])], []⟩
    let table : SlotTable := .ofCalls [⟨⟨2⟩, "b", ""⟩]
    let today : Date := ⟨2024, 3, 7⟩
    ((Publication.mk {} table today header source).write system).2.outcome = .ok () →
      FirstRun { marker := "@M", root := ⟨"src"⟩ } ⟨{}, table, today, header, source⟩ system ⟨1, table⟩ := by
  intro system table today hwritten
  have hwell : system.top.WellFormed := by
    refine .dir (by decide) (by decide +kernel) ?_
    simp only [List.forall_mem_cons]
    exact ⟨.dir (by decide) (by decide +kernel) (by simp [Node.WellFormed.file]), by simp⟩
  have hlinkless : system.top.Linkless := by simp [system, Node.linkless_dir, Node.linkless_file]
  have hscanned : (run { marker := "@M", root := ⟨"src"⟩ } system).outcome = .ok ⟨1, table⟩ := by decide +kernel
  have hdeclarations : ∀ piece ∈ Artifact.declarationPieces {} table today, '@' ∉ piece.toList := by decide +kernel
  have hdefinitions : ∀ piece ∈ Artifact.definitionPieces {} table today, '@' ∉ piece.toList := by decide +kernel
  exact ⟨hwell, FileSystem.not_dangles_of_linkless hlinkless, rfl, hscanned, rfl, hwritten,
    Artifact.avoids_write (by decide) (by decide) hdeclarations,
    Artifact.avoids_write (by decide) (by decide) hdefinitions⟩

/-- The files are generated into a new directory below the root, and one of them is the first that the second scan reads. -/
theorem run_again_below_root :
    let system : FileSystem := ⟨.dir [("src", .dir [("b.c", .file "@M(2,b,)".toUTF8.toList)])], []⟩
    let request : ScanRequest := { marker := "@M", root := ⟨"src"⟩ }
    let summary : Summary := ⟨1, .ofCalls [⟨⟨2⟩, "b", ""⟩]⟩
    let publication : Publication := ⟨{}, summary.table, ⟨2024, 3, 7⟩, ⟨"src/a/d.h"⟩, ⟨"src/a/d.c"⟩⟩
    let after := (publication.write system).1
    request.FirstRun publication system summary ∧ request.Undisturbed publication system after ∧
      ∃ again, (request.run after).outcome = .ok again ∧ again.table = summary.table ∧ ∀ later : Date,
        Artifact.SameButDate publication.date later publication.declarations (Artifact.declarations {} again.table later) ∧
        Artifact.SameButDate publication.date later publication.definitions (Artifact.definitions {} again.table later) := by
  intro system request summary publication after
  have hfirst : request.FirstRun publication system summary :=
    firstRun_of_one_file publication.header publication.source (by decide +kernel)
  obtain ⟨_, _, hdone⟩ := Publication.write_done hfirst.written
  have hheader : after.resolve .followed publication.header = .ok (.present ["src", "a", "d.h"]) := by decide +kernel
  have hsource : after.resolve .followed publication.source = .ok (.present ["src", "a", "d.c"]) := by decide +kernel
  have hroot : system.resolve .followed request.root = .ok (.present ["src"]) := by decide +kernel
  have hbranches : (after.top.get? ["src"]).map (fun below => below.branches [".git"] request.root) =
      some [⟨"src"⟩, ⟨"src/a"⟩] := by decide +kernel
  have hsafe : request.Undisturbed publication system after := by
    constructor
    · rintro path hpath place bytes hplace hfile
      rcases List.mem_pair.1 hpath with rfl | rfl
      · obtain rfl := FileSystem.resolve_unique hheader hplace
        cases hfile
      · obtain rfl := FileSystem.resolve_unique hsource hplace
        cases hfile
    · intro place names hplace hdir _ hfree
      obtain rfl := FileSystem.resolve_unique hroot hplace
      obtain ⟨below, hget, hpaths⟩ := Option.map_eq_some_iff.1 hbranches
      have hwalk : (below.branches [".git"] request.root).findSome? FileSystem.obstacle? = none := by
        rw [hpaths]
        decide +kernel
      have hwellAfter := hdone.grows.wellFormed hfirst.wellFormed
      exact (FileSystem.findSome?_obstacle?_eq_none_iff hwellAfter hget).1 hwalk names hdir hfree
  exact ⟨hfirst, hsafe, run_again hfirst hsafe⟩

/-- A path through a directory that is only made for it leads to the one source file and overwrites it. Under a root whose path is almost too long a directory that was made stops the second walk. -/
theorem second_scan_disturbed :
    (let system : FileSystem := ⟨.dir [("src", .dir [("b.c", .file "@M(2,b,)".toUTF8.toList)])], []⟩
      let request : ScanRequest := { marker := "@M", root := ⟨"src"⟩ }
      let summary : Summary := ⟨1, .ofCalls [⟨⟨2⟩, "b", ""⟩]⟩
      let publication : Publication := ⟨{}, summary.table, ⟨2024, 3, 7⟩, ⟨"new/../src/b.c"⟩, ⟨"out.c"⟩⟩
      request.FirstRun publication system summary ∧ publication.Spares request.marker system ∧
        ∀ again, (request.run (publication.write system).1).outcome = .ok again → again.table ≠ summary.table) ∧
    (let system : FileSystem := ⟨.dir [("src", .dir [])], []⟩
      let request : ScanRequest := { marker := "@M", root := Path.slashed ⟨"src"⟩ 4089 }
      let summary : Summary := ⟨0, .ofCalls []⟩
      let publication : Publication := ⟨{}, summary.table, ⟨2024, 3, 7⟩, ⟨"src/made/d.h"⟩, ⟨"src/made/d.c"⟩⟩
      request.FirstRun publication system summary ∧ publication.Spares request.marker system ∧
        ∀ again, (request.run (publication.write system).1).outcome ≠ .ok again) := by
  constructor
  · intro system request summary publication
    have hfirst : request.FirstRun publication system summary :=
      firstRun_of_one_file publication.header publication.source (by decide +kernel)
    refine ⟨hfirst, Publication.spares_of_notFound (by decide +kernel) (by decide +kernel) _, fun again hagain => ?_⟩
    obtain ⟨header, source, hdone⟩ := Publication.write_done hfirst.written
    obtain ⟨marker, files, found, hreads, rfl⟩ := outcome_run_eq_ok_iff.1 hagain
    have hfiles : files = [⟨"src/b.c"⟩] := Except.ok.inj (hreads.sources_eq.symm.trans (by decide +kernel))
    have hplace : (publication.write system).1.resolve .followed ⟨"src/b.c"⟩ = .ok (.present ["src", "b.c"]) := by
      decide +kernel
    have hheader : (publication.write system).1.resolve .followed publication.header = .ok (.present ["src", "b.c"]) := by
      decide +kernel
    obtain rfl : header = ["src", "b.c"] := FileSystem.resolve_unique hdone.header_leads hheader
    subst hfiles
    obtain ⟨bytes, hread, hextract⟩ := hreads.extract_eq _ (List.mem_singleton_self _)
    obtain ⟨place, hleads, hbytes⟩ := FileSystem.read_eq_ok_iff.1 hread
    obtain rfl := FileSystem.resolve_unique hplace hleads
    have hfound : found ⟨"src/b.c"⟩ = [] := Except.ok.inj
      (hextract.symm.trans (hfirst.extract_of_written hdone hreads.marker_eq (by simp) hbytes))
    rw [Scan.callsOf, List.flatMap_singleton, hfound]
    decide
  · intro system request summary publication
    have hwell : system.top.WellFormed := by
      refine .dir (by decide) (by decide +kernel) ?_
      simp only [List.forall_mem_cons]
      exact ⟨FileSystem.wellFormed_emptyDir, by simp⟩
    have hlinkless : system.top.Linkless := by simp [system, Node.linkless_dir]
    have hplace : system.resolve .followed ⟨"src"⟩ = .ok (.present ["src"]) := by decide +kernel
    have hroot : system.resolve .followed request.root = .ok (.present ["src"]) :=
      FileSystem.resolve_slashed hplace rfl (by decide +kernel)
    have hfits : FileSystem.obstacle? request.root = none := by
      rw [FileSystem.obstacle?, if_neg]
      rw [Path.utf8ByteSize_slashed]
      decide +kernel
    have hsources : system.sources request.settings request.root = .ok [] := by
      refine FileSystem.sources_eq_ok_iff.2 ⟨[], ?_, by simp⟩
      rw [FileSystem.sourcesInTree_eq hroot rfl, Node.branches_dir, Node.leaves_dir]
      simp [hfits]
    obtain ⟨marker, hmarker⟩ : ∃ marker, Marker.ofText? request.marker = some marker :=
      Option.isSome_iff_exists.1 (by decide +kernel)
    have hscan : (request.run system).outcome = .ok summary :=
      outcome_run_eq_ok_iff.2 ⟨marker, [], fun _ => [], ⟨hmarker, hsources, by simp⟩, rfl⟩
    have hdeclarations : ∀ piece ∈ Artifact.declarationPieces {} summary.table ⟨2024, 3, 7⟩, '@' ∉ piece.toList := by
      decide +kernel
    have hdefinitions : ∀ piece ∈ Artifact.definitionPieces {} summary.table ⟨2024, 3, 7⟩, '@' ∉ piece.toList := by
      decide +kernel
    have hfirst : request.FirstRun publication system summary :=
      ⟨hwell, FileSystem.not_dangles_of_linkless hlinkless, rfl, hscan, rfl, by decide +kernel,
        Artifact.avoids_write (by decide) (by decide) hdeclarations,
        Artifact.avoids_write (by decide) (by decide) hdefinitions⟩
    refine ⟨hfirst, Publication.spares_of_notFound (by decide +kernel) (by decide +kernel) _, fun again hagain => ?_⟩
    obtain ⟨header, source, hdone⟩ := Publication.write_done hfirst.written
    obtain ⟨_, files, _, hreads, -⟩ := outcome_run_eq_ok_iff.1 hagain
    obtain ⟨place, hwalk⟩ :=
      (FileSystem.exists_sources_iff (hdone.grows.wellFormed hwell)).1 ⟨files, hreads.sources_eq⟩
    obtain rfl := FileSystem.resolve_unique (FileSystem.resolve_mono hdone.grows hroot) hwalk.leads
    have hmade : (publication.write system).1.kind? (["src"] ++ ["made"]) = some .dir := by decide +kernel
    have hfree : ∀ name ∈ ["made"], name ∉ request.settings.exclude := by decide
    have hsize := hwalk.fits ["made"] hmade hfree
    rw [Path.descend_singleton, Path.join_slashed (by decide), String.utf8ByteSize_append, Path.utf8ByteSize_slashed] at hsize
    exact absurd hsize (by decide +kernel)

end ScanRequest

end DriverIndex
