import DriverIndex.Proofs.Discovery.Sources
import DriverIndex.Proofs.Settings.Acceptance

/-!
# Which extensions find files

An extension is looked for behind the last dot of a name only. So one without a dot in it finds every file whose name ends in it, behind a dot and something before that, and one with a dot in it finds nothing at all: what ends in it is found by what stands behind its own last dot, or is not found. Neither a configuration nor the arguments are refused for an extension with a dot in it.
-/

namespace DriverIndex

open Node (IsName)

namespace Path

variable {path : Path} {name stem last : String} {names extensions : List String}

theorem fileName?_descend (hpath : path.text ≠ "") (hnames : ∀ other ∈ names ++ [name], IsName other) :
    (path.descend (names ++ [name])).fileName? = some name := by
  rw [fileName?, components_descend hpath hnames, List.map_append, ← List.append_assoc, List.map_singleton,
    List.getLast?_concat]

theorem hasExtension_iff (hname : path.fileName? = some (stem ++ "." ++ last)) (hstem : stem ≠ "")
    (hlast : '.' ∉ last.toList) : path.HasExtension extensions ↔ last ∈ extensions := by
  constructor
  · rintro ⟨other, extension, hother, hne, hdot, hmem⟩
    have hsame : stem ++ "." ++ last = other ++ "." ++ extension := Option.some.inj (hname.symm.trans hother)
    have hfound := nameExtension?_eq_some_iff.2 ⟨other, hne, hsame, hdot⟩
    have hthere := nameExtension?_eq_some_iff.2 ⟨stem, hstem, rfl, hlast⟩
    rwa [Option.some.inj (hthere.symm.trans hfound)]
  · intro hmem
    exact ⟨stem, last, hname, hstem, hlast, hmem⟩

/-- What has an extension has it without a dot. -/
theorem hasExtension_filter :
    path.HasExtension (extensions.filter fun extension => '.' ∉ extension.toList) ↔ path.HasExtension extensions := by
  constructor
  · rintro ⟨stem, extension, hname, hstem, hdot, hmem⟩
    exact ⟨stem, extension, hname, hstem, hdot, List.mem_of_mem_filter hmem⟩
  · rintro ⟨stem, extension, hname, hstem, hdot, hmem⟩
    exact ⟨stem, extension, hname, hstem, hdot, List.mem_filter.2 ⟨hmem, decide_eq_true hdot⟩⟩

end Path

namespace FileSystem

variable {system : FileSystem} {root : Path} {place names : List String} {stem last : String} {content : List UInt8}
  {settings : ScanSettings} {files : List Path}

/-- A file below a root is found by what stands behind the last dot of its name. -/
theorem mem_sources_of_file (hwell : system.top.WellFormed)
    (hplace : system.resolve .followed root = .ok (.present place)) (hfiles : system.sources settings root = .ok files)
    (hfile : system.kind? (place ++ (names ++ [stem ++ "." ++ last])) = some (.file content)) (hstem : stem ≠ "")
    (hlast : '.' ∉ last.toList) (hfree : ∀ name ∈ names, name ∉ settings.exclude) :
    root.descend (names ++ [stem ++ "." ++ last]) ∈ files ↔ last ∈ settings.extensions ∧
      (root.descend (names ++ [stem ++ "." ++ last])).text.utf8ByteSize ≤ longestPath := by
  have hnames : ∀ name ∈ names ++ [stem ++ "." ++ last], IsName name := fun name hmem =>
    hwell.isName_of_mem (kind?_ne_none hfile) (List.mem_append_right place hmem)
  have hname := Path.fileName?_descend (resolve_eq_ok_iff.1 hplace).1.ne_empty hnames
  have hreaches : Reaches system settings.exclude root (root.descend (names ++ [stem ++ "." ++ last])) :=
    ⟨place, _, _, hplace, hfile, Kind.noConfusion, by rwa [List.dropLast_concat], rfl⟩
  rw [mem_sources_iff hwell hfiles, Path.hasExtension_iff hname hstem hlast, leadsToFile_descend_iff hwell hplace hfile]
  exact and_iff_right hreaches

theorem sources_filter (system : FileSystem) (settings : ScanSettings) (root : Path) :
    system.sources { settings with extensions := settings.extensions.filter fun extension => '.' ∉ extension.toList } root =
      system.sources settings root := by
  have hsource : system.isSource (settings.extensions.filter fun extension => '.' ∉ extension.toList) =
      system.isSource settings.extensions := by
    funext path
    rw [Bool.eq_iff_iff, isSource_iff, isSource_iff, Path.hasExtension_filter]
  rw [sources, sources, sourcesInTree, sourcesInTree, hsource]

end FileSystem

namespace Invocation

variable {settings : Settings}

/-- No extension that a run looks for has a dot in front, and one of them is empty exactly if an argument is nothing but dots. Where a scan goes through, an extension without a dot in it finds every file of that ending outside the excluded directories, if only its path is not too long. For one with a dot in it such a file is found exactly if what stands behind the last dot is an extension too; and so all files that are found are found without the extensions that have a dot in them. -/
theorem dotted_extensions_find_nothing (haccepted : settings.Accepted) (invocation : Invocation) :
    let wanted := invocation.scanSettings settings
    (∀ extension ∈ wanted.extensions, extension.toList.head? ≠ some '.') ∧
    ("" ∈ wanted.extensions ↔ ∃ given ∈ invocation.extensions, ∀ c ∈ given.toList, c = '.') ∧
    (∀ (system : FileSystem) (root : Path) (place : List String) (files : List Path), system.top.WellFormed →
      system.resolve .followed root = .ok (.present place) → system.sources wanted root = .ok files →
      ∀ extension ∈ wanted.extensions, ∀ (names : List String) (stem : String) (content : List UInt8), stem ≠ "" →
        system.kind? (place ++ (names ++ [stem ++ "." ++ extension])) = some (.file content) →
        (∀ name ∈ names, name ∉ wanted.exclude) →
        let path := root.descend (names ++ [stem ++ "." ++ extension])
        ('.' ∉ extension.toList → (path ∈ files ↔ path.text.utf8ByteSize ≤ FileSystem.longestPath)) ∧
        ∀ front last, extension = front ++ "." ++ last → '.' ∉ last.toList →
          (path ∈ files ↔ last ∈ wanted.extensions ∧ path.text.utf8ByteSize ≤ FileSystem.longestPath)) ∧
    ∀ (system : FileSystem) (root : Path),
      system.sources { wanted with extensions := wanted.extensions.filter fun extension => '.' ∉ extension.toList } root =
        system.sources wanted root := by
  intro wanted
  refine ⟨trimmed_scanSettings haccepted invocation, empty_mem_scanSettings_iff haccepted invocation, ?_,
    fun system root => system.sources_filter wanted root⟩
  intro system root place files hwell hplace hfiles extension hmem names stem content hstem hfile hfree path
  constructor
  · intro hdot
    rw [FileSystem.mem_sources_of_file hwell hplace hfiles hfile hstem hdot hfree]
    exact and_iff_right hmem
  · rintro front last rfl hlast
    have hname : stem ++ "." ++ (front ++ "." ++ last) = (stem ++ "." ++ front) ++ "." ++ last := by
      simp only [String.append_assoc]
    have hlonger : stem ++ "." ++ front ≠ "" := by simp
    dsimp only [path]
    rw [hname] at hfile ⊢
    exact FileSystem.mem_sources_of_file hwell hplace hfiles hfile hlonger hlast hfree

/-- Of three given extensions, the one with a dot in it could be left out, and an argument that is a dot leaves one that is empty. -/
theorem dotted_extensions_of_arguments :
    let invocation : Invocation :=
      { marker := "M", root := ⟨"src"⟩, header := ⟨"o.h"⟩, source := ⟨"o.c"⟩, extensions := [".tar.gz", ".", "S"] }
    let wanted := invocation.scanSettings {}
    Settings.Accepted {} ∧ wanted.extensions = ["tar.gz", "", "S"] ∧ "" ∈ wanted.extensions ∧
      ∀ (system : FileSystem) (root : Path),
        system.sources { wanted with extensions := ["", "S"] } root = system.sources wanted root := by
  intro invocation wanted
  obtain ⟨-, hempty, -, hfilter⟩ := dotted_extensions_find_nothing .usual invocation
  have hextensions : wanted.extensions = ["tar.gz", "", "S"] := by decide +kernel
  refine ⟨.usual, hextensions, hempty.2 ⟨".", by decide, by simp⟩, fun system root => ?_⟩
  have hleft : wanted.extensions.filter (fun extension => '.' ∉ extension.toList) = ["", "S"] := by
    rw [hextensions]
    decide +kernel
  rw [← hleft]
  exact hfilter system root

/-- A file that ends in the one extension that is given, and that is not found; and an extension that is empty. -/
theorem not_every_extension_finds :
    let system : FileSystem := ⟨.dir [("src", .dir [("a.tar.gz", .file [])])], []⟩
    let invocation : Invocation :=
      { marker := "M", root := ⟨"src"⟩, header := ⟨"o.h"⟩, source := ⟨"o.c"⟩, extensions := ["tar.gz"] }
    system.top.WellFormed ∧ Settings.Accepted {} ∧ (invocation.scanSettings {}).extensions = ["tar.gz"] ∧
      system.resolve .followed ⟨"src"⟩ = .ok (.present ["src"]) ∧
      system.kind? (["src"] ++ ([] ++ ["a" ++ "." ++ "tar.gz"])) = some (.file []) ∧
      system.sources (invocation.scanSettings {}) ⟨"src"⟩ = .ok [] ∧
      ({ invocation with extensions := ["."] }.scanSettings {}).extensions = [""] := by
  intro system invocation
  have hinside : (Node.dir [("a.tar.gz", .file [])]).WellFormed :=
    .dir (by decide) (by decide +kernel) (by simp [Node.WellFormed.file])
  have hwell : system.top.WellFormed := .dir (by decide) (by decide +kernel) (by simp [hinside])
  exact ⟨hwell, .usual, by decide +kernel, by decide +kernel, by decide +kernel, by decide +kernel, by decide +kernel⟩

end Invocation

end DriverIndex
