import DriverIndex.Proofs.Discovery.Root
import DriverIndex.Proofs.Path.Order

/-!
# The source files below a root

The source files of a scan are exactly the paths that a walk from its root comes by, that have one of the wanted extensions and that lead to a file. Each of them is found once. In the order of their paths they are determined by what stands at the places of the tree, whatever the order in which directories list their entries, and unsorted they are the same paths in another order. A file whose path is longer than the file system takes is passed over, since no path that long leads to a file.
-/

namespace DriverIndex

open Node (IsName)

/-- The name of a path is a stem that is not empty, a dot and one of some extensions, in which there is no dot. -/
def Path.HasExtension (path : Path) (extensions : List String) : Prop :=
  ∃ stem extension, path.fileName? = some (stem ++ "." ++ extension) ∧ stem ≠ "" ∧ '.' ∉ extension.toList ∧
    extension ∈ extensions

namespace FileSystem

/-- A path goes down from a root, by directories that are not excluded, to something that is no directory. The root may be a link, but no other directory is entered through one. -/
def Reaches (system : FileSystem) (exclude : List String) (root path : Path) : Prop :=
  ∃ place names kind, system.resolve .followed root = .ok (.present place) ∧
    system.kind? (place ++ names) = some kind ∧ kind ≠ .dir ∧ (∀ name ∈ names.dropLast, name ∉ exclude) ∧
    path = root.descend names

/-- A path leads to a file, perhaps by links. -/
def LeadsToFile (system : FileSystem) (path : Path) : Prop :=
  ∃ place content, system.resolve .followed path = .ok (.present place) ∧ system.kind? place = some (.file content)

variable {system other : FileSystem} {root path : Path} {place : List String} {settings : ScanSettings}
  {files : List Path} {extensions exclude : List String}

theorem hasFile_iff_leadsToFile : system.hasFile path = true ↔ LeadsToFile system path := by
  simp only [hasFile_iff, read_eq_ok_iff]
  exact exists_comm

theorem isSource_iff : system.isSource extensions path = true ↔
    path.HasExtension extensions ∧ LeadsToFile system path := by
  rw [isSource, Bool.and_eq_true, Option.any_eq_true, hasFile_iff_leadsToFile]
  refine and_congr_left fun _ => ?_
  constructor
  · rintro ⟨extension, hextension, hmem⟩
    obtain ⟨name, hname, hsplit⟩ := Option.bind_eq_some_iff.1 hextension
    obtain ⟨stem, hstem, rfl, hdot⟩ := Path.nameExtension?_eq_some_iff.1 hsplit
    exact ⟨stem, extension, hname, hstem, hdot, of_decide_eq_true hmem⟩
  · rintro ⟨stem, extension, hname, hstem, hdot, hmem⟩
    refine ⟨extension, Option.bind_eq_some_iff.2 ⟨_, hname, ?_⟩, decide_eq_true hmem⟩
    exact Path.nameExtension?_eq_some_iff.2 ⟨stem, hstem, rfl, hdot⟩

theorem leadsToFile_descend_iff {names : List String} {content : List UInt8} (hwell : system.top.WellFormed)
    (hplace : system.resolve .followed root = .ok (.present place))
    (hfile : system.kind? (place ++ names) = some (.file content)) :
    LeadsToFile system (root.descend names) ↔ (root.descend names).text.utf8ByteSize ≤ longestPath := by
  have hnames : ∀ name ∈ names, IsName name := fun name hmem =>
    hwell.isName_of_mem (kind?_ne_none hfile) (List.mem_append_right place hmem)
  constructor
  · rintro ⟨last, bytes, hleads, -⟩
    exact (resolve_eq_ok_iff.1 hleads).1.size_le
  · intro hsize
    exact ⟨place ++ names, content, (resolve_descend hplace hnames hfile fun _ => Kind.noConfusion).2 hsize, hfile⟩

theorem exists_get? (hroot : system.resolve .followed root = .ok (.present place)) :
    ∃ below, system.top.get? place = some below := by
  obtain ⟨kind, hkind, -⟩ := exists_kind_of_resolve (by simp) hroot
  obtain ⟨below, hget, -⟩ := Option.map_eq_some_iff.1 hkind
  exact ⟨below, hget⟩

/-- A walk goes through if no directory in its way has too long a path. -/
theorem findSome?_obstacle?_eq_none_iff {below : Node} (hwell : system.top.WellFormed)
    (hget : system.top.get? place = some below) : (below.branches exclude root).findSome? obstacle? = none ↔
      ∀ names, system.kind? (place ++ names) = some .dir → (∀ name ∈ names, name ∉ exclude) →
        (root.descend names).text.utf8ByteSize ≤ longestPath := by
  have hobstacle : ∀ path, obstacle? path = none ↔ path.text.utf8ByteSize ≤ longestPath := by
    intro path
    rw [obstacle?]
    split_ifs with hlong
    · exact iff_of_false (by simp) (Nat.not_le.2 hlong)
    · exact iff_of_true rfl (Nat.not_lt.1 hlong)
  rw [List.findSome?_eq_none_iff]
  simp only [hobstacle, (hwell.of_get? hget).mem_branches, kind?, Node.kind?_append hget]
  constructor
  · intro hfits names hdir hfree
    exact hfits _ ⟨names, hdir, hfree, rfl⟩
  · rintro hfits _ ⟨names, hdir, hfree, rfl⟩
    exact hfits names hdir hfree

theorem exists_sources_iff (hwell : system.top.WellFormed) :
    (∃ files, system.sources settings root = .ok files) ↔ ∃ place, Walkable system settings.exclude root place := by
  constructor
  · rintro ⟨files, hfiles⟩
    obtain ⟨found, hfound, -⟩ := sources_eq_ok_iff.1 hfiles
    have hnode : ∃ node, system.rootNode root = .ok node := by
      rw [sourcesInTree] at hfound
      cases hnode : system.rootNode root with
      | error fault => simp [hnode, Except.mapError, bind, Except.bind] at hfound
      | ok node => exact ⟨node, rfl⟩
    obtain ⟨node, hnode⟩ := hnode
    obtain ⟨place, hplace⟩ := exists_place_of_rootNode hnode
    obtain ⟨below, hget⟩ := exists_get? hplace
    rw [sourcesInTree_eq hplace hget] at hfound
    cases hfind : (below.branches settings.exclude root).findSome? obstacle? with
    | some obstacle => simp [hfind] at hfound
    | none => exact ⟨place, hplace, (findSome?_obstacle?_eq_none_iff hwell hget).1 hfind⟩
  · rintro ⟨place, hplace, hfits⟩
    obtain ⟨below, hget⟩ := exists_get? hplace
    have hfound : ∃ found, system.sourcesInTree settings root = .ok found := by
      rw [sourcesInTree_eq hplace hget, (findSome?_obstacle?_eq_none_iff hwell hget).2 hfits]
      exact ⟨_, rfl⟩
    obtain ⟨found, hfound⟩ := hfound
    exact ⟨_, sources_eq_ok_iff.2 ⟨found, hfound, rfl⟩⟩

/-- What a walk has found, before it is sorted. -/
theorem exists_found (hwell : system.top.WellFormed) (hfiles : system.sources settings root = .ok files) :
    ∃ found, system.sourcesInTree settings root = .ok found ∧ (found.map Path.components).Nodup ∧
      ∀ path, path ∈ found ↔ Reaches system settings.exclude root path ∧ path.HasExtension settings.extensions ∧
        LeadsToFile system path := by
  obtain ⟨place, hplace, hfits⟩ := (exists_sources_iff hwell).1 ⟨files, hfiles⟩
  obtain ⟨below, hget⟩ := exists_get? hplace
  refine ⟨(below.leaves settings.exclude root).filter (system.isSource settings.extensions), ?_, ?_, ?_⟩
  · rw [sourcesInTree_eq hplace hget, (findSome?_obstacle?_eq_none_iff hwell hget).2 hfits]
  · have hroot : root.text ≠ "" := (resolve_eq_ok_iff.1 hplace).1.ne_empty
    have hnodup := (hwell.of_get? hget).nodup_components_leaves settings.exclude hroot
    exact hnodup.sublist (List.filter_sublist.map _)
  · intro path
    rw [List.mem_filter, isSource_iff, (hwell.of_get? hget).mem_leaves]
    refine and_congr_left fun _ => ?_
    simp only [← Node.kind?_append hget]
    constructor
    · rintro ⟨names, kind, hkind, hother, hfree, rfl⟩
      exact ⟨place, names, kind, hplace, hkind, hother, hfree, rfl⟩
    · rintro ⟨other, names, kind, hleads, hkind, hother, hfree, rfl⟩
      obtain rfl := resolve_unique hplace hleads
      exact ⟨names, kind, hkind, hother, hfree, rfl⟩

theorem mem_sources_iff (hwell : system.top.WellFormed) (hfiles : system.sources settings root = .ok files) :
    path ∈ files ↔ Reaches system settings.exclude root path ∧ path.HasExtension settings.extensions ∧
      LeadsToFile system path := by
  obtain ⟨found, hfound, -, hmem⟩ := exists_found hwell hfiles
  obtain ⟨same, hsame, rfl⟩ := sources_eq_ok_iff.1 hfiles
  obtain rfl := Except.ok.inj (hfound.symm.trans hsame)
  rw [← hmem]
  split_ifs
  · exact (List.mergeSort_perm found Path.le).mem_iff
  · rfl

theorem nodup_sources (hwell : system.top.WellFormed) (hfiles : system.sources settings root = .ok files) :
    files.Nodup := by
  obtain ⟨found, hfound, hnodup, -⟩ := exists_found hwell hfiles
  obtain ⟨same, hsame, rfl⟩ := sources_eq_ok_iff.1 hfiles
  obtain rfl := Except.ok.inj (hfound.symm.trans hsame)
  split_ifs
  · exact (List.mergeSort_perm found Path.le).nodup_iff.2 (hnodup.of_map _)
  · exact hnodup.of_map _

theorem pairwise_sources (hwell : system.top.WellFormed) (hsort : settings.sort = true)
    (hfiles : system.sources settings root = .ok files) : files.Pairwise Path.Before := by
  obtain ⟨found, hfound, hnodup, -⟩ := exists_found hwell hfiles
  obtain ⟨same, hsame, rfl⟩ := sources_eq_ok_iff.1 hfiles
  obtain rfl := Except.ok.inj (hfound.symm.trans hsame)
  rw [if_pos hsort]
  exact Path.pairwise_before_mergeSort hnodup

/-! ### Trees that list their entries in another order -/

/-- Two file systems with the same at every place, seen from the same directory. -/
structure SameTree (system other : FileSystem) : Prop where
  base_eq : system.base = other.base
  kind?_eq : ∀ place, system.kind? place = other.kind? place

theorem SameTree.walkable_iff (hsame : SameTree system other) :
    Walkable system exclude root place ↔ Walkable other exclude root place := by
  have hresolve := resolve_congr hsame.base_eq hsame.kind?_eq .followed root
  constructor
  · rintro ⟨hleads, hfits⟩
    exact ⟨hresolve ▸ hleads, fun names hdir => hfits names ((hsame.kind?_eq _).trans hdir)⟩
  · rintro ⟨hleads, hfits⟩
    exact ⟨hresolve ▸ hleads, fun names hdir => hfits names ((hsame.kind?_eq _).symm.trans hdir)⟩

theorem SameTree.mem_sources_iff (hsame : SameTree system other) (hwell : system.top.WellFormed)
    (hother : other.top.WellFormed) {others : List Path} (hfiles : system.sources settings root = .ok files)
    (hothers : other.sources settings root = .ok others) (path : Path) : path ∈ files ↔ path ∈ others := by
  rw [FileSystem.mem_sources_iff hwell hfiles, FileSystem.mem_sources_iff hother hothers, Reaches, Reaches, LeadsToFile,
    LeadsToFile]
  simp only [resolve_congr hsame.base_eq hsame.kind?_eq, hsame.kind?_eq]

/-- The source files of a scan, as far as its root can be walked: exactly the paths that the walk comes by, that have a wanted extension and that lead to a file, each of them once, and a file in the tree has no part in it only if its path is too long for the file system. Sorted they stand in strictly ascending order, unsorted they are the same in another order, and a tree that lists its entries in another order changes nothing but the order of an unsorted list. -/
theorem sources_exact (system : FileSystem) (hwell : system.top.WellFormed) (settings : ScanSettings) (root : Path) :
    ((∃ files, system.sources settings root = .ok files) ↔ ∃ place, Walkable system settings.exclude root place) ∧
    (∀ files, system.sources settings root = .ok files →
      (∀ path, path ∈ files ↔ Reaches system settings.exclude root path ∧ path.HasExtension settings.extensions ∧
        LeadsToFile system path) ∧
      files.Nodup ∧
      (settings.sort = true → files.Pairwise Path.Before) ∧
      (∃ sorted, system.sources { settings with sort := true } root = .ok sorted ∧ files.Perm sorted) ∧
      (∀ other, SameTree system other → other.top.WellFormed → ∃ others,
        other.sources settings root = .ok others ∧ files.Perm others ∧ (settings.sort = true → files = others))) ∧
    (∀ place names content, system.resolve .followed root = .ok (.present place) →
      system.kind? (place ++ names) = some (.file content) →
      (LeadsToFile system (root.descend names) ↔ (root.descend names).text.utf8ByteSize ≤ longestPath)) := by
  refine ⟨exists_sources_iff hwell, fun files hfiles => ?_, ?_⟩
  · refine ⟨fun path => mem_sources_iff hwell hfiles, nodup_sources hwell hfiles,
      fun hsort => pairwise_sources hwell hsort hfiles, ?_, ?_⟩
    · obtain ⟨found, hfound, rfl⟩ := sources_eq_ok_iff.1 hfiles
      refine ⟨found.mergeSort Path.le, sources_eq_ok_iff.2 ⟨found, hfound, rfl⟩, ?_⟩
      split_ifs
      · exact .refl _
      · exact (List.mergeSort_perm found Path.le).symm
    · intro other hsame hother
      obtain ⟨place, hwalk⟩ := (exists_sources_iff hwell).1 ⟨files, hfiles⟩
      obtain ⟨others, hothers⟩ := (exists_sources_iff hother).2 ⟨place, hsame.walkable_iff.1 hwalk⟩
      have hmem := hsame.mem_sources_iff hwell hother hfiles hothers
      refine ⟨others, hothers, ?_, fun hsort => ?_⟩
      · exact (List.perm_ext_iff_of_nodup (nodup_sources hwell hfiles) (nodup_sources hother hothers)).2 hmem
      · exact Path.eq_of_mem_iff_of_before (pairwise_sources hwell hsort hfiles) (pairwise_sources hother hsort hothers) hmem
  · intro place names content hplace hfile
    exact leadsToFile_descend_iff hwell hplace hfile

/-- A root that is a link is walked; a dot file has no extension, an excluded directory is passed over, and a file of its name is not. -/
theorem sources_below_link :
    let inside : Node := .dir [("b.c", .file []), (".c", .file []), ("no", .dir [("x.c", .file [])]), ("a.c", .link ⟨"b.c"⟩)]
    let system : FileSystem := ⟨.dir [("src", inside), ("in", .link ⟨"src"⟩)], []⟩
    let settings : ScanSettings := { exclude := ["no", "b.c"], sort := false }
    let files : List Path := [⟨"in/b.c"⟩, ⟨"in/a.c"⟩]
    system.top.WellFormed ∧ system.sources settings ⟨"in"⟩ = .ok files ∧
      (∀ path, path ∈ files ↔ Reaches system settings.exclude ⟨"in"⟩ path ∧ path.HasExtension settings.extensions ∧
        LeadsToFile system path) ∧
      ∃ sorted, system.sources { settings with sort := true } ⟨"in"⟩ = .ok sorted ∧ files.Perm sorted := by
  intro inside system settings files
  have hinside : inside.WellFormed := by
    refine .dir (by decide) (by decide +kernel) ?_
    simp only [List.forall_mem_cons]
    exact ⟨.file [], .file [], .dir (by decide) (by decide +kernel) (by simp [Node.WellFormed.file]),
      .link (by decide), by simp⟩
  have hwell : system.top.WellFormed := by
    refine .dir (by decide) (by decide +kernel) ?_
    simp only [List.forall_mem_cons]
    exact ⟨hinside, .link (by decide), by simp⟩
  have hfiles : system.sources settings ⟨"in"⟩ = .ok files := by decide +kernel
  obtain ⟨hmem, -, -, hsorted, -⟩ := (sources_exact system hwell settings ⟨"in"⟩).2.1 files hfiles
  exact ⟨hwell, hfiles, hmem, hsorted⟩

end FileSystem

end DriverIndex
