import DriverIndex.Discovery
import DriverIndex.Proofs.Path.Join
import Mathlib.Data.List.Flatten

/-!
# What a walk comes by

A walk through a well-formed tree comes by every place that can be reached from its start without passing a directory of an excluded name, by every directory among them as a branch and by everything else as a leaf, each under the path that goes down to it by the names on the way. No two leaves have the same path.
-/

namespace DriverIndex.Node

variable {node : Node} {entries : List (String × Node)} {exclude : List String} {path leaf branch : Path}

/-- What a walk collects below one entry of a directory. -/
def ofEntry (exclude : List String) (collect : Path → Node → List Path) (path : Path) (entry : String × Node) :
    List Path :=
  if entry.2.isDir && entry.1 ∈ exclude then [] else collect (path.join entry.1) entry.2

theorem leaves_dir (exclude : List String) (path : Path) (entries : List (String × Node)) :
    (dir entries).leaves exclude path = entries.flatMap (ofEntry exclude (leaves exclude) path) := by
  rw [leaves]
  induction entries with
  | nil => rfl
  | cons entry rest ih => rw [leavesOf, ih, List.flatMap_cons, ofEntry]

theorem branches_dir (exclude : List String) (path : Path) (entries : List (String × Node)) :
    (dir entries).branches exclude path = path :: entries.flatMap (ofEntry exclude (branches exclude) path) := by
  rw [branches]
  congr 1
  induction entries with
  | nil => rfl
  | cons entry rest ih => rw [branchesOf, ih, List.flatMap_cons, ofEntry]

theorem mem_ofEntry {collect : Path → Node → List Path} {entry : String × Node} :
    leaf ∈ ofEntry exclude collect path entry ↔
      (entry.2.kind = .dir → entry.1 ∉ exclude) ∧ leaf ∈ collect (path.join entry.1) entry.2 := by
  rw [ofEntry, ← isDir_iff]
  split_ifs with hexcluded
  · simp_all
  · simp_all

theorem kind_eq_dir_of_cons {name : String} {names : List String} (hkind : node.kind? (name :: names) ≠ none) :
    node.kind = .dir := by
  cases node with
  | file content => exact absurd rfl hkind
  | link target => exact absurd rfl hkind
  | dir entries => rfl

/-- Below what is no directory there is nothing. -/
theorem eq_iff_exists_names (hother : node.kind ≠ .dir) : leaf = path ↔
    ∃ names kind, node.kind? names = some kind ∧ kind ≠ .dir ∧ (∀ name ∈ names.dropLast, name ∉ exclude) ∧
      leaf = path.descend names := by
  constructor
  · rintro rfl
    exact ⟨[], node.kind, kind?_nil node, hother, by simp, rfl⟩
  · rintro ⟨names, kind, hkind, -, -, rfl⟩
    cases names with
    | nil => rfl
    | cons name names => exact absurd (kind_eq_dir_of_cons (hkind ▸ Option.some_ne_none kind)) hother

namespace WellFormed

theorem mem_leaves (hwell : node.WellFormed) : leaf ∈ node.leaves exclude path ↔
    ∃ names kind, node.kind? names = some kind ∧ kind ≠ .dir ∧ (∀ name ∈ names.dropLast, name ∉ exclude) ∧
      leaf = path.descend names := by
  induction hwell generalizing path with
  | file content =>
    rw [leaves, List.mem_singleton]
    exact eq_iff_exists_names (by simp [kind])
  | link htarget =>
    rw [leaves, List.mem_singleton]
    exact eq_iff_exists_names (by simp [kind])
  | @dir entries hdistinct hnames hnodes ih =>
    rw [leaves_dir, List.mem_flatMap]
    constructor
    · rintro ⟨⟨name, child⟩, hentry, hleaf⟩
      obtain ⟨hentered, hbelow⟩ := mem_ofEntry.1 hleaf
      obtain ⟨names, kind, hkind, hother, hfree, rfl⟩ := (ih _ hentry).1 hbelow
      refine ⟨name :: names, kind, ?_, hother, ?_, rfl⟩
      · rw [kind?_cons, lookup_of_mem hdistinct hentry]
        exact hkind
      · cases names with
        | nil => simp
        | cons next rest =>
          rw [List.dropLast_cons_cons, List.forall_mem_cons]
          exact ⟨hentered (kind_eq_dir_of_cons (hkind ▸ Option.some_ne_none kind)), hfree⟩
    · rintro ⟨names, kind, hkind, hother, hfree, rfl⟩
      cases names with
      | nil => exact absurd (Option.some.inj ((kind?_nil _).symm.trans hkind)).symm hother
      | cons name names =>
        rw [kind?_cons, Option.bind_eq_some_iff] at hkind
        obtain ⟨child, hchild, hbelow⟩ := hkind
        have hentry := mem_of_lookup hchild
        refine ⟨(name, child), hentry, mem_ofEntry.2 ⟨?_, (ih _ hentry).2 ⟨names, kind, hbelow, hother, ?_, rfl⟩⟩⟩
        · intro hdir
          cases names with
          | nil => exact absurd ((Option.some.inj ((kind?_nil child).symm.trans hbelow)).symm.trans hdir) hother
          | cons next rest => exact hfree name List.mem_cons_self
        · cases names with
          | nil => simp
          | cons next rest => exact (List.forall_mem_cons.1 hfree).2

theorem mem_branches (hwell : node.WellFormed) : branch ∈ node.branches exclude path ↔
    ∃ names, node.kind? names = some .dir ∧ (∀ name ∈ names, name ∉ exclude) ∧ branch = path.descend names := by
  induction hwell generalizing path with
  | file content =>
    rw [branches]
    simp only [(bare_file content).kind?_eq]
    simp [kind]
  | @link target htarget =>
    rw [branches]
    simp only [(bare_link target).kind?_eq]
    simp [kind]
  | @dir entries hdistinct hnames hnodes ih =>
    rw [branches_dir, List.mem_cons, List.mem_flatMap]
    constructor
    · rintro (rfl | ⟨⟨name, child⟩, hentry, hbranch⟩)
      · exact ⟨[], kind?_nil _, by simp, rfl⟩
      · obtain ⟨hentered, hbelow⟩ := mem_ofEntry.1 hbranch
        obtain ⟨names, hkind, hfree, rfl⟩ := (ih _ hentry).1 hbelow
        have hdir : child.kind = .dir := by
          cases names with
          | nil => exact Option.some.inj ((kind?_nil child).symm.trans hkind)
          | cons next rest => exact kind_eq_dir_of_cons (hkind ▸ Option.some_ne_none _)
        refine ⟨name :: names, ?_, ?_, rfl⟩
        · rw [kind?_cons, lookup_of_mem hdistinct hentry]
          exact hkind
        · exact List.forall_mem_cons.2 ⟨hentered hdir, hfree⟩
    · rintro ⟨names, hkind, hfree, rfl⟩
      cases names with
      | nil => exact .inl rfl
      | cons name names =>
        rw [kind?_cons, Option.bind_eq_some_iff] at hkind
        obtain ⟨child, hchild, hbelow⟩ := hkind
        have hentry := mem_of_lookup hchild
        obtain ⟨hname, hrest⟩ := List.forall_mem_cons.1 hfree
        exact .inr ⟨(name, child), hentry,
          mem_ofEntry.2 ⟨fun _ => hname, (ih _ hentry).2 ⟨names, hbelow, hrest, rfl⟩⟩⟩

/-- A leaf is found once, also if paths are told apart by their components only. -/
theorem nodup_components_leaves (hwell : node.WellFormed) (exclude : List String) (hpath : path.text ≠ "") :
    ((node.leaves exclude path).map Path.components).Nodup := by
  induction hwell generalizing path with
  | file content => exact List.nodup_singleton _
  | link htarget => exact List.nodup_singleton _
  | @dir entries hdistinct hnames hnodes ih =>
    rw [leaves_dir, List.map_flatMap, List.nodup_flatMap]
    constructor
    · intro entry hentry
      rw [ofEntry]
      split_ifs
      · exact List.nodup_nil
      · exact ih entry hentry (Path.join_text_ne hpath)
    · rw [List.nodup_iff_pairwise_ne, List.pairwise_map] at hdistinct
      refine hdistinct.imp_of_mem fun {left right} hleft hright hne => ?_
      have hcomponents : ∀ entry ∈ entries, ∀ components ∈ (ofEntry exclude (leaves exclude) path entry).map Path.components,
          path.components ++ [.name entry.1] <+: components := by
        intro entry hentry components hmem
        obtain ⟨leaf, hleaf, rfl⟩ := List.mem_map.1 hmem
        obtain ⟨names, kind, hkind, -, -, rfl⟩ := (hnodes entry hentry).mem_leaves.1 (mem_ofEntry.1 hleaf).2
        rw [Path.components_descend (Path.join_text_ne hpath), Path.components_join hpath (hnames entry hentry)]
        · exact List.prefix_append _ _
        · intro name hname
          exact (hnodes entry hentry).isName_of_mem (hkind ▸ Option.some_ne_none kind) hname
      refine List.disjoint_left.2 fun components hinLeft hinRight => ?_
      have hlength : (path.components ++ [Path.Component.name left.1]).length =
          (path.components ++ [Path.Component.name right.1]).length := by simp
      have hsame : path.components ++ [.name left.1] = path.components ++ [.name right.1] :=
        (List.prefix_of_prefix_length_le (hcomponents left hleft _ hinLeft) (hcomponents right hright _ hinRight)
          hlength.le).eq_of_length hlength
      exact hne (Path.Component.name.inj (List.singleton_inj.1 (List.append_cancel_left hsame)))

end WellFormed

end DriverIndex.Node
