import DriverIndex.FileSystem.Edit
import Mathlib.Data.List.Nodup

/-!
# Places of a tree

A tree is known by what stands at its places: a file with its bytes, a link with its target or a directory. The order in which a directory lists its entries is no part of that. A node without anything below it can be put at a place that is free or held by no directory, and then nothing changes at any other place. In a real tree the names in a directory are distinct, and each of them can stand between two slashes of a path.
-/

namespace DriverIndex

/-- What a node is, without the nodes below it. -/
inductive Kind where
  | file (content : List UInt8)
  | link (target : Path)
  | dir
deriving DecidableEq

namespace Node

variable {node below : Node} {entries : List (String × Node)} {place names : List String} {name other : String}

def kind : Node → Kind
  | file content => .file content
  | link target => .link target
  | dir _ => .dir

/-- What stands at a place below a node. -/
def kind? (node : Node) (place : List String) : Option Kind := (node.get? place).map kind

@[simp] theorem get?_nil (node : Node) : node.get? [] = some node := by
  cases node <;> rfl

@[simp] theorem kind?_nil (node : Node) : node.kind? [] = some node.kind := by
  rw [kind?, get?_nil, Option.map_some]

theorem get?_append (node : Node) (place names : List String) :
    node.get? (place ++ names) = (node.get? place).bind fun below => below.get? names := by
  induction place generalizing node with
  | nil => rw [get?_nil, List.nil_append, Option.bind_some]
  | cons name place ih =>
    cases node with
    | file content => rfl
    | link target => rfl
    | dir entries =>
      rw [List.cons_append, get?, get?]
      cases entries.lookup name with
      | none => rfl
      | some child => exact ih child

theorem kind?_append (hget : node.get? place = some below) (names : List String) :
    node.kind? (place ++ names) = below.kind? names := by
  rw [kind?, get?_append, hget, Option.bind_some, kind?]

theorem kind?_concat (hget : node.get? place = some (.dir entries)) (name : String) :
    node.kind? (place ++ [name]) = (entries.lookup name).map kind := by
  rw [kind?_append hget, kind?, get?]
  cases entries.lookup name <;> simp

theorem kind_eq_dir_iff : node.kind = .dir ↔ ∃ entries, node = .dir entries := by
  cases node <;> simp [kind]

theorem kind?_eq_dir_iff : node.kind? place = some .dir ↔ ∃ entries, node.get? place = some (.dir entries) := by
  rw [kind?, Option.map_eq_some_iff]
  constructor
  · rintro ⟨below, hget, hkind⟩
    obtain ⟨entries, rfl⟩ := kind_eq_dir_iff.1 hkind
    exact ⟨entries, hget⟩
  · rintro ⟨entries, hget⟩
    exact ⟨_, hget, rfl⟩

theorem kind?_eq_file_iff {content : List UInt8} :
    node.kind? place = some (.file content) ↔ node.get? place = some (.file content) := by
  rw [kind?, Option.map_eq_some_iff]
  constructor
  · rintro ⟨below, hget, hkind⟩
    cases below <;> simp_all [kind]
  · intro hget
    exact ⟨_, hget, rfl⟩

theorem kind?_eq_link_iff {target : Path} :
    node.kind? place = some (.link target) ↔ node.get? place = some (.link target) := by
  rw [kind?, Option.map_eq_some_iff]
  constructor
  · rintro ⟨below, hget, hkind⟩
    cases below <;> simp_all [kind]
  · intro hget
    exact ⟨_, hget, rfl⟩

theorem kind?_eq_none_iff : node.kind? place = none ↔ node.get? place = none := Option.map_eq_none_iff

theorem isDir_iff : node.isDir = true ↔ node.kind = .dir := by
  cases node <;> simp [isDir, kind]

/-- Only a directory has anything below it. -/
theorem kind?_eq_dir_of_append (hnames : names ≠ []) (hkind : node.kind? (place ++ names) ≠ none) :
    node.kind? place = some .dir := by
  cases hget : node.get? place with
  | none =>
    rw [kind?, get?_append, hget] at hkind
    exact absurd rfl hkind
  | some below =>
    rw [kind?_append hget] at hkind
    obtain ⟨name, rest, rfl⟩ := List.exists_cons_of_ne_nil hnames
    cases below with
    | file content => exact absurd rfl hkind
    | link target => exact absurd rfl hkind
    | dir entries => exact kind?_eq_dir_iff.2 ⟨entries, hget⟩

/-! ### Putting a node at a place -/

theorem lookup_cons_of_ne (hother : other ≠ name) (node : Node) (entries : List (String × Node)) :
    ((name, node) :: entries).lookup other = entries.lookup other := by
  rw [List.lookup_cons, beq_eq_false_iff_ne.2 hother]

theorem lookup_setEntry (name other : String) (node : Node) (entries : List (String × Node)) :
    (setEntry name node entries).lookup other = if other = name then some node else entries.lookup other := by
  by_cases hother : other = name
  · subst hother
    rw [if_pos rfl]
    induction entries with
    | nil => exact List.lookup_cons_self
    | cons entry rest ih =>
      rw [setEntry]
      split_ifs with hfirst
      · exact List.lookup_cons_self
      · rw [lookup_cons_of_ne (Ne.symm hfirst), ih]
  · rw [if_neg hother]
    induction entries with
    | nil => exact lookup_cons_of_ne hother node []
    | cons entry rest ih =>
      rw [setEntry]
      split_ifs with hfirst
      · obtain ⟨first, old⟩ := entry
        subst hfirst
        rw [lookup_cons_of_ne hother, lookup_cons_of_ne hother]
      · rw [List.lookup_cons, List.lookup_cons, ih]

/-- A place where a file can be put: it holds something that is no directory, or it is a name that its directory lacks. -/
inductive Vacant (node : Node) : List String → Prop where
  | held {place : List String} {below : Node} (hget : node.get? place = some below) (hkind : below.kind ≠ .dir) :
      Vacant node place
  | free {parent : List String} {name : String} {entries : List (String × Node)}
      (hget : node.get? parent = some (.dir entries)) (hname : entries.lookup name = none) :
      Vacant node (parent ++ [name])

/-- A node with nothing below it. -/
def Bare (node : Node) : Prop := ∀ name names, node.get? (name :: names) = none

theorem bare_file (content : List UInt8) : (file content).Bare := fun _ _ => rfl

theorem bare_link (target : Path) : (link target).Bare := fun _ _ => rfl

theorem bare_emptyDir : (dir []).Bare := fun _ _ => rfl

theorem Bare.kind?_eq (hbare : node.Bare) (names : List String) :
    node.kind? names = if names = [] then some node.kind else none := by
  cases names with
  | nil => rw [kind?_nil, if_pos rfl]
  | cons name rest => rw [kind?, hbare, if_neg (List.cons_ne_nil name rest), Option.map_none]

theorem bare_of_kind_ne_dir (hkind : node.kind ≠ .dir) : node.Bare := by
  cases node with
  | file content => exact bare_file content
  | link target => exact bare_link target
  | dir entries => exact absurd rfl hkind

theorem kind?_cons (entries : List (String × Node)) (name : String) (names : List String) :
    (dir entries).kind? (name :: names) = (entries.lookup name).bind fun child => child.kind? names := by
  rw [kind?, get?]
  cases entries.lookup name <;> rfl

theorem Vacant.exists_dir {name : String} {names : List String} (hvacant : node.Vacant (name :: names)) :
    ∃ entries, node = .dir entries ∧
      ((∃ child, entries.lookup name = some child ∧ child.Vacant names) ∨ entries.lookup name = none ∧ names = []) := by
  generalize hplace : name :: names = place at hvacant
  cases hvacant with
  | held hget hkind =>
    subst hplace
    cases node with
    | file content => cases hget
    | link target => cases hget
    | dir entries =>
      rw [get?, Option.bind_eq_some_iff] at hget
      obtain ⟨child, hchild, hbelow⟩ := hget
      exact ⟨entries, rfl, .inl ⟨child, hchild, .held hbelow hkind⟩⟩
  | free hget hname =>
    rename_i parent last entries
    cases parent with
    | nil =>
      obtain ⟨rfl, rfl⟩ := List.cons.inj hplace
      rw [get?_nil] at hget
      exact ⟨entries, Option.some.inj hget, .inr ⟨hname, rfl⟩⟩
    | cons first parent =>
      obtain ⟨rfl, rfl⟩ := List.cons.inj hplace
      cases node with
      | file content => cases hget
      | link target => cases hget
      | dir others =>
        rw [get?, Option.bind_eq_some_iff] at hget
        obtain ⟨child, hchild, hparent⟩ := hget
        exact ⟨others, rfl, .inl ⟨child, hchild, .free hparent hname⟩⟩

/-- Only the place itself changes. -/
theorem Vacant.kind?_put {top : Node} (hvacant : top.Vacant place) (hbare : node.Bare) (other : List String) :
    (node.put place top).kind? other = if other = place then some node.kind else top.kind? other := by
  induction place generalizing top other with
  | nil =>
    generalize hplace : ([] : List String) = place at hvacant
    cases hvacant with
    | held hget hkind =>
      subst hplace
      obtain rfl := Option.some.inj ((get?_nil top).symm.trans hget)
      rw [put, hbare.kind?_eq, (bare_of_kind_ne_dir hkind).kind?_eq]
      split_ifs <;> rfl
    | free hget hname => simp at hplace
  | cons name names ih =>
    obtain ⟨entries, rfl, hentry⟩ := hvacant.exists_dir
    rw [put]
    cases other with
    | nil => rw [kind?_nil, kind?_nil, if_neg (List.cons_ne_nil name names).symm, kind, kind]
    | cons first rest =>
      rw [kind?_cons, kind?_cons, lookup_setEntry]
      by_cases hfirst : first = name
      · subst hfirst
        rw [if_pos rfl, Option.bind_some]
        rcases hentry with ⟨child, hchild, hbelow⟩ | ⟨hnone, rfl⟩
        · rw [hchild, Option.getD_some, ih hbelow, Option.bind_some]
          simp only [List.cons.injEq, true_and]
        · rw [hnone, Option.getD_none, put, hbare.kind?_eq, Option.bind_none]
          simp only [List.cons.injEq, true_and]
      · rw [if_neg hfirst, if_neg fun hcons => hfirst (List.cons.inj hcons).1]

/-! ### Well-formed trees -/

/-- A segment of a path that stands for a name. -/
structure Names (segment : String) : Prop where
  ne_empty : segment ≠ ""
  ne_dot : segment ≠ "."
  ne_dots : segment ≠ ".."
  size_le : segment.utf8ByteSize ≤ FileSystem.longestName

/-- A name that can stand in a directory. -/
structure IsName (name : String) : Prop extends Names name where
  slash_notMem : '/' ∉ name.toList
  nul_notMem : '\x00' ∉ name.toList

instance (name : String) : Decidable (IsName name) :=
  decidable_of_iff
    ((name ≠ "" ∧ name ≠ "." ∧ name ≠ ".." ∧ name.utf8ByteSize ≤ FileSystem.longestName) ∧
      '/' ∉ name.toList ∧ '\x00' ∉ name.toList)
    ⟨fun ⟨⟨hempty, hdot, hdots, hsize⟩, hslash, hnul⟩ => ⟨⟨hempty, hdot, hdots, hsize⟩, hslash, hnul⟩,
      fun hname => ⟨⟨hname.ne_empty, hname.ne_dot, hname.ne_dots, hname.size_le⟩, hname.slash_notMem, hname.nul_notMem⟩⟩

/-- The names of a directory are names and distinct, and no target of a link holds what no path can hold. -/
inductive WellFormed : Node → Prop where
  | file (content : List UInt8) : WellFormed (.file content)
  | link {target : Path} (htarget : '\x00' ∉ target.text.toList) : WellFormed (.link target)
  | dir {entries : List (String × Node)} (hdistinct : (entries.map Prod.fst).Nodup)
      (hnames : ∀ entry ∈ entries, IsName entry.1) (hnodes : ∀ entry ∈ entries, WellFormed entry.2) :
      WellFormed (.dir entries)

theorem mem_of_lookup {child : Node} (hchild : entries.lookup name = some child) : (name, child) ∈ entries := by
  obtain ⟨front, back, rfl, -⟩ := List.lookup_eq_some_iff.1 hchild
  exact List.mem_append_right _ List.mem_cons_self

theorem lookup_of_mem (hdistinct : (entries.map Prod.fst).Nodup) {child : Node} (hmem : (name, child) ∈ entries) :
    entries.lookup name = some child := by
  obtain ⟨front, back, rfl⟩ := List.append_of_mem hmem
  refine List.lookup_eq_some_iff.2 ⟨front, back, rfl, ?_⟩
  intro entry hentry
  rw [List.map_append, List.nodup_append] at hdistinct
  exact bne_iff_ne.2 fun hname => hdistinct.2.2 entry.1 (List.mem_map_of_mem hentry) name (by simp) hname.symm

theorem mem_setEntry {entry : String × Node} (hmem : entry ∈ setEntry name node entries) :
    entry = (name, node) ∨ entry ∈ entries := by
  induction entries with
  | nil => exact .inl (List.mem_singleton.1 hmem)
  | cons first rest ih =>
    rw [setEntry] at hmem
    split_ifs at hmem
    · exact (List.mem_cons.1 hmem).imp_right (List.mem_cons_of_mem _)
    · rcases List.mem_cons.1 hmem with rfl | hrest
      · exact .inr List.mem_cons_self
      · exact (ih hrest).imp_right (List.mem_cons_of_mem _)

theorem nodup_names_setEntry (hdistinct : (entries.map Prod.fst).Nodup) :
    ((setEntry name node entries).map Prod.fst).Nodup := by
  induction entries with
  | nil => exact List.nodup_singleton name
  | cons first rest ih =>
    rw [List.map_cons, List.nodup_cons] at hdistinct
    rw [setEntry]
    split_ifs with hfirst
    · rw [List.map_cons, List.nodup_cons, ← hfirst]
      exact hdistinct
    · rw [List.map_cons, List.nodup_cons]
      refine ⟨?_, ih hdistinct.2⟩
      intro hmem
      obtain ⟨entry, hentry, hname⟩ := List.mem_map.1 hmem
      rcases mem_setEntry hentry with rfl | hrest
      · exact hfirst hname.symm
      · exact hdistinct.1 (hname ▸ List.mem_map_of_mem hrest)

namespace WellFormed

theorem isName_of_lookup (hwell : (Node.dir entries).WellFormed) {child : Node} (hchild : entries.lookup name = some child) :
    IsName name := by
  cases hwell with
  | dir _ hnames _ => exact hnames _ (mem_of_lookup hchild)

theorem of_lookup (hwell : (Node.dir entries).WellFormed) {child : Node} (hchild : entries.lookup name = some child) :
    child.WellFormed := by
  cases hwell with
  | dir _ _ hnodes => exact hnodes _ (mem_of_lookup hchild)

theorem of_get? (hwell : node.WellFormed) (hget : node.get? place = some below) : below.WellFormed := by
  induction place generalizing node with
  | nil => exact Option.some.inj ((get?_nil node).symm.trans hget) ▸ hwell
  | cons name names ih =>
    cases node with
    | file content => cases hget
    | link target => cases hget
    | dir entries =>
      rw [get?, Option.bind_eq_some_iff] at hget
      obtain ⟨child, hchild, hbelow⟩ := hget
      exact ih (hwell.of_lookup hchild) hbelow

theorem isName_of_mem (hwell : node.WellFormed) (hkind : node.kind? place ≠ none) (hmem : name ∈ place) :
    IsName name := by
  induction place generalizing node with
  | nil => cases hmem
  | cons first rest ih =>
    cases node with
    | file content => exact absurd rfl hkind
    | link target => exact absurd rfl hkind
    | dir entries =>
      rw [kind?_cons] at hkind
      cases hchild : entries.lookup first with
      | none =>
        rw [hchild] at hkind
        exact absurd rfl hkind
      | some child =>
        rcases List.mem_cons.1 hmem with rfl | hrest
        · exact hwell.isName_of_lookup hchild
        · rw [hchild, Option.bind_some] at hkind
          exact ih (hwell.of_lookup hchild) hkind hrest

theorem put {top : Node} (hwell : top.WellFormed) (hvacant : top.Vacant place) (hnode : node.WellFormed)
    (hlast : ∀ name ∈ place.getLast?, IsName name) : (node.put place top).WellFormed := by
  induction place generalizing top with
  | nil => exact hnode
  | cons name names ih =>
    obtain ⟨entries, rfl, hentry⟩ := hvacant.exists_dir
    have hname : IsName name := by
      rcases hentry with ⟨child, hchild, -⟩ | ⟨-, rfl⟩
      · exact hwell.isName_of_lookup hchild
      · exact hlast name rfl
    have hchild : (node.put names ((entries.lookup name).getD (.dir []))).WellFormed := by
      rcases hentry with ⟨child, hchild, hbelow⟩ | ⟨hnone, rfl⟩
      · rw [hchild]
        refine ih (hwell.of_lookup hchild) hbelow fun last hmem => hlast last ?_
        rw [List.getLast?_cons, Option.mem_def.1 hmem]
        rfl
      · exact hnode
    cases hwell with
    | dir hdistinct hnames hnodes =>
      refine .dir (nodup_names_setEntry hdistinct) ?_ ?_
      · intro entry hmem
        rcases mem_setEntry hmem with rfl | hold
        · exact hname
        · exact hnames entry hold
      · intro entry hmem
        rcases mem_setEntry hmem with rfl | hold
        · exact hchild
        · exact hnodes entry hold

end WellFormed

/-! ### Trees without links -/

/-- Nowhere in a tree is a link. -/
def Linkless (node : Node) : Prop := ∀ place target, node.kind? place ≠ some (.link target)

theorem linkless_file (content : List UInt8) : (file content).Linkless := by
  intro place target
  rw [(bare_file content).kind?_eq]
  split_ifs <;> simp [kind]

theorem linkless_dir (hnodes : ∀ entry ∈ entries, entry.2.Linkless) : (dir entries).Linkless := by
  intro place target
  cases place with
  | nil => simp [kind]
  | cons name names =>
    rw [kind?_cons]
    cases hchild : entries.lookup name with
    | none => simp
    | some child => exact hnodes _ (mem_of_lookup hchild) names target

end Node

namespace FileSystem

def kind? (system : FileSystem) (place : List String) : Option Kind := system.top.kind? place

theorem kind?_ne_none {system : FileSystem} {place : List String} {kind : Kind} (hkind : system.kind? place = some kind) :
    system.top.kind? place ≠ none := by
  rw [← kind?, hkind]
  exact Option.some_ne_none kind

end FileSystem

end DriverIndex
