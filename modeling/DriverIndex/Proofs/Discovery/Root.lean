import DriverIndex.Proofs.Discovery.Walk
import DriverIndex.Proofs.FileSystem.Reading

/-!
# The root of a walk and the paths below it

A walk starts at the place that its root leads to, whether the root is a link or not, and it goes on if the paths of all directories that it enters are short enough. A path that goes down from the root leads to the place that the same names lead to from the place of the root, as long as the path is not too long.
-/

namespace DriverIndex.FileSystem

open Node (Names IsName)

variable {system : FileSystem} {top below node : Node} {root path : Path} {place front names : List String} {kind : Kind}
  {links : Nat} {settings : ScanSettings}

/-! ### Going down by names -/

/-- Names that stand in directories are entered one after the other. -/
theorem steps_down (hkind : top.kind? (place ++ names) = some kind) (hlink : ∀ target, kind ≠ .link target)
    (hnames : ∀ name ∈ names, Names name) : Steps top 0 (place, names) (place ++ names, []) := by
  induction names generalizing place with
  | nil =>
    rw [List.append_nil]
    exact .refl _
  | cons name names ih =>
    obtain ⟨hname, hrest⟩ := List.forall_mem_cons.1 hnames
    have hdir : top.kind? place = some .dir :=
      Node.kind?_eq_dir_of_append (List.cons_ne_nil name names) (hkind ▸ Option.some_ne_none kind)
    rw [List.append_cons] at hkind ⊢
    have hentered : ∃ kind, top.kind? (place ++ [name]) = some kind ∧ ∀ target, kind ≠ .link target := by
      cases names with
      | nil =>
        rw [List.append_nil] at hkind
        exact ⟨kind, hkind, hlink⟩
      | cons next rest =>
        exact ⟨.dir, Node.kind?_eq_dir_of_append (List.cons_ne_nil next rest) (hkind ▸ Option.some_ne_none kind), by simp⟩
    obtain ⟨entered, hentered, hother⟩ := hentered
    exact (Step.enter hdir hname hentered hother).steps.trans (ih hkind hrest)

/-- The segments of a path below another one, and what stands before the names in it. -/
theorem segments_descend (hroot : root.text ≠ "") (hnames : ∀ name ∈ names, IsName name) (hne : names ≠ []) :
    ∃ front, root.FrontIs front ∧ (root.descend names).segments = front ++ names := by
  induction names using List.reverseRecOn with
  | nil => exact absurd rfl hne
  | append_singleton names name ih =>
    rw [List.forall_mem_append] at hnames
    obtain ⟨front, hfront, hjoin⟩ :=
      Path.segments_join (Path.descend_text_ne hroot names) (hnames.2 name List.mem_cons_self).slash_notMem
    rw [Path.descend_concat, hjoin]
    by_cases hempty : names = []
    · subst hempty
      exact ⟨front, hfront, rfl⟩
    · obtain ⟨rootFront, hrootFront, hsegments⟩ := ih hnames.1 hempty
      refine ⟨rootFront, hrootFront, ?_⟩
      rcases hfront.segments_eq with heq | heq
      · rw [← heq, hsegments, List.append_assoc]
      · -- The last segment is a name and so not the empty one behind a slash.
        have hlast : (rootFront ++ names).getLast? = some "" := by rw [← hsegments, heq, List.getLast?_concat]
        rw [List.getLast?_append_of_ne_nil _ hempty] at hlast
        exact absurd rfl (hnames.1 "" (List.mem_of_getLast? hlast)).ne_empty

theorem startOf_descend (hroot : root.text ≠ "") (names base : List String) :
    startOf (root.descend names) base = startOf root base := by
  induction names using List.reverseRecOn with
  | nil => rfl
  | append_singleton names name ih =>
    rw [Path.descend_concat, Path.startOf_join (Path.descend_text_ne hroot names), ih]

/-- What stands before the names leads where the whole path leads. -/
theorem steps_front (hfront : root.FrontIs front) {start : List String}
    (hsteps : Steps top links (start, root.segments) (place, [])) : Steps top links (start, front) (place, []) := by
  rcases hfront.segments_eq with heq | heq
  · rwa [heq] at hsteps
  · obtain ⟨middle, first, second, rfl, hfirst, hsecond⟩ := hsteps.split heq rfl
    cases hsecond with
    | head hstep hrest =>
      obtain ⟨rfl, rfl⟩ := hstep.of_stay (.inl rfl)
      cases hrest with
      | refl => exact hfirst
      | head hstep _ => cases hstep

theorem nul_notMem_descend (hroot : '\x00' ∉ root.text.toList) (hnames : ∀ name ∈ names, IsName name) :
    '\x00' ∉ (root.descend names).text.toList := by
  induction names using List.reverseRecOn with
  | nil => exact hroot
  | append_singleton names name ih =>
    rw [List.forall_mem_append] at hnames
    have hname := (hnames.2 name List.mem_cons_self).nul_notMem
    have hdescend := ih hnames.1
    rw [Path.descend_concat, Path.join]
    split <;> simp_all

theorem resolve_descend (hroot : system.resolve .followed root = .ok (.present place))
    (hnames : ∀ name ∈ names, IsName name) (hkind : system.kind? (place ++ names) = some kind)
    (hlink : ∀ target, kind ≠ .link target) : system.resolve .followed (root.descend names) = .ok (.present (place ++ names)) ↔
      (root.descend names).text.utf8ByteSize ≤ longestPath := by
  obtain ⟨haskable, links, hlinks, hsteps⟩ := resolve_eq_present_iff.1 hroot
  refine ⟨fun hdescend => (resolve_eq_ok_iff.1 hdescend).1.size_le, fun hsize => ?_⟩
  refine resolve_eq_present_iff.2
    ⟨⟨nul_notMem_descend haskable.nul_notMem hnames, Path.descend_text_ne haskable.ne_empty names, hsize⟩, links, hlinks, ?_⟩
  rw [startOf_descend haskable.ne_empty]
  by_cases hempty : names = []
  · subst hempty
    rw [List.append_nil]
    exact hsteps
  · obtain ⟨front, hfront, hsegments⟩ := segments_descend haskable.ne_empty hnames hempty
    rw [hsegments]
    have hdown := steps_down hkind hlink fun name hmem => (hnames name hmem).toNames
    exact ((steps_front hfront hsteps).append names).trans hdown

/-! ### Where a walk starts and whether it goes through -/

theorem exists_place_of_rootNode (hroot : system.rootNode root = .ok node) :
    ∃ place, system.resolve .followed root = .ok (.present place) := by
  rw [rootNode] at hroot
  cases hasLink : system.node .asLink root with
  | error fault => simp [hasLink, bind, Except.bind] at hroot
  | ok found =>
    obtain ⟨place, hplace, hget⟩ := node_eq_ok_iff.1 hasLink
    cases found with
    | file content =>
      refine ⟨place, resolve_followed_of_asLink hplace fun target hkind => ?_⟩
      simp [kind?, Node.kind?, hget, Node.kind] at hkind
    | dir entries =>
      refine ⟨place, resolve_followed_of_asLink hplace fun target hkind => ?_⟩
      simp [kind?, Node.kind?, hget, Node.kind] at hkind
    | link target =>
      cases hfollowed : system.node .followed root with
      | error fault => simp [hasLink, hfollowed, bind, Except.bind] at hroot
      | ok last =>
        obtain ⟨place, hplace, -⟩ := node_eq_ok_iff.1 hfollowed
        exact ⟨place, hplace⟩

/-- A walk starts at the node that the root leads to, or has the root itself as its only leaf. -/
theorem exists_rootNode (hroot : system.resolve .followed root = .ok (.present place))
    (hget : system.top.get? place = some below) (exclude : List String) :
    ∃ node, system.rootNode root = .ok node ∧ node.leaves exclude root = below.leaves exclude root ∧
      node.branches exclude root = below.branches exclude root := by
  have hfollowed : system.node .followed root = .ok below := node_eq_ok_iff.2 ⟨place, hroot, hget⟩
  obtain ⟨kind, hkind, hother⟩ := exists_kind_of_resolve (by simp) hroot
  have hbelow : below.kind = kind := by
    rw [kind?, Node.kind?, hget, Option.map_some] at hkind
    exact Option.some.inj hkind
  rcases resolve_asLink_of_followed hroot with hplace | ⟨link, target, hplace, hlink⟩
  · have hasLink : system.node .asLink root = .ok below := node_eq_ok_iff.2 ⟨place, hplace, hget⟩
    refine ⟨below, ?_, rfl, rfl⟩
    rw [rootNode, hasLink]
    cases below with
    | link target => exact absurd hbelow.symm (hother target)
    | file content => rfl
    | dir entries => rfl
  · have hasLink : system.node .asLink root = .ok (.link target) :=
      node_eq_ok_iff.2 ⟨link, hplace, Node.kind?_eq_link_iff.1 hlink⟩
    rw [rootNode, hasLink]
    cases below with
    | link target => exact absurd hbelow.symm (hother target)
    | file content => exact ⟨.link target, by simp [hfollowed, bind, Except.bind, pure, Except.pure, Node.isDir], rfl, rfl⟩
    | dir entries => exact ⟨.dir entries, by simp [hfollowed, bind, Except.bind, pure, Except.pure, Node.isDir], rfl, rfl⟩

/-- A root that can be walked: it leads to a place, and no directory that the walk enters has too long a path. -/
structure Walkable (system : FileSystem) (exclude : List String) (root : Path) (place : List String) : Prop where
  leads : system.resolve .followed root = .ok (.present place)
  fits : ∀ names, system.kind? (place ++ names) = some .dir → (∀ name ∈ names, name ∉ exclude) →
    (root.descend names).text.utf8ByteSize ≤ longestPath

theorem sourcesInTree_eq (hroot : system.resolve .followed root = .ok (.present place))
    (hget : system.top.get? place = some below) : system.sourcesInTree settings root =
      match (below.branches settings.exclude root).findSome? obstacle? with
      | some obstacle => .error obstacle
      | none => .ok ((below.leaves settings.exclude root).filter (system.isSource settings.extensions)) := by
  obtain ⟨node, hnode, hleaves, hbranches⟩ := exists_rootNode hroot hget settings.exclude
  rw [sourcesInTree, hnode, ← hleaves, ← hbranches, Except.mapError]
  dsimp only [bind, Except.bind]
  cases (node.branches settings.exclude root).findSome? obstacle? <;> rfl

theorem sources_eq_ok_iff {files : List Path} : system.sources settings root = .ok files ↔
    ∃ found, system.sourcesInTree settings root = .ok found ∧
      files = if settings.sort then found.mergeSort Path.le else found := by
  rw [sources]
  cases system.sourcesInTree settings root with
  | error obstacle => simp [bind, Except.bind]
  | ok found =>
    simp only [bind, Except.bind, pure, Except.pure, Except.ok.injEq, exists_eq_left']
    exact eq_comm

end DriverIndex.FileSystem
