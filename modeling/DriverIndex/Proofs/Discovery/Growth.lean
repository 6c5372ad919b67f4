import DriverIndex.Proofs.Discovery.Sources
import DriverIndex.Proofs.FileSystem.Growth

/-!
# Walks through a grown tree

Where directories have been made and files written, a walk still comes by all that it came by before. What it comes by in addition are the new files: a link that leads to a file now has led there before, unless what it led to was missing.
-/

namespace DriverIndex.FileSystem

open Node (Names IsName)

/-- A link leads to something that does not exist. -/
def Dangles (system : FileSystem) (place : List String) : Prop :=
  ∃ target, system.kind? place = some (.link target) ∧
    Missing (follow system.top .followed mostLinks (startOf target place.dropLast) target.segments)

variable {written : List (List String)} {before after : FileSystem} {top : Node} {links more : Nat} {way next lost : Way}
  {root path : Path} {exclude : List String} {place names rest last : List String} {name : String} {kind : Kind}
  {target : Path} {content : List UInt8}

theorem not_dangles_of_linkless {system : FileSystem} (hlinkless : system.top.Linkless) (place : List String) :
    ¬system.Dangles place := fun ⟨target, hkind, _⟩ => hlinkless place target hkind

theorem Steps.not_lacks (hsteps : Steps top links way (place, [])) (hlost : Steps top more way lost) : ¬Lacks top lost := by
  intro hlacks
  have hpresent : follow top .followed (more + links) way.1 way.2 = .ok (.present place) :=
    follow_eq_present_iff.2 ⟨links, Nat.le_add_left .., hsteps⟩
  rw [follow_of_steps hlost] at hpresent
  have hmissing := hlacks.missing links
  rw [hpresent] at hmissing
  rcases hmissing with herror | ⟨parent, name, habsent⟩
  · cases herror
  · cases habsent

/-- A name that is a link can only be followed. -/
theorem Step.of_link (hstep : Step top links (place, name :: rest) next) (hnames : Names name)
    (hkind : top.kind? (place ++ [name]) = some (.link target)) :
    links = 1 ∧ next = (startOf target place, target.segments ++ rest) := by
  cases hstep with
  | stay _ hsegment => exact (hsegment.elim hnames.ne_empty hnames.ne_dot).elim
  | up => exact absurd rfl hnames.ne_dots
  | enter _ _ hother hlink => exact absurd (Option.some.inj (hother.symm.trans hkind)) (hlink target)
  | follow _ _ hother =>
    obtain rfl := Kind.link.inj (Option.some.inj (hother.symm.trans hkind))
    exact ⟨rfl, rfl⟩

/-- What a link leads to in the grown tree it has led to before, if it has led to anything. -/
theorem Steps.back_of_link (hgrows : Grows written before after) (hnames : Names name)
    (hkind : before.kind? (place ++ [name]) = some (.link target)) (hdangles : ¬Dangles before (place ++ [name]))
    (hlinks : links ≤ mostLinks) (hsteps : Steps after.top links (place, [name]) (last, [])) :
    Steps before.top links (place, [name]) (last, []) := by
  have hafter : after.kind? (place ++ [name]) = some (.link target) := hgrows.link hkind
  have hdir : before.top.kind? place = some .dir :=
    Node.kind?_eq_dir_of_append (List.cons_ne_nil name []) (kind?_ne_none hkind)
  cases hsteps with
  | head hstep hrest =>
    obtain ⟨rfl, rfl⟩ := hstep.of_link hnames hafter
    rcases hrest.back hgrows with hback | ⟨used, hused, lost, hlost, hlacks⟩
    · exact .head (.follow hdir hnames hkind) hback
    · refine absurd ⟨target, hkind, ?_⟩ hdangles
      obtain ⟨spare, hspare⟩ := Nat.exists_eq_add_of_le (show used ≤ mostLinks by omega)
      rw [List.append_nil] at hlost
      rw [List.dropLast_concat, hspare, follow_of_steps hlost]
      exact hlacks.missing spare

theorem resolve_back_of_link (hgrows : Grows written before after) (hwell : before.top.WellFormed)
    (hroot : before.resolve .followed root = .ok (.present place))
    (hkind : before.kind? (place ++ names ++ [name]) = some (.link target))
    (hdangles : ¬Dangles before (place ++ names ++ [name]))
    (hpath : after.resolve .followed (root.descend (names ++ [name])) = .ok (.present last)) :
    before.resolve .followed (root.descend (names ++ [name])) = .ok (.present last) := by
  obtain ⟨haskable, links, hlinks, hsteps⟩ := resolve_eq_present_iff.1 hpath
  obtain ⟨hrootAskable, rootLinks, -, hrootSteps⟩ := resolve_eq_present_iff.1 hroot
  have hfound : before.top.kind? (place ++ names ++ [name]) ≠ none := kind?_ne_none hkind
  have hnames : ∀ other ∈ names ++ [name], IsName other := by
    intro other hmem
    refine hwell.isName_of_mem hfound ?_
    rw [List.append_assoc]
    exact List.mem_append_right place hmem
  have hname : Names name := (hnames name (by simp)).toNames
  obtain ⟨front, hfront, hsegments⟩ := segments_descend hrootAskable.ne_empty hnames (by simp)
  -- Up to the link both trees lead to the same place.
  have hdown : Steps before.top (rootLinks + 0) (startOf root before.base, front ++ names) (place ++ names, []) := by
    have hdir : before.top.kind? (place ++ names) = some .dir :=
      Node.kind?_eq_dir_of_append (List.cons_ne_nil name []) hfound
    refine ((steps_front hfront hrootSteps).append names).trans (steps_down hdir (by simp) ?_)
    exact fun other hmem => (hnames other (List.mem_append_left _ hmem)).toNames
  rw [startOf_descend hrootAskable.ne_empty, hgrows.base_eq, hsegments, ← List.append_assoc] at hsteps
  obtain ⟨middle, first, second, rfl, hfirst, hsecond⟩ := hsteps.split rfl rfl
  obtain rfl : middle = place ++ names := hfirst.unique (hdown.mono hgrows)
  have hfirstBack : Steps before.top first (startOf root before.base, front ++ names) (place ++ names, []) := by
    rcases hfirst.back hgrows with hback | ⟨used, -, lost, hlost, hlacks⟩
    · exact hback
    · exact absurd hlacks (hdown.not_lacks hlost)
  have hsecondBack := hsecond.back_of_link hgrows hname hkind hdangles (by omega)
  refine resolve_eq_present_iff.2 ⟨haskable, first + second, hlinks, ?_⟩
  rw [startOf_descend hrootAskable.ne_empty, hsegments, ← List.append_assoc]
  exact (hfirstBack.append [name]).trans hsecondBack

/-! ### What a walk comes by -/

theorem Walkable.grown (hwalk : Walkable before exclude root place) (hgrows : Grows written before after)
    (hshort : ∀ names, after.kind? (place ++ names) = some .dir → before.kind? (place ++ names) = none →
      (∀ name ∈ names, name ∉ exclude) → (root.descend names).text.utf8ByteSize ≤ longestPath) :
    Walkable after exclude root place := by
  refine ⟨resolve_mono hgrows hwalk.leads, fun names hdir hfree => ?_⟩
  rcases hgrows.of_dir hdir with hold | hnone
  · exact hwalk.fits names hold hfree
  · exact hshort names hdir hnone hfree

theorem Reaches.grown (hreaches : Reaches before exclude root path) (hgrows : Grows written before after) :
    Reaches after exclude root path := by
  obtain ⟨place, names, kind, hplace, hkind, hother, hfree, rfl⟩ := hreaches
  have hafter := resolve_mono hgrows hplace
  cases kind with
  | dir => exact absurd rfl hother
  | link target => exact ⟨place, names, .link target, hafter, hgrows.link hkind, hother, hfree, rfl⟩
  | file content =>
    obtain ⟨bytes, hbytes⟩ := hgrows.file hkind
    exact ⟨place, names, .file bytes, hafter, hbytes, by simp, hfree, rfl⟩

theorem LeadsToFile.grown (hleads : LeadsToFile before path) (hgrows : Grows written before after) :
    LeadsToFile after path := by
  obtain ⟨place, content, hplace, hfile⟩ := hleads
  obtain ⟨bytes, hafter⟩ := hgrows.file hfile
  exact ⟨place, bytes, resolve_mono hgrows hplace, hafter⟩

/-- A path that leads to a file that was not written has led to it before. -/
theorem Reaches.back (hreaches : Reaches after exclude root path) (hgrows : Grows written before after)
    (hwell : before.top.WellFormed) (hlinks : ∀ place, ¬Dangles before place)
    (hroot : before.resolve .followed root = .ok (.present place))
    (hpath : after.resolve .followed path = .ok (.present last)) (hfile : after.kind? last = some (.file content))
    (hwritten : last ∉ written) :
    Reaches before exclude root path ∧ before.resolve .followed path = .ok (.present last) ∧
      before.kind? last = some (.file content) := by
  obtain ⟨same, names, kind, hsame, hkind, hother, hfree, rfl⟩ := hreaches
  obtain rfl : place = same := resolve_unique (resolve_mono hgrows hroot) hsame
  have hold : before.kind? last = some (.file content) := (hgrows.file_iff hwritten).1 hfile
  cases kind with
  | dir => exact absurd rfl hother
  | file bytes =>
    have hnames : ∀ name ∈ names, IsName name := fun name hmem =>
      (hgrows.wellFormed hwell).isName_of_mem (kind?_ne_none hkind) (List.mem_append_right place hmem)
    have hsize := (resolve_eq_ok_iff.1 hpath).1.size_le
    have hdown := (resolve_descend hsame hnames hkind fun _ => Kind.noConfusion).2 hsize
    obtain rfl : place ++ names = last := resolve_unique hdown hpath
    exact ⟨⟨place, names, .file content, hroot, hold, by simp, hfree, rfl⟩,
      (resolve_descend hroot hnames hold fun _ => Kind.noConfusion).2 hsize, hold⟩
  | link target =>
    have hlink : before.kind? (place ++ names) = some (.link target) := hgrows.of_link hkind
    rcases List.eq_nil_or_concat names with rfl | ⟨front, name, rfl⟩
    · obtain ⟨kind, hplace, hnone⟩ := exists_kind_of_resolve (by simp) hroot
      rw [List.append_nil, hplace] at hlink
      exact absurd (Option.some.inj hlink) (hnone target)
    · refine ⟨⟨place, _, .link target, hroot, hlink, by simp, hfree, rfl⟩, ?_, hold⟩
      rw [List.concat_eq_append] at hlink hpath ⊢
      rw [← List.append_assoc] at hlink
      exact resolve_back_of_link hgrows hwell hroot hlink (hlinks _) hpath

end DriverIndex.FileSystem
