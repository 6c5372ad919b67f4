import DriverIndex.Proofs.FileSystem.Reading

/-!
# How a file system grows

Making directories and writing files changes a place in two ways only: where nothing was there is a directory now, or a file with new bytes stands where nothing or a file was. So a way that could be gone before can be gone after it and ends at the same place, and a new way is an old one or has passed something that did not exist. A name that a path asks for and does not find can be a name in a directory.
-/

namespace DriverIndex.FileSystem

open Node (Names IsName Vacant)

/-- What can become of a place; `written` says that a file is written there. -/
inductive Change (written : Prop) : Option Kind → Option Kind → Prop where
  | same (kind : Option Kind) : Change written kind kind
  | made : Change written none (some .dir)
  | created (hwritten : written) (content : List UInt8) : Change written none (some (.file content))
  | rewritten (hwritten : written) (old content : List UInt8) : Change written (some (.file old)) (some (.file content))

/-- One file system has become another one by making directories and by writing files at some places. -/
structure Grows (written : List (List String)) (before after : FileSystem) : Prop where
  base_eq : after.base = before.base
  change : ∀ place, Change (place ∈ written) (before.kind? place) (after.kind? place)
  wellFormed : before.top.WellFormed → after.top.WellFormed

variable {written more : List (List String)} {before middle after : FileSystem} {links : Nat} {way next : Way}
  {place : List String} {kind : Kind}

namespace Change

variable {p q : Prop} {first second third : Option Kind}

theorem imp (himp : p → q) (hchange : Change p first second) : Change q first second := by
  cases hchange with
  | same => exact .same _
  | made => exact .made
  | created hwritten content => exact .created (himp hwritten) content
  | rewritten hwritten old content => exact .rewritten (himp hwritten) old content

theorem trans (hfirst : Change p first second) (hsecond : Change q second third) : Change (p ∨ q) first third := by
  cases hfirst with
  | same => exact hsecond.imp .inr
  | made =>
    cases hsecond with
    | same => exact .made
  | created hwritten content =>
    cases hsecond with
    | same => exact .created (.inl hwritten) content
    | rewritten hagain _ last => exact .created (.inr hagain) last
  | rewritten hwritten old content =>
    cases hsecond with
    | same => exact .rewritten (.inl hwritten) old content
    | rewritten hagain _ last => exact .rewritten (.inr hagain) old last

theorem dir (hchange : Change p (some .dir) second) : second = some .dir := by
  cases hchange
  rfl

theorem link {target : Path} (hchange : Change p (some (.link target)) second) : second = some (.link target) := by
  cases hchange
  rfl

theorem of_link {target : Path} (hchange : Change p first (some (.link target))) : first = some (.link target) := by
  cases hchange
  rfl

/-- What is neither a link nor nothing stays so. -/
theorem other (hchange : Change p (some kind) second) (hlink : ∀ target, kind ≠ .link target) :
    ∃ kind, second = some kind ∧ ∀ target, kind ≠ .link target := by
  cases hchange with
  | same => exact ⟨kind, rfl, hlink⟩
  | rewritten _ _ content => exact ⟨.file content, rfl, by simp⟩

/-- A directory has been one, or nothing was there. -/
theorem of_dir (hchange : Change p first (some .dir)) : first = some .dir ∨ first = none := by
  cases hchange with
  | same => exact .inl rfl
  | made => exact .inr rfl

/-- A file stays one, perhaps with other bytes. -/
theorem file {old : List UInt8} (hchange : Change p (some (.file old)) second) : ∃ content, second = some (.file content) := by
  cases hchange with
  | same => exact ⟨old, rfl⟩
  | rewritten _ _ content => exact ⟨content, rfl⟩

/-- Where no file is written, a file is what it was. -/
theorem file_iff (hchange : Change p first second) (hnot : ¬p) {content : List UInt8} :
    second = some (.file content) ↔ first = some (.file content) := by
  cases hchange with
  | same => rfl
  | made => simp
  | created hwritten => exact absurd hwritten hnot
  | rewritten hwritten => exact absurd hwritten hnot

end Change

namespace Grows

theorem refl (system : FileSystem) : Grows [] system system := ⟨rfl, fun _ => .same _, id⟩

theorem trans (hfirst : Grows written before middle) (hsecond : Grows more middle after) :
    Grows (written ++ more) before after := by
  refine ⟨hsecond.base_eq.trans hfirst.base_eq, fun place => ?_, hsecond.wellFormed ∘ hfirst.wellFormed⟩
  exact ((hfirst.change place).trans (hsecond.change place)).imp List.mem_append.2

variable (hgrows : Grows written before after)

include hgrows

theorem dir (hdir : before.kind? place = some .dir) : after.kind? place = some .dir :=
  (hdir ▸ hgrows.change place).dir

theorem link {target : Path} (hlink : before.kind? place = some (.link target)) :
    after.kind? place = some (.link target) :=
  (hlink ▸ hgrows.change place).link

theorem other (hkind : before.kind? place = some kind) (hlink : ∀ target, kind ≠ .link target) :
    ∃ kind, after.kind? place = some kind ∧ ∀ target, kind ≠ .link target :=
  (hkind ▸ hgrows.change place).other hlink

theorem file {content : List UInt8} (hfile : before.kind? place = some (.file content)) :
    ∃ content, after.kind? place = some (.file content) :=
  (hfile ▸ hgrows.change place).file

theorem of_dir (hdir : after.kind? place = some .dir) : before.kind? place = some .dir ∨ before.kind? place = none :=
  (hdir ▸ hgrows.change place).of_dir

theorem of_link {target : Path} (hlink : after.kind? place = some (.link target)) :
    before.kind? place = some (.link target) :=
  (hlink ▸ hgrows.change place).of_link

theorem file_iff (hwritten : place ∉ written) {content : List UInt8} :
    after.kind? place = some (.file content) ↔ before.kind? place = some (.file content) :=
  (hgrows.change place).file_iff hwritten

end Grows

/-! ### Ways in a grown tree -/

theorem Step.mono (hgrows : Grows written before after) (hstep : Step before.top links way next) :
    Step after.top links way next := by
  cases hstep with
  | stay hdir hsegment => exact .stay (hgrows.dir hdir) hsegment
  | up hdir => exact .up (hgrows.dir hdir)
  | enter hdir hnames hkind hlink =>
    obtain ⟨_, hafter, hother⟩ := hgrows.other hkind hlink
    exact .enter (hgrows.dir hdir) hnames hafter hother
  | follow hdir hnames hkind => exact .follow (hgrows.dir hdir) hnames (hgrows.link hkind)

theorem Steps.mono (hgrows : Grows written before after) (hsteps : Steps before.top links way next) :
    Steps after.top links way next := by
  induction hsteps with
  | refl way => exact .refl way
  | head hstep _ ih => exact .head (hstep.mono hgrows) ih

theorem resolve_mono (hgrows : Grows written before after) {path : Path}
    (hpath : before.resolve .followed path = .ok (.present place)) :
    after.resolve .followed path = .ok (.present place) := by
  obtain ⟨haskable, links, hlinks, hsteps⟩ := resolve_eq_present_iff.1 hpath
  refine resolve_eq_present_iff.2 ⟨haskable, links, hlinks, ?_⟩
  rw [hgrows.base_eq]
  exact hsteps.mono hgrows

/-- A step in the grown tree was possible before, or what it looks for was missing. -/
theorem Step.back (hgrows : Grows written before after) (hstep : Step after.top links way next) :
    Step before.top links way next ∨ Lacks before.top way := by
  cases hstep with
  | stay hafter hsegment => exact (hgrows.of_dir hafter).imp (.stay · hsegment) .place
  | up hafter => exact (hgrows.of_dir hafter).imp .up .place
  | @enter place rest segment kind hafter hnames hkind hlink =>
    rcases hgrows.of_dir hafter with hdir | hnone
    · cases hold : before.kind? (place ++ [segment]) with
      | none => exact .inr (.name hdir hnames hold)
      | some old =>
        refine .inl (.enter hdir hnames hold fun target heq => ?_)
        exact hlink target (Option.some.inj (hkind.symm.trans (hgrows.link (heq ▸ hold))))
    · exact .inr (.place hnone)
  | follow hafter hnames hkind =>
    exact (hgrows.of_dir hafter).imp (.follow · hnames (hgrows.of_link hkind)) .place

theorem Steps.back (hgrows : Grows written before after) (hsteps : Steps after.top links way next) :
    Steps before.top links way next ∨
      ∃ used ≤ links, ∃ lost, Steps before.top used way lost ∧ Lacks before.top lost := by
  induction hsteps with
  | refl way => exact .inl (.refl way)
  | @head links more way _ _ hstep _ ih =>
    rcases hstep.back hgrows with hold | hlacks
    · rcases ih with hsteps | ⟨used, hused, lost, hsteps, hlacks⟩
      · exact .inl (.head hold hsteps)
      · exact .inr ⟨links + used, Nat.add_le_add_left hused links, lost, .head hold hsteps, hlacks⟩
    · exact .inr ⟨0, Nat.zero_le _, way, .refl way, hlacks⟩

/-! ### Segments that can become names -/

/-- A segment without a slash and without what no path can hold. -/
def Clean (segment : String) : Prop := '/' ∉ segment.toList ∧ '\x00' ∉ segment.toList

theorem clean_segments {path : Path} (hnul : '\x00' ∉ path.text.toList) : ∀ segment ∈ path.segments, Clean segment := by
  intro segment hsegment
  refine ⟨fun hslash => ?_, fun hmem => ?_⟩
  · exact (Path.mem_of_mem_segments hsegment hslash).2 rfl
  · exact hnul (Path.mem_of_mem_segments hsegment hmem).1

theorem Step.clean {top : Node} (hwell : top.WellFormed) (hstep : Step top links way next)
    (hway : ∀ segment ∈ way.2, Clean segment) : ∀ segment ∈ next.2, Clean segment := by
  cases hstep with
  | stay | up | enter => exact fun segment hmem => hway segment (List.mem_cons_of_mem _ hmem)
  | @follow place rest segment target hdir hnames hkind =>
    have htarget := hwell.of_get? (Node.kind?_eq_link_iff.1 hkind)
    cases htarget with
    | link hnul =>
      intro segment hmem
      rcases List.mem_append.1 hmem with htarget | hrest
      · exact clean_segments hnul segment htarget
      · exact hway segment (List.mem_cons_of_mem _ hrest)

theorem Steps.clean {top : Node} (hwell : top.WellFormed) (hsteps : Steps top links way next)
    (hway : ∀ segment ∈ way.2, Clean segment) : ∀ segment ∈ next.2, Clean segment := by
  induction hsteps with
  | refl => exact hway
  | head hstep _ ih => exact ih (hstep.clean hwell hway)

/-- A name that its directory lacks is free, and can be a name there. -/
theorem resolve_absent {system : FileSystem} {last : LastName} {path : Path} {parent : List String} {name : String}
    (hpath : system.resolve last path = .ok (.absent parent name)) :
    system.top.Vacant (parent ++ [name]) ∧ system.kind? (parent ++ [name]) = none ∧
      (system.top.WellFormed → IsName name) := by
  obtain ⟨haskable, hfollow⟩ := resolve_eq_ok_iff.1 hpath
  obtain ⟨links, -, way, hsteps, hends⟩ := steps_of_follow hfollow
  cases hends with
  | absent hdir hnames hnone hrest hwritten =>
    obtain ⟨entries, hget⟩ := Node.kind?_eq_dir_iff.1 hdir
    refine ⟨.free hget ?_, hnone, fun hwell => ?_⟩
    · rwa [Node.kind?_concat hget, Option.map_eq_none_iff] at hnone
    · have hclean := hsteps.clean hwell (clean_segments haskable.nul_notMem) name List.mem_cons_self
      exact ⟨hnames, hclean.1, hclean.2⟩

end DriverIndex.FileSystem
