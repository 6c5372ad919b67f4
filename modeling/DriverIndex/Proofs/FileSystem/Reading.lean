import DriverIndex.Proofs.FileSystem.Resolution
import DriverIndex.Proofs.Path.Join

/-!
# What a path leads to

A path of a possible length leads to a place exactly if its steps end there. No step ends at nothing or at a link, so what a path leads to is a file or a directory; a file is read exactly if it is the former. All of this depends on the kinds of the places alone.
-/

namespace DriverIndex.FileSystem

/-- A path that can be asked for at all. -/
structure Askable (path : Path) : Prop where
  nul_notMem : '\x00' ∉ path.text.toList
  ne_empty : path.text ≠ ""
  size_le : path.text.utf8ByteSize ≤ longestPath

variable {system other : FileSystem} {top : Node} {path : Path} {last : LastName} {links : Nat} {way next : Way}
  {place front : List String} {spot : Spot} {bytes : List UInt8}

theorem resolve_eq_ok_iff : system.resolve last path = .ok spot ↔
    Askable path ∧ follow system.top last mostLinks (startOf path system.base) path.segments = .ok spot := by
  rw [resolve]
  constructor
  · intro hspot
    split_ifs at hspot with hnul hempty hlong
    exact ⟨⟨hnul, hempty, Nat.not_lt.1 hlong⟩, hspot⟩
  · rintro ⟨haskable, hspot⟩
    rw [if_neg haskable.nul_notMem, if_neg haskable.ne_empty, if_neg (Nat.not_lt.2 haskable.size_le), hspot]

theorem resolve_eq_present_iff : system.resolve .followed path = .ok (.present place) ↔
    Askable path ∧ ∃ links ≤ mostLinks, Steps system.top links (startOf path system.base, path.segments) (place, []) := by
  rw [resolve_eq_ok_iff, follow_eq_present_iff]

/-- A path leads to one place only. -/
theorem resolve_unique {first second : List String} (hfirst : system.resolve last path = .ok (.present first))
    (hsecond : system.resolve last path = .ok (.present second)) : first = second :=
  Spot.present.inj (Except.ok.inj (hfirst.symm.trans hsecond))

theorem resolve_congr (hbase : system.base = other.base) (hsame : ∀ place, system.kind? place = other.kind? place)
    (last : LastName) (path : Path) : system.resolve last path = other.resolve last path := by
  rw [resolve, resolve, hbase, follow_congr hsame]

theorem steps_slashes (hdir : top.kind? place = some .dir) (count : Nat) :
    Steps top 0 (place, List.replicate count "") (place, []) := by
  induction count with
  | zero => exact .refl _
  | succ count ih => exact (Step.stay hdir (.inl rfl)).steps.trans ih

/-- Slashes behind the path of a directory lead nowhere else, as long as the path is not too long. -/
theorem resolve_slashed {count : Nat} (hpath : system.resolve .followed path = .ok (.present place))
    (hdir : system.kind? place = some .dir) (hsize : path.text.utf8ByteSize + count ≤ longestPath) :
    system.resolve .followed (path.slashed count) = .ok (.present place) := by
  obtain ⟨haskable, links, hlinks, hsteps⟩ := resolve_eq_present_iff.1 hpath
  refine resolve_eq_present_iff.2 ⟨⟨?_, ?_, ?_⟩, links, hlinks, ?_⟩
  · simpa [Path.slashed] using haskable.nul_notMem
  · simp [Path.slashed, haskable.ne_empty]
  · rwa [Path.utf8ByteSize_slashed]
  · rw [Path.startOf_slashed haskable.ne_empty, Path.segments_slashed]
    exact (hsteps.append _).trans (steps_slashes hdir count)

/-! ### What stands where a step ends -/

theorem kind?_eq_dir_of_prefix (hdir : top.kind? place = some .dir) (hfront : front <+: place) :
    top.kind? front = some .dir := by
  obtain ⟨names, rfl⟩ := hfront
  cases names with
  | nil => rwa [List.append_nil] at hdir
  | cons name names => exact Node.kind?_eq_dir_of_append (List.cons_ne_nil name names) (hdir ▸ Option.some_ne_none _)

theorem startOf_isPrefix (path : Path) (base : List String) : startOf path base <+: base := by
  rw [startOf]
  split_ifs
  · exact List.nil_prefix
  · exact List.prefix_refl base

/-- A step ends at a file or at a directory. -/
theorem Step.exists_kind (hstep : Step top links way next) :
    ∃ kind, top.kind? next.1 = some kind ∧ ∀ target, kind ≠ .link target := by
  cases hstep with
  | stay hdir _ => exact ⟨.dir, hdir, by simp⟩
  | up hdir => exact ⟨.dir, kind?_eq_dir_of_prefix hdir (List.dropLast_prefix _), by simp⟩
  | enter _ _ hkind hlink => exact ⟨_, hkind, hlink⟩
  | follow hdir _ _ => exact ⟨.dir, kind?_eq_dir_of_prefix hdir (startOf_isPrefix _ _), by simp⟩

theorem Steps.exists_kind (hsteps : Steps top links way next) (hne : way ≠ next) :
    ∃ kind, top.kind? next.1 = some kind ∧ ∀ target, kind ≠ .link target := by
  induction hsteps with
  | refl => exact absurd rfl hne
  | @head _ _ way middle next hstep _ ih =>
    by_cases hmiddle : middle = next
    · exact hmiddle ▸ hstep.exists_kind
    · exact ih hmiddle

theorem exists_kind_of_resolve (hlast : last ≠ .asLink) (hpath : system.resolve last path = .ok (.present place)) :
    ∃ kind, system.kind? place = some kind ∧ ∀ target, kind ≠ .link target := by
  obtain ⟨-, hfollow⟩ := resolve_eq_ok_iff.1 hpath
  obtain ⟨links, -, way, hsteps, hends⟩ := steps_of_follow hfollow
  cases hends with
  | present => exact hsteps.exists_kind fun heq => path.segments_ne_nil (congrArg Prod.snd heq)
  | link hasLink => exact absurd hasLink hlast

/-! ### With and without the last link -/

theorem resolve_followed_of_asLink (hpath : system.resolve .asLink path = .ok (.present place))
    (hlink : ∀ target, system.kind? place ≠ some (.link target)) :
    system.resolve .followed path = .ok (.present place) := by
  obtain ⟨haskable, hfollow⟩ := resolve_eq_ok_iff.1 hpath
  obtain ⟨links, hlinks, way, hsteps, hends⟩ := steps_of_follow hfollow
  cases hends with
  | present => exact resolve_eq_present_iff.2 ⟨haskable, links, hlinks, hsteps⟩
  | link _ hkind => exact absurd hkind (hlink _)

theorem resolve_asLink_of_followed (hpath : system.resolve .followed path = .ok (.present place)) :
    system.resolve .asLink path = .ok (.present place) ∨
      ∃ link target, system.resolve .asLink path = .ok (.present link) ∧ system.kind? link = some (.link target) := by
  obtain ⟨haskable, links, hlinks, hsteps⟩ := resolve_eq_present_iff.1 hpath
  obtain ⟨more, hmore⟩ := Nat.exists_eq_add_of_le hlinks
  simp only [resolve_eq_ok_iff, hmore]
  rcases follow_asLink_of_steps hsteps more with hfollow | ⟨link, target, hfollow, hkind⟩
  · exact .inl ⟨haskable, hfollow⟩
  · exact .inr ⟨link, target, ⟨haskable, hfollow⟩, hkind⟩

/-! ### Reading -/

theorem node_eq_ok_iff {node : Node} : system.node last path = .ok node ↔
    ∃ place, system.resolve last path = .ok (.present place) ∧ system.top.get? place = some node := by
  rw [FileSystem.node]
  cases hspot : system.resolve last path with
  | error fault => simp [bind, Except.bind]
  | ok spot =>
    cases spot with
    | absent parent name => simp [bind, Except.bind, throw, throwThe, MonadExceptOf.throw]
    | present place =>
      cases hget : system.top.get? place with
      | none => simp [bind, Except.bind, hget, throw, throwThe, MonadExceptOf.throw]
      | some found => simp [bind, Except.bind, hget, pure, Except.pure]

theorem read_eq_ok_iff : system.read path = .ok bytes ↔
    ∃ place, system.resolve .followed path = .ok (.present place) ∧ system.kind? place = some (.file bytes) := by
  have hread : system.read path = .ok bytes ↔ system.node .followed path = .ok (.file bytes) := by
    rw [read]
    cases system.node .followed path with
    | error fault => simp [bind, Except.bind]
    | ok node => cases node <;> simp [bind, Except.bind, pure, Except.pure, throw, throwThe, MonadExceptOf.throw]
  simp only [hread, node_eq_ok_iff, kind?, Node.kind?_eq_file_iff]

theorem hasFile_iff : system.hasFile path = true ↔ ∃ bytes, system.read path = .ok bytes := by
  rw [hasFile, read]
  cases system.node .followed path with
  | error fault => simp [bind, Except.bind]
  | ok node =>
    cases node <;> simp [bind, Except.bind, pure, Except.pure, throw, throwThe, MonadExceptOf.throw, Node.isFile]

end DriverIndex.FileSystem
