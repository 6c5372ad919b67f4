import DriverIndex.Proofs.FileSystem.Growth
import DriverIndex.Publication

/-!
# What writing does to a file system

Making a directory, making all that is needed above a file and writing a file let a file system grow, also where they fail. Nothing is written anywhere but at the place that the written path leads to, and afterwards the path leads there and the file holds the new bytes.
-/

namespace DriverIndex

/-- Where a spot is or would be. -/
def Spot.place : Spot → List String
  | .present place => place
  | .absent parent name => parent ++ [name]

namespace FileSystem

open Node (Bare IsName Vacant)

variable {system after : FileSystem} {written : List (List String)} {place : List String} {node : Node} {path : Path}
  {content : List UInt8} {last : LastName}

theorem grows_put (hvacant : system.top.Vacant place) (hbare : node.Bare) (hnode : node.WellFormed)
    (hlast : system.top.WellFormed → ∀ name ∈ place.getLast?, IsName name)
    (hchange : Change (place ∈ written) (system.kind? place) (some node.kind)) :
    Grows written system (system.put place node) ∧ (system.put place node).kind? place = some node.kind := by
  have hkind : ∀ other, (system.put place node).kind? other =
      if other = place then some node.kind else system.kind? other := hvacant.kind?_put hbare
  refine ⟨⟨rfl, fun other => ?_, fun hwell => hwell.put hvacant hnode (hlast hwell)⟩, (hkind place).trans (if_pos rfl)⟩
  rw [hkind]
  split_ifs with hother
  · subst hother
    exact hchange
  · exact .same _

/-- A node can be put where a name is missing. -/
theorem grows_put_absent {parent : List String} {name : String} (hpath : system.resolve last path = .ok (.absent parent name))
    (hbare : node.Bare) (hnode : node.WellFormed)
    (hchange : Change (parent ++ [name] ∈ written) none (some node.kind)) :
    Grows written system (system.put (parent ++ [name]) node) ∧
      (system.put (parent ++ [name]) node).kind? (parent ++ [name]) = some node.kind := by
  obtain ⟨hvacant, hnone, hname⟩ := resolve_absent hpath
  refine grows_put hvacant hbare hnode (fun hwell other hmem => ?_) (hnone ▸ hchange)
  rw [List.getLast?_concat, Option.mem_some_iff] at hmem
  exact hmem ▸ hname hwell

theorem wellFormed_emptyDir : (Node.dir []).WellFormed := .dir List.nodup_nil (by simp) (by simp)

theorem grows_of_makeDir (hmake : system.makeDir path = .ok after) : Grows [] system after := by
  rw [makeDir] at hmake
  cases hspot : system.resolve .asLink path with
  | error fault => simp [hspot, bind, Except.bind] at hmake
  | ok spot =>
    cases spot with
    | present place => simp [hspot, bind, Except.bind, throw, throwThe, MonadExceptOf.throw] at hmake
    | absent parent name =>
      simp only [hspot, bind, Except.bind, pure, Except.pure, Except.ok.injEq] at hmake
      subst hmake
      exact (grows_put_absent hspot Node.bare_emptyDir wellFormed_emptyDir .made).1

theorem grows_of_makeDirs {paths : List Path} {outcome : Except Fault Unit}
    (hmake : system.makeDirs paths = (after, outcome)) : Grows [] system after := by
  induction paths generalizing after outcome with
  | nil =>
    obtain rfl := (Prod.mk.inj hmake).1
    exact .refl system
  | cons path above ih =>
    rw [makeDirs] at hmake
    cases hfirst : system.makeDir path with
    | ok made =>
      rw [hfirst] at hmake
      obtain rfl := (Prod.mk.inj hmake).1
      exact grows_of_makeDir hfirst
    | error fault =>
      rw [hfirst] at hmake
      cases fault with
      | notFound =>
        cases habove : system.makeDirs above with
        | mk under result =>
          rw [habove] at hmake
          cases result with
          | error fault =>
            obtain rfl := (Prod.mk.inj hmake).1
            exact ih habove
          | ok done =>
            dsimp only at hmake
            cases hagain : under.makeDir path with
            | ok made =>
              rw [hagain] at hmake
              obtain rfl := (Prod.mk.inj hmake).1
              exact (ih habove).trans (grows_of_makeDir hagain)
            | error fault =>
              rw [hagain] at hmake
              obtain rfl := (Prod.mk.inj hmake).1
              exact ih habove
      | _ =>
        obtain rfl := (Prod.mk.inj hmake).1
        exact .refl system

/-- A path that is written leads to its file afterwards. -/
theorem resolve_of_written {spot : Spot} (hgrows : Grows written system after)
    (hpath : system.resolve .written path = .ok spot) (hfile : after.kind? spot.place = some (.file content)) :
    after.resolve .followed path = .ok (.present spot.place) := by
  obtain ⟨haskable, hfollow⟩ := resolve_eq_ok_iff.1 hpath
  obtain ⟨links, hlinks, way, hsteps, hends⟩ := steps_of_follow hfollow
  refine resolve_eq_present_iff.2 ⟨haskable, links, hlinks, ?_⟩
  rw [hgrows.base_eq]
  cases hends with
  | present place => exact hsteps.mono hgrows
  | link hlast => cases hlast
  | @absent parent rest name hdir hnames hnone hrest hwritten =>
    obtain rfl := hwritten rfl
    have hparent : after.top.kind? parent = some .dir := hgrows.dir hdir
    exact (hsteps.mono hgrows).trans (Step.enter hparent hnames hfile fun _ => Kind.noConfusion).steps

/-- A write that succeeds puts the file where the path leads. -/
theorem grows_of_write (hwrite : system.write path content = .ok after) :
    ∃ place, Grows [place] system after ∧ after.resolve .followed path = .ok (.present place) ∧
      after.kind? place = some (.file content) := by
  rw [write] at hwrite
  cases hspot : system.resolve .written path with
  | error fault => simp [hspot, bind, Except.bind] at hwrite
  | ok spot =>
    suffices hput : Grows [spot.place] system after ∧ after.kind? spot.place = some (.file content) from
      ⟨spot.place, hput.1, resolve_of_written hput.1 hspot hput.2, hput.2⟩
    cases spot with
    | absent parent name =>
      simp only [hspot, bind, Except.bind, pure, Except.pure, Except.ok.injEq] at hwrite
      subst hwrite
      exact grows_put_absent hspot (Node.bare_file content) (.file content) (.created (List.mem_singleton_self _) content)
    | present place =>
      simp only [hspot, bind, Except.bind, pure, Except.pure] at hwrite
      split_ifs at hwrite with hdir
      obtain rfl := Except.ok.inj hwrite
      obtain ⟨kind, hkind, hlink⟩ := exists_kind_of_resolve (by simp) hspot
      obtain ⟨old, hget, hold⟩ := Option.map_eq_some_iff.1 hkind
      cases old with
      | link target => exact absurd hold.symm (hlink target)
      | dir entries => simp [hget, Node.isDir] at hdir
      | file bytes =>
        refine grows_put (.held hget (by simp [Node.kind])) (Node.bare_file content) (.file content) ?_ ?_
        · intro hwell name hmem
          exact hwell.isName_of_mem (Node.kind?_eq_none_iff.not.2 (hget ▸ Option.some_ne_none _)) (List.mem_of_getLast? hmem)
        · rw [hkind, ← hold]
          exact .rewritten (List.mem_singleton_self _) bytes content

/-- Directories are made first, then the text is written or nothing more is changed. -/
theorem publish_cases (system : FileSystem) (path : Path) (text : String) :
    ∃ made, Grows [] system made ∧ ((∃ failure, system.publish path text = (made, .error failure)) ∨
      ∃ after, made.write path (Text.Utf8.encode text.toList) = .ok after ∧
        system.publish path text = (after, .ok ())) := by
  rw [publish]
  split
  · rename_i made fault hmade
    exact ⟨made, grows_of_makeDirs hmade, .inl ⟨_, rfl⟩⟩
  · rename_i made hmade
    refine ⟨made, grows_of_makeDirs hmade, ?_⟩
    cases hwrite : made.write path (Text.Utf8.encode text.toList) with
    | error fault => exact .inl ⟨.io path fault, rfl⟩
    | ok after => exact .inr ⟨after, rfl, rfl⟩

theorem grows_of_publish_error {text : String} {failure : Failure}
    (hpublish : system.publish path text = (after, .error failure)) : Grows [] system after := by
  obtain ⟨made, hgrows, ⟨other, heq⟩ | ⟨written, -, heq⟩⟩ := publish_cases system path text
  · rw [hpublish] at heq
    exact (Prod.mk.inj heq).1 ▸ hgrows
  · rw [hpublish] at heq
    cases (Prod.mk.inj heq).2

theorem grows_of_publish_ok {text : String} (hpublish : system.publish path text = (after, .ok ())) :
    ∃ place, Grows [place] system after ∧ after.resolve .followed path = .ok (.present place) ∧
      after.kind? place = some (.file (Text.Utf8.encode text.toList)) := by
  obtain ⟨made, hgrows, ⟨failure, heq⟩ | ⟨written, hwrite, heq⟩⟩ := publish_cases system path text
  · rw [hpublish] at heq
    cases (Prod.mk.inj heq).2
  · rw [hpublish] at heq
    obtain rfl := (Prod.mk.inj heq).1
    obtain ⟨place, hwritten, hpath, hfile⟩ := grows_of_write hwrite
    exact ⟨place, hgrows.trans hwritten, hpath, hfile⟩

end FileSystem

namespace Publication

open FileSystem

variable {publication : Publication} {system : FileSystem}

/-- What writing comes to, by the step that it reaches. -/
inductive Course (publication : Publication) (system : FileSystem) : FileSystem × Log.Traced Failure Unit → Prop where
  | headerFailed {after : FileSystem} {failure : Failure}
      (hheader : system.publish publication.header publication.declarations = (after, .error failure)) :
      Course publication system (after, .fail failure)
  | sourceFailed {middle after : FileSystem} {failure : Failure}
      (hheader : system.publish publication.header publication.declarations = (middle, .ok ()))
      (hsource : middle.publish publication.source publication.definitions = (after, .error failure)) :
      Course publication system (after, .fail failure)
  | finished {middle after : FileSystem}
      (hheader : system.publish publication.header publication.declarations = (middle, .ok ()))
      (hsource : middle.publish publication.source publication.definitions = (after, .ok ())) :
      Course publication system
        (after, .log (.artifactsWritten publication.header publication.source publication.table.size))

theorem course_write (publication : Publication) (system : FileSystem) :
    publication.Course system (publication.write system) := by
  rw [write]
  split
  · exact .headerFailed ‹_›
  · rename_i middle hheader
    split
    · exact .sourceFailed hheader ‹_›
    · exact .finished hheader ‹_›

/-- What a publication has done when it is finished: the paths lead to the places of its two files. -/
structure Done (publication : Publication) (before after : FileSystem) (header source : List String) : Prop where
  grows : Grows [header, source] before after
  header_leads : after.resolve .followed publication.header = .ok (.present header)
  source_leads : after.resolve .followed publication.source = .ok (.present source)
  definitions : after.kind? source = some (.file (Text.Utf8.encode publication.definitions.toList))
  declarations : header ≠ source → after.kind? header = some (.file (Text.Utf8.encode publication.declarations.toList))

theorem write_done (hwrite : (publication.write system).2.outcome = .ok ()) :
    ∃ header source, publication.Done system (publication.write system).1 header source := by
  have hcourse := publication.course_write system
  generalize publication.write system = result at hcourse hwrite ⊢
  cases hcourse with
  | headerFailed => cases hwrite
  | sourceFailed => cases hwrite
  | finished hheader hsource =>
    obtain ⟨header, hfirst, hheaderPath, hdeclarations⟩ := grows_of_publish_ok hheader
    obtain ⟨source, hsecond, hsourcePath, hdefinitions⟩ := grows_of_publish_ok hsource
    refine ⟨header, source, hfirst.trans hsecond, resolve_mono hsecond hheaderPath, hsourcePath, hdefinitions, ?_⟩
    intro hne
    exact (hsecond.file_iff (by simpa using hne)).2 hdeclarations

end Publication

end DriverIndex
