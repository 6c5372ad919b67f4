import DriverIndex.Proofs.FileSystem.Tree

/-!
# The way along a path

Going along a path is a matter of single steps: one segment is taken, and it leaves the place, goes up, enters what has that name or goes on along the target of a link. What stands behind in the path has no part in a step, so ways compose, and a step depends on nothing but what stands at the places that it looks at. Where a path leads is where its steps end; a path that leads to no node gets as far as a name that its directory lacks.
-/

namespace DriverIndex

open Node (Names)

namespace FileSystem

/-- How far a way has come: the place, and the segments that are left. -/
abbrev Way := List String × List String

/-- One step of a way, and the number of links that it follows. -/
inductive Step (top : Node) : Nat → Way → Way → Prop where
  | stay {place rest : List String} {segment : String} (hdir : top.kind? place = some .dir)
      (hsegment : segment = "" ∨ segment = ".") : Step top 0 (place, segment :: rest) (place, rest)
  | up {place rest : List String} (hdir : top.kind? place = some .dir) :
      Step top 0 (place, ".." :: rest) (place.dropLast, rest)
  | enter {place rest : List String} {segment : String} {kind : Kind} (hdir : top.kind? place = some .dir)
      (hnames : Names segment) (hkind : top.kind? (place ++ [segment]) = some kind)
      (hlink : ∀ target, kind ≠ .link target) : Step top 0 (place, segment :: rest) (place ++ [segment], rest)
  | follow {place rest : List String} {segment : String} {target : Path} (hdir : top.kind? place = some .dir)
      (hnames : Names segment) (hkind : top.kind? (place ++ [segment]) = some (.link target)) :
      Step top 1 (place, segment :: rest) (startOf target place, target.segments ++ rest)

inductive Steps (top : Node) : Nat → Way → Way → Prop where
  | refl (way : Way) : Steps top 0 way way
  | head {links more : Nat} {way next last : Way} (hstep : Step top links way next)
      (hsteps : Steps top more next last) : Steps top (links + more) way last

/-- The next segment names something that does not exist. -/
inductive Lacks (top : Node) : Way → Prop where
  | place {place rest : List String} {segment : String} (hnone : top.kind? place = none) :
      Lacks top (place, segment :: rest)
  | name {place rest : List String} {segment : String} (hdir : top.kind? place = some .dir) (hnames : Names segment)
      (hnone : top.kind? (place ++ [segment]) = none) : Lacks top (place, segment :: rest)

/-- A way has come to its end at a spot, by what becomes of its last name. -/
inductive Ends (top : Node) (last : LastName) : Way → Spot → Prop where
  | present (place : List String) : Ends top last (place, []) (.present place)
  | link {place : List String} {segment : String} {target : Path} (hlast : last = .asLink)
      (hkind : top.kind? (place ++ [segment]) = some (.link target)) :
      Ends top last (place, [segment]) (.present (place ++ [segment]))
  | absent {place rest : List String} {segment : String} (hdir : top.kind? place = some .dir)
      (hnames : Names segment) (hnone : top.kind? (place ++ [segment]) = none)
      (hrest : rest.all (· = "") = true) (hwritten : last = .written → rest = []) :
      Ends top last (place, segment :: rest) (.absent place segment)

variable {top other : Node} {last : LastName} {links more : Nat} {way next final : Way} {place rest : List String}
  {segment : String} {onLink : List String → List String → Except Fault Spot}

/-- What becomes of one segment, by what stands at the place and under the name. -/
theorem goAlong_cons (top : Node) (last : LastName) (onLink : List String → List String → Except Fault Spot)
    (place rest : List String) (segment : String) :
    goAlong top last onLink place (segment :: rest) =
      match top.kind? place with
      | none => .error .notFound
      | some .dir =>
        if segment = "" ∨ segment = "." then goAlong top last onLink place rest
        else if segment = ".." then goAlong top last onLink place.dropLast rest
        else if last = .written ∧ rest ≠ [] ∧ rest.all (· = "") then .error .isDirectory
        else if longestName < segment.utf8ByteSize then .error .nameTooLong
        else match top.kind? (place ++ [segment]) with
          | none => if rest.all (· = "") then .ok (.absent place segment) else .error .notFound
          | some (.link target) =>
            if last = .asLink ∧ rest = [] then .ok (.present (place ++ [segment]))
            else onLink (startOf target place) (target.segments ++ rest)
          | some _ => goAlong top last onLink (place ++ [segment]) rest
      | some _ => .error .notDirectory := by
  rw [goAlong]
  cases hget : top.get? place with
  | none => rw [Node.kind?_eq_none_iff.2 hget]
  | some node =>
    cases node with
    | file content => rw [Node.kind?_eq_file_iff.2 hget]
    | link target => rw [Node.kind?_eq_link_iff.2 hget]
    | dir entries =>
      rw [Node.kind?_eq_dir_iff.2 ⟨entries, hget⟩, Node.kind?_concat hget]
      dsimp only
      cases entries.lookup segment with
      | none => rfl
      | some child => cases child <;> rfl

/-- What becomes of a name, by what stands under it in its directory. -/
theorem goAlong_of_names (hdir : top.kind? place = some .dir) (hnames : Names segment)
    (hfree : ¬(last = .written ∧ rest ≠ [] ∧ rest.all (· = "") = true)) :
    goAlong top last onLink place (segment :: rest) =
      match top.kind? (place ++ [segment]) with
      | none => if rest.all (· = "") then .ok (.absent place segment) else .error .notFound
      | some (.link target) =>
        if last = .asLink ∧ rest = [] then .ok (.present (place ++ [segment]))
        else onLink (startOf target place) (target.segments ++ rest)
      | some _ => goAlong top last onLink (place ++ [segment]) rest := by
  rw [goAlong_cons, hdir]
  dsimp only
  rw [if_neg (not_or.2 ⟨hnames.ne_empty, hnames.ne_dot⟩), if_neg hnames.ne_dots, if_neg hfree,
    if_neg (Nat.not_lt.2 hnames.size_le)]

theorem goAlong_congr (hsame : ∀ place, top.kind? place = other.kind? place) (last : LastName)
    (onLink : List String → List String → Except Fault Spot) (place segments : List String) :
    goAlong top last onLink place segments = goAlong other last onLink place segments := by
  induction segments generalizing place with
  | nil => rfl
  | cons segment rest ih => simp only [goAlong_cons, hsame, ih]

theorem follow_congr (hsame : ∀ place, top.kind? place = other.kind? place) (last : LastName) (links : Nat) :
    follow top last links = follow other last links := by
  induction links with
  | zero =>
    funext place segments
    exact goAlong_congr hsame ..
  | succ links ih =>
    funext place segments
    rw [follow, follow, ih]
    exact goAlong_congr hsame ..

/-! ### Ways compose -/

theorem Step.steps (hstep : Step top links way next) : Steps top links way next := .head hstep (.refl next)

theorem Steps.trans (hsteps : Steps top links way next) (hmore : Steps top more next final) :
    Steps top (links + more) way final := by
  induction hsteps with
  | refl => rwa [Nat.zero_add]
  | head hstep _ ih =>
    rw [Nat.add_assoc]
    exact .head hstep (ih hmore)

theorem Step.append (hstep : Step top links way next) (back : List String) :
    Step top links (way.1, way.2 ++ back) (next.1, next.2 ++ back) := by
  cases hstep with
  | stay hdir hsegment => exact .stay hdir hsegment
  | up hdir => exact .up hdir
  | enter hdir hnames hkind hlink => exact .enter hdir hnames hkind hlink
  | follow hdir hnames hkind =>
    rw [List.append_assoc]
    exact .follow hdir hnames hkind

theorem Steps.append (hsteps : Steps top links way next) (back : List String) :
    Steps top links (way.1, way.2 ++ back) (next.1, next.2 ++ back) := by
  induction hsteps with
  | refl => exact .refl _
  | head hstep _ ih => exact .head (hstep.append back) ih

/-- A step does not look at what stands behind. -/
theorem Step.strip {front back : List String} (hstep : Step top links way next) (hway : way.2 = segment :: front ++ back) :
    ∃ left, next.2 = left ++ back ∧ Step top links (way.1, segment :: front) (next.1, left) := by
  cases hstep with
  | stay hdir hsegment =>
    obtain ⟨rfl, rfl⟩ := List.cons.inj hway
    exact ⟨front, rfl, .stay hdir hsegment⟩
  | up hdir =>
    obtain ⟨rfl, rfl⟩ := List.cons.inj hway
    exact ⟨front, rfl, .up hdir⟩
  | enter hdir hnames hkind hlink =>
    obtain ⟨rfl, rfl⟩ := List.cons.inj hway
    exact ⟨front, rfl, .enter hdir hnames hkind hlink⟩
  | follow hdir hnames hkind =>
    obtain ⟨rfl, rfl⟩ := List.cons.inj hway
    exact ⟨_, (List.append_assoc ..).symm, .follow hdir hnames hkind⟩

/-- A way to the end of a path passes where its front leads. -/
theorem Steps.split {front back : List String} (hsteps : Steps top links way next) (hway : way.2 = front ++ back)
    (hend : next.2 = []) : ∃ middle first second, links = first + second ∧
      Steps top first (way.1, front) (middle, []) ∧ Steps top second (middle, back) next := by
  induction hsteps generalizing front with
  | refl way =>
    obtain ⟨rfl, rfl⟩ := List.append_eq_nil_iff.1 (hway.symm.trans hend)
    refine ⟨way.1, 0, 0, rfl, .refl _, ?_⟩
    rw [← hend]
    exact .refl _
  | @head links more way next last hstep hmore ih =>
    cases front with
    | nil =>
      refine ⟨way.1, 0, links + more, (Nat.zero_add _).symm, .refl _, ?_⟩
      rw [List.nil_append] at hway
      rw [← hway]
      exact .head hstep hmore
    | cons segment front =>
      obtain ⟨left, hnext, hfirst⟩ := hstep.strip hway
      obtain ⟨middle, first, second, rfl, hleft, hsecond⟩ := ih hnext hend
      exact ⟨middle, links + first, second, (Nat.add_assoc ..).symm, .head hfirst hleft, hsecond⟩

/-- An empty segment and a dot can only be passed over. -/
theorem Step.of_stay (hstep : Step top links (place, segment :: rest) next) (hsegment : segment = "" ∨ segment = ".") :
    links = 0 ∧ next = (place, rest) := by
  cases hstep with
  | stay => exact ⟨rfl, rfl⟩
  | up => simp at hsegment
  | enter _ hnames => exact (hsegment.elim hnames.ne_empty hnames.ne_dot).elim
  | follow _ hnames => exact (hsegment.elim hnames.ne_empty hnames.ne_dot).elim

/-! ### Steps are what going along a path does -/

theorem goAlong_of_step (hlast : last ≠ .written) (hstep : Step top 0 way next) :
    goAlong top last onLink way.1 way.2 = goAlong top last onLink next.1 next.2 := by
  cases hstep with
  | stay hdir hsegment =>
    rw [goAlong_cons, hdir]
    exact if_pos hsegment
  | up hdir =>
    rw [goAlong_cons, hdir]
    rfl
  | @enter place rest segment kind hdir hnames hkind hlink =>
    rw [goAlong_of_names hdir hnames fun h => hlast h.1, hkind]
    cases kind with
    | file content => rfl
    | link target => exact absurd rfl (hlink target)
    | dir => rfl

theorem goAlong_of_step_one (hstep : Step top 1 way next) :
    goAlong top .followed onLink way.1 way.2 = onLink next.1 next.2 := by
  cases hstep with
  | follow hdir hnames hkind =>
    rw [goAlong_of_names hdir hnames (by simp), hkind]
    exact if_neg (by simp)

theorem follow_eq_goAlong (top : Node) (last : LastName) (links : Nat) :
    ∃ onLink, follow top last links = goAlong top last onLink := by
  cases links with
  | zero => exact ⟨_, rfl⟩
  | succ links => exact ⟨_, rfl⟩

theorem Step.links_cases (hstep : Step top links way next) : links = 0 ∨ links = 1 := by
  cases hstep <;> simp

/-- The last link of a way is not followed if it is wanted itself. -/
theorem goAlong_asLink_of_step_one (hstep : Step top 1 way next) :
    goAlong top .asLink onLink way.1 way.2 = onLink next.1 next.2 ∨
      ∃ link target, goAlong top .asLink onLink way.1 way.2 = .ok (.present link) ∧
        top.kind? link = some (.link target) := by
  cases hstep with
  | @follow place rest segment target hdir hnames hkind =>
    rw [goAlong_of_names hdir hnames (by simp), hkind]
    by_cases hrest : rest = []
    · exact .inr ⟨_, target, if_pos ⟨rfl, hrest⟩, hkind⟩
    · exact .inl (if_neg fun h => hrest h.2)

theorem follow_of_step (hstep : Step top links way next) (more : Nat) :
    follow top .followed (links + more) way.1 way.2 = follow top .followed more next.1 next.2 := by
  rcases hstep.links_cases with rfl | rfl
  · obtain ⟨onLink, hfollow⟩ := follow_eq_goAlong top .followed more
    rw [Nat.zero_add, hfollow]
    exact goAlong_of_step (by simp) hstep
  · rw [Nat.add_comm]
    exact goAlong_of_step_one hstep

theorem follow_of_steps (hsteps : Steps top links way next) (more : Nat) :
    follow top .followed (links + more) way.1 way.2 = follow top .followed more next.1 next.2 := by
  induction hsteps with
  | refl => rw [Nat.zero_add]
  | head hstep _ ih => rw [Nat.add_assoc, follow_of_step hstep, ih]

/-- What is found at the end of a way that leads to something missing. -/
def Missing (found : Except Fault Spot) : Prop :=
  found = .error .notFound ∨ ∃ parent name, found = .ok (.absent parent name)

theorem Lacks.missing (hlacks : Lacks top way) (links : Nat) : Missing (follow top .followed links way.1 way.2) := by
  obtain ⟨onLink, hfollow⟩ := follow_eq_goAlong top .followed links
  rw [hfollow]
  cases hlacks with
  | place hnone =>
    rw [goAlong_cons, hnone]
    exact .inl rfl
  | name hdir hnames hnone =>
    rw [goAlong_of_names hdir hnames (by simp), hnone]
    dsimp only
    split_ifs
    · exact .inr ⟨_, _, rfl⟩
    · exact .inl rfl

/-- What has led somewhere from a segment: a step without a link, a link, or the segment is where it ends. -/
theorem goAlong_cases {spot : Spot} (hspot : goAlong top last onLink place (segment :: rest) = .ok spot) :
    (∃ next, Step top 0 (place, segment :: rest) (next, rest) ∧ goAlong top last onLink next rest = .ok spot) ∨
      (∃ next, Step top 1 (place, segment :: rest) next ∧ onLink next.1 next.2 = .ok spot) ∨
      Ends top last (place, segment :: rest) spot := by
  have hdir : top.kind? place = some .dir := by
    rw [goAlong_cons] at hspot
    cases hplace : top.kind? place with
    | none => simp [hplace] at hspot
    | some kind => cases kind <;> simp_all
  by_cases hstay : segment = "" ∨ segment = "."
  · rw [goAlong_cons, hdir] at hspot
    dsimp only at hspot
    rw [if_pos hstay] at hspot
    exact .inl ⟨place, .stay hdir hstay, hspot⟩
  by_cases hup : segment = ".."
  · subst hup
    rw [goAlong_cons, hdir] at hspot
    exact .inl ⟨place.dropLast, .up hdir, hspot⟩
  by_cases hslash : last = .written ∧ rest ≠ [] ∧ rest.all (· = "") = true
  · simp only [goAlong_cons, hdir, if_neg hstay, if_neg hup, if_pos hslash, reduceCtorEq] at hspot
  by_cases hlong : longestName < segment.utf8ByteSize
  · simp only [goAlong_cons, hdir, if_neg hstay, if_neg hup, if_neg hslash, if_pos hlong, reduceCtorEq] at hspot
  have hnames : Names segment := ⟨fun h => hstay (.inl h), fun h => hstay (.inr h), hup, Nat.not_lt.1 hlong⟩
  rw [goAlong_of_names hdir hnames hslash] at hspot
  cases hkind : top.kind? (place ++ [segment]) with
  | none =>
    rw [hkind] at hspot
    dsimp only at hspot
    split_ifs at hspot with hrest
    obtain rfl := Except.ok.inj hspot
    have hlast : last = .written → rest = [] := fun hwritten => by_contra fun hne => hslash ⟨hwritten, hne, hrest⟩
    exact .inr (.inr (.absent hdir hnames hkind hrest hlast))
  | some kind =>
    rw [hkind] at hspot
    cases kind with
    | file content => exact .inl ⟨_, .enter hdir hnames hkind (by simp), hspot⟩
    | dir => exact .inl ⟨_, .enter hdir hnames hkind (by simp), hspot⟩
    | link target =>
      dsimp only at hspot
      split_ifs at hspot with hasLink
      · obtain ⟨rfl, rfl⟩ := hasLink
        obtain rfl := Except.ok.inj hspot
        exact .inr (.inr (.link rfl hkind))
      · exact .inr (.inl ⟨_, .follow hdir hnames hkind, hspot⟩)

/-- Wherever a path leads, its steps end there. -/
theorem steps_of_goAlong {spot : Spot} {segments : List String}
    (honLink : ∀ place segments, onLink place segments = .ok spot →
      ∃ used < links, ∃ way, Steps top used (place, segments) way ∧ Ends top last way spot)
    (hspot : goAlong top last onLink place segments = .ok spot) :
    ∃ used ≤ links, ∃ way, Steps top used (place, segments) way ∧ Ends top last way spot := by
  induction segments generalizing place with
  | nil =>
    obtain rfl : .present place = spot := Except.ok.inj hspot
    exact ⟨0, Nat.zero_le _, _, .refl _, .present place⟩
  | cons segment rest ih =>
    rcases goAlong_cases hspot with ⟨next, hstep, hnext⟩ | ⟨next, hstep, hlink⟩ | hends
    · obtain ⟨used, hused, way, hsteps, hends⟩ := ih hnext
      exact ⟨0 + used, by omega, way, .head hstep hsteps, hends⟩
    · obtain ⟨used, hused, way, hsteps, hends⟩ := honLink _ _ hlink
      exact ⟨1 + used, by omega, way, .head hstep hsteps, hends⟩
    · exact ⟨0, Nat.zero_le _, _, .refl _, hends⟩

theorem steps_of_follow {spot : Spot} {segments : List String}
    (hspot : follow top last links place segments = .ok spot) :
    ∃ used ≤ links, ∃ way, Steps top used (place, segments) way ∧ Ends top last way spot := by
  induction links generalizing place segments with
  | zero =>
    refine steps_of_goAlong ?_ hspot
    intro place segments hlink
    cases hlink
  | succ links ih =>
    refine steps_of_goAlong ?_ hspot
    intro place segments hlink
    obtain ⟨used, hused, way, hsteps, hends⟩ := ih hlink
    exact ⟨used, Nat.lt_succ_of_le hused, way, hsteps, hends⟩

theorem follow_eq_present_iff {segments : List String} {final : List String} :
    follow top .followed links place segments = .ok (.present final) ↔
      ∃ used ≤ links, Steps top used (place, segments) (final, []) := by
  constructor
  · intro hspot
    obtain ⟨used, hused, way, hsteps, hends⟩ := steps_of_follow hspot
    cases hends with
    | present => exact ⟨used, hused, hsteps⟩
    | link hlast => cases hlast
  · rintro ⟨used, hused, hsteps⟩
    obtain ⟨more, rfl⟩ := Nat.exists_eq_add_of_le hused
    rw [follow_of_steps hsteps]
    obtain ⟨onLink, hfollow⟩ := follow_eq_goAlong top .followed more
    rw [hfollow]
    rfl

theorem follow_asLink_of_steps {final : List String} (hsteps : Steps top links way (final, [])) (more : Nat) :
    follow top .asLink (links + more) way.1 way.2 = .ok (.present final) ∨
      ∃ link target, follow top .asLink (links + more) way.1 way.2 = .ok (.present link) ∧
        top.kind? link = some (.link target) := by
  generalize hend : ((final, []) : Way) = last at hsteps
  induction hsteps with
  | refl =>
    obtain ⟨onLink, hfollow⟩ := follow_eq_goAlong top .asLink (0 + more)
    rw [hfollow, ← hend]
    exact .inl rfl
  | @head links rest way next last hstep _ ih =>
    rcases hstep.links_cases with rfl | rfl
    · obtain ⟨onLink, hfollow⟩ := follow_eq_goAlong top .asLink (rest + more)
      rw [Nat.zero_add, hfollow, goAlong_of_step (by simp) hstep, ← hfollow]
      exact ih hend
    · rw [Nat.add_assoc, Nat.add_comm, follow]
      rcases goAlong_asLink_of_step_one hstep with hfollow | hlink
      · rw [hfollow]
        exact ih hend
      · exact .inr hlink

theorem Steps.unique {first second : List String} (hfirst : Steps top links way (first, []))
    (hsecond : Steps top more way (second, [])) : first = second := by
  have hleft : follow top .followed (links + more) way.1 way.2 = .ok (.present first) :=
    follow_eq_present_iff.2 ⟨links, Nat.le_add_right .., hfirst⟩
  have hright : follow top .followed (links + more) way.1 way.2 = .ok (.present second) :=
    follow_eq_present_iff.2 ⟨more, Nat.le_add_left .., hsecond⟩
  exact Spot.present.inj (Except.ok.inj (hleft.symm.trans hright))

end FileSystem

end DriverIndex
