import DriverIndex.Proofs.Registry.Outcomes
import DriverIndex.Proofs.Scan.FirstFailure
import Mathlib.Data.List.Infix

/-!
# What a scan tells

A scan tells of every file that it comes to, then of all that it finds there, and only then of what the registry refuses of it, since a file is read to its end before anything in it is registered. So the log of a file is settled by its sightings and the registry that it comes to, which is that of the files before it. Where a scan fails, the file at fault has been told of, with the lines that were read before the malformed one, and nothing of it has been registered.
-/

namespace DriverIndex

open Log (Event FieldValue Traced)

/-- Every element of a list, with those before it. -/
def withEarlier {α : Type} (xs : List α) : List (List α × α) := xs.inits.zip xs

theorem withEarlier_cons {α : Type} (x : α) (xs : List α) :
    withEarlier (x :: xs) = ([], x) :: (withEarlier xs).map fun place => (x :: place.1, place.2) := by
  rw [withEarlier, List.inits_cons, List.zip_cons_cons, List.zip_map_left]
  rfl

namespace Log.Event

/-- The collision that a warning is about. -/
def collision? : Event → Option Collision
  | .groupCollision _ _ collision => some collision
  | _ => none

/-- What an event shows under a name. -/
def field? (event : Event) (name : String) : Option FieldValue := event.fields.lookup name

/-- Warnings are about collisions, and show their names and groups. -/
theorem map_field?_warnings (events : List Event) :
    (events.filter fun event => event.level = .warn).map
        (fun event => (event.field? "name", event.field? "existing", event.field? "attempted")) =
      (events.filterMap collision?).map fun collision => (some (.text collision.name),
        some (.number collision.existing.value.toInt), some (.number collision.attempted.value.toInt)) := by
  induction events with
  | nil => rfl
  | cons event rest ih =>
    cases event with
    | groupCollision file line collision => exact congrArg (_ :: ·) ih
    | _ => exact ih

end Log.Event

namespace Scan

variable {system : FileSystem} {marker : Marker} {file : Path} {found heard : List Sighting} {failure : Failure}

/-- A warning for every sighting that is refused, with its line. -/
def warnings (file : Path) (found : List Sighting) (outcomes : List Outcome) : List Event :=
  (found.zip outcomes).filterMap fun answer => answer.2.collision?.map (.groupCollision file answer.1.line)

/-- What is told about a file that is read to its end, and whose sightings a registry receives. -/
def fileLog (registry : Registry) (file : Path) (found : List Sighting) : List Event :=
  .fileFound file :: found.map (.definitionFound file) ++
    warnings file found (registry.outcomes (found.map Sighting.registration))

/-- What is told about files in order; each of them comes to a registry that has the calls of those before it. -/
def logFrom (registry : Registry) (found : Path → List Sighting) (files : List Path) : List Event :=
  (withEarlier files).flatMap fun place => fileLog (registry.registerAll (callsOf found place.1)) place.2 (found place.2)

/-- What ends a scan at a file, and the sightings that it has told of by then: those of the marker lines below the malformed one. -/
inductive Interrupts (system : FileSystem) (marker : Marker) (file : Path) : Failure → List Sighting → Prop where
  | unreadable {fault : Fault} (hread : system.read file = .error fault) :
      Interrupts system marker file (.io file fault) []
  | malformed {bytes : List UInt8} {line : MalformedLine} {heard : List Sighting} (hread : system.read file = .ok bytes)
      (hlast : marker.LastMalformed bytes line)
      (hbelow : ((marker.candidates (Text.Utf8.decodeLossy bytes)).filter fun row => line.number < row.2).mapM
        marker.readRow = .ok heard) :
      Interrupts system marker file (.malformed file line) heard

/-! ### One file -/

theorem events_registerSightings (file : Path) (found : List Sighting) (registry : Registry) :
    (registerSightings file found registry).events =
      warnings file found (registry.outcomes (found.map Sighting.registration)) := by
  induction found generalizing registry with
  | nil => rfl
  | cons sighting rest ih =>
    rw [registerSightings, List.map_cons, Registry.outcomes, warnings, List.zip_cons_cons]
    obtain ⟨outcome, next⟩ := registry.register sighting.registration
    cases outcome with
    | collision collision => exact congrArg (Event.groupCollision file sighting.line collision :: ·) (ih next)
    | _ => exact ih next

theorem events_sightings {bytes : List UInt8} (hread : system.read file = .ok bytes) :
    (sightings system marker file).events =
      (marker.read (Text.Utf8.decodeLossy bytes)).1.map (.definitionFound file) := by
  rw [sightings, hread]

theorem events_sightings_of_ok (hfound : (sightings system marker file).outcome = .ok found) :
    (sightings system marker file).events = found.map (.definitionFound file) := by
  obtain ⟨bytes, hread, hextract⟩ := sightings_eq_ok_iff.1 hfound
  rw [events_sightings hread]
  rw [Marker.extract] at hextract
  cases hrows : marker.read (Text.Utf8.decodeLossy bytes) with
  | mk read malformed =>
    rw [hrows] at hextract
    cases malformed with
    | some line => cases hextract
    | none => rw [← Except.ok.inj hextract]

/-- Reading that ends at a malformed line has read all lines before it. -/
theorem exists_of_readLines {rows : List (List Char × Nat)} {line : MalformedLine}
    (hread : marker.readLines rows = (heard, some line)) :
    ∃ below row above, rows = below ++ row :: above ∧ below.mapM marker.readRow = .ok heard ∧
      marker.readRow row = .error line := by
  induction rows generalizing heard with
  | nil => cases hread
  | cons row rest ih =>
    obtain ⟨text, number⟩ := row
    rw [Marker.readLines] at hread
    cases htext : marker.readLine text with
    | error flaw =>
      rw [htext] at hread
      obtain ⟨rfl, hline⟩ := Prod.mk.inj hread
      obtain rfl := Option.some.inj hline
      exact ⟨[], (text, number), rest, rfl, rfl, by rw [Marker.readRow, htext]⟩
    | ok registration =>
      cases hrest : marker.readLines rest with
      | mk others malformed =>
        rw [htext, hrest] at hread
        obtain ⟨rfl, rfl⟩ := Prod.mk.inj hread
        obtain ⟨below, row, above, rfl, hbelow, hrow⟩ := ih hrest
        refine ⟨(text, number) :: below, row, above, rfl, ?_, hrow⟩
        rw [List.mapM_cons, Marker.readRow, htext, hbelow]
        rfl

/-- The lines with larger numbers stand before a line among the candidates. -/
theorem filter_candidates {text : List Char} {below above : List (List Char × Nat)} {row : List Char × Nat}
    (hrows : marker.candidates text = below ++ row :: above) :
    (marker.candidates text).filter (fun other => row.2 < other.2) = below := by
  have hdecreasing : ((marker.candidates text).map Prod.snd).Pairwise (· > ·) := Marker.candidates_pairwise text
  rw [hrows, List.map_append, List.map_cons, List.pairwise_append, List.pairwise_cons] at hdecreasing
  obtain ⟨-, ⟨habove, -⟩, hbelow⟩ := hdecreasing
  have hkept : ∀ other ∈ below, decide (row.2 < other.2) = true := fun other hmem =>
    decide_eq_true (hbelow _ (List.mem_map_of_mem hmem) _ List.mem_cons_self)
  have hleft : ∀ other ∈ row :: above, ¬decide (row.2 < other.2) = true := by
    intro other hmem
    rw [decide_eq_true_eq, Nat.not_lt]
    rcases List.mem_cons.1 hmem with rfl | hmem
    · exact Nat.le_refl _
    · exact Nat.le_of_lt (habove _ (List.mem_map_of_mem hmem))
  rw [hrows, List.filter_append, List.filter_eq_self.2 hkept, List.filter_eq_nil_iff.2 hleft, List.append_nil]

/-- What has been read of a file up to its last malformed line is what stands below that line. -/
theorem read_of_lastMalformed {bytes : List UInt8} {line : MalformedLine} (hlast : marker.LastMalformed bytes line) :
    ((marker.candidates (Text.Utf8.decodeLossy bytes)).filter fun row => line.number < row.2).mapM marker.readRow =
      .ok (marker.read (Text.Utf8.decodeLossy bytes)).1 := by
  have hextract := Marker.extract_eq_error_iff.2 hlast
  rw [Marker.extract] at hextract
  cases hrows : marker.read (Text.Utf8.decodeLossy bytes) with
  | mk heard malformed =>
    rw [hrows] at hextract
    cases malformed with
    | none => cases hextract
    | some last =>
      obtain rfl : last = line := Except.error.inj hextract
      obtain ⟨below, row, above, hsplit, hbelow, hrow⟩ := exists_of_readLines hrows
      have hnumber : row.2 = last.number := congrArg Prod.snd (Marker.readRow_eq_error_iff.1 hrow).1
      rw [← hnumber, filter_candidates hsplit, hbelow]

theorem events_sightings_of_error (hfails : (sightings system marker file).outcome = .error failure) :
    ∃ heard, Interrupts system marker file failure heard ∧
      (sightings system marker file).events = heard.map (.definitionFound file) := by
  cases sightings_eq_error_iff.1 hfails with
  | unreadable hread =>
    refine ⟨[], .unreadable hread, ?_⟩
    rw [sightings, hread]
    rfl
  | malformed hread hlast => exact ⟨_, .malformed hread hlast (read_of_lastMalformed hlast), events_sightings hread⟩

theorem events_scanFile_of_ok (hfound : (sightings system marker file).outcome = .ok found) (registry : Registry) :
    (scanFile system marker file registry).events = fileLog registry file found := by
  rw [scanFile, Traced.bind_of_ok rfl, Traced.bind_of_ok hfound]
  dsimp only
  rw [events_sightings_of_ok hfound, events_registerSightings]
  rfl

/-- Nothing of a file at fault is registered, so nothing of it is refused. -/
theorem events_scanFile_of_error (hfails : (sightings system marker file).outcome = .error failure) (registry : Registry) :
    (scanFile system marker file registry).events = .fileFound file :: (sightings system marker file).events := by
  rw [scanFile, Traced.bind_of_ok rfl, Traced.bind_of_error hfails]
  rfl

/-! ### All files -/

section

variable {found : Path → List Sighting} {files front : List Path}

theorem callsOf_cons (found : Path → List Sighting) (file : Path) (rest : List Path) :
    callsOf found (file :: rest) = (found file).map Sighting.registration ++ callsOf found rest :=
  List.flatMap_cons

theorem logFrom_cons (registry : Registry) (found : Path → List Sighting) (file : Path) (rest : List Path) :
    logFrom registry found (file :: rest) = fileLog registry file (found file) ++
      logFrom (registry.registerAll ((found file).map Sighting.registration)) found rest := by
  rw [logFrom, withEarlier_cons, List.flatMap_cons, List.flatMap_map]
  refine congrArg _ (List.flatMap_congr fun place _ => ?_)
  rw [callsOf_cons, Registry.registerAll_append]

theorem events_scanFrom_cons (hfound : (sightings system marker file).outcome = .ok (found file)) (rest : List Path)
    (registry : Registry) :
    (scanFrom system marker (file :: rest) registry).events = fileLog registry file (found file) ++
      (scanFrom system marker rest (registry.registerAll ((found file).map Sighting.registration))).events := by
  have hfile : (scanFile system marker file registry).outcome =
      .ok (registry.registerAll ((found file).map Sighting.registration)) := by
    rw [outcome_scanFile, hfound]
    rfl
  rw [scanFrom, Traced.bind_of_ok hfile]
  dsimp only
  rw [events_scanFile_of_ok hfound]

theorem events_scanFrom_of_ok (hfound : ∀ file ∈ files, (sightings system marker file).outcome = .ok (found file))
    (registry : Registry) : (scanFrom system marker files registry).events = logFrom registry found files := by
  induction files generalizing registry with
  | nil => rfl
  | cons file rest ih =>
    rw [events_scanFrom_cons (hfound file List.mem_cons_self), logFrom_cons,
      ih fun other hmem => hfound other (List.mem_cons_of_mem file hmem)]

theorem events_scanFrom_of_error (hfound : ∀ file ∈ front, (sightings system marker file).outcome = .ok (found file))
    (hfails : (sightings system marker file).outcome = .error failure) (back : List Path) (registry : Registry) :
    (scanFrom system marker (front ++ file :: back) registry).events =
      logFrom registry found front ++ .fileFound file :: (sightings system marker file).events := by
  induction front generalizing registry with
  | nil =>
    have hfile : (scanFile system marker file registry).outcome = .error failure := by
      rw [outcome_scanFile, hfails]
      rfl
    rw [List.nil_append, scanFrom, Traced.bind_of_error hfile, ← events_scanFile_of_error hfails registry]
    rfl
  | cons first rest ih =>
    rw [List.cons_append, events_scanFrom_cons (hfound first List.mem_cons_self), logFrom_cons, List.append_assoc,
      ih fun other hmem => hfound other (List.mem_cons_of_mem first hmem)]

/-! ### What the log amounts to -/

theorem filterMap_collision?_warnings (file : Path) (found : List Sighting) (outcomes : List Outcome)
    (hlength : outcomes.length = found.length) :
    (warnings file found outcomes).filterMap Event.collision? = outcomes.filterMap Outcome.collision? := by
  conv_rhs => rw [← List.map_snd_zip (Nat.le_of_eq hlength), List.filterMap_map]
  rw [warnings, List.filterMap_filterMap]
  refine List.filterMap_congr fun answer _ => ?_
  rw [Function.comp_apply]
  cases answer.2.collision? <;> rfl

theorem filterMap_collision?_fileLog (registry : Registry) (file : Path) (found : List Sighting) :
    (fileLog registry file found).filterMap Event.collision? =
      (registry.outcomes (found.map Sighting.registration)).filterMap Outcome.collision? := by
  have hfound : (found.map (Event.definitionFound file)).filterMap Event.collision? = [] := by
    rw [List.filterMap_map]
    exact List.filterMap_eq_nil_iff.2 fun sighting _ => rfl
  rw [fileLog, List.cons_append, List.filterMap_cons_none rfl, List.filterMap_append, hfound, List.nil_append,
    filterMap_collision?_warnings]
  rw [Registry.length_outcomes, List.length_map]

/-- The warnings of a log are about the collisions of the calls, in their order. -/
theorem filterMap_collision?_logFrom (registry : Registry) (found : Path → List Sighting) (files : List Path) :
    (logFrom registry found files).filterMap Event.collision? =
      (registry.outcomes (callsOf found files)).filterMap Outcome.collision? := by
  induction files generalizing registry with
  | nil => rfl
  | cons file rest ih =>
    rw [logFrom_cons, List.filterMap_append, filterMap_collision?_fileLog, ih, callsOf_cons,
      Registry.outcomes_append, List.filterMap_append]

theorem countP_info_fileLog (registry : Registry) (file : Path) (found : List Sighting) :
    (fileLog registry file found).countP (fun event => event.level = .info) = found.length := by
  have hfound : (found.map (Event.definitionFound file)).countP (fun event => event.level = .info) = found.length := by
    rw [List.countP_map]
    exact List.countP_eq_length.2 fun sighting _ => rfl
  have hwarnings : (warnings file found (registry.outcomes (found.map Sighting.registration))).countP
      (fun event => event.level = .info) = 0 := by
    rw [List.countP_eq_zero]
    intro event hmem
    obtain ⟨answer, -, hanswer⟩ := List.mem_filterMap.1 hmem
    obtain ⟨collision, -, rfl⟩ := Option.map_eq_some_iff.1 hanswer
    exact Bool.false_ne_true
  rw [fileLog, List.cons_append, List.countP_cons_of_neg (by exact Bool.false_ne_true), List.countP_append, hfound, hwarnings,
    Nat.add_zero]

theorem countP_info_logFrom (registry : Registry) (found : Path → List Sighting) (files : List Path) :
    (logFrom registry found files).countP (fun event => event.level = .info) = (callsOf found files).length := by
  induction files generalizing registry with
  | nil => rfl
  | cons file rest ih =>
    rw [logFrom_cons, List.countP_append, countP_info_fileLog, ih, callsOf_cons, List.length_append, List.length_map]

end

/-- A scan that succeeds has told, file by file, of the file, of its sightings and of those among them that the registry refused, which had received the files before by then. The warnings show the names and groups of the collisions that the registry has recorded, in their order, and there is one remark for every call. A scan that fails has told this of the files before the one at fault, and of that file the sightings below the malformed line, if it could be read at all. -/
theorem scan_tells_truth (system : FileSystem) (marker : Marker) (files : List Path) :
    (∀ registry, (scanFiles system marker files).outcome = .ok registry → ∃ found : Path → List Sighting,
      (∀ file ∈ files, (∃ bytes, system.read file = .ok bytes ∧ marker.extract bytes = .ok (found file)) ∧
        ((found file).map Sighting.line).Pairwise (· > ·)) ∧
      registry = .ofCalls (callsOf found files) ∧
      (scanFiles system marker files).events = logFrom .empty found files ∧
      ((scanFiles system marker files).events.filter fun event => event.level = .warn).map
          (fun event => (event.field? "name", event.field? "existing", event.field? "attempted")) =
        registry.collisions.toList.map (fun collision => (some (.text collision.name),
          some (.number collision.existing.value.toInt), some (.number collision.attempted.value.toInt))) ∧
      (scanFiles system marker files).events.countP (fun event => event.level = .info) = (callsOf found files).length) ∧
    (∀ failure, (scanFiles system marker files).outcome = .error failure →
      ∃ (found : Path → List Sighting) (front : List Path) (file : Path) (back : List Path) (heard : List Sighting),
        files = front ++ file :: back ∧
        (∀ earlier ∈ front, ∃ bytes, system.read earlier = .ok bytes ∧ marker.extract bytes = .ok (found earlier)) ∧
        Interrupts system marker file failure heard ∧
        (scanFiles system marker files).events =
          logFrom .empty found front ++ .fileFound file :: heard.map (.definitionFound file)) ∧
    ∀ (file : Path) (sighting : Sighting) (line : Nat) (collision : Collision),
      ((Event.fileFound file).level = .debug ∧
        (Event.fileFound file).fields = [("message", .text "found source file"), ("file", .text file.text)]) ∧
      ((Event.definitionFound file sighting).level = .info ∧
        (Event.definitionFound file sighting).fields = [
          ("message", .text "found driver definition"), ("file", .text file.text), ("line", .number sighting.line),
          ("group", .number sighting.registration.group.value.toInt), ("name", .text sighting.registration.name),
          ("ext", .text sighting.registration.tag)]) ∧
      ((Event.groupCollision file line collision).level = .warn ∧
        (Event.groupCollision file line collision).fields = [
          ("message", .text "group collision"), ("file", .text file.text), ("line", .number line),
          ("name", .text collision.name), ("existing", .number collision.existing.value.toInt),
          ("attempted", .number collision.attempted.value.toInt)]) := by
  refine ⟨?_, ?_, ?_⟩
  · intro registry hscan
    obtain ⟨found, hfound, rfl⟩ := outcome_scanFiles_eq_ok_iff.1 hscan
    have hevents : (scanFiles system marker files).events = logFrom .empty found files :=
      events_scanFrom_of_ok hfound .empty
    refine ⟨found, fun file hmem => ?_, rfl, hevents, ?_, ?_⟩
    · obtain ⟨bytes, hread, hextract⟩ := sightings_eq_ok_iff.1 (hfound file hmem)
      exact ⟨⟨bytes, hread, hextract⟩, Marker.line_pairwise_of_extract hextract⟩
    · rw [hevents, Event.map_field?_warnings, filterMap_collision?_logFrom, Registry.collisions_ofCalls_eq_outcomes]
    · rw [hevents, countP_info_logFrom]
  · intro failure hscan
    obtain ⟨front, file, back, rfl, hfront, hfails⟩ := outcome_scanFrom_eq_error_iff.1 hscan
    have hread : ∀ earlier, ∃ found, earlier ∈ front → (sightings system marker earlier).outcome = .ok found := by
      intro earlier
      by_cases hmem : earlier ∈ front
      · obtain ⟨found, hfound⟩ := exists_sightings_eq_ok_iff.2 (hfront earlier hmem)
        exact ⟨found, fun _ => hfound⟩
      · exact ⟨[], fun hearlier => absurd hearlier hmem⟩
    choose found hfound using hread
    have hoffender := sightings_eq_error_iff.2 hfails
    obtain ⟨heard, hinterrupts, hheard⟩ := events_sightings_of_error hoffender
    refine ⟨found, front, file, back, heard, rfl, fun earlier hmem => sightings_eq_ok_iff.1 (hfound earlier hmem),
      hinterrupts, ?_⟩
    rw [← hheard]
    exact events_scanFrom_of_error hfound hoffender back .empty
  · intro file sighting line collision
    exact ⟨⟨rfl, rfl⟩, ⟨rfl, rfl⟩, ⟨rfl, rfl⟩⟩

/-- A file whose second call is refused, and behind it a file that is read up to its second line from below. -/
theorem scan_tells_of_refused_call :
    let marker : Marker := ⟨['M'], by decide⟩
    let system : FileSystem := ⟨.dir [
      ("a.c", .file "M(1,a,)\nM(2,a,)".toUTF8.toList), ("b.c", .file "M(2,b,)\nM(x)\nM(2,c,)".toUTF8.toList)], []⟩
    let files : List Path := [⟨"a.c"⟩, ⟨"b.c"⟩, ⟨"c.c"⟩]
    let told : List Event := [.fileFound ⟨"a.c"⟩, .definitionFound ⟨"a.c"⟩ ⟨⟨⟨2⟩, "a", ""⟩, 2⟩,
      .definitionFound ⟨"a.c"⟩ ⟨⟨⟨1⟩, "a", ""⟩, 1⟩, .groupCollision ⟨"a.c"⟩ 1 ⟨"a", ⟨2⟩, ⟨1⟩, ""⟩]
    let failure : Failure := .malformed ⟨"b.c"⟩ ⟨2, "M(x)".toList, .fieldCount 1⟩
    ((∃ registry, (scanFiles system marker [⟨"a.c"⟩]).outcome = .ok registry ∧
        registry.collisions.toList.map (fun collision => (some (FieldValue.text collision.name),
          some (FieldValue.number collision.existing.value.toInt),
          some (FieldValue.number collision.attempted.value.toInt))) =
            [(some (.text "a"), some (.number 2), some (.number 1))]) ∧
      (scanFiles system marker [⟨"a.c"⟩]).events = told) ∧
    (scanFiles system marker files).outcome.map (fun _ => ()) = .error failure ∧
    (∃ heard, Interrupts system marker ⟨"b.c"⟩ failure heard) ∧
    (scanFiles system marker files).events =
      told ++ [.fileFound ⟨"b.c"⟩, .definitionFound ⟨"b.c"⟩ ⟨⟨⟨2⟩, "c", ""⟩, 3⟩] := by
  intro marker system files told failure
  have htold : (scanFiles system marker [⟨"a.c"⟩]).events = told := by decide +kernel
  have hfails : (scanFiles system marker files).outcome.map (fun _ => ()) = .error failure := by decide +kernel
  refine ⟨⟨?_, htold⟩, hfails, ?_, by decide +kernel⟩
  · cases hscan : (scanFiles system marker [⟨"a.c"⟩]).outcome with
    | error failure =>
      have hends : (scanFiles system marker [⟨"a.c"⟩]).outcome.map (fun _ => ()) = .ok () := by decide +kernel
      rw [hscan] at hends
      cases hends
    | ok registry =>
      obtain ⟨found, -, -, -, hwarnings, -⟩ := (scan_tells_truth system marker [⟨"a.c"⟩]).1 registry hscan
      refine ⟨registry, rfl, ?_⟩
      rw [← hwarnings, htold]
      decide +kernel
  · cases hscan : (scanFiles system marker files).outcome with
    | ok registry =>
      rw [hscan] at hfails
      cases hfails
    | error first =>
      rw [hscan] at hfails
      obtain rfl : first = failure := Except.error.inj hfails
      obtain ⟨found, front, file, back, heard, -, -, hinterrupts, -⟩ := (scan_tells_truth system marker files).2.1 _ hscan
      change Interrupts system marker file (.malformed ⟨"b.c"⟩ ⟨2, "M(x)".toList, .fieldCount 1⟩) heard at hinterrupts
      cases hinterrupts with
      | malformed hread hlast hbelow => exact ⟨heard, .malformed hread hlast hbelow⟩

end Scan

end DriverIndex
