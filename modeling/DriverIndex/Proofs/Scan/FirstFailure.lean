import DriverIndex.Proofs.Marker.Locality
import DriverIndex.Proofs.Scan.Calls
import DriverIndex.Proofs.Text.Blank

/-!
# Which failure ends a scan

Files are read in their order and the lines of a file from the last one upward, and the first fault ends it all. So the failure of a scan is that of the first file that is at fault, and of the malformed lines of that file it names the one with the largest number. What was registered up to there has no part in it: the outcome of a scan is the reading of its files, from whatever registry it starts, and only a scan without a fault goes on to a registry.

The files may be any paths, so one of them may be missing, be a directory or be out of reach; that is what an unreadable file is here.
-/

namespace DriverIndex

section Runs

variable {ε α β : Type} {f : α → Except ε β} {l : List α}

theorem exists_mapM_eq_ok_iff : (∃ values, l.mapM f = .ok values) ↔ ∀ x ∈ l, ∃ value, f x = .ok value := by
  induction l with
  | nil => simp [pure, Except.pure]
  | cons first rest ih =>
    rw [List.mapM_cons, List.forall_mem_cons, ← ih]
    cases f first with
    | error failure => simp [bind, Except.bind]
    | ok value => cases rest.mapM f <;> simp [bind, Except.bind, pure, Except.pure]

/-- A run through a list that can fail does so at the first element that fails. -/
theorem mapM_eq_error_iff {failure : ε} : l.mapM f = .error failure ↔
    ∃ front x back, l = front ++ x :: back ∧ (∀ y ∈ front, ∃ value, f y = .ok value) ∧ f x = .error failure := by
  constructor
  · induction l with
    | nil => simp [pure, Except.pure]
    | cons first rest ih =>
      rw [List.mapM_cons]
      intro hrun
      cases hfirst : f first with
      | error other =>
        rw [hfirst] at hrun
        have hsame : other = failure := Except.error.inj hrun
        exact ⟨[], first, rest, rfl, by simp, hsame ▸ hfirst⟩
      | ok value =>
        have hrest : rest.mapM f = .error failure := by
          rw [hfirst] at hrun
          cases hvalues : rest.mapM f <;> simp_all [bind, Except.bind, pure, Except.pure]
        obtain ⟨front, x, back, rfl, hfront, hx⟩ := ih hrest
        exact ⟨first :: front, x, back, rfl, List.forall_mem_cons.2 ⟨⟨value, hfirst⟩, hfront⟩, hx⟩
  · rintro ⟨front, x, back, rfl, hfront, hx⟩
    obtain ⟨values, hvalues⟩ := exists_mapM_eq_ok_iff.2 hfront
    rw [List.mapM_append, hvalues, List.mapM_cons, hx]
    rfl

end Runs

namespace Marker

variable {marker : Marker} {bytes : List UInt8} {line other : MalformedLine}

/-- A file has a line with the marker that cannot be read. Lines are numbered from one. -/
structure Malforms (marker : Marker) (bytes : List UInt8) (line : MalformedLine) : Prop where
  number_pos : 1 ≤ line.number
  text_eq : (Text.lines (Text.Utf8.decodeLossy bytes))[line.number - 1]? = some line.text
  occurs : marker.occursIn line.text = true
  unreadable : marker.readLine line.text = .error line.flaw

/-- Of the malformed lines of a file it is the one with the largest number. -/
structure LastMalformed (marker : Marker) (bytes : List UInt8) (line : MalformedLine) : Prop where
  malforms : marker.Malforms bytes line
  last : ∀ other, marker.Malforms bytes other → other.number ≤ line.number

theorem mem_candidates {text : List Char} {row : List Char × Nat} :
    row ∈ marker.candidates text ↔
      (1 ≤ row.2 ∧ (Text.lines text)[row.2 - 1]? = some row.1) ∧ marker.occursIn row.1 = true := by
  obtain ⟨line, number⟩ := row
  rw [candidates, List.mem_reverse, List.mem_filter, List.mk_mem_zipIdx_iff_le_and_getElem?_sub]

theorem readRow_eq_error_iff {row : List Char × Nat} :
    marker.readRow row = .error line ↔
      row = (line.text, line.number) ∧ marker.readLine line.text = .error line.flaw := by
  obtain ⟨text, number⟩ := row
  obtain ⟨lineNumber, lineText, flaw⟩ := line
  rw [readRow]
  constructor
  · intro heq
    cases hline : marker.readLine text with
    | ok registration =>
      rw [hline] at heq
      cases heq
    | error found =>
      rw [hline] at heq
      obtain ⟨rfl, rfl, rfl⟩ := MalformedLine.mk.inj (Except.error.inj heq)
      exact ⟨rfl, hline⟩
  · rintro ⟨hrow, hline⟩
    obtain ⟨rfl, rfl⟩ := Prod.mk.inj hrow
    rw [hline]

theorem malforms_iff : marker.Malforms bytes line ↔
    ∃ row ∈ marker.candidates (Text.Utf8.decodeLossy bytes), marker.readRow row = .error line := by
  constructor
  · rintro ⟨hnumber, htext, hoccurs, hline⟩
    exact ⟨(line.text, line.number), mem_candidates.2 ⟨⟨hnumber, htext⟩, hoccurs⟩,
      readRow_eq_error_iff.2 ⟨rfl, hline⟩⟩
  · rintro ⟨row, hmem, hrow⟩
    obtain ⟨rfl, hline⟩ := readRow_eq_error_iff.1 hrow
    obtain ⟨⟨hnumber, htext⟩, hoccurs⟩ := mem_candidates.1 hmem
    exact ⟨hnumber, htext, hoccurs, hline⟩

/-- A number names one line, and a line has one flaw. -/
theorem Malforms.eq_of_number (hline : marker.Malforms bytes line) (hother : marker.Malforms bytes other)
    (hnumber : line.number = other.number) : line = other := by
  obtain ⟨number, text, flaw⟩ := line
  obtain ⟨otherNumber, otherText, otherFlaw⟩ := other
  obtain rfl : number = otherNumber := hnumber
  obtain rfl : text = otherText := Option.some.inj (hline.text_eq.symm.trans hother.text_eq)
  obtain rfl : flaw = otherFlaw := Except.error.inj (hline.unreadable.symm.trans hother.unreadable)
  rfl

theorem lastMalformed_of_extract (hextract : marker.extract bytes = .error line) :
    marker.LastMalformed bytes line := by
  rw [extract_eq_mapM] at hextract
  obtain ⟨front, row, back, hsplit, hfront, hrow⟩ := mapM_eq_error_iff.1 hextract
  have hmem : row ∈ marker.candidates (Text.Utf8.decodeLossy bytes) := by
    rw [hsplit]
    exact List.mem_append_right _ List.mem_cons_self
  refine ⟨malforms_iff.2 ⟨row, hmem, hrow⟩, ?_⟩
  intro other hother
  obtain ⟨otherRow, hotherMem, hotherRow⟩ := malforms_iff.1 hother
  have hline : row.2 = line.number := congrArg Prod.snd (readRow_eq_error_iff.1 hrow).1
  have hotherLine : otherRow.2 = other.number := congrArg Prod.snd (readRow_eq_error_iff.1 hotherRow).1
  have hdecreasing : ((marker.candidates (Text.Utf8.decodeLossy bytes)).map Prod.snd).Pairwise (· > ·) :=
    candidates_pairwise _
  rw [hsplit, List.map_append, List.map_cons, List.pairwise_append, List.pairwise_cons] at hdecreasing
  rw [hsplit] at hotherMem
  rcases List.mem_append.1 hotherMem with hin | hin
  · obtain ⟨sighting, hread⟩ := hfront otherRow hin
    rw [hread] at hotherRow
    cases hotherRow
  · rcases List.mem_cons.1 hin with rfl | hback
    · omega
    · have hless := hdecreasing.2.1.1 otherRow.2 (List.mem_map_of_mem hback)
      omega

theorem extract_eq_error_iff : marker.extract bytes = .error line ↔ marker.LastMalformed bytes line := by
  constructor
  · exact lastMalformed_of_extract
  · intro hlast
    cases hextract : marker.extract bytes with
    | error found =>
      have hfound := lastMalformed_of_extract hextract
      have hnumber : found.number = line.number :=
        Nat.le_antisymm (hlast.last found hfound.malforms) (hfound.last line hlast.malforms)
      rw [hfound.malforms.eq_of_number hlast.malforms hnumber]
    | ok found =>
      obtain ⟨row, hmem, hrow⟩ := malforms_iff.1 hlast.malforms
      rw [extract_eq_mapM] at hextract
      obtain ⟨sighting, hread⟩ := exists_mapM_eq_ok_iff.1 ⟨found, hextract⟩ row hmem
      rw [hrow] at hread
      cases hread

/-- A file is read to its end exactly if it has no malformed line. -/
theorem exists_extract_eq_ok_iff : (∃ found, marker.extract bytes = .ok found) ↔ ∀ line, ¬marker.Malforms bytes line := by
  rw [extract_eq_mapM, exists_mapM_eq_ok_iff]
  constructor
  · intro hread line hline
    obtain ⟨row, hmem, hrow⟩ := malforms_iff.1 hline
    obtain ⟨sighting, hsighting⟩ := hread row hmem
    rw [hrow] at hsighting
    cases hsighting
  · intro hnone row hmem
    cases hrow : marker.readRow row with
    | ok sighting => exact ⟨sighting, rfl⟩
    | error line => exact absurd (malforms_iff.2 ⟨row, hmem, hrow⟩) (hnone line)

end Marker

namespace Scan

open Log (Traced)

variable {system : FileSystem} {marker : Marker} {file : Path} {failure : Failure}

/-- What ends a scan at a file: the file cannot be read, or else it has malformed lines, the last of which is named. -/
inductive Fails (system : FileSystem) (marker : Marker) (file : Path) : Failure → Prop where
  | unreadable {fault : Fault} (hread : system.read file = .error fault) : Fails system marker file (.io file fault)
  | malformed {bytes : List UInt8} {line : MalformedLine} (hread : system.read file = .ok bytes)
      (hlast : marker.LastMalformed bytes line) : Fails system marker file (.malformed file line)

/-- The file can be read, and so can every line of it that holds the marker. -/
def Sound (system : FileSystem) (marker : Marker) (file : Path) : Prop :=
  ∃ bytes, system.read file = .ok bytes ∧ ∀ line, ¬marker.Malforms bytes line

theorem sightings_eq_error_iff :
    (sightings system marker file).outcome = .error failure ↔ Fails system marker file failure := by
  cases hread : system.read file with
  | error fault =>
    have hsightings : (sightings system marker file).outcome = .error (.io file fault) := by
      rw [sightings, hread]
      rfl
    rw [hsightings]
    constructor
    · intro heq
      obtain rfl := Except.error.inj heq
      exact .unreadable hread
    · intro hfails
      cases hfails with
      | unreadable hother =>
        obtain rfl := Except.error.inj (hread.symm.trans hother)
        rfl
      | malformed hother _ =>
        rw [hread] at hother
        cases hother
  | ok bytes =>
    rw [Marker.outcome_sightings hread]
    constructor
    · intro heq
      cases hextract : marker.extract bytes with
      | ok found =>
        rw [hextract] at heq
        cases heq
      | error line =>
        rw [hextract] at heq
        obtain rfl := Except.error.inj heq
        exact .malformed hread (Marker.extract_eq_error_iff.1 hextract)
    · intro hfails
      cases hfails with
      | unreadable hother =>
        rw [hread] at hother
        cases hother
      | malformed hother hlast =>
        obtain rfl := Except.ok.inj (hread.symm.trans hother)
        rw [Marker.extract_eq_error_iff.2 hlast]
        rfl

theorem sightings_eq_ok_iff {found : List Sighting} :
    (sightings system marker file).outcome = .ok found ↔
      ∃ bytes, system.read file = .ok bytes ∧ marker.extract bytes = .ok found := by
  cases hread : system.read file with
  | error fault =>
    rw [sightings_eq_error_iff.2 (.unreadable hread)]
    simp
  | ok bytes =>
    rw [Marker.outcome_sightings hread]
    cases hextract : marker.extract bytes <;> simp [Except.mapError, hextract]

theorem exists_sightings_eq_ok_iff :
    (∃ found, (sightings system marker file).outcome = .ok found) ↔ Sound system marker file := by
  simp only [sightings_eq_ok_iff, Sound, ← Marker.exists_extract_eq_ok_iff]
  constructor
  · rintro ⟨found, bytes, hread, hfound⟩
    exact ⟨bytes, hread, found, hfound⟩
  · rintro ⟨bytes, hread, found, hfound⟩
    exact ⟨found, bytes, hread, hfound⟩

theorem exists_fails_iff :
    (∃ failure, Fails system marker file failure) ↔
      (∃ fault, system.read file = .error fault) ∨
        ∃ bytes line, system.read file = .ok bytes ∧ marker.Malforms bytes line := by
  constructor
  · rintro ⟨failure, hfails⟩
    cases hfails with
    | unreadable hread => exact .inl ⟨_, hread⟩
    | malformed hread hlast => exact .inr ⟨_, _, hread, hlast.malforms⟩
  · rintro (⟨fault, hread⟩ | ⟨bytes, line, hread, hline⟩)
    · exact ⟨_, .unreadable hread⟩
    · cases hextract : marker.extract bytes with
      | error last => exact ⟨_, .malformed hread (Marker.extract_eq_error_iff.1 hextract)⟩
      | ok found => exact absurd hline (Marker.exists_extract_eq_ok_iff.1 ⟨found, hextract⟩ line)

theorem outcome_scanFrom_eq_mapM (files : List Path) (registry : Registry) :
    (scanFrom system marker files registry).outcome =
      (files.mapM fun file => (sightings system marker file).outcome).map fun found =>
        registry.registerAll (found.flatten.map Sighting.registration) := by
  induction files generalizing registry with
  | nil => rfl
  | cons file rest ih =>
    rw [scanFrom, List.mapM_cons]
    cases hfile : (sightings system marker file).outcome with
    | error failure =>
      have hscan : (scanFile system marker file registry).outcome = .error failure := by
        rw [outcome_scanFile, hfile]
        rfl
      rw [Traced.bind_of_error hscan]
      rfl
    | ok found =>
      have hscan : (scanFile system marker file registry).outcome =
          .ok (registry.registerAll (found.map Sighting.registration)) := by
        rw [outcome_scanFile, hfile]
        rfl
      rw [Traced.bind_of_ok hscan, ih]
      cases rest.mapM fun file => (sightings system marker file).outcome with
      | error failure => rfl
      | ok others =>
        refine congrArg Except.ok ?_
        dsimp only
        rw [List.flatten_cons, List.map_append, Registry.registerAll_append]

/-- Whatever was registered before, a scan fails as its first file at fault does. -/
theorem outcome_scanFrom_eq_error_iff {files : List Path} {registry : Registry} :
    (scanFrom system marker files registry).outcome = .error failure ↔
      ∃ front file back, files = front ++ file :: back ∧ (∀ earlier ∈ front, Sound system marker earlier) ∧
        Fails system marker file failure := by
  have hmap : (scanFrom system marker files registry).outcome = .error failure ↔
      (files.mapM fun file => (sightings system marker file).outcome) = .error failure := by
    rw [outcome_scanFrom_eq_mapM]
    cases files.mapM fun file => (sightings system marker file).outcome <;> simp [Except.map]
  rw [hmap, mapM_eq_error_iff]
  simp only [exists_sightings_eq_ok_iff, sightings_eq_error_iff]

theorem exists_outcome_scanFiles_eq_error_iff {files : List Path} :
    (∃ failure, (scanFiles system marker files).outcome = .error failure) ↔
      ∃ file ∈ files, ∃ failure, Fails system marker file failure := by
  constructor
  · rintro ⟨failure, hscan⟩
    obtain ⟨front, file, back, rfl, -, hfails⟩ := outcome_scanFrom_eq_error_iff.1 hscan
    exact ⟨file, List.mem_append_right _ List.mem_cons_self, failure, hfails⟩
  · rintro ⟨file, hmem, failure, hfails⟩
    cases hscan : (scanFiles system marker files).outcome with
    | error first => exact ⟨first, rfl⟩
    | ok registry =>
      obtain ⟨found, hfound⟩ := sightings_eq_ok_of_scanFrom hscan hmem
      rw [sightings_eq_error_iff.2 hfails] at hfound
      cases hfound

/-- A scan fails exactly if one of its files cannot be read or has a malformed line, and then with the first such file in the order of the scan: as it cannot be read, or with the largest of the numbers of its malformed lines and that line without the blanks around it. Collisions have no part in it: from any registry a scan fails in the same way. A scan that does not fail has registered what its files hold, file by file, in the empty registry. -/
theorem scan_names_first_failure (system : FileSystem) (marker : Marker) (files : List Path) :
    ((∃ failure, (scanFiles system marker files).outcome = .error failure) ↔
      ∃ file ∈ files, (∃ fault, system.read file = .error fault) ∨
        ∃ bytes line, system.read file = .ok bytes ∧ marker.Malforms bytes line) ∧
    (∀ failure registry, (scanFrom system marker files registry).outcome = .error failure ↔
      ∃ front file back, files = front ++ file :: back ∧ (∀ earlier ∈ front, Sound system marker earlier) ∧
        Fails system marker file failure) ∧
    (∀ failure registry, (scanFrom system marker files registry).outcome = .error failure ↔
      (scanFiles system marker files).outcome = .error failure) ∧
    (∀ registry, (scanFiles system marker files).outcome = .ok registry ↔
      ∃ found : Path → List Sighting,
        (∀ file ∈ files, ∃ bytes, system.read file = .ok bytes ∧ marker.extract bytes = .ok (found file)) ∧
        registry = .ofCalls (callsOf found files)) ∧
    (∀ file (line : MalformedLine),
      (Failure.malformed file line).message = "Malformed marker in " ++ file.text ++ ":" ++
        Text.Decimal.natText line.number ++ ": " ++ line.flaw.message ++ " (line: `" ++ line.excerpt ++ "`)" ∧
      Text.Trims line.text line.excerpt.toList) := by
  refine ⟨?_, ?_, ?_, ?_, ?_⟩
  · simp only [← exists_fails_iff]
    exact exists_outcome_scanFiles_eq_error_iff
  · intro failure registry
    exact outcome_scanFrom_eq_error_iff
  · intro failure registry
    exact outcome_scanFrom_eq_error_iff.trans outcome_scanFrom_eq_error_iff.symm
  · intro registry
    simp only [outcome_scanFiles_eq_ok_iff, sightings_eq_ok_iff]
  · intro file line
    rw [MalformedLine.excerpt, String.toList_ofList]
    exact ⟨rfl, Text.trims_trim line.text⟩

/-- Of two malformed lines and a missing file behind them, the lower line is named, and a collision above does not matter. -/
theorem scan_of_two_malformed_lines :
    let marker : Marker := ⟨['M'], by decide⟩
    let system : FileSystem := ⟨.dir [
      ("a.c", .file "M(1,a,)\nM(2,a,)".toUTF8.toList), ("b.c", .file "M(x)\nM(3,b,)\n M(1, b) \n".toUTF8.toList)], []⟩
    let files : List Path := [⟨"a.c"⟩, ⟨"b.c"⟩, ⟨"c.c"⟩]
    let line : MalformedLine := ⟨3, " M(1, b) ".toList, .fieldCount 2⟩
    (scanFiles system marker files).outcome = .error (.malformed ⟨"b.c"⟩ line) ∧
    (Failure.malformed ⟨"b.c"⟩ line).message =
      "Malformed marker in b.c:3: expected 3 comma-separated fields, found 2 (line: `M(1, b)`)" ∧
    (∃ front file back, files = front ++ file :: back ∧ (∀ earlier ∈ front, Sound system marker earlier) ∧
      Fails system marker file (.malformed ⟨"b.c"⟩ line)) := by
  intro marker system files line
  obtain ⟨-, hfirst, -, -, hmessage⟩ := scan_names_first_failure system marker files
  have hscan : (scanFiles system marker files).outcome = .error (.malformed ⟨"b.c"⟩ line) := by
    have hfailure : ((scanFiles system marker files).outcome.map fun _ => ()) = .error (.malformed ⟨"b.c"⟩ line) := by
      decide +kernel
    cases houtcome : (scanFiles system marker files).outcome with
    | ok registry =>
      rw [houtcome] at hfailure
      cases hfailure
    | error failure =>
      rw [houtcome] at hfailure
      exact congrArg Except.error (Except.error.inj hfailure)
  refine ⟨hscan, ?_, (hfirst _ .empty).1 hscan⟩
  rw [(hmessage ⟨"b.c"⟩ line).1]
  decide +kernel

end Scan

end DriverIndex
