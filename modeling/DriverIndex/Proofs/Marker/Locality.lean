import DriverIndex.Proofs.Text.Line
import DriverIndex.Proofs.Text.Utf8
import DriverIndex.Scan

/-!
# Reading a file line by line

What a line says does not depend on the lines around it, and a line is made of the bytes between two line feeds, well-formed or not. So a file can be cut at any line feed: the lower part is read first, with its numbers moved down by the height of the upper part, and then the upper part as it is. The numbers of what is found decrease, and a change inside one line shows nowhere else, unless that line cannot be read.
-/

namespace DriverIndex

/-- The same sighting under some more lines. -/
def Sighting.below (height : Nat) (sighting : Sighting) : Sighting := { sighting with line := sighting.line + height }

def MalformedLine.below (height : Nat) (malformed : MalformedLine) : MalformedLine :=
  { malformed with number := malformed.number + height }

namespace Marker

/-- What comes of reading lines: all sightings, or the line that ended it. -/
def settle : List Sighting × Option MalformedLine → Except MalformedLine (List Sighting)
  | (found, none) => .ok found
  | (_, some malformed) => .error malformed

/-- What is read from the bytes of a file. -/
def extract (marker : Marker) (bytes : List UInt8) : Except MalformedLine (List Sighting) :=
  settle (marker.read (Text.Utf8.decodeLossy bytes))

/-- What comes of two parts of a file, the upper one with `height` lines: the lower one is read first. -/
def stacked (height : Nat) (upper lower : Except MalformedLine (List Sighting)) :
    Except MalformedLine (List Sighting) :=
  match lower, upper with
  | .error malformed, _ => .error (malformed.below height)
  | .ok _, .error malformed => .error malformed
  | .ok found, .ok above => .ok (found.map (·.below height) ++ above)

/-- Two readings differ in one line only, unless that line ends one of them. -/
def SameElsewhere (number : Nat) (former latter : Except MalformedLine (List Sighting)) : Prop :=
  (∃ malformed, former = .error malformed ∧ malformed.number = number) ∨
    (∃ malformed, latter = .error malformed ∧ malformed.number = number) ∨
      former.map (List.filter fun sighting => sighting.line ≠ number) =
        latter.map (List.filter fun sighting => sighting.line ≠ number)

/-- What a numbered line says. -/
def readRow (marker : Marker) (row : List Char × Nat) : Except MalformedLine Sighting :=
  match marker.readLine row.1 with
  | .ok registration => .ok ⟨registration, row.2⟩
  | .error flaw => .error ⟨row.2, row.1, flaw⟩

variable {marker : Marker}

/-! ### Rows -/

theorem settle_readLines (rows : List (List Char × Nat)) :
    settle (marker.readLines rows) = rows.mapM marker.readRow := by
  induction rows with
  | nil => rfl
  | cons row rest ih =>
    obtain ⟨line, number⟩ := row
    rw [readLines, List.mapM_cons, ← ih, readRow]
    cases marker.readLine line with
    | error flaw => rfl
    | ok registration =>
      obtain ⟨found, malformed⟩ := marker.readLines rest
      cases malformed <;> rfl

def lowered (height : Nat) (row : List Char × Nat) : List Char × Nat := (row.1, row.2 + height)

theorem readRow_lowered (height : Nat) (row : List Char × Nat) :
    marker.readRow (lowered height row) =
      ((marker.readRow row).map (·.below height)).mapError (·.below height) := by
  rw [readRow, readRow, lowered]
  cases marker.readLine row.1 <;> rfl

theorem mapM_readRow_lowered (height : Nat) (rows : List (List Char × Nat)) :
    (rows.map (lowered height)).mapM marker.readRow =
      ((rows.mapM marker.readRow).map (List.map (·.below height))).mapError (·.below height) := by
  induction rows with
  | nil => rfl
  | cons row rest ih =>
    rw [List.map_cons, List.mapM_cons, List.mapM_cons, ih, readRow_lowered]
    cases marker.readRow row with
    | error malformed => rfl
    | ok sighting => cases rest.mapM marker.readRow <;> rfl

theorem mapM_readRow_append_lowered (height : Nat) (lower upper : List (List Char × Nat)) :
    (lower.map (lowered height) ++ upper).mapM marker.readRow =
      stacked height (upper.mapM marker.readRow) (lower.mapM marker.readRow) := by
  rw [List.mapM_append, mapM_readRow_lowered]
  cases lower.mapM marker.readRow with
  | error malformed => rfl
  | ok found => cases upper.mapM marker.readRow <;> rfl

/-- Reading gives one sighting for every row, or ends with one of the rows. -/
theorem numbers_of_mapM_readRow (marker : Marker) (rows : List (List Char × Nat)) :
    match rows.mapM marker.readRow with
    | .ok found => found.map Sighting.line = rows.map Prod.snd
    | .error malformed => malformed.number ∈ rows.map Prod.snd := by
  induction rows with
  | nil => rfl
  | cons row rest ih =>
    rw [List.mapM_cons, readRow, List.map_cons]
    cases marker.readLine row.1 with
    | error flaw => exact List.mem_cons_self
    | ok registration =>
      cases hrest : rest.mapM marker.readRow with
      | error malformed =>
        rw [hrest] at ih
        exact List.mem_cons_of_mem _ ih
      | ok others =>
        rw [hrest] at ih
        exact congrArg (row.2 :: ·) ih

theorem line_of_mapM_readRow {rows : List (List Char × Nat)} {found : List Sighting}
    (hread : rows.mapM marker.readRow = .ok found) : found.map Sighting.line = rows.map Prod.snd := by
  have hnumbers := numbers_of_mapM_readRow marker rows
  rwa [hread] at hnumbers

theorem number_of_mapM_readRow {rows : List (List Char × Nat)} {malformed : MalformedLine}
    (hread : rows.mapM marker.readRow = .error malformed) : malformed.number ∈ rows.map Prod.snd := by
  have hnumbers := numbers_of_mapM_readRow marker rows
  rwa [hread] at hnumbers

/-! ### Candidates -/

theorem candidates_append {text upper lower : List Char} (hlines : Text.lines text = Text.lines upper ++ Text.lines lower) :
    marker.candidates text =
      (marker.candidates lower).map (lowered (Text.lines upper).length) ++ marker.candidates upper := by
  have hlower : (Text.lines lower).zipIdx (1 + (Text.lines upper).length) =
      ((Text.lines lower).zipIdx 1).map (lowered (Text.lines upper).length) := by
    rw [Nat.add_comm, ← List.map_snd_add_zipIdx_eq_zipIdx]
    rfl
  rw [candidates, hlines, List.zipIdx_append, hlower, List.filter_append, List.filter_map, List.reverse_append,
    ← List.map_reverse]
  rfl

theorem number_candidates_sublist (marker : Marker) (text : List Char) :
    ((marker.candidates text).map Prod.snd).reverse.Sublist (List.range' 1 (Text.lines text).length) := by
  rw [candidates, List.map_reverse, List.reverse_reverse, ← List.zipIdx_map_snd 1 (Text.lines text)]
  exact List.filter_sublist.map Prod.snd

theorem candidates_pairwise (text : List Char) : ((marker.candidates text).map Prod.snd).Pairwise (· > ·) := by
  have hincreasing : (List.range' 1 (Text.lines text).length).Pairwise (· < ·) := List.pairwise_lt_range'
  exact List.pairwise_reverse.1 (hincreasing.sublist (number_candidates_sublist marker text))

theorem number_of_mem_candidates {text : List Char} {number : Nat}
    (hmem : number ∈ (marker.candidates text).map Prod.snd) : 1 ≤ number ∧ number ≤ (Text.lines text).length := by
  have hrange := (number_candidates_sublist marker text).subset (List.mem_reverse.2 hmem)
  obtain ⟨offset, hoffset, rfl⟩ := List.mem_range'.1 hrange
  omega

/-! ### Bytes -/

/-- Bytes that hold whole lines only: none, or the last of them ends a line. -/
def WholeLines (bytes : List UInt8) : Prop := bytes = [] ∨ bytes.getLast? = some 0x0A

theorem wholeLines_concat (line : List UInt8) : WholeLines (line ++ [0x0A]) := .inr List.getLast?_concat

theorem WholeLines.lines_append {upper : List UInt8} (hupper : WholeLines upper) (lower : List UInt8) :
    Text.lines (Text.Utf8.decodeLossy (upper ++ lower)) =
      Text.lines (Text.Utf8.decodeLossy upper) ++ Text.lines (Text.Utf8.decodeLossy lower) := by
  rcases hupper with rfl | hlast
  · rfl
  · obtain ⟨front, rfl⟩ := List.getLast?_eq_some_iff.1 hlast
    rw [List.append_assoc, List.singleton_append, Text.Utf8.decodeLossy_append_newline,
      Text.Utf8.decodeLossy_append_newline, Text.lines_append_newline]
    rfl

theorem WholeLines.length_lines {bytes : List UInt8} (hbytes : WholeLines bytes) :
    (Text.lines (Text.Utf8.decodeLossy bytes)).length = bytes.count 0x0A := by
  rcases hbytes with rfl | hlast
  · rfl
  · obtain ⟨front, rfl⟩ := List.getLast?_eq_some_iff.1 hlast
    rw [← Text.Utf8.count_newline_decodeLossy, Text.Utf8.decodeLossy_append_newline, List.count_append]
    exact Text.length_lines_newline _

theorem extract_eq_mapM (bytes : List UInt8) :
    marker.extract bytes = (marker.candidates (Text.Utf8.decodeLossy bytes)).mapM marker.readRow :=
  settle_readLines _

theorem extract_append {upper : List UInt8} (hupper : WholeLines upper) (lower : List UInt8) :
    marker.extract (upper ++ lower) = stacked (upper.count 0x0A) (marker.extract upper) (marker.extract lower) := by
  rw [extract_eq_mapM, extract_eq_mapM, extract_eq_mapM, candidates_append (hupper.lines_append lower),
    hupper.length_lines, mapM_readRow_append_lowered]

/-- A file gives its sightings from the last line upward. -/
theorem line_pairwise_of_extract {bytes : List UInt8} {found : List Sighting}
    (hextract : marker.extract bytes = .ok found) : (found.map Sighting.line).Pairwise (· > ·) := by
  rw [extract_eq_mapM] at hextract
  rw [line_of_mapM_readRow hextract]
  exact candidates_pairwise _

/-! ### One line of a file -/

section OneLine

variable {line : List UInt8} (hline : 0x0A ∉ line)
include hline

theorem length_lines_single : (Text.lines (Text.Utf8.decodeLossy (line ++ [0x0A]))).length = 1 := by
  rw [(wholeLines_concat line).length_lines, List.count_append, List.count_eq_zero.2 hline]
  rfl

theorem number_of_extract_single {malformed : MalformedLine}
    (hextract : marker.extract (line ++ [0x0A]) = .error malformed) : malformed.number = 1 := by
  rw [extract_eq_mapM] at hextract
  have hnumber := number_of_mem_candidates (number_of_mapM_readRow hextract)
  rw [length_lines_single hline] at hnumber
  omega

theorem line_of_extract_single {found : List Sighting} (hextract : marker.extract (line ++ [0x0A]) = .ok found)
    {sighting : Sighting} (hmem : sighting ∈ found) : sighting.line = 1 := by
  rw [extract_eq_mapM] at hextract
  have hnumber : sighting.line ∈ found.map Sighting.line := List.mem_map_of_mem hmem
  rw [line_of_mapM_readRow hextract] at hnumber
  have hrange := number_of_mem_candidates hnumber
  rw [length_lines_single hline] at hrange
  omega

theorem extract_around {upper : List UInt8} (hupper : WholeLines upper) (lower : List UInt8) :
    marker.extract (upper ++ (line ++ 0x0A :: lower)) =
      stacked (upper.count 0x0A) (marker.extract upper)
        (stacked 1 (marker.extract (line ++ [0x0A])) (marker.extract lower)) := by
  have hcount : (line ++ [0x0A]).count 0x0A = 1 := by
    rw [List.count_append, List.count_eq_zero.2 hline]
    rfl
  rw [extract_append hupper, ← List.singleton_append, ← List.append_assoc, extract_append (wholeLines_concat line), hcount]

end OneLine

/-- Only a line that cannot be read makes a difference elsewhere. -/
theorem sameElsewhere_around {upper line other : List UInt8} (hupper : WholeLines upper) (hline : 0x0A ∉ line)
    (hother : 0x0A ∉ other) (lower : List UInt8) :
    SameElsewhere (upper.count 0x0A + 1) (marker.extract (upper ++ (line ++ 0x0A :: lower)))
      (marker.extract (upper ++ (other ++ 0x0A :: lower))) := by
  rw [extract_around hline hupper, extract_around hother hupper]
  cases marker.extract lower with
  | error malformed => exact .inr (.inr rfl)
  | ok found =>
    cases hhere : marker.extract (line ++ [0x0A]) with
    | error malformed =>
      have hnumber := number_of_extract_single hline hhere
      exact .inl ⟨_, rfl, by rw [MalformedLine.below, hnumber, Nat.add_comm]⟩
    | ok here =>
      cases hthere : marker.extract (other ++ [0x0A]) with
      | error malformed =>
        have hnumber := number_of_extract_single hother hthere
        exact .inr (.inl ⟨_, rfl, by rw [MalformedLine.below, hnumber, Nat.add_comm]⟩)
      | ok there =>
        cases marker.extract upper with
        | error malformed => exact .inr (.inr rfl)
        | ok above =>
          -- What the line itself gave is on its own number, and the rest comes from the lines around it.
          have hgone : ∀ {single : List Sighting}, (∀ sighting ∈ single, sighting.line = 1) →
              (single.map (·.below (upper.count 0x0A))).filter (fun sighting => sighting.line ≠ upper.count 0x0A + 1) =
                [] := by
            intro single hsingle
            rw [List.filter_eq_nil_iff]
            intro sighting hmem
            obtain ⟨original, horiginal, rfl⟩ := List.mem_map.1 hmem
            simp [Sighting.below, hsingle original horiginal, Nat.add_comm]
          refine .inr (.inr (congrArg Except.ok ?_))
          rw [List.map_append, List.map_append, List.filter_append, List.filter_append, List.filter_append,
            List.filter_append, hgone fun sighting => line_of_extract_single hline hhere,
            hgone fun sighting => line_of_extract_single hother hthere]

theorem outcome_sightings {system : FileSystem} {file : Path} {bytes : List UInt8}
    (hread : system.read file = .ok bytes) :
    (Scan.sightings system marker file).outcome = (marker.extract bytes).mapError (.malformed file) := by
  rw [Scan.sightings, hread, extract]
  dsimp only
  obtain ⟨found, malformed⟩ := marker.read (Text.Utf8.decodeLossy bytes)
  cases malformed <;> rfl

/-- The sightings of a file are what its bytes say, line by line from the last one upward: a file that is cut behind a line gives those of its lower part under the lines of the upper one, then those of the upper part, and fails as the lower part fails or else as the upper one does. So the numbers of the sightings decrease, and the bytes of one line matter to no other line as long as it can be read itself. -/
theorem extract_line_by_line (marker : Marker) :
    (∀ (system : FileSystem) (file : Path) (bytes : List UInt8), system.read file = .ok bytes →
      (Scan.sightings system marker file).outcome = (marker.extract bytes).mapError (.malformed file)) ∧
    (∀ upper lower : List UInt8, upper = [] ∨ upper.getLast? = some 0x0A →
      marker.extract (upper ++ lower) =
        stacked (upper.count 0x0A) (marker.extract upper) (marker.extract lower)) ∧
    (∀ (bytes : List UInt8) (found : List Sighting), marker.extract bytes = .ok found →
      (found.map Sighting.line).Pairwise (· > ·)) ∧
    (∀ upper line other lower : List UInt8, upper = [] ∨ upper.getLast? = some 0x0A → 0x0A ∉ line → 0x0A ∉ other →
      SameElsewhere (upper.count 0x0A + 1) (marker.extract (upper ++ (line ++ 0x0A :: lower)))
        (marker.extract (upper ++ (other ++ 0x0A :: lower)))) := by
  refine ⟨?_, ?_, ?_, ?_⟩
  · intro system file bytes hread
    exact outcome_sightings hread
  · intro upper lower hupper
    exact extract_append hupper lower
  · intro bytes found hextract
    exact line_pairwise_of_extract hextract
  · intro upper line other lower hupper hline hother
    exact sameElsewhere_around hupper hline hother lower

/-- A character that breaks off right before a line feed hides neither the line above nor the one below. -/
theorem extract_around_broken_character :
    let marker : Marker := ⟨['M'], by decide⟩
    let upper := "M(1,a,)\n".toUTF8.toList
    let lower := "M(2,b,x)".toUTF8.toList
    let bytes := upper ++ ([0xE2, 0x82] ++ 0x0A :: lower)
    let system : FileSystem := ⟨.dir [("a.c", .file bytes)], []⟩
    let found : List Sighting := [⟨⟨⟨2⟩, "b", "x"⟩, 3⟩, ⟨⟨⟨1⟩, "a", ""⟩, 1⟩]
    (system.read ⟨"a.c"⟩ = .ok bytes ∧
      (Scan.sightings system marker ⟨"a.c"⟩).outcome = (marker.extract bytes).mapError (.malformed ⟨"a.c"⟩)) ∧
    (upper.getLast? = some 0x0A ∧
      marker.extract bytes = stacked 1 (marker.extract upper) (marker.extract ([0xE2, 0x82] ++ 0x0A :: lower))) ∧
    (marker.extract bytes = .ok found ∧ (found.map Sighting.line).Pairwise (· > ·)) ∧
    SameElsewhere 2 (marker.extract bytes) (marker.extract (upper ++ ([0x2D] ++ 0x0A :: lower))) := by
  intro marker upper lower bytes system found
  obtain ⟨hfile, hcut, hdecreasing, hline⟩ := extract_line_by_line marker
  have hread : system.read ⟨"a.c"⟩ = .ok bytes := by decide +kernel
  have hupper : upper.getLast? = some 0x0A := by decide +kernel
  have hfound : marker.extract bytes = .ok found := by decide +kernel
  have hcount : upper.count 0x0A = 1 := by decide +kernel
  have hparts := hcut upper ([0xE2, 0x82] ++ 0x0A :: lower) (.inr hupper)
  have helsewhere := hline upper [0xE2, 0x82] [0x2D] lower (.inr hupper) (by decide) (by decide)
  rw [hcount] at hparts helsewhere
  exact ⟨⟨hread, hfile system ⟨"a.c"⟩ bytes hread⟩, ⟨hupper, hparts⟩, ⟨hfound, hdecreasing bytes found hfound⟩,
    helsewhere⟩

end Marker

end DriverIndex
