import DriverIndex.Proofs.Marker.Grammar
import DriverIndex.Proofs.Marker.Locality
import DriverIndex.Proofs.Text.Blank
import Mathlib.Data.List.Forall2

/-!
# Registrations that are written into a text

A registration is written as a line of tokens: the marker, and in parentheses the group in decimal and name and tag in quotes, with any blanks behind each token. A text of such lines and of lines without the marker is read back to exactly what was written, the last line first. The blanks disappear from the line, so the parenthesis behind the marker is the first one there, whatever the marker is made of, and a field in quotes loses that one pair only, whatever quotes it has itself.
-/

namespace DriverIndex

open Text (compact isBlank FirstBehind)

namespace Marker

/-! ### Lines -/

/-- A field with a pair of quotes around it. -/
def quoted (text : List Char) : List Char := '"' :: (text ++ ['"'])

/-- A text that can be written as a field: it has no blank and nothing that ends a field. -/
def IsField (text : List Char) : Prop := ∀ c ∈ text, isBlank c = false ∧ c ≠ ',' ∧ c ≠ ')'

instance (text : List Char) : Decidable (IsField text) := List.decidableBAll _ text

/-- A text of blanks, as it can stand behind a token. -/
def IsGap (text : List Char) : Prop := ∀ c ∈ text, isBlank c = true

instance (text : List Char) : Decidable (IsGap text) := List.decidableBAll _ text

def tokens (marker : Marker) (registration : Registration) : List (List Char) := [
  marker.word, ['('], Text.Decimal.ofInt registration.group.value.toInt, [','], quoted registration.name.toList, [','],
  quoted registration.tag.toList, [')']]

/-- The tokens one behind another, each with its gap behind it. -/
def spaced (tokens gaps : List (List Char)) : List Char := (tokens.zipWith (· ++ ·) gaps).flatten

/-- A line that is written for a registration: its tokens with gaps of blanks, and anything behind them. -/
structure Writes (marker : Marker) (registration : Registration) (line : List Char) : Prop where
  name : IsField registration.name.toList
  tag : IsField registration.tag.toList
  exists_gaps : ∃ gaps back, line = spaced (marker.tokens registration) gaps ++ back ∧
    gaps.length = (marker.tokens registration).length ∧ ∀ gap ∈ gaps, IsGap gap

/-- A line that is written for a registration, or is of no concern. -/
def IsFor (marker : Marker) (line : List Char) : Option Registration → Prop
  | none => ¬marker.word <:+: line
  | some registration => Writes marker registration line

/-- A line with the characters that end it, and what it is written for. -/
structure Entry where
  line : List Char
  ending : List Char
  registration? : Option Registration

def Entry.text (entry : Entry) : List Char := entry.line ++ entry.ending

/-- An entry is one line, ended by a line feed that may have a carriage return before it. -/
structure Entry.WellFormed (marker : Marker) (entry : Entry) : Prop where
  newline_notMem : '\n' ∉ entry.line
  ending : entry.ending = ['\n'] ∨ entry.ending = ['\r', '\n']
  isFor : marker.IsFor entry.line entry.registration?

/-- The registrations of lines, each with the number of its line, from the first line downward. -/
def numbered (registrations : List (Option Registration)) (first : Nat) : List Sighting :=
  (registrations.zipIdx first).filterMap fun (registration?, number) =>
    registration?.map fun registration => ⟨registration, number⟩

variable {marker : Marker} {registration : Registration} {line : List Char}

theorem compact_spaced {tokens gaps : List (List Char)} (hlength : gaps.length = tokens.length)
    (hgaps : ∀ gap ∈ gaps, IsGap gap) : compact (spaced tokens gaps) = compact tokens.flatten := by
  induction tokens generalizing gaps with
  | nil => rfl
  | cons token tokens ih =>
    cases gaps with
    | nil => cases hlength
    | cons gap gaps =>
      have hgap := Text.compact_of_forall_blank (hgaps gap List.mem_cons_self)
      have hrest := ih (Nat.succ.inj hlength) fun other hmem => hgaps other (List.mem_cons_of_mem gap hmem)
      rw [spaced, List.zipWith_cons_cons, List.flatten_cons, List.flatten_cons, Text.compact_append,
        Text.compact_append, Text.compact_append, hgap, List.append_nil, ← hrest]
      rfl

theorem compact_ofInt (i : Int) : compact (Text.Decimal.ofInt i) = Text.Decimal.ofInt i := by
  have hdigits : ∀ c ∈ Text.Decimal.ofNat i.natAbs, isBlank c = false := fun c hc =>
    Text.isBlank_of_isDigit (Text.Decimal.isDigit_of_mem_ofNat hc)
  apply Text.compact_of_forall_not_blank
  intro c hc
  rw [Text.Decimal.ofInt] at hc
  split_ifs at hc
  · rcases List.mem_cons.1 hc with rfl | hc
    · decide
    · exact hdigits c hc
  · exact hdigits c hc

theorem IsField.compact_quoted {text : List Char} (htext : IsField text) : compact (quoted text) = quoted text := by
  apply Text.compact_of_forall_not_blank
  intro c hc
  rcases List.mem_cons.1 hc with rfl | hc
  · decide
  rcases List.mem_append.1 hc with hc | hc
  · exact (htext c hc).1
  · rw [List.mem_singleton.1 hc]
    decide

/-- What stands between the parentheses when all blanks are dropped. -/
def argumentsOf (registration : Registration) : List Char :=
  Text.Decimal.ofInt registration.group.value.toInt ++
    ',' :: (quoted registration.name.toList ++ ',' :: quoted registration.tag.toList)

theorem Writes.compact_eq (hwrites : Writes marker registration line) :
    ∃ back, compact line = compact marker.word ++ '(' :: (argumentsOf registration ++ ')' :: back) := by
  obtain ⟨hname, htag, gaps, back, rfl, hlength, hgaps⟩ := hwrites
  have hsigns : compact ['('] = ['('] ∧ compact [','] = [','] ∧ compact [')'] = [')'] := by decide
  obtain ⟨hopen, hcomma, hclose⟩ := hsigns
  refine ⟨compact back, ?_⟩
  rw [Text.compact_append, compact_spaced hlength hgaps, tokens, argumentsOf]
  simp only [List.flatten_cons, List.flatten_nil, Text.compact_append, compact_ofInt, hname.compact_quoted,
    htag.compact_quoted, hopen, hcomma, hclose]
  simp

/-! ### Reading a line -/

theorem mem_ofInt_ne {i : Int} {c : Char} (hc : c ∈ Text.Decimal.ofInt i) : c ≠ ',' ∧ c ≠ ')' := by
  have hdigit : c = '-' ∨ c.isDigit = true := by
    rw [Text.Decimal.ofInt] at hc
    split_ifs at hc
    · exact (List.mem_cons.1 hc).imp_right Text.Decimal.isDigit_of_mem_ofNat
    · exact .inr (Text.Decimal.isDigit_of_mem_ofNat hc)
  constructor <;> rintro rfl <;> revert hdigit <;> decide

theorem IsField.mem_quoted_ne {text : List Char} (htext : IsField text) {c : Char} (hc : c ∈ quoted text) :
    c ≠ ',' ∧ c ≠ ')' := by
  rcases List.mem_cons.1 hc with rfl | hc
  · decide
  rcases List.mem_append.1 hc with hc | hc
  · exact (htext c hc).2
  · rw [List.mem_singleton.1 hc]
    decide

theorem Writes.separates (hwrites : Writes marker registration line) :
    Separates (argumentsOf registration) (Text.Decimal.ofInt registration.group.value.toInt)
      (quoted registration.name.toList) (quoted registration.tag.toList) where
  arguments_eq := rfl
  comma_notMem_group hc := (mem_ofInt_ne hc).1 rfl
  comma_notMem_name hc := (hwrites.name.mem_quoted_ne hc).1 rfl
  comma_notMem_tag hc := (hwrites.tag.mem_quoted_ne hc).1 rfl

theorem Writes.close_notMem (hwrites : Writes marker registration line) : ')' ∉ argumentsOf registration := by
  rw [argumentsOf, List.mem_append, List.mem_cons, List.mem_append, List.mem_cons]
  rintro (hc | hc | hc | hc | hc)
  · exact (mem_ofInt_ne hc).2 rfl
  · revert hc
    decide
  · exact (hwrites.name.mem_quoted_ne hc).2 rfl
  · revert hc
    decide
  · exact (hwrites.tag.mem_quoted_ne hc).2 rfl

/-- The marker of a written line is followed by the first parenthesis behind it. -/
theorem Writes.readLine_eq (hwrites : Writes marker registration line) : marker.readLine line = .ok registration := by
  obtain ⟨back, hcompact⟩ := hwrites.compact_eq
  have hfirst : FirstBehind (compact marker.word) (compact line) ('(' :: (argumentsOf registration ++ ')' :: back)) := by
    rw [hcompact]
    exact Text.firstBehind_append _ _
  apply (readLine_eq_iff hfirst).2
  apply Means.registration
  · exact ⟨[], back, rfl, List.not_mem_nil, hwrites.close_notMem⟩
  · exact hwrites.separates
  · exact Text.Decimal.denotes_ofInt _
  · exact .inl rfl
  · exact .inl rfl

theorem readLine_dropReturn (line : List Char) : marker.readLine (Text.dropReturn line) = marker.readLine line := by
  rw [readLine, readLine, Text.compact_dropReturn]

theorem Writes.exists_parenthesis (hwrites : Writes marker registration line) :
    ∃ blanks rest, line = marker.word ++ blanks ++ '(' :: rest := by
  obtain ⟨-, -, gaps, back, rfl, hlength, -⟩ := hwrites
  match gaps, hlength with
  | first :: second :: gaps, _ =>
    refine ⟨first, second ++ spaced ((marker.tokens registration).drop 2) gaps ++ back, ?_⟩
    simp [spaced, tokens]

/-- The marker stays when a carriage return gets lost, since a parenthesis stands behind it. -/
theorem Writes.infix_dropReturn (hwrites : Writes marker registration line) :
    marker.word <:+: Text.dropReturn line := by
  obtain ⟨blanks, rest, rfl⟩ := hwrites.exists_parenthesis
  have hkept := Text.isPrefix_dropReturn (by decide : '(' ≠ '\r') (marker.word ++ blanks) rest
  have hmarker : marker.word <+: marker.word ++ blanks ++ ['('] := ⟨blanks ++ ['('], (List.append_assoc ..).symm⟩
  exact (hmarker.trans hkept).isInfix

/-! ### Reading a text -/

/-- A line that is shown to the reader is read as what it was written for. -/
def ReadsAs (marker : Marker) (line : List Char) : Option Registration → Prop
  | none => marker.occursIn line = false
  | some registration => marker.occursIn line = true ∧ marker.readLine line = .ok registration

theorem occursIn_iff : marker.occursIn line = true ↔ marker.word <:+: line := Text.isSome_after?_iff

theorem IsFor.readsAs {registration? : Option Registration} (hline : marker.IsFor line registration?) :
    marker.ReadsAs line registration? ∧ marker.ReadsAs (Text.dropReturn line) registration? := by
  cases registration? with
  | none =>
    have habsent : ¬marker.word <:+: line := hline
    constructor
    · exact Bool.eq_false_iff.2 (mt occursIn_iff.1 habsent)
    · apply Bool.eq_false_iff.2
      intro hoccurs
      exact habsent ((occursIn_iff.1 hoccurs).trans (Text.dropReturn_isPrefix line).isInfix)
  | some registration =>
    have hwrites : Writes marker registration line := hline
    have hdropped := hwrites.infix_dropReturn
    constructor
    · exact ⟨occursIn_iff.2 (hdropped.trans (Text.dropReturn_isPrefix line).isInfix), hwrites.readLine_eq⟩
    · exact ⟨occursIn_iff.2 hdropped, by rw [readLine_dropReturn, hwrites.readLine_eq]⟩

/-- An entry is shown to the reader as one line. -/
theorem Entry.WellFormed.exists_lines {entry : Entry} (hentry : entry.WellFormed marker) (rest : List Char) :
    ∃ shown, Text.lines (entry.text ++ rest) = shown :: Text.lines rest ∧ marker.ReadsAs shown entry.registration? := by
  obtain ⟨hnewline, hending | hending, hline⟩ := hentry
  · refine ⟨Text.dropReturn entry.line, ?_, hline.readsAs.2⟩
    rw [Entry.text, hending, List.append_assoc]
    exact Text.lines_cons hnewline rest
  · refine ⟨entry.line, ?_, hline.readsAs.1⟩
    have hreturn : '\n' ∉ entry.line ++ ['\r'] := by simp [hnewline]
    have hlines := Text.lines_cons hreturn rest
    rw [Text.dropReturn_concat] at hlines
    rw [Entry.text, hending, ← hlines]
    simp

theorem forall₂_lines {entries : List Entry} (hentries : ∀ entry ∈ entries, entry.WellFormed marker) {rest : List Char}
    {registrations : List (Option Registration)}
    (hrest : List.Forall₂ (ReadsAs marker) (Text.lines rest) registrations) :
    List.Forall₂ (ReadsAs marker) (Text.lines (entries.flatMap Entry.text ++ rest))
      (entries.map Entry.registration? ++ registrations) := by
  induction entries with
  | nil => exact hrest
  | cons entry entries ih =>
    obtain ⟨shown, hlines, hshown⟩ := (hentries entry List.mem_cons_self).exists_lines (entries.flatMap Entry.text ++ rest)
    rw [List.flatMap_cons, List.append_assoc, hlines]
    exact .cons hshown (ih fun other hmem => hentries other (List.mem_cons_of_mem entry hmem))

theorem forall₂_candidates {lines : List (List Char)} {registrations : List (Option Registration)}
    (hlines : List.Forall₂ (ReadsAs marker) lines registrations) (first : Nat) :
    List.Forall₂ (fun row sighting => marker.readRow row = .ok sighting)
      ((lines.zipIdx first).filter fun (line, _) => marker.occursIn line) (numbered registrations first) := by
  induction hlines generalizing first with
  | nil => exact .nil
  | @cons line registration? lines registrations hline _ ih =>
    cases registration? with
    | none =>
      have habsent : marker.occursIn line = false := hline
      rw [List.zipIdx_cons, List.filter_cons_of_neg (by simp [habsent])]
      exact ih (first + 1)
    | some registration =>
      obtain ⟨hoccurs, hread⟩ := hline
      rw [List.zipIdx_cons, List.filter_cons_of_pos (by simpa using hoccurs)]
      exact .cons (by rw [readRow, hread]) (ih (first + 1))

theorem mapM_eq_ok_of_forall₂ {ε α β : Type} {f : α → Except ε β} {l : List α} {values : List β}
    (hvalues : List.Forall₂ (fun x value => f x = .ok value) l values) : l.mapM f = .ok values := by
  induction hvalues with
  | nil => rfl
  | cons hvalue _ ih =>
    rw [List.mapM_cons, hvalue, ih]
    rfl

theorem eq_of_settle_eq_ok {result : List Sighting × Option MalformedLine} {found : List Sighting}
    (hsettle : settle result = .ok found) : result = (found, none) := by
  obtain ⟨sightings, malformed⟩ := result
  cases malformed with
  | none => rw [Except.ok.inj hsettle]
  | some line => cases hsettle

theorem numbered_concat_none (registrations : List (Option Registration)) (first : Nat) :
    numbered (registrations ++ [none]) first = numbered registrations first := by
  rw [numbered, List.zipIdx_append, List.filterMap_append]
  exact List.append_nil _

theorem read_of_forall₂ {text : List Char} {registrations : List (Option Registration)}
    (hlines : List.Forall₂ (ReadsAs marker) (Text.lines text) registrations) :
    marker.read text = ((numbered registrations 1).reverse, none) := by
  apply eq_of_settle_eq_ok
  rw [read, settle_readLines]
  exact mapM_eq_ok_of_forall₂ (List.forall₂_reverse_iff.2 (forall₂_candidates hlines 1))

/-- A text of lines that are written for registrations, or lack the marker, is read back as what was written, from the last line upward, and no line of it is malformed. Behind the last line that is ended there may stand one more. -/
theorem read_of_written (marker : Marker) (entries : List Entry)
    (hentries : ∀ entry ∈ entries, entry.WellFormed marker) (last : List Char) (registration? : Option Registration)
    (hlast : '\n' ∉ last) (hfor : marker.IsFor last registration?) :
    marker.read (entries.flatMap Entry.text ++ last) =
      ((numbered (entries.map Entry.registration? ++ [registration?]) 1).reverse, none) := by
  have hlines := Text.lines_of_notMem hlast
  by_cases hempty : last = []
  · subst hempty
    -- Nothing is written into an empty line, and it is not counted.
    have hnone : registration? = none := by
      cases registration? with
      | none => rfl
      | some registration =>
        obtain ⟨blanks, rest, heq⟩ := Writes.exists_parenthesis hfor
        exact absurd heq.symm (by simp)
    rw [hnone, numbered_concat_none, ← List.append_nil (entries.map Entry.registration?)]
    exact read_of_forall₂ (forall₂_lines hentries .nil)
  · rw [if_neg hempty] at hlines
    apply read_of_forall₂
    apply forall₂_lines hentries
    rw [hlines]
    exact .cons hfor.readsAs.1 .nil

/-- A marker of punctuation and blanks: a line that holds it without its blank only, one that is written with the least group, and one that is not ended. -/
theorem read_of_written_punctuation :
    let marker : Marker := ⟨",)( \"".toList, by decide⟩
    let least : Registration := ⟨⟨Int64.minValue⟩, "a\"(", ""⟩
    let layered : Registration := ⟨⟨1⟩, "", "\"x"⟩
    let entries : List Entry := [
      ⟨"x,)(\"".toList, ['\r', '\n'], none⟩,
      ⟨",)( \"(-9223372036854775808 , \"a\"(\",\"\") = ,)( \"".toList, ['\n'], some least⟩]
    let last := ",)( \"\t(1,\"\" ,\"\"x\")".toList
    (∀ entry ∈ entries, entry.WellFormed marker) ∧ marker.IsFor last (some layered) ∧
      marker.read (entries.flatMap Entry.text ++ last) = ([⟨layered, 3⟩, ⟨least, 2⟩], none) := by
  intro marker least layered entries last
  have hleast : Writes marker least ",)( \"(-9223372036854775808 , \"a\"(\",\"\") = ,)( \"".toList := by
    refine ⟨by decide, by decide, ?_⟩
    exact ⟨[[], [], [' '], [' '], [], [], [], []], " = ,)( \"".toList, by decide +kernel, rfl, by decide⟩
  have hlayered : Writes marker layered last := by
    refine ⟨by decide, by decide, ?_⟩
    exact ⟨[['\t'], [], [], [], [' '], [], [], []], [], by decide +kernel, rfl, by decide⟩
  have hentries : ∀ entry ∈ entries, entry.WellFormed marker := by
    intro entry hmem
    rcases List.mem_cons.1 hmem with rfl | hmem
    · exact ⟨by decide +kernel, .inr rfl, by unfold IsFor; decide +kernel⟩
    · rw [List.mem_singleton.1 hmem]
      exact ⟨by decide +kernel, .inl rfl, hleast⟩
  exact ⟨hentries, hlayered, read_of_written marker entries hentries last (some layered) (by decide +kernel) hlayered⟩

end Marker

end DriverIndex
