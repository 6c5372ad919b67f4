import DriverIndex.Proofs.Text.Decimal
import DriverIndex.Proofs.Text.Search
import Mathlib.Algebra.Group.Int.Defs

/-!
# What a marker line says

The grammar of a marker line, said without the reader: behind the first occurrence of the marker, all blanks ignored, the first opening parenthesis and the first closing one after it stand around the arguments; they are three fields between two commas, of which the first is a decimal number of 64 bits and the others may stand in quotes. A line breaks the grammar in one of three ways, and the reader says which.

The arguments are also what a search for the whole pattern captures, which tries the marker at every place and not only at its first one. An occurrence further on cannot succeed where the first one fails: whatever parentheses it has behind it stand behind the first one, too, also where the two overlap or the marker has parentheses of its own.
-/

namespace DriverIndex

open Text (compact FirstBehind)
open Text.Decimal (Denotes natText toInt? toInt?_eq_some_iff)

/-! ### Groups -/

namespace Group

variable {field : List Char}

/-- A group is read from the decimal texts of its number. -/
theorem ofText?_eq_some_iff {group : Group} : ofText? field = some group ↔ Denotes field group.value.toInt := by
  rw [ofText?, ← toInt?_eq_some_iff, Int64.toInt_minValue, Int64.toInt_maxValue]
  cases toInt? field with
  | none => simp
  | some number =>
    constructor
    · intro hread
      dsimp only at hread
      split_ifs at hread with hrange
      have hnumber : (Int64.ofInt number).toInt = number := Int64.toInt_ofInt_of_le hrange.1 (by omega)
      rw [← Option.some.inj hread, hnumber]
    · intro hnumber
      have hlow := Int64.le_toInt group.value
      have hhigh := Int64.toInt_lt group.value
      rw [Option.some.inj hnumber]
      dsimp only
      rw [if_pos ⟨hlow, by omega⟩, Int64.ofInt_toInt]

/-- No group is read where no number of 64 bits is written. -/
theorem ofText?_eq_none_iff :
    ofText? field = none ↔ ∀ value, Denotes field value → ¬(-2 ^ 63 ≤ value ∧ value ≤ 2 ^ 63 - 1) := by
  simp only [ofText?, ← toInt?_eq_some_iff, Int64.toInt_minValue, Int64.toInt_maxValue]
  cases toInt? field with
  | none => simp
  | some number => simp

end Group

namespace Marker

/-! ### The grammar -/

/-- The first opening parenthesis of a text and the first closing one after it stand around the arguments. -/
def Encloses (rest arguments : List Char) : Prop :=
  ∃ gap back, rest = gap ++ '(' :: (arguments ++ ')' :: back) ∧ '(' ∉ gap ∧ ')' ∉ arguments

/-- A text has no opening parenthesis, or no closing one after the first. -/
def Unenclosed (rest : List Char) : Prop :=
  '(' ∉ rest ∨ ∃ gap inside, rest = gap ++ '(' :: inside ∧ '(' ∉ gap ∧ ')' ∉ inside

/-- The arguments are three fields between two commas. -/
structure Separates (arguments group name tag : List Char) : Prop where
  arguments_eq : arguments = group ++ ',' :: (name ++ ',' :: tag)
  comma_notMem_group : ',' ∉ group
  comma_notMem_name : ',' ∉ name
  comma_notMem_tag : ',' ∉ tag

/-- A text without the one pair of quotes around it, or as it is if there is none. -/
def Unquotes (field text : List Char) : Prop :=
  field = '"' :: (text ++ ['"']) ∨ text = field ∧ ∀ inner, field ≠ '"' :: (inner ++ ['"'])

/-- What a marker line says, by what stands behind its marker when all blanks are dropped. -/
inductive Means (rest : List Char) : Except MarkerFlaw Registration → Prop where
  | noArguments (hrest : Unenclosed rest) : Means rest (.error .noArguments)
  | fieldCount {arguments : List Char} (hrest : Encloses rest arguments) (hcommas : arguments.count ',' ≠ 2) :
      Means rest (.error (.fieldCount (arguments.count ',' + 1)))
  | notAnInteger {arguments group name tag : List Char} (hrest : Encloses rest arguments)
      (hfields : Separates arguments group name tag)
      (hgroup : ∀ value, Denotes group value → ¬(-2 ^ 63 ≤ value ∧ value ≤ 2 ^ 63 - 1)) :
      Means rest (.error (.notAnInteger group))
  | registration {arguments group name tag : List Char} {registration : Registration}
      (hrest : Encloses rest arguments) (hfields : Separates arguments group name tag)
      (hgroup : Denotes group registration.group.value.toInt) (hname : Unquotes name registration.name.toList)
      (htag : Unquotes tag registration.tag.toList) : Means rest (.ok registration)

/-- The pattern of a marker line fits behind some front of it: the word, anything without an opening parenthesis, and the arguments between parentheses. -/
def Fits (word line front arguments : List Char) : Prop :=
  ∃ rest, line = front ++ (word ++ rest) ∧ Encloses rest arguments

/-- Where the pattern fits first, it captures the arguments. -/
def Captures (word line arguments : List Char) : Prop :=
  ∃ front, Fits word line front arguments ∧
    ∀ other others, Fits word line other others → front.length ≤ other.length

/-! ### Parentheses -/

variable {marker : Marker} {word line rest arguments : List Char}

theorem unenclosed_or_encloses (rest : List Char) : Unenclosed rest ∨ ∃ arguments, Encloses rest arguments := by
  by_cases hopen : '(' ∈ rest
  · obtain ⟨gap, inside, rfl, hgap⟩ := List.eq_append_cons_of_mem hopen
    by_cases hclose : ')' ∈ inside
    · obtain ⟨arguments, back, rfl, harguments⟩ := List.eq_append_cons_of_mem hclose
      exact .inr ⟨arguments, gap, back, rfl, hgap, harguments⟩
    · exact .inl (.inr ⟨gap, inside, rfl, hgap, hclose⟩)
  · exact .inl (.inl hopen)

/-- Parentheses around arguments stand in all that ends so. -/
theorem Encloses.not_unenclosed_of_suffix {more : List Char} (harguments : Encloses rest arguments)
    (hsuffix : rest <:+ more) : ¬Unenclosed more := by
  obtain ⟨gap, back, rfl, -, -⟩ := harguments
  obtain ⟨front, rfl⟩ := hsuffix
  rintro (hopen | ⟨start, inside, heq, hstart, hclose⟩)
  · exact hopen (by simp)
  · rw [← List.append_assoc] at heq
    have hbehind := Text.suffix_of_append_cons_eq hstart heq.symm
    exact hclose (hbehind.subset (by simp))

theorem arguments?_of_encloses (hfirst : FirstBehind (compact marker.word) line rest)
    (harguments : Encloses rest arguments) : marker.arguments? line = some arguments := by
  obtain ⟨gap, back, rfl, hgap, hclose⟩ := harguments
  rw [arguments?, Text.after?_eq_some_iff.2 hfirst, Option.bind_eq_bind, Option.bind_some,
    Text.dropWhile_ne_append_cons hgap]
  dsimp only
  rw [if_pos (by simp), Text.takeWhile_ne_append_cons hclose]

theorem arguments?_of_unenclosed (hfirst : FirstBehind (compact marker.word) line rest) (hrest : Unenclosed rest) :
    marker.arguments? line = none := by
  rw [arguments?, Text.after?_eq_some_iff.2 hfirst, Option.bind_eq_bind, Option.bind_some]
  rcases hrest with hopen | ⟨gap, inside, rfl, hgap, hclose⟩
  · rw [Text.dropWhile_ne_eq_nil hopen]
  · rw [Text.dropWhile_ne_append_cons hgap]
    exact if_neg hclose

/-! ### The whole pattern -/

/-- A pattern that fits anywhere fits at the first occurrence of the word. -/
theorem Fits.exists_firstBehind {front : List Char} (hfits : Fits word line front arguments) :
    ∃ rest others, FirstBehind word line rest ∧ Encloses rest others := by
  obtain ⟨behind, hline, harguments⟩ := hfits
  have hoccurs : word <:+: line := ⟨front, behind, by rw [hline, List.append_assoc]⟩
  obtain ⟨rest, hfirst⟩ := Text.exists_firstBehind hoccurs
  -- What stands behind this occurrence is an end of what stands behind the first.
  have henclosed := harguments.not_unenclosed_of_suffix (hfirst.suffix hline)
  obtain ⟨others, hothers⟩ := (unenclosed_or_encloses rest).resolve_left henclosed
  exact ⟨rest, others, hfirst, hothers⟩

theorem captures_iff : Captures word line arguments ↔ ∃ rest, FirstBehind word line rest ∧ Encloses rest arguments := by
  constructor
  · rintro ⟨front, hfits, hleast⟩
    obtain ⟨more, others, ⟨start, hstart, hfirst⟩, hothers⟩ := hfits.exists_firstBehind
    have hle := hleast start others ⟨more, hstart, hothers⟩
    obtain ⟨rest, hline, harguments⟩ := hfits
    refine ⟨rest, ⟨front, hline, fun other back hother => ?_⟩, harguments⟩
    exact hle.trans (hfirst other back hother)
  · rintro ⟨rest, ⟨front, hline, hfirst⟩, harguments⟩
    refine ⟨front, ⟨rest, hline, harguments⟩, ?_⟩
    rintro other others ⟨back, hother, -⟩
    exact hfirst other back hother

theorem arguments?_eq_some_iff :
    marker.arguments? line = some arguments ↔ Captures (compact marker.word) line arguments := by
  rw [captures_iff]
  constructor
  · intro hfound
    obtain ⟨rest, hafter, -⟩ := Option.bind_eq_some_iff.1 hfound
    have hfirst := Text.firstBehind_of_after? hafter
    refine ⟨rest, hfirst, ?_⟩
    rcases unenclosed_or_encloses rest with hrest | ⟨others, hothers⟩
    · rw [arguments?_of_unenclosed hfirst hrest] at hfound
      cases hfound
    · rw [arguments?_of_encloses hfirst hothers] at hfound
      exact Option.some.inj hfound ▸ hothers
  · rintro ⟨rest, hfirst, harguments⟩
    exact arguments?_of_encloses hfirst harguments

theorem arguments?_eq_none_iff :
    marker.arguments? line = none ↔ ∀ front arguments, ¬Fits (compact marker.word) line front arguments := by
  constructor
  · intro hnone front arguments hfits
    obtain ⟨rest, others, hfirst, hothers⟩ := hfits.exists_firstBehind
    rw [arguments?_of_encloses hfirst hothers] at hnone
    cases hnone
  · intro hnowhere
    cases hfound : marker.arguments? line with
    | none => rfl
    | some arguments =>
      obtain ⟨front, hfits, -⟩ := arguments?_eq_some_iff.1 hfound
      exact absurd hfits (hnowhere front arguments)

/-! ### Fields -/

section Fields

variable {group name tag field text : List Char}

theorem length_splitOn {α : Type} [BEq α] (separator : α) (whole : List α) :
    (whole.splitOn separator).length = whole.count separator + 1 := by
  induction whole with
  | nil => rfl
  | cons x rest ih =>
    rw [List.splitOn_cons_eq_if_modifyHead, List.count_cons]
    split_ifs with hx
    · rw [List.length_cons, ih]
    · rw [List.length_modifyHead, ih]

theorem exists_separates (hcommas : arguments.count ',' = 2) : ∃ group name tag, Separates arguments group name tag := by
  have hcut : ∀ {n : Nat} {text : List Char}, text.count ',' = n + 1 →
      ∃ field rest, text = field ++ ',' :: rest ∧ ',' ∉ field ∧ rest.count ',' = n := by
    intro n text hcount
    obtain ⟨field, rest, rfl, hfield⟩ := List.eq_append_cons_of_mem (List.count_pos_iff.1 (by omega : 0 < text.count ','))
    rw [List.count_append, List.count_cons_self, List.count_eq_zero.2 hfield] at hcount
    exact ⟨field, rest, rfl, hfield, by omega⟩
  obtain ⟨group, behind, rfl, hgroup, hbehind⟩ := hcut hcommas
  obtain ⟨name, tag, rfl, hname, htag⟩ := hcut hbehind
  exact ⟨group, name, tag, rfl, hgroup, hname, List.count_eq_zero.1 htag⟩

theorem Separates.splitOn (hfields : Separates arguments group name tag) :
    arguments.splitOn ',' = [group, name, tag] := by
  rw [hfields.arguments_eq, List.splitOn_append_cons_self_of_not_mem hfields.comma_notMem_group,
    List.splitOn_append_cons_self_of_not_mem hfields.comma_notMem_name,
    List.splitOn_eq_singleton hfields.comma_notMem_tag]

theorem unquote_quoted (text : List Char) : unquote ('"' :: (text ++ ['"'])) = text := by
  rw [unquote, List.getLast?_concat, if_pos rfl, List.dropLast_concat]

theorem unquote_of_unquoted (hquotes : ∀ inner, field ≠ '"' :: (inner ++ ['"'])) : unquote field = field := by
  rw [unquote.eq_def]
  split
  · split_ifs with hlast
    · obtain ⟨inner, rfl⟩ := List.getLast?_eq_some_iff.1 hlast
      exact absurd rfl (hquotes inner)
    · rfl
  · rfl

theorem unquote_eq_iff : unquote field = text ↔ Unquotes field text := by
  constructor
  · rintro rfl
    by_cases hquotes : ∃ inner, field = '"' :: (inner ++ ['"'])
    · obtain ⟨inner, rfl⟩ := hquotes
      exact .inl (by rw [unquote_quoted])
    · rw [not_exists] at hquotes
      exact .inr ⟨unquote_of_unquoted hquotes, hquotes⟩
  · rintro (rfl | ⟨rfl, hquotes⟩)
    · exact unquote_quoted text
    · exact unquote_of_unquoted hquotes

theorem readArguments_of_count (hcommas : arguments.count ',' ≠ 2) :
    readArguments arguments = .error (.fieldCount (arguments.count ',' + 1)) := by
  rw [← length_splitOn, readArguments]
  split
  · rename_i hthree
    have hlength := length_splitOn ',' arguments
    rw [hthree] at hlength
    exact absurd (Nat.succ.inj hlength).symm hcommas
  · rfl

theorem readArguments_of_separates (hfields : Separates arguments group name tag) :
    readArguments arguments = match Group.ofText? group with
      | some value => .ok ⟨value, String.ofList (unquote name), String.ofList (unquote tag)⟩
      | none => .error (.notAnInteger group) := by
  cases hgroup : Group.ofText? group with
  | none => simp only [readArguments, hfields.splitOn, hgroup]
  | some value => simp only [readArguments, hfields.splitOn, hgroup]

end Fields

/-! ### The line -/

/-- Every end of a line says something. -/
theorem exists_means (rest : List Char) : ∃ result, Means rest result := by
  rcases unenclosed_or_encloses rest with hrest | ⟨arguments, harguments⟩
  · exact ⟨_, .noArguments hrest⟩
  by_cases hcommas : arguments.count ',' = 2
  · obtain ⟨group, name, tag, hfields⟩ := exists_separates hcommas
    cases hgroup : Group.ofText? group with
    | none => exact ⟨_, .notAnInteger harguments hfields (Group.ofText?_eq_none_iff.1 hgroup)⟩
    | some value =>
      refine ⟨.ok ⟨value, String.ofList (unquote name), String.ofList (unquote tag)⟩, ?_⟩
      apply Means.registration harguments hfields
      · exact Group.ofText?_eq_some_iff.1 hgroup
      · rw [String.toList_ofList]
        exact unquote_eq_iff.1 rfl
      · rw [String.toList_ofList]
        exact unquote_eq_iff.1 rfl
  · exact ⟨_, .fieldCount harguments hcommas⟩

theorem Means.readLine_eq {result : Except MarkerFlaw Registration} (hmeans : Means rest result)
    (hfirst : FirstBehind (compact marker.word) (compact line) rest) : marker.readLine line = result := by
  rw [readLine]
  cases hmeans with
  | noArguments hrest => rw [arguments?_of_unenclosed hfirst hrest]
  | fieldCount harguments hcommas =>
    rw [arguments?_of_encloses hfirst harguments]
    exact readArguments_of_count hcommas
  | notAnInteger harguments hfields hgroup =>
    rw [arguments?_of_encloses hfirst harguments]
    dsimp only
    rw [readArguments_of_separates hfields, Group.ofText?_eq_none_iff.2 hgroup]
  | registration harguments hfields hgroup hname htag =>
    rw [arguments?_of_encloses hfirst harguments]
    dsimp only
    rw [readArguments_of_separates hfields, Group.ofText?_eq_some_iff.2 hgroup]
    dsimp only
    rw [unquote_eq_iff.2 hname, unquote_eq_iff.2 htag, String.ofList_toList, String.ofList_toList]

/-- A line is read as what it says. -/
theorem readLine_eq_iff {result : Except MarkerFlaw Registration}
    (hfirst : FirstBehind (compact marker.word) (compact line) rest) :
    marker.readLine line = result ↔ Means rest result := by
  constructor
  · rintro rfl
    obtain ⟨other, hother⟩ := exists_means rest
    rwa [hother.readLine_eq hfirst]
  · intro hmeans
    exact hmeans.readLine_eq hfirst

theorem compact_infix_compact {text : List Char} (hoccurs : word <:+: text) : compact word <:+: compact text := by
  obtain ⟨front, back, rfl⟩ := hoccurs
  rw [Text.compact_append, Text.compact_append]
  exact ⟨compact front, compact back, rfl⟩

/-- A line that holds the marker is read by the grammar: it is what stands behind the marker's first occurrence, with all blanks dropped, that says a registration or which flaw the line has, and the reader answers just that, in the words given here. The arguments are those that a search for the whole pattern captures at the leftmost place where it fits, and there are none exactly if it fits nowhere. -/
theorem readLine_follows_grammar (marker : Marker) {line : List Char} (hoccurs : marker.word <:+: line) :
    compact marker.word <:+: compact line ∧
    (∃ rest, FirstBehind (compact marker.word) (compact line) rest ∧
      ∀ result, marker.readLine line = result ↔ Means rest result) ∧
    (∀ arguments, marker.arguments? (compact line) = some arguments ↔
      Captures (compact marker.word) (compact line) arguments) ∧
    (marker.arguments? (compact line) = none ↔
      ∀ front arguments, ¬Fits (compact marker.word) (compact line) front arguments) ∧
    MarkerFlaw.noArguments.message = "no parenthesized argument list after marker" ∧
    (∀ found, (MarkerFlaw.fieldCount found).message = "expected 3 comma-separated fields, found " ++ natText found) ∧
    ∀ field, (MarkerFlaw.notAnInteger field).message = "group `" ++ String.ofList field ++ "` is not an integer" := by
  have hcompact := compact_infix_compact hoccurs
  obtain ⟨rest, hfirst⟩ := Text.exists_firstBehind hcompact
  refine ⟨hcompact, ⟨rest, hfirst, fun result => readLine_eq_iff hfirst⟩, ?_, arguments?_eq_none_iff, rfl, ?_, ?_⟩
  · intro arguments
    exact arguments?_eq_some_iff
  · intro found
    rfl
  · intro field
    rfl

/-- A marker with a blank and a parenthesis, one field whose quotes are no pair and one with two pairs. -/
theorem readLine_of_quoted_fields :
    let marker : Marker := ⟨"R (".toList, by decide⟩
    let line := "\tR (x( -3 , \"a\" b , \"\"c\"\" ) ) R (".toList
    let registration : Registration := ⟨⟨-3⟩, "\"a\"b", "\"c\""⟩
    marker.word <:+: line ∧ marker.readLine line = .ok registration ∧
      ∃ rest, FirstBehind (compact marker.word) (compact line) rest ∧ Means rest (.ok registration) := by
  intro marker line registration
  have hoccurs : marker.word <:+: line := by decide +kernel
  have hread : marker.readLine line = .ok registration := by decide +kernel
  obtain ⟨-, ⟨rest, hfirst, hmeans⟩, -⟩ := readLine_follows_grammar marker hoccurs
  exact ⟨hoccurs, hread, rest, hfirst, (hmeans _).1 hread⟩

end Marker

end DriverIndex
