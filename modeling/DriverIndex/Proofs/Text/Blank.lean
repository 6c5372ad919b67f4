import DriverIndex.Text.Blank
import DriverIndex.Text.Line
import Mathlib.Data.List.TakeWhile

/-!
# A text without its blanks

Trimming takes away blanks only, and all of them up to the first and from the last character that is none. A text without any blanks is the same whether the blanks were there or not, so it does not matter to it whether a line has lost the carriage return at its end.
-/

namespace DriverIndex.Text

/-- `core` is the text without the blanks at its two ends. -/
structure Trims (text core : List Char) : Prop where
  cut : ∃ front back, text = front ++ core ++ back ∧ ∀ c ∈ front ++ back, isBlank c = true
  first : ∀ c ∈ core.head?, isBlank c = false
  last : ∀ c ∈ core.getLast?, isBlank c = false

theorem isBlank_of_mem_head?_dropWhile {text : List Char} {c : Char} (hmem : c ∈ (text.dropWhile isBlank).head?) :
    isBlank c = false := by
  have hhead := List.head?_dropWhile_not isBlank text
  rwa [Option.mem_def.1 hmem] at hhead

theorem trims_trim (text : List Char) : Trims text (trim text) := by
  have hfront : text.takeWhile isBlank ++ text.dropWhile isBlank = text := List.takeWhile_append_dropWhile
  have hback : trim text ++ ((text.dropWhile isBlank).reverse.takeWhile isBlank).reverse = text.dropWhile isBlank := by
    rw [trim, ← List.reverse_append, List.takeWhile_append_dropWhile, List.reverse_reverse]
  refine ⟨⟨text.takeWhile isBlank, ((text.dropWhile isBlank).reverse.takeWhile isBlank).reverse, ?_, ?_⟩, ?_, ?_⟩
  · rw [List.append_assoc, hback, hfront]
  · intro c hmem
    rcases List.mem_append.1 hmem with hblank | hblank
    · exact List.mem_takeWhile_imp hblank
    · exact List.mem_takeWhile_imp (List.mem_reverse.1 hblank)
  · intro c hmem
    have hhead : c ∈ (text.dropWhile isBlank).head? := by
      rw [← hback, List.head?_append, Option.mem_def.1 hmem]
      rfl
    exact isBlank_of_mem_head?_dropWhile hhead
  · intro c hmem
    rw [trim, List.getLast?_reverse] at hmem
    exact isBlank_of_mem_head?_dropWhile hmem

/-! ### Without any blanks -/

variable {text : List Char}

theorem isBlank_of_isDigit {c : Char} (hdigit : c.isDigit = true) : isBlank c = false := by
  have hrange : 48 ≤ c.toNat ∧ c.toNat ≤ 57 := by
    simpa [Char.isDigit, ← Char.toNat_val, UInt32.le_iff_toNat_le] using hdigit
  simp [isBlank, blankRanges]
  omega

theorem compact_of_forall_not_blank (htext : ∀ c ∈ text, isBlank c = false) : compact text = text := by
  apply List.filter_eq_self.2
  intro c hc
  rw [htext c hc]
  rfl

theorem compact_of_forall_blank (htext : ∀ c ∈ text, isBlank c = true) : compact text = [] := by
  apply List.filter_eq_nil_iff.2
  intro c hc
  simp [htext c hc]

theorem compact_dropReturn (line : List Char) : compact (dropReturn line) = compact line := by
  rw [dropReturn]
  split_ifs with hlast
  · obtain ⟨front, rfl⟩ := List.getLast?_eq_some_iff.1 hlast
    rw [List.dropLast_concat, compact_append]
    exact (List.append_nil _).symm
  · rfl

end DriverIndex.Text
