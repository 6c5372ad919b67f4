import DriverIndex.Text.Line
import Mathlib.Data.List.Basic
import Mathlib.Data.List.Induction

/-!
# Texts that end with a line feed

Behind a line feed a new line begins, whatever stands before it. So a text that ends with a line feed has as many lines as line feeds, and they come unchanged before those of any text that follows. What stands before the first line feed is the first line, but for a carriage return at its end. No line has a character that the text lacks.
-/

namespace DriverIndex.Text

theorem linesFrom_append_newline (line front back : List Char) :
    linesFrom line [] (front ++ '\n' :: back) = linesFrom line [] (front ++ ['\n']) ++ lines back := by
  induction front generalizing line with
  | nil =>
    rw [List.nil_append, List.nil_append, linesFrom, linesFrom, if_pos rfl, if_pos rfl, linesFrom_done]
    rfl
  | cons c front ih =>
    rw [List.cons_append, List.cons_append, linesFrom, linesFrom]
    by_cases hc : c = '\n'
    · rw [if_pos hc, if_pos hc, linesFrom_done, ih, linesFrom_done _ [dropReturn line.reverse], List.append_assoc]
    · rw [if_neg hc, if_neg hc, ih]

theorem lines_append_newline (front back : List Char) :
    lines (front ++ '\n' :: back) = lines (front ++ ['\n']) ++ lines back :=
  linesFrom_append_newline [] front back

theorem linesFrom_of_notMem {content : List Char} (hcontent : '\n' ∉ content) (line rest : List Char) :
    linesFrom line [] (content ++ rest) = linesFrom (content.reverse ++ line) [] rest := by
  induction content generalizing line with
  | nil => rfl
  | cons c content ih =>
    rw [List.mem_cons, not_or] at hcontent
    rw [List.cons_append, linesFrom, if_neg (Ne.symm hcontent.1), ih hcontent.2, List.reverse_cons, List.append_assoc]
    rfl

theorem lines_cons {content : List Char} (hcontent : '\n' ∉ content) (rest : List Char) :
    lines (content ++ '\n' :: rest) = dropReturn content :: lines rest := by
  rw [lines, linesFrom_of_notMem hcontent, linesFrom, if_pos rfl, linesFrom_done, List.append_nil, List.reverse_reverse]
  rfl

/-- A text without a line feed is a line of its own, or none if it is empty. -/
theorem lines_of_notMem {content : List Char} (hcontent : '\n' ∉ content) :
    lines content = if content = [] then [] else [content] := by
  have hlines := linesFrom_of_notMem hcontent [] []
  rw [List.append_nil, List.append_nil] at hlines
  rw [lines, hlines, linesFrom]
  cases content <;> simp

theorem length_linesFrom_newline (line front : List Char) :
    (linesFrom line [] (front ++ ['\n'])).length = front.count '\n' + 1 := by
  induction front generalizing line with
  | nil => rfl
  | cons c front ih =>
    rw [List.cons_append, linesFrom]
    by_cases hc : c = '\n'
    · rw [if_pos hc, linesFrom_done, List.length_append, ih, hc, List.count_cons_self]
      exact Nat.add_comm 1 _
    · rw [if_neg hc, ih, List.count_cons_of_ne hc]

theorem length_lines_newline (front : List Char) : (lines (front ++ ['\n'])).length = front.count '\n' + 1 :=
  length_linesFrom_newline [] front

theorem mem_of_mem_linesFrom {current text line : List Char} (hline : line ∈ linesFrom current [] text) {c : Char}
    (hc : c ∈ line) : c ∈ current ∨ c ∈ text := by
  induction text generalizing current with
  | nil =>
    rw [linesFrom] at hline
    split_ifs at hline <;> simp_all
  | cons first rest ih =>
    rw [linesFrom] at hline
    split_ifs at hline with hfirst
    · rw [linesFrom_done] at hline
      rcases List.mem_append.1 hline with hdone | hlater
      · rw [List.mem_reverse, List.mem_singleton, dropReturn] at hdone
        refine .inl (List.mem_reverse.1 ?_)
        split_ifs at hdone
        · exact (List.dropLast_sublist _).subset (hdone ▸ hc)
        · exact hdone ▸ hc
      · exact .inr (List.mem_cons_of_mem first ((ih hlater).resolve_left List.not_mem_nil))
    · rcases ih hline with hcurrent | hrest
      · rcases List.mem_cons.1 hcurrent with rfl | hmem
        · exact .inr List.mem_cons_self
        · exact .inl hmem
      · exact .inr (List.mem_cons_of_mem first hrest)

/-- The lines of a text have no character that it lacks. -/
theorem mem_of_mem_lines {text line : List Char} (hline : line ∈ lines text) {c : Char} (hc : c ∈ line) : c ∈ text :=
  (mem_of_mem_linesFrom hline hc).resolve_left List.not_mem_nil

/-! ### Carriage returns -/

theorem dropReturn_concat (line : List Char) : dropReturn (line ++ ['\r']) = line := by
  rw [dropReturn, if_pos List.getLast?_concat, List.dropLast_concat]

theorem dropReturn_isPrefix (line : List Char) : dropReturn line <+: line := by
  rw [dropReturn]
  split_ifs
  · exact List.dropLast_prefix line
  · exact List.prefix_refl line

/-- No other character gets lost, nor anything before it. -/
theorem isPrefix_dropReturn {c : Char} (hc : c ≠ '\r') (front back : List Char) :
    front ++ [c] <+: dropReturn (front ++ c :: back) := by
  rw [dropReturn]
  split_ifs with hlast
  · cases back using List.reverseRecOn with
    | nil =>
      rw [List.getLast?_concat] at hlast
      exact absurd (Option.some.inj hlast) hc
    | append_singleton back last =>
      rw [← List.cons_append, ← List.append_assoc, List.dropLast_concat]
      exact ⟨back, by simp⟩
  · exact ⟨back, by simp⟩

end DriverIndex.Text
