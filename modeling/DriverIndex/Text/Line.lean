/-!
# Lines

A text is cut after every line feed. A line that ends so loses the line feed and one carriage return before it; what stands after the last line feed is a line of its own, unless it is empty, and is kept as it is.
-/

namespace DriverIndex.Text

/-- A line without the carriage return that ends it, if one does. -/
def dropReturn (line : List Char) : List Char := if line.getLast? = some '\r' then line.dropLast else line

/-- Reads on with the current line, newest character first, and the finished lines, newest first. -/
def linesFrom (line : List Char) (done : List (List Char)) : List Char → List (List Char)
  | [] => (if line.isEmpty then done else line.reverse :: done).reverse
  | c :: rest =>
    if c = '\n' then linesFrom [] (dropReturn line.reverse :: done) rest else linesFrom (c :: line) done rest

def lines (text : List Char) : List (List Char) := linesFrom [] [] text

@[simp] theorem lines_nil : lines [] = [] := rfl

/-- Finished lines stay in front of all that is read later. -/
theorem linesFrom_done (line : List Char) (done : List (List Char)) (text : List Char) :
    linesFrom line done text = done.reverse ++ linesFrom line [] text := by
  induction text generalizing line done with
  | nil => by_cases h : line.isEmpty <;> simp [linesFrom, h]
  | cons c rest ih =>
    by_cases h : c = '\n'
    · simp only [linesFrom, h, if_true]
      rw [ih, ih _ [dropReturn line.reverse]]
      simp
    · simp only [linesFrom, h, if_false]
      exact ih _ _

end DriverIndex.Text
