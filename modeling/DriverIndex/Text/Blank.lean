/-!
# Blank characters

The characters of the Unicode property `White_Space`, and the two ways the library drops them: everywhere in a text, and at its two ends.
-/

namespace DriverIndex.Text

/-- The ranges of code points that have the property `White_Space`. -/
def blankRanges : List (Nat × Nat) := [
  (0x9, 0xD), (0x20, 0x20), (0x85, 0x85), (0xA0, 0xA0), (0x1680, 0x1680), (0x2000, 0x200A), (0x2028, 0x2029),
  (0x202F, 0x202F), (0x205F, 0x205F), (0x3000, 0x3000)]

def isBlank (c : Char) : Bool := blankRanges.any fun (first, last) => first ≤ c.toNat && c.toNat ≤ last

/-- The text without any of its blanks. -/
def compact (text : List Char) : List Char := text.filter fun c => !isBlank c

/-- The text without the blanks at its start and at its end. -/
def trim (text : List Char) : List Char := ((text.dropWhile isBlank).reverse.dropWhile isBlank).reverse

@[simp] theorem compact_nil : compact [] = [] := rfl

@[simp] theorem compact_append (left right : List Char) : compact (left ++ right) = compact left ++ compact right :=
  List.filter_append left right

@[simp] theorem compact_compact (text : List Char) : compact (compact text) = compact text := by
  simp [compact, List.filter_filter]

end DriverIndex.Text
