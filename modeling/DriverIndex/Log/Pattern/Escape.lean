import DriverIndex.Text.Blank
import DriverIndex.Text.Digit

/-!
# Characters of patterns

A pattern is a regular expression that a directive may ask the value of a field to match. This module holds the smallest pieces of patterns: what may be passed over between them, and what a backslash makes of the text behind it. The first closing brace ends the field of a directive, so no brace that a pattern opens is closed in it, and every notation that would need that is refused.
-/

namespace DriverIndex.Log.Pattern

/-- The flags that decide how the text behind them is read. -/
structure Modes where
  /-- Blanks and comments are passed over. -/
  spaced : Bool
  /-- Classes and edges go by all of Unicode; without it a pattern must not match a part of a character. -/
  unicode : Bool
deriving DecidableEq

/-- The text behind blanks and comments; the flag says whether a comment is open. -/
def skipSpace : Bool → List Char → List Char
  | _, [] => []
  | true, c :: rest => skipSpace (c ≠ '\n') rest
  | false, c :: rest =>
    if Text.isBlank c then skipSpace false rest
    else if c = '#' then skipSpace true rest
    else c :: rest

namespace Modes

def start : Modes := ⟨false, true⟩

def skip (modes : Modes) (text : List Char) : List Char := if modes.spaced then skipSpace false text else text

/-- The character that decides whether a dash in front of the text makes a range. Blanks do not count, nor does the sign of a comment, but the comment itself does. -/
def lookahead (modes : Modes) (text : List Char) : Option Char :=
  if modes.spaced then
    match text.dropWhile Text.isBlank with
    | '#' :: comment => (comment.dropWhile Text.isBlank).head?
    | rest => rest.head?
  else text.head?

end Modes

/-- What a piece of a pattern without brackets matches. -/
inductive Atom where
  | character (c : Char)
  /-- One character of a class. -/
  | member
  /-- A place between two characters. -/
  | edge
deriving DecidableEq

def isAscii (c : Char) : Bool := c.toNat < 128

/-- Takes off a number of hexadecimal digits. -/
def takeDigits? (modes : Modes) : Nat → List Char → Option (List Char × List Char)
  | 0, text => some ([], text)
  | count + 1, text =>
    match modes.skip text with
    | [] => none
    | c :: rest => do
      guard (Text.Digit.isOf 16 c)
      let (digits, rest) ← takeDigits? modes count rest
      return (c :: digits, rest)

/-- Takes off the number of a character. -/
def takeCoded? (modes : Modes) (count : Nat) (text : List Char) : Option (Char × List Char) := do
  let (digits, rest) ← takeDigits? modes count text
  return (← Text.Digit.character? digits, rest)

/-- The letters that name a general category of characters. -/
def categories : List Char := ['c', 'l', 'm', 'n', 'p', 's', 'z']

/-- The letters that stand for a control character. -/
def controls : List (Char × Char) :=
  [('a', '\x07'), ('f', '\x0C'), ('n', '\n'), ('r', '\r'), ('t', '\t'), ('v', '\x0B')]

/-- Takes off what a backslash stands in front of. The edges of words cannot be found by all of Unicode; the complement of a class, a property and a byte beyond ASCII are not whole characters without it. -/
def takeEscape? (modes : Modes) : List Char → Option (Atom × List Char)
  | [] => none
  | 'x' :: rest => do
    let (c, rest) ← takeCoded? modes 2 rest
    guard (modes.unicode ∨ isAscii c)
    return (.character c, rest)
  | 'u' :: rest => (takeCoded? modes 4 rest).map fun (c, rest) => (.character c, rest)
  | 'U' :: rest => (takeCoded? modes 8 rest).map fun (c, rest) => (.character c, rest)
  | c :: rest =>
    if c ∈ ['p', 'P'] then
      match modes.skip rest with
      | category :: rest => if modes.unicode ∧ category.toLower ∈ categories then some (.member, rest) else none
      | [] => none
    else if c ∈ ['d', 's', 'w'] then some (.member, rest)
    else if c ∈ ['D', 'S', 'W'] then if modes.unicode then some (.member, rest) else none
    else if c ∈ ['A', 'z'] then some (.edge, rest)
    else if c ∈ ['b', 'B', '<', '>'] then if modes.unicode then none else some (.edge, rest)
    else match controls.lookup c with
      | some control => some (.character control, rest)
      | none => if isAscii c && !c.isAlphanum then some (.character c, rest) else none

end DriverIndex.Log.Pattern
