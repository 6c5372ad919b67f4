import DriverIndex.Log.Pattern.Escape

/-!
# Sets in patterns

A set in brackets lists characters, ranges, classes and further sets. Operators of two signs divide the list into operands. A set is read for its depth, which is limited together with that of the pattern around it.
-/

namespace DriverIndex.Log.Pattern

/-- The depth of parts that make up a whole: none for no part, that of a lone part, and one more than the deepest of several. -/
def depthOf : List Nat → Nat
  | [] => 0
  | [depth] => depth
  | depths => depths.foldl max 0 + 1

/-- What has been read of a set. -/
structure Bracket where
  /-- Nothing but dashes has been read; another one stands for itself. -/
  opening : Bool
  /-- The depth of all operands before the last operator. -/
  left : Option Nat
  /-- The depths of the members behind the last operator, the last one first. -/
  members : List Nat
deriving DecidableEq

namespace Bracket

def start : Bracket := ⟨true, none, []⟩

def addDash (bracket : Bracket) : Bracket := { bracket with members := 0 :: bracket.members }

def add (bracket : Bracket) (depth : Nat) : Bracket := ⟨false, bracket.left, depth :: bracket.members⟩

/-- The depth inside the brackets. -/
def depth (bracket : Bracket) : Nat :=
  match bracket.left with
  | none => depthOf bracket.members
  | some left => max left (depthOf bracket.members) + 1

def operate (bracket : Bracket) : Bracket := ⟨false, some bracket.depth, []⟩

end Bracket

/-- The names of the classes that are part of ASCII. -/
def classNames : List String :=
  ["alnum", "alpha", "ascii", "blank", "cntrl", "digit", "graph", "lower", "print", "punct", "space", "upper", "word",
    "xdigit"]

/-- Takes off a class of ASCII behind its opening bracket, and says whether it is negated. -/
def takeNamed? : List Char → Option (Bool × List Char)
  | ':' :: rest =>
    let negated := rest.head? = some '^'
    let rest := if negated then rest.drop 1 else rest
    let (name, rest) := rest.span (· ≠ ':')
    match rest with
    | ':' :: ']' :: rest => if String.ofList name ∈ classNames then some (negated, rest) else none
    | _ => none
  | _ => none

/-- Takes off an end of a range, or a member that is no range. -/
def takeMember? (modes : Modes) (text : List Char) : Option (Atom × List Char) := do
  let (atom, rest) ← match text with
    | [] => none
    | '\\' :: rest => takeEscape? modes rest
    | c :: rest => some (.character c, rest)
  match atom with
  | .character c =>
    guard (modes.unicode ∨ isAscii c)
    return (atom, rest)
  | .member => return (atom, rest)
  | .edge => none

/-- Takes off a range or a lone member. A dash before the end of the set or before another dash makes no range. -/
def takeRange? (modes : Modes) (text : List Char) : Option (List Char) := do
  let (first, rest) ← takeMember? modes text
  match modes.skip rest with
  | '-' :: behind =>
    if modes.lookahead behind ∈ [some ']', some '-'] then return '-' :: behind
    else
      let (last, rest) ← takeMember? modes (modes.skip behind)
      match first, last with
      | .character low, .character high =>
        guard (low ≤ high)
        return rest
      | _, _ => none
  | rest => return rest

mutual

/-- Takes off a set behind its opening bracket, and gives its depth. -/
def takeSet? : Nat → Modes → List Char → Option (Nat × List Char)
  | 0, _, _ => none
  | fuel + 1, modes, text =>
    match modes.skip text with
    | '^' :: rest => if modes.unicode then takeMembers? fuel modes .start rest else none
    | text => takeMembers? fuel modes .start text

def takeMembers? : Nat → Modes → Bracket → List Char → Option (Nat × List Char)
  | 0, _, _, _ => none
  | fuel + 1, modes, bracket, text =>
    match modes.skip text with
    | '[' :: rest =>
      match takeNamed? rest with
      | some (negated, rest) =>
        if negated ∧ ¬modes.unicode then none else takeMembers? fuel modes (bracket.add 0) rest
      | none => do
        let (depth, rest) ← takeSet? fuel modes rest
        takeMembers? fuel modes (bracket.add depth) rest
    | ']' :: rest =>
      if bracket = .start then takeMembers? fuel modes (bracket.add 0) rest else some (bracket.depth + 1, rest)
    | '&' :: '&' :: rest => takeMembers? fuel modes bracket.operate rest
    | '~' :: '~' :: rest => takeMembers? fuel modes bracket.operate rest
    | '-' :: rest =>
      if bracket.opening then takeMembers? fuel modes bracket.addDash rest
      else match rest with
        | '-' :: rest => takeMembers? fuel modes bracket.operate rest
        | rest => do takeMembers? fuel modes (bracket.add 0) (← takeRange? modes ('-' :: rest))
    | text => do takeMembers? fuel modes (bracket.add 0) (← takeRange? modes text)

end

end DriverIndex.Log.Pattern
