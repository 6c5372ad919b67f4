import DriverIndex.Log.Pattern.Bracket
import DriverIndex.Text.Alphanumeric

/-!
# Patterns

Which texts are patterns: branches of pieces, with groups, repetitions and flags. The modes that flags set hold to the end of the group that they stand in. Patterns that are nested too deeply are refused.
-/

namespace DriverIndex.Log.Pattern

/-- A piece of a branch. -/
structure Part where
  depth : Nat
  /-- It is more than flags, so it can be repeated. -/
  repeatable : Bool
deriving DecidableEq

/-- What has been read of a group: the depths of its earlier branches and the parts of the present one, the last one first. -/
structure Branches where
  done : List Nat
  parts : List Part
deriving DecidableEq

namespace Branches

def start : Branches := ⟨[], []⟩

def add (branches : Branches) (depth : Nat) : Branches := { branches with parts := ⟨depth, true⟩ :: branches.parts }

def addFlags (branches : Branches) : Branches := { branches with parts := ⟨0, false⟩ :: branches.parts }

/-- The depths of all branches, the present one being the first. -/
def depths (branches : Branches) : List Nat := depthOf (branches.parts.map Part.depth) :: branches.done

def divide (branches : Branches) : Branches := ⟨branches.depths, []⟩

def repeatLast? (branches : Branches) : Option Branches :=
  match branches.parts with
  | ⟨depth, true⟩ :: parts => some ⟨branches.done, ⟨depth + 1, true⟩ :: parts⟩
  | _ => none

end Branches

/-- What has been read of a pattern: its present group, and the groups around that with the modes that come back behind them. -/
structure Reading where
  modes : Modes
  /-- The names of groups, no two of which may be equal. -/
  names : List (List Char)
  here : Branches
  outside : List (Modes × Branches)

namespace Reading

def start : Reading := ⟨.start, [], .start, []⟩

/-- Opens a group, inside of which some modes hold. -/
def openGroup (reading : Reading) (modes : Modes) : Reading :=
  { reading with modes, here := .start, outside := (reading.modes, reading.here) :: reading.outside }

def closeGroup? (reading : Reading) : Option Reading :=
  match reading.outside with
  | [] => none
  | (modes, branches) :: outside =>
    some { reading with modes, here := branches.add (depthOf reading.here.depths + 1), outside }

end Reading

def isGroupName : List Char → Bool
  | [] => false
  | first :: rest =>
    (first = '_' || Text.isAlphabetic first) &&
      rest.all fun c => c ∈ ['_', '.', '[', ']'] || Text.isAlphanumeric c

/-- Whether a text is flags: each once, with at most one dash, behind which are those that are taken back. -/
def areFlags (flags : List Char) : Bool :=
  flags.all (· ∈ ['i', 'm', 's', 'U', 'u', 'R', 'x', '-']) && decide flags.Nodup && flags.getLast? ≠ some '-'

/-- What flags make of a mode. -/
def setFlag (flags : List Char) (flag : Char) (mode : Bool) : Bool :=
  if flag ∈ flags then flag ∈ flags.takeWhile (· ≠ '-') else mode

/-- Reads the start of a group behind its opening parenthesis, which may hold flags only and be no group. -/
def readGroup? (reading : Reading) (text : List Char) : Option (Reading × List Char) :=
  let named (rest : List Char) : Option (Reading × List Char) := do
    let (name, rest) := rest.span (· ≠ '>')
    guard (isGroupName name ∧ name ∉ reading.names ∧ rest ≠ [])
    return ({ reading with names := name :: reading.names }.openGroup reading.modes, rest.drop 1)
  match reading.modes.skip text with
  | '?' :: 'P' :: '<' :: rest => named rest
  | '?' :: '<' :: rest => named rest
  | '?' :: rest => do
    let (flags, rest) := rest.span fun c => c ≠ ':' && c ≠ ')'
    guard (areFlags flags)
    let modes : Modes :=
      ⟨setFlag flags 'x' reading.modes.spaced, setFlag flags 'u' reading.modes.unicode⟩
    match rest with
    | ':' :: rest => return (reading.openGroup modes, rest)
    | _ :: rest =>
      guard (flags ≠ [])
      return ({ reading with modes, here := reading.here.addFlags }, rest)
    | [] => none
  | rest => some (reading.openGroup reading.modes, rest)

/-- The most that can be nested. -/
def deepest : Nat := 250

/-- Reads a pattern to its end; every step takes a character. -/
def read? : Nat → Reading → List Char → Option Reading
  | 0, _, _ => none
  | fuel + 1, reading, text =>
    let goOn (depth : Nat) (rest : List Char) : Option Reading :=
      read? fuel { reading with here := reading.here.add depth } rest
    match reading.modes.skip text with
    | [] => if reading.outside.isEmpty ∧ depthOf reading.here.depths ≤ deepest then some reading else none
    | '(' :: rest => do
      let (reading, rest) ← readGroup? reading rest
      read? fuel reading rest
    | ')' :: rest => do read? fuel (← reading.closeGroup?) rest
    | '|' :: rest => read? fuel { reading with here := reading.here.divide } rest
    | '[' :: rest => do
      let (depth, rest) ← takeSet? (fuel + 1) reading.modes rest
      goOn depth rest
    | '\x7b' :: _ => none
    | '\\' :: rest => do
      let (_, rest) ← takeEscape? reading.modes rest
      goOn 0 rest
    | '.' :: rest => if reading.modes.unicode then goOn 0 rest else none
    | c :: rest =>
      if c ∈ ['?', '*', '+'] then do
        let here ← reading.here.repeatLast?
        read? fuel { reading with here } (if rest.head? = some '?' then rest.drop 1 else rest)
      else goOn 0 rest

end Pattern

def isPattern (text : List Char) : Bool := (Pattern.read? (text.length + 1) .start text).isSome

end DriverIndex.Log
