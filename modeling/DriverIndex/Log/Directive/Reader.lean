import DriverIndex.Log.Directive.Basic
import DriverIndex.Log.Pattern.Reader
import DriverIndex.Text.Utf8

/-!
# Reading directives

A directive is written in the form `target[span{field=value}]=level` with most parts left out. A directive that asks for a span or a value is read, but says nothing about events.
-/

namespace DriverIndex.Log.Directive

/-- A byte of a directive text, with the character that starts at its position in the text without the blanks around it. -/
abbrev Cell := Option Char × UInt8

/-- The characters that bytes stand for, unless one of them was cut through. -/
def kept? (cells : List Cell) (tail : List UInt8) : Option (List Char) :=
  Text.Utf8.decode? (cells.map Prod.snd ++ tail)

/-- A directive text as cells, and the bytes at its end. The parts are told apart without the blanks around the text, but they are cut from the whole text at the same positions. -/
def cells (text : List Char) : List Cell × List UInt8 :=
  let core := (Text.trim text).flatMap fun c => some c :: List.replicate (c.utf8Size - 1) none
  let bytes := Text.Utf8.encode text
  (core.zip bytes, bytes.drop core.length)

/-- Cuts before the first character that ends a part. -/
def cut (ends : List Char) (cells : List Cell) : List Cell × List Cell :=
  cells.span fun cell => !cell.1.any (· ∈ ends)

/-- Reads the level at the end of a directive; without one it shows everything. -/
def readLimit? (cells : List Cell) (tail : List UInt8) : Option Nat := do
  match ← kept? cells tail with
  | [] => some everything
  | text => limit? text

/-- Reads what stands behind the brackets of a directive. -/
def readBehind? (tail : List UInt8) : List Cell → Option Nat
  | [] => some everything
  | (some '=', _) :: rest => readLimit? rest tail
  | _ => none

def dropSign : List Char → List Char
  | '+' :: rest => rest
  | '-' :: rest => rest
  | text => text

/-- Whether a text is a number with or without a sign, a point and an exponent, or names infinity or no number at all. -/
def isNumber (text : List Char) : Bool :=
  let (mantissa, exponent) := (dropSign text).span fun c => c ≠ 'e' && c ≠ 'E'
  let (whole, fraction) := mantissa.span (· ≠ '.')
  let digits := whole ++ fraction.drop 1
  String.ofList ((dropSign text).map Char.toLower) ∈ ["inf", "infinity", "nan"] ||
    !digits.isEmpty && digits.all Char.isDigit &&
      (exponent.isEmpty || (Text.Decimal.toNat? (dropSign (exponent.drop 1))).isSome)

/-- Reads the field of a directive: its name, if it asks for no value. The value behind the first sign of equality must be a number or a pattern; what stands behind a second one does not count. -/
def readField? (text : List Char) : Option (Option String) :=
  match text.splitOn '=' with
  | _ :: value :: _ => if isNumber value || isPattern value then some none else none
  | _ => if text = [] then none else some (some (String.ofList text))

/-- Reads the brackets of a directive, which fits no event if they ask for a span or a value. -/
def readBrackets? (target : Option String) (cells : List Cell) (tail : List UInt8) : Option (Option Directive) := do
  let (span, rest) := cut [']', '\x7b'] cells
  match rest with
  | (some ']', _) :: rest =>
    let _ ← kept? span []
    let _ ← readBehind? tail rest
    return none
  | _ :: rest =>
    let (inside, rest) := cut ['\x7d'] rest
    match rest with
    | _ :: (some ']', _) :: rest =>
      let _ ← kept? span []
      let field ← readField? (← kept? inside [])
      let limit ← readBehind? tail rest
      return if span = [] then field.map fun name => ⟨target, some name, limit⟩ else none
    | _ => none
  | [] => none

/-- Reads a directive; one that fits no event is read, but gives nothing. -/
def read? (text : List Char) : Option (Option Directive) := do
  let (cells, tail) := cells text
  match cells with
  | (some '[', _) :: rest => readBrackets? none rest tail
  | (some c, _) :: _ =>
    guard (c ∈ ['-', ':', '_'] ∨ Text.isAlphanumeric c)
    let (name, rest) := cut ['=', '['] cells
    match rest with
    | [] =>
      let word ← kept? name tail
      return some (match limit? word with
        | some limit => ⟨none, none, limit⟩
        | none => ⟨some (String.ofList word), none, everything⟩)
    | (some '=', _) :: rest =>
      let target ← kept? name []
      return some ⟨some (String.ofList target), none, ← readLimit? rest tail⟩
    | _ :: rest =>
      let target ← kept? name []
      readBrackets? (some (String.ofList target)) rest tail
  | _ => none

end DriverIndex.Log.Directive
