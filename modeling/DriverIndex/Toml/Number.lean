import DriverIndex.Text.Digit

/-!
# Numbers in configuration documents

Which words are numbers. Single underscores may stand between digits. A whole number is written in decimal, with an optional sign and without leading zeros, or without a sign in base 16, 8 or 2; it fits in 64 bits. Every other number is a decimal one with a fraction, an exponent or both, or the name of infinity or of no number at all; a positive one must not be so large that double precision takes it for infinite.
-/

namespace DriverIndex.Toml.Number

open Text (Digit.isOf Digit.number)

/-- The digits of a text, in which single underscores may stand between digits. -/
def digits? (base : Nat) (text : List Char) : Option (List Char) :=
  let groups := text.splitOn '_'
  if groups.all fun group => !group.isEmpty && group.all (Digit.isOf base) then some groups.flatten else none

/-- The digits of a decimal text without leading zeros. -/
def plainDigits? (text : List Char) : Option (List Char) :=
  if text.head? = some '0' ∧ text ≠ ['0'] then none else digits? 10 text

/-- Takes off a sign, and says whether it is a minus. -/
def takeSign : List Char → Bool × List Char
  | '-' :: rest => (true, rest)
  | '+' :: rest => (false, rest)
  | text => (false, text)

/-- The largest number of 64 bits with a sign; the least one is one further from zero. -/
def largest : Nat := Nat.pow 2 63 - 1

def fitsInBase (base : Nat) (text : List Char) : Bool :=
  (digits? base text).any fun digits => Digit.number base digits ≤ largest

def isWhole : List Char → Bool
  | '0' :: 'x' :: rest => fitsInBase 16 rest
  | '0' :: 'o' :: rest => fitsInBase 8 rest
  | '0' :: 'b' :: rest => fitsInBase 2 rest
  | text =>
    let (negative, rest) := takeSign text
    (plainDigits? rest).any fun digits => Digit.number 10 digits ≤ largest + negative.toNat

/-- A number in scientific form: the number of its digits, times a power of ten. -/
structure Scientific where
  digits : List Char
  exponent : Int

namespace Scientific

/-- Reads a number without a sign that has a fraction or an exponent. -/
def read? (text : List Char) : Option Scientific := do
  let (mantissa, exponentPart) := text.span fun c => c ≠ 'e' && c ≠ 'E'
  let (wholePart, fractionPart) := mantissa.span (· ≠ '.')
  guard (exponentPart ≠ [] ∨ fractionPart ≠ [])
  let whole ← plainDigits? wholePart
  let fraction ← match fractionPart with
    | [] => some []
    | _ :: fraction => digits? 10 fraction
  let exponent ← match exponentPart with
    | [] => some 0
    | _ :: exponent =>
      let (negative, rest) := takeSign exponent
      (digits? 10 rest).map fun digits =>
        let n : Int := Digit.number 10 digits
        if negative then -n else n
  return ⟨whole ++ fraction, exponent - fraction.length⟩

/-- The least number that double precision takes for infinite: half a unit of the last place above the largest finite one. -/
def leastInfinite : Nat := Nat.pow 2 1024 - Nat.pow 2 970

/-- Whether double precision takes a number for a finite one. Numbers with other than 309 places before the point are told apart by their places alone. -/
def isFinite (n : Scientific) : Bool :=
  let digits := n.digits.dropWhile (· = '0')
  let places := digits.length + n.exponent
  digits.isEmpty || places < 309 ||
    (places = 309 &&
      Digit.number 10 digits * Nat.pow 10 n.exponent.toNat < leastInfinite * Nat.pow 10 (-n.exponent).toNat)

end Scientific

def isFractional (text : List Char) : Bool :=
  let (negative, rest) := takeSign text
  rest = ['i', 'n', 'f'] || rest = ['n', 'a', 'n'] || (Scientific.read? rest).any fun n => negative || n.isFinite

def isNumber (text : List Char) : Bool := isWhole text || isFractional text

end DriverIndex.Toml.Number
