/-!
# Digits

Digits of the bases up to sixteen, and the numbers that they are written for. Letters stand for the digits from ten on, in either case.
-/

namespace DriverIndex.Text.Digit

def value? (c : Char) : Option Nat :=
  if '0' ≤ c ∧ c ≤ '9' then some (c.toNat - '0'.toNat)
  else if 'a' ≤ c ∧ c ≤ 'f' then some (c.toNat - 'a'.toNat + 10)
  else if 'A' ≤ c ∧ c ≤ 'F' then some (c.toNat - 'A'.toNat + 10)
  else none

/-- Whether a character is a digit of a base. -/
def isOf (base : Nat) (c : Char) : Bool := (value? c).any (· < base)

/-- The number that digits of a base are written for; other characters count as zero. -/
def number (base : Nat) (digits : List Char) : Nat :=
  digits.foldl (fun number c => number * base + (value? c).getD 0) 0

/-- The character whose code point is written in hexadecimal digits, of which there must be at least one. -/
def character? (digits : List Char) : Option Char := do
  guard (digits ≠ [] ∧ digits.all (isOf 16))
  let code := number 16 digits
  guard code.isValidChar
  return Char.ofNat code

end DriverIndex.Text.Digit
