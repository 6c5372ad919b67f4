/-!
# Decimal integers

Integers are written with a minus sign where they need one and without leading zeros. They are read with an optional sign of either kind and at least one ASCII digit; leading zeros are allowed.
-/

namespace DriverIndex.Text.Decimal

def ofNat (n : Nat) : List Char := Nat.toDigits 10 n

def ofInt (i : Int) : List Char := if i < 0 then '-' :: ofNat i.natAbs else ofNat i.natAbs

def digitValue (c : Char) : Nat := c.toNat - '0'.toNat

def toNat? (text : List Char) : Option Nat :=
  if text ≠ [] ∧ text.all Char.isDigit then some (text.foldl (fun value c => value * 10 + digitValue c) 0) else none

def toInt? : List Char → Option Int
  | '+' :: digits => (toNat? digits).map Int.ofNat
  | '-' :: digits => (toNat? digits).map fun n => -Int.ofNat n
  | digits => (toNat? digits).map Int.ofNat

/-- The text of a count or an index. -/
def natText (n : Nat) : String := String.ofList (ofNat n)

def intText (i : Int) : String := String.ofList (ofInt i)

end DriverIndex.Text.Decimal
