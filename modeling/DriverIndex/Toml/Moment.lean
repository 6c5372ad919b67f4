import DriverIndex.Calendar

/-!
# Dates and times in configuration documents

A date is year, month and day with dashes between them; a time is hour, minute and second with colons between them, the second with or without decimals. Date and time together may be followed by their distance from universal time. All parts have a fixed number of digits and lie in their ranges; a minute may have a leap second.
-/

namespace DriverIndex.Toml.Moment

open Text (Decimal.toNat?)

/-- Reads two digits that are written for a number between two bounds. -/
def twoDigits? (least most : Nat) : List Char → Option (Nat × List Char)
  | tens :: ones :: rest => do
    let n ← Decimal.toNat? [tens, ones]
    guard (least ≤ n ∧ n ≤ most)
    return (n, rest)
  | _ => none

/-- Takes off a date. -/
def takeDate? : List Char → Option (List Char)
  | a :: b :: c :: d :: '-' :: rest => do
    let year ← Decimal.toNat? [a, b, c, d]
    let (month, '-' :: rest) ← twoDigits? 1 12 rest | none
    let (_, rest) ← twoDigits? 1 (Date.daysIn year month) rest
    return rest
  | _ => none

/-- Takes off a time. -/
def takeTime? (text : List Char) : Option (List Char) := do
  let (_, ':' :: rest) ← twoDigits? 0 23 text | none
  let (_, ':' :: rest) ← twoDigits? 0 59 rest | none
  let (_, rest) ← twoDigits? 0 60 rest
  match rest with
  | '.' :: rest =>
    let decimals := rest.takeWhile Char.isDigit
    guard (decimals ≠ [])
    return rest.drop decimals.length
  | rest => return rest

/-- Whether a text is a distance from universal time, in hours and minutes if there is one. -/
def isOffset : List Char → Bool
  | ['Z'] => true
  | ['z'] => true
  | sign :: rest =>
    (sign = '+' || sign = '-') && match twoDigits? 0 23 rest with
      | some (_, ':' :: rest) => (twoDigits? 0 59 rest).any fun (_, rest) => rest.isEmpty
      | _ => false
  | [] => false

def isDate (text : List Char) : Bool := takeDate? text = some []

/-- Whether a text is a time as it stands behind a date. -/
def isTime (text : List Char) : Bool := (takeTime? text).any fun rest => rest.isEmpty || isOffset rest

/-- Whether a word is a date, a time or both. -/
def isMoment (text : List Char) : Bool :=
  match takeDate? text with
  | some [] => true
  | some ('T' :: time) => isTime time
  | some ('t' :: time) => isTime time
  | some _ => false
  | none => takeTime? text = some []

end DriverIndex.Toml.Moment
