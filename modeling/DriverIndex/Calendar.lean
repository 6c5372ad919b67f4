import DriverIndex.Text.Decimal

/-!
# Calendar dates

Days of the proleptic Gregorian calendar, and the form in which a generated file shows one: day, month and year with dashes between them. A year outside 0 to 9999 carries its sign.
-/

namespace DriverIndex

open Text (Decimal.ofNat)

structure Date where
  year : Int
  month : Nat
  day : Nat
deriving DecidableEq

namespace Date

/-- Whether February has 29 days. -/
def isLeapYear (year : Nat) : Bool := year % 4 = 0 && (year % 100 ≠ 0 || year % 400 = 0)

/-- The number of days of a month. -/
def daysIn (year month : Nat) : Nat :=
  if month = 2 then (if isLeapYear year then 29 else 28)
  else if month ∈ [4, 6, 9, 11] then 30
  else 31

/-- A number with zeros in front, up to a width. -/
def padded (width n : Nat) : List Char :=
  let digits := Decimal.ofNat n
  List.replicate (width - digits.length) '0' ++ digits

def yearText (year : Int) : List Char :=
  if 0 ≤ year ∧ year ≤ 9999 then padded 4 year.toNat
  else (if year < 0 then '-' else '+') :: padded 4 year.natAbs

/-- Two digits of the day, two of the month and at least four of the year. -/
def text (date : Date) : String :=
  String.ofList (padded 2 date.day ++ '-' :: padded 2 date.month ++ '-' :: yearText date.year)

end Date

end DriverIndex
