import DriverIndex.Text.Decimal
import Mathlib.Data.List.Basic

/-!
# Decimal texts of numbers

The text of a number holds digits only and tells which number it is. What can be read as an integer is a sign, or none, before one digit or more; this is said here without the reader, and the text of an integer is one such way to write it.
-/

namespace DriverIndex.Text.Decimal

theorem isDigit_of_mem_ofNat {n : Nat} {c : Char} (hmem : c ∈ ofNat n) : c.isDigit = true :=
  Nat.isDigit_of_mem_toDigits (by decide) (by decide) hmem

theorem ofNat_injective : Function.Injective ofNat := by
  intro m n heq
  have hread := congrArg (Nat.ofDigitChars 10 · 0) heq
  simpa only [ofNat, Nat.ofDigitChars_ten_toDigits] using hread

theorem toList_natText (n : Nat) : (natText n).toList = ofNat n := String.toList_ofList

theorem natText_injective : Function.Injective natText := by
  intro m n heq
  rw [← String.toList_inj, toList_natText, toList_natText] at heq
  exact ofNat_injective heq

/-- No text of a number begins with a zero but that of zero itself. -/
theorem ofNat_eq_zero_of_head? {n : Nat} (hzero : (ofNat n).head? = some '0') : ofNat n = ['0'] := by
  induction n using Nat.strongRecOn with
  | ind n ih =>
    by_cases hsmall : n < 10
    · have hdigit : ofNat n = [n.digitChar] := Nat.toDigits_of_lt_base hsmall
      rw [hdigit, List.head?_cons, Option.some.injEq] at hzero
      rw [hdigit, hzero]
    · have hsplit : ofNat n = ofNat (n / 10) ++ [(n % 10).digitChar] :=
        Nat.toDigits_of_base_le (by decide) (Nat.not_lt.1 hsmall)
      have hne : ofNat (n / 10) ≠ [] := Nat.toDigits_ne_nil
      rw [hsplit, List.head?_append_of_ne_nil _ hne] at hzero
      have hquotient : n / 10 = 0 := ofNat_injective (ih (n / 10) (by omega) hzero)
      omega

/-! ### Reading integers -/

/-- One digit or more. -/
def IsNumeral (digits : List Char) : Prop := digits ≠ [] ∧ ∀ c ∈ digits, c.isDigit = true

/-- A decimal text of an integer: a numeral, with a sign of either kind before it or without. -/
inductive Denotes : List Char → Int → Prop where
  | unsigned {digits : List Char} (hdigits : IsNumeral digits) : Denotes digits (Nat.ofDigitChars 10 digits 0)
  | positive {digits : List Char} (hdigits : IsNumeral digits) :
      Denotes ('+' :: digits) (Nat.ofDigitChars 10 digits 0)
  | negative {digits : List Char} (hdigits : IsNumeral digits) :
      Denotes ('-' :: digits) (-Nat.ofDigitChars 10 digits 0)

theorem IsNumeral.not_sign {c : Char} {digits : List Char} (hdigits : IsNumeral (c :: digits)) : c ≠ '+' ∧ c ≠ '-' := by
  have hc := hdigits.2 c List.mem_cons_self
  constructor <;> rintro rfl <;> revert hc <;> decide

theorem map_toNat?_eq_some_iff {digits : List Char} {sign : Nat → Int} {value : Int} :
    (toNat? digits).map sign = some value ↔ IsNumeral digits ∧ sign (Nat.ofDigitChars 10 digits 0) = value := by
  have hnumber : digits.foldl (fun number c => number * 10 + digitValue c) 0 = Nat.ofDigitChars 10 digits 0 := by
    simp only [Nat.ofDigitChars_eq_foldl, digitValue, Nat.mul_comm]
  rw [toNat?, hnumber, IsNumeral, ← List.all_eq_true]
  split_ifs with hdigits
  · simp [hdigits]
  · simp only [hdigits, Option.map_none, reduceCtorEq, false_and]

theorem toInt?_of_isNumeral {digits : List Char} (hdigits : IsNumeral digits) :
    toInt? digits = (toNat? digits).map Int.ofNat := by
  cases digits with
  | nil => exact absurd rfl hdigits.1
  | cons c digits =>
    obtain ⟨hplus, hminus⟩ := hdigits.not_sign
    rw [toInt?.eq_def]
    split
    · rename_i heq
      exact absurd (List.cons.inj heq).1 hplus
    · rename_i heq
      exact absurd (List.cons.inj heq).1 hminus
    · rfl

/-- What is read as an integer, and as which. -/
theorem toInt?_eq_some_iff {text : List Char} {value : Int} : toInt? text = some value ↔ Denotes text value := by
  constructor
  · intro hread
    rw [toInt?.eq_def] at hread
    split at hread
    · obtain ⟨hdigits, rfl⟩ := map_toNat?_eq_some_iff.1 hread
      exact .positive hdigits
    · obtain ⟨hdigits, rfl⟩ := map_toNat?_eq_some_iff.1 hread
      exact .negative hdigits
    · obtain ⟨hdigits, rfl⟩ := map_toNat?_eq_some_iff.1 hread
      exact .unsigned hdigits
  · intro hdenotes
    cases hdenotes with
    | unsigned hdigits =>
      rw [toInt?_of_isNumeral hdigits]
      exact map_toNat?_eq_some_iff.2 ⟨hdigits, rfl⟩
    | positive hdigits => exact map_toNat?_eq_some_iff.2 ⟨hdigits, rfl⟩
    | negative hdigits => exact map_toNat?_eq_some_iff.2 ⟨hdigits, rfl⟩

theorem isNumeral_ofNat (n : Nat) : IsNumeral (ofNat n) :=
  ⟨Nat.toDigits_ne_nil, fun _ hmem => isDigit_of_mem_ofNat hmem⟩

/-- The text of an integer is that of a number, perhaps behind a minus sign. -/
theorem ofInt_cases (i : Int) : (∃ n, ofInt i = ofNat n ∧ i = Nat.ofDigitChars 10 (ofNat n) 0) ∨
    ∃ n, ofInt i = '-' :: ofNat n ∧ i = -Nat.ofDigitChars 10 (ofNat n) 0 := by
  have hvalue : Nat.ofDigitChars 10 (ofNat i.natAbs) 0 = i.natAbs := Nat.ofDigitChars_ten_toDigits
  by_cases hnegative : i < 0
  · exact .inr ⟨i.natAbs, if_pos hnegative, by omega⟩
  · exact .inl ⟨i.natAbs, if_neg hnegative, by omega⟩

/-- The text of an integer is written for that integer. -/
theorem denotes_ofInt (i : Int) : Denotes (ofInt i) i := by
  obtain ⟨n, htext, hvalue⟩ | ⟨n, htext, hvalue⟩ := ofInt_cases i
  · rw [htext, hvalue]
    exact .unsigned (isNumeral_ofNat n)
  · rw [htext, hvalue]
    exact .negative (isNumeral_ofNat n)

end DriverIndex.Text.Decimal
