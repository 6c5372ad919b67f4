import DriverIndex.Proofs.Text.Decimal
import DriverIndex.Text.Digit
import DriverIndex.Text.Json
import Mathlib.Data.List.Forall2

/-!
# The grammar of JSON

Which texts are JSON documents of strings, integers, lists and records, and of which document, said without the writer and without a reader. Between the parts of a document there may be gaps; a character of a string may be written in several ways, and an integer has no needless zero at its front. The writer keeps to this grammar: what it writes for a document is a text of that document, at any depth.
-/

namespace DriverIndex.Text.Json

/-- Whether a character may stand between the parts of a document. -/
def isGap (c : Char) : Bool := c = ' ' || c = '\t' || c = '\n' || c = '\r'

/-- A piece with gaps before and behind it, or none. -/
def Pads (inner piece : List Char) : Prop :=
  ∃ front back, (∀ c ∈ front, isGap c = true) ∧ (∀ c ∈ back, isGap c = true) ∧ piece = front ++ (inner ++ back)

/-! ### Strings -/

/-- The letters that can stand behind a backslash, each with the character that it means there. -/
def escapes : List (Char × Char) := [
  ('"', '"'), ('\\', '\\'), ('/', '/'), ('b', '\x08'), ('f', '\x0C'), ('n', '\n'), ('r', '\r'), ('t', '\t')]

/-- Four hexadecimal digits, and the number that they are written for. -/
def IsCode (digits : List Char) (code : Nat) : Prop :=
  digits.length = 4 ∧ (∀ c ∈ digits, Digit.isOf 16 c = true) ∧ Digit.number 16 digits = code

/-- A way to write a character inside a string. -/
inductive Spells : List Char → Char → Prop where
  | plain {c : Char} (hquote : c ≠ '"') (hbackslash : c ≠ '\\') (hcontrol : 0x20 ≤ c.toNat) : Spells [c] c
  | letter {letter c : Char} (hescape : (letter, c) ∈ escapes) : Spells ['\\', letter] c
  | code {digits : List Char} {c : Char} (hdigits : IsCode digits c.toNat) : Spells ('\\' :: 'u' :: digits) c
  /-- A code point beyond four digits is written as the two halves of a surrogate pair. -/
  | pair {high low : List Char} {c : Char} (hbeyond : 0x10000 ≤ c.toNat)
      (hhigh : IsCode high (0xD800 + (c.toNat - 0x10000) / 0x400))
      (hlow : IsCode low (0xDC00 + (c.toNat - 0x10000) % 0x400)) :
      Spells ('\\' :: 'u' :: (high ++ '\\' :: 'u' :: low)) c

/-- The characters of a string in quotes, one spelling after the other. -/
def Quotes (text : List Char) (s : String) : Prop :=
  ∃ spellings, List.Forall₂ Spells spellings s.toList ∧ text = '"' :: (spellings.flatten ++ ['"'])

/-! ### Integers -/

/-- Digits without a needless zero at their front. -/
def IsPlain (digits : List Char) : Prop := Decimal.IsNumeral digits ∧ (digits.head? = some '0' → digits = ['0'])

inductive IsInteger : List Char → Int → Prop where
  | unsigned {digits : List Char} (hdigits : IsPlain digits) : IsInteger digits (Nat.ofDigitChars 10 digits 0)
  | negative {digits : List Char} (hdigits : IsPlain digits) :
      IsInteger ('-' :: digits) (-Nat.ofDigitChars 10 digits 0)

/-! ### Documents -/

/-- What a piece of a text can be a text of. -/
inductive Part where
  | value (document : Json)
  /-- The items of a list that is not empty. -/
  | items (items : List Json)
  /-- The fields of a record that is not empty. -/
  | fields (fields : List (String × Json))

/-- A piece of a text is written for a part of a document. -/
inductive Denotes : List Char → Part → Prop where
  | text {piece : List Char} {s : String} (hquotes : Quotes piece s) : Denotes piece (.value (.text s))
  | number {piece : List Char} {i : Int} (hinteger : IsInteger piece i) : Denotes piece (.value (.number i))
  | emptyList {gap : List Char} (hgap : ∀ c ∈ gap, isGap c = true) : Denotes ('[' :: (gap ++ [']'])) (.value (.list []))
  | list {inside : List Char} {items : List Json} (hitems : Denotes inside (.items items)) :
      Denotes ('[' :: (inside ++ [']'])) (.value (.list items))
  | emptyRecord {gap : List Char} (hgap : ∀ c ∈ gap, isGap c = true) :
      Denotes ('{' :: (gap ++ ['}'])) (.value (.record []))
  | record {inside : List Char} {fields : List (String × Json)} (hfields : Denotes inside (.fields fields)) :
      Denotes ('{' :: (inside ++ ['}'])) (.value (.record fields))
  | lastItem {inner piece : List Char} {item : Json} (hitem : Denotes inner (.value item)) (hpads : Pads inner piece) :
      Denotes piece (.items [item])
  | item {inner piece rest : List Char} {item : Json} {items : List Json} (hitem : Denotes inner (.value item))
      (hpads : Pads inner piece) (hrest : Denotes rest (.items items)) :
      Denotes (piece ++ ',' :: rest) (.items (item :: items))
  | lastField {quoted key inner piece : List Char} {name : String} {value : Json} (hname : Quotes quoted name)
      (hkey : Pads quoted key) (hvalue : Denotes inner (.value value)) (hpads : Pads inner piece) :
      Denotes (key ++ ':' :: piece) (.fields [(name, value)])
  | field {quoted key inner piece rest : List Char} {name : String} {value : Json} {fields : List (String × Json)}
      (hname : Quotes quoted name) (hkey : Pads quoted key) (hvalue : Denotes inner (.value value))
      (hpads : Pads inner piece) (hrest : Denotes rest (.fields fields)) :
      Denotes (key ++ ':' :: (piece ++ ',' :: rest)) (.fields ((name, value) :: fields))

/-- A text is a text of a document, perhaps with gaps around it. -/
def IsDocument (text : List Char) (document : Json) : Prop :=
  ∃ inner, Denotes inner (.value document) ∧ Pads inner text

/-! ### What is written -/

theorem isGap_of_mem_newLine {depth : Nat} {c : Char} (hmem : c ∈ newLine depth) : isGap c = true := by
  rw [newLine, List.mem_cons, List.mem_replicate] at hmem
  rcases hmem with rfl | ⟨-, rfl⟩ <;> rfl

theorem pads_newLine (depth : Nat) (inner : List Char) : Pads inner (newLine depth ++ inner) :=
  ⟨newLine depth, [], fun _ => isGap_of_mem_newLine, by simp, by rw [List.append_nil]⟩

theorem pads_newLines (first last : Nat) (inner : List Char) : Pads inner (newLine first ++ (inner ++ newLine last)) :=
  ⟨newLine first, newLine last, fun _ => isGap_of_mem_newLine, fun _ => isGap_of_mem_newLine, rfl⟩

theorem isOf_hexDigit : ∀ n < 16, Digit.isOf 16 (hexDigit n) = true := by decide

theorem value?_hexDigit : ∀ n < 16, Digit.value? (hexDigit n) = some n := by decide

theorem isCode_control {n : Nat} (hcontrol : n < 0x20) : IsCode ['0', '0', hexDigit (n / 16), hexDigit (n % 16)] n := by
  refine ⟨rfl, ?_, ?_⟩
  · have hzero : Digit.isOf 16 '0' = true := by decide
    simp [hzero, isOf_hexDigit (n / 16) (by omega), isOf_hexDigit (n % 16) (by omega)]
  · have hzero : Digit.value? '0' = some 0 := by decide
    simp only [Digit.number, List.foldl_cons, List.foldl_nil, hzero, value?_hexDigit (n / 16) (by omega),
      value?_hexDigit (n % 16) (by omega), Option.getD_some]
    omega

/-- Every character is escaped in one of the ways that the grammar allows. -/
theorem spells_escape (c : Char) : Spells (escape c) c := by
  rw [escape]
  split_ifs with hquote hbackslash hnewline hreturn htab hbackspace hfeed hcontrol
  · rw [hquote]
    exact .letter (by decide)
  · rw [hbackslash]
    exact .letter (by decide)
  · rw [hnewline]
    exact .letter (by decide)
  · rw [hreturn]
    exact .letter (by decide)
  · rw [htab]
    exact .letter (by decide)
  · rw [hbackspace]
    exact .letter (by decide)
  · rw [hfeed]
    exact .letter (by decide)
  · exact .code (isCode_control hcontrol)
  · exact .plain hquote hbackslash (Nat.not_lt.1 hcontrol)

theorem quotes_quote (s : String) : Quotes (quote s) s := by
  refine ⟨s.toList.map escape, ?_, ?_⟩
  · rw [List.forall₂_map_left_iff, List.forall₂_same]
    exact fun c _ => spells_escape c
  · rw [quote, List.flatMap_def]
    rfl

theorem isPlain_ofNat (n : Nat) : IsPlain (Decimal.ofNat n) :=
  ⟨Decimal.isNumeral_ofNat n, Decimal.ofNat_eq_zero_of_head?⟩

theorem isInteger_ofInt (i : Int) : IsInteger (Decimal.ofInt i) i := by
  obtain ⟨n, htext, hvalue⟩ | ⟨n, htext, hvalue⟩ := Decimal.ofInt_cases i
  · rw [htext, hvalue]
    exact .unsigned (isPlain_ofNat n)
  · rw [htext, hvalue]
    exact .negative (isPlain_ofNat n)

/-! The writer goes down a document, with its items and fields apart from it; so does the proof. -/

mutual

theorem denotes_prettyAt (depth : Nat) : (document : Json) → Denotes (prettyAt depth document) (.value document)
  | .text s => .text (quotes_quote s)
  | .number i => .number (isInteger_ofInt i)
  | .list [] => .emptyList fun _ hmem => absurd hmem List.not_mem_nil
  | .list (item :: items) => by
    have hlist := Denotes.list (denotes_prettyItems depth items (denotes_prettyAt (depth + 1) item))
    simpa only [prettyAt, List.cons_append, List.append_assoc] using hlist
  | .record [] => .emptyRecord fun _ hmem => absurd hmem List.not_mem_nil
  | .record ((name, value) :: fields) => by
    have hrecord := Denotes.record (denotes_prettyFields depth fields name (denotes_prettyAt (depth + 1) value))
    simpa only [prettyAt, List.cons_append, List.nil_append, List.append_assoc] using hrecord

/-- An item on a line of its own, the items after it, and the start of the line with the bracket behind them. -/
theorem denotes_prettyItems (depth : Nat) : (items : List Json) → ∀ {inner : List Char} {item : Json},
    Denotes inner (.value item) →
    Denotes (newLine (depth + 1) ++ (inner ++ (prettyItems depth items ++ newLine depth))) (.items (item :: items))
  | [], _, _, hitem => .lastItem hitem (pads_newLines _ _ _)
  | next :: items, _, _, hitem => by
    have hrest := denotes_prettyItems depth items (denotes_prettyAt (depth + 1) next)
    have hitems := Denotes.item hitem (pads_newLine (depth + 1) _) hrest
    simpa only [prettyItems, List.cons_append, List.append_assoc] using hitems

theorem denotes_prettyFields (depth : Nat) : (fields : List (String × Json)) → (name : String) →
    ∀ {inner : List Char} {value : Json}, Denotes inner (.value value) →
    Denotes (newLine (depth + 1) ++ (quote name ++ ':' :: ' ' :: (inner ++ (prettyFields depth fields ++ newLine depth))))
      (.fields ((name, value) :: fields))
  | [], name, inner, _, hvalue => by
    have hpads : Pads inner (' ' :: (inner ++ newLine depth)) :=
      ⟨[' '], newLine depth, by simp [isGap], fun _ => isGap_of_mem_newLine, rfl⟩
    have hfield := Denotes.lastField (quotes_quote name) (pads_newLine (depth + 1) _) hvalue hpads
    simpa only [prettyFields, List.nil_append, List.append_assoc] using hfield
  | (next, second) :: fields, name, inner, _, hvalue => by
    have hpads : Pads inner (' ' :: inner) := ⟨[' '], [], by simp [isGap], by simp, by simp⟩
    have hrest := denotes_prettyFields depth fields next (denotes_prettyAt (depth + 1) second)
    have hfields := Denotes.field (quotes_quote name) (pads_newLine (depth + 1) _) hvalue hpads hrest
    simpa only [prettyFields, List.cons_append, List.nil_append, List.append_assoc] using hfields

end

/-- What is written for a document is a text of that document, also with a line end behind it. -/
theorem isDocument_pretty (document : Json) : IsDocument (pretty document ++ ['\n']) document :=
  ⟨pretty document, denotes_prettyAt 0 document, [], ['\n'], by simp, by simp [isGap], rfl⟩

end DriverIndex.Text.Json
