import DriverIndex.Text.Decimal

/-!
# JSON documents

The part of JSON the library writes: strings, integers, lists and records whose fields keep their order. A document is written over several lines, two blanks for each level it is nested, or on one line without any blank.
-/

namespace DriverIndex.Text

inductive Json where
  | text (s : String)
  | number (i : Int)
  | list (items : List Json)
  | record (fields : List (String × Json))

namespace Json

def hexDigit (n : Nat) : Char := Char.ofNat (if n < 10 then '0'.toNat + n else 'a'.toNat + (n - 10))

/-- A character as it stands inside a string: quotes, backslashes and control characters are escaped, all else is itself. -/
def escape (c : Char) : List Char :=
  if c = '"' then ['\\', '"']
  else if c = '\\' then ['\\', '\\']
  else if c = '\n' then ['\\', 'n']
  else if c = '\r' then ['\\', 'r']
  else if c = '\t' then ['\\', 't']
  else if c = '\x08' then ['\\', 'b']
  else if c = '\x0C' then ['\\', 'f']
  else if c.toNat < 0x20 then ['\\', 'u', '0', '0', hexDigit (c.toNat / 16), hexDigit (c.toNat % 16)]
  else [c]

def quote (s : String) : List Char := '"' :: s.toList.flatMap escape ++ ['"']

/-- The start of a line that is nested `depth` deep. -/
def newLine (depth : Nat) : List Char := '\n' :: List.replicate (2 * depth) ' '

mutual

/-- A document that stands `depth` deep, over several lines. -/
def prettyAt (depth : Nat) : Json → List Char
  | .text s => quote s
  | .number i => Decimal.ofInt i
  | .list [] => ['[', ']']
  | .list (item :: items) =>
    '[' :: newLine (depth + 1) ++ prettyAt (depth + 1) item ++ prettyItems depth items ++ newLine depth ++ [']']
  | .record [] => ['{', '}']
  | .record ((name, value) :: fields) =>
    '{' :: newLine (depth + 1) ++ quote name ++ [':', ' '] ++ prettyAt (depth + 1) value ++ prettyFields depth fields
      ++ newLine depth ++ ['}']

/-- The items of a list after the first. -/
def prettyItems (depth : Nat) : List Json → List Char
  | [] => []
  | item :: items => ',' :: newLine (depth + 1) ++ prettyAt (depth + 1) item ++ prettyItems depth items

/-- The fields of a record after the first. -/
def prettyFields (depth : Nat) : List (String × Json) → List Char
  | [] => []
  | (name, value) :: fields =>
    ',' :: newLine (depth + 1) ++ quote name ++ [':', ' '] ++ prettyAt (depth + 1) value ++ prettyFields depth fields

end

/-- The document over several lines. -/
def pretty (document : Json) : List Char := prettyAt 0 document

mutual

/-- The document on one line. -/
def compact : Json → List Char
  | .text s => quote s
  | .number i => Decimal.ofInt i
  | .list items => '[' :: compactItems items ++ [']']
  | .record fields => '{' :: compactFields fields ++ ['}']

def compactItems : List Json → List Char
  | [] => []
  | [item] => compact item
  | item :: items => compact item ++ ',' :: compactItems items

def compactFields : List (String × Json) → List Char
  | [] => []
  | [(name, value)] => quote name ++ ':' :: compact value
  | (name, value) :: fields => quote name ++ ':' :: compact value ++ ',' :: compactFields fields

end

end Json

end DriverIndex.Text
