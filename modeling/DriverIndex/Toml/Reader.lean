import DriverIndex.Toml.Moment
import DriverIndex.Toml.Number
import DriverIndex.Toml.Value

/-!
# Reading configuration documents

A reader for TOML 1.0 without arrays of tables. Every function takes the text that is left and gives back what it read with the text behind it, or nothing if the text is not in the notation. A loop takes a bound on its steps; every step uses up a character, so the length of the document is enough.
-/

namespace DriverIndex.Toml.Reader

def isBlank (c : Char) : Bool := c = ' ' || c = '\t'

/-- Whether a character may stand in a comment or a literal: a tab, or no control character of ASCII. -/
def isPlain (c : Char) : Bool := c = '\t' || (' ' ≤ c && c ≠ '\x7F')

def isKeyChar (c : Char) : Bool := c.isAlphanum || c = '_' || c = '-'

def isWordChar (c : Char) : Bool := isKeyChar c || c = '+' || c = '.' || c = ':'

def skipBlanks (text : List Char) : List Char := text.dropWhile isBlank

def newLine? : List Char → Option (List Char)
  | '\n' :: rest => some rest
  | '\r' :: '\n' :: rest => some rest
  | _ => none

def skipComment : List Char → List Char
  | '#' :: rest => rest.dropWhile isPlain
  | text => text

/-- The next line, if nothing but blanks and a comment stands before it. -/
def lineEnd? (text : List Char) : Option (List Char) :=
  match skipComment (skipBlanks text) with
  | [] => some []
  | rest => newLine? rest

def skipLines : List Char → List Char
  | ' ' :: rest => skipLines rest
  | '\t' :: rest => skipLines rest
  | '\n' :: rest => skipLines rest
  | '\r' :: '\n' :: rest => skipLines rest
  | text => text

def skipLayout : Nat → List Char → List Char
  | 0, text => text
  | fuel + 1, text =>
    match skipLines text with
    | '#' :: rest => skipLayout fuel (rest.dropWhile isPlain)
    | rest => rest

/-- The character that a number of hexadecimal digits stands for. -/
def hexChar? (count : Nat) (text : List Char) : Option (Char × List Char) := do
  let digits := text.take count
  guard (digits.length = count)
  return (← Text.Digit.character? digits, text.drop count)

/-- What stands behind a backslash. -/
def escape? : List Char → Option (Char × List Char)
  | 'b' :: rest => some ('\x08', rest)
  | 't' :: rest => some ('\t', rest)
  | 'n' :: rest => some ('\n', rest)
  | 'f' :: rest => some ('\x0C', rest)
  | 'r' :: rest => some ('\r', rest)
  | '"' :: rest => some ('"', rest)
  | '\\' :: rest => some ('\\', rest)
  | 'u' :: rest => hexChar? 4 rest
  | 'U' :: rest => hexChar? 8 rest
  | _ => none

/-- The rest of a text in double quotes; what was read before comes first, backwards. -/
def quoted? : Nat → List Char → List Char → Option (List Char × List Char)
  | 0, _, _ => none
  | _ + 1, done, '"' :: rest => some (done.reverse, rest)
  | fuel + 1, done, '\\' :: rest => do
    let (c, rest) ← escape? rest
    quoted? fuel (c :: done) rest
  | fuel + 1, done, c :: rest => if isPlain c then quoted? fuel (c :: done) rest else none
  | _ + 1, _, [] => none

/-- The rest of a text in three double quotes, of which up to two more may stand before the last three. -/
def quotedBlock? : Nat → List Char → List Char → Option (List Char × List Char)
  | 0, _, _ => none
  | _ + 1, done, '"' :: '"' :: '"' :: '"' :: '"' :: rest => some (done.reverse ++ ['"', '"'], rest)
  | _ + 1, done, '"' :: '"' :: '"' :: '"' :: rest => some (done.reverse ++ ['"'], rest)
  | _ + 1, done, '"' :: '"' :: '"' :: rest => some (done.reverse, rest)
  | fuel + 1, done, '\\' :: rest =>
    match newLine? (skipBlanks rest) with
    | some rest => quotedBlock? fuel done (skipLines rest)
    | none => do
      let (c, rest) ← escape? rest
      quotedBlock? fuel (c :: done) rest
  | fuel + 1, done, '\n' :: rest => quotedBlock? fuel ('\n' :: done) rest
  | fuel + 1, done, '\r' :: '\n' :: rest => quotedBlock? fuel ('\n' :: done) rest
  | fuel + 1, done, c :: rest => if isPlain c then quotedBlock? fuel (c :: done) rest else none
  | _ + 1, _, [] => none

def literal? (text : List Char) : Option (List Char × List Char) :=
  let body := text.takeWhile fun c => isPlain c && c ≠ '\''
  match text.drop body.length with
  | '\'' :: rest => some (body, rest)
  | _ => none

def literalBlock? : Nat → List Char → List Char → Option (List Char × List Char)
  | 0, _, _ => none
  | _ + 1, done, '\'' :: '\'' :: '\'' :: '\'' :: '\'' :: rest => some (done.reverse ++ ['\'', '\''], rest)
  | _ + 1, done, '\'' :: '\'' :: '\'' :: '\'' :: rest => some (done.reverse ++ ['\''], rest)
  | _ + 1, done, '\'' :: '\'' :: '\'' :: rest => some (done.reverse, rest)
  | fuel + 1, done, '\n' :: rest => literalBlock? fuel ('\n' :: done) rest
  | fuel + 1, done, '\r' :: '\n' :: rest => literalBlock? fuel ('\n' :: done) rest
  | fuel + 1, done, c :: rest => if isPlain c then literalBlock? fuel (c :: done) rest else none
  | _ + 1, _, [] => none

/-- The text of a block without the line end right behind its quotes. -/
def blockStart (text : List Char) : List Char := (newLine? text).getD text

def key? (fuel : Nat) : List Char → Option (String × List Char)
  | '"' :: rest => (quoted? fuel [] rest).map fun (key, rest) => (String.ofList key, rest)
  | '\'' :: rest => (literal? rest).map fun (key, rest) => (String.ofList key, rest)
  | text =>
    let key := text.takeWhile isKeyChar
    if key.isEmpty then none else some (String.ofList key, text.drop key.length)

/-- A key and the keys joined to it by dots, with the blanks around each. -/
def keys? : Nat → List Char → Option (List String × List Char)
  | 0, _ => none
  | fuel + 1, text => do
    let (key, rest) ← key? (fuel + 1) (skipBlanks text)
    match skipBlanks rest with
    | '.' :: rest =>
      let (keys, rest) ← keys? fuel rest
      return (key :: keys, rest)
    | rest => return ([key], rest)

/-- The most brackets that may be open at once in a value, and the most keys that may be joined by dots. -/
def deepest : Nat := 79

def dottedKey? (fuel : Nat) (text : List Char) : Option (List String × List Char) := do
  let (keys, rest) ← keys? fuel text
  guard (keys.length ≤ deepest)
  return (keys, rest)

/-- A value without any quotes or brackets. A blank belongs to it only between a date and a time. -/
def word? (text : List Char) : Option (Value × List Char) :=
  let (word, rest) := text.span isWordChar
  let (next, behind) := (rest.drop 1).span isWordChar
  let name := String.ofList word
  if name = "true" then some (.flag true, rest)
  else if name = "false" then some (.flag false, rest)
  else if rest.head? = some ' ' ∧ Moment.isDate word ∧ Moment.isTime next then
    some (.bare (String.ofList (word ++ ' ' :: next)), behind)
  else if Number.isNumber word ∨ Moment.isMoment word then some (.bare name, rest)
  else none

mutual

/-- A value; `room` is the number of brackets that may still be opened. -/
def value? : Nat → Nat → List Char → Option (Value × List Char)
  | 0, _, _ => none
  | fuel + 1, _, '"' :: '"' :: '"' :: rest =>
    (quotedBlock? (fuel + 1) [] (blockStart rest)).map fun (text, rest) => (.text (String.ofList text), rest)
  | fuel + 1, _, '"' :: rest => (quoted? (fuel + 1) [] rest).map fun (text, rest) => (.text (String.ofList text), rest)
  | fuel + 1, _, '\'' :: '\'' :: '\'' :: rest =>
    (literalBlock? (fuel + 1) [] (blockStart rest)).map fun (text, rest) => (.text (String.ofList text), rest)
  | _ + 1, _, '\'' :: rest => (literal? rest).map fun (text, rest) => (.text (String.ofList text), rest)
  | fuel + 1, room + 1, '[' :: rest =>
    (items? fuel room [] (skipLayout fuel rest)).map fun (values, rest) => (.list values, rest)
  | fuel + 1, room + 1, '{' :: rest =>
    match skipBlanks rest with
    | '}' :: rest => some (.table .braces [], rest)
    | rest => (pairs? fuel room [] rest).map fun (entries, rest) => (.table .braces entries, rest)
  | _ + 1, _, text => word? text

/-- The rest of a list, which may end in a comma. -/
def items? : Nat → Nat → List Value → List Char → Option (List Value × List Char)
  | 0, _, _, _ => none
  | _ + 1, _, done, ']' :: rest => some (done.reverse, rest)
  | fuel + 1, room, done, text => do
    let (value, rest) ← value? fuel room text
    match skipLayout fuel rest with
    | ',' :: rest => items? fuel room (value :: done) (skipLayout fuel rest)
    | ']' :: rest => return ((value :: done).reverse, rest)
    | _ => none

/-- The rest of a table in braces, which holds one more pair at least. -/
def pairs? : Nat → Nat → Entries → List Char → Option (Entries × List Char)
  | 0, _, _, _ => none
  | fuel + 1, room, entries, text => do
    let (keys, rest) ← dottedKey? fuel text
    match rest with
    | '=' :: rest =>
      let (value, rest) ← value? fuel room (skipBlanks rest)
      let entries ← entries.assign? value keys
      match skipBlanks rest with
      | ',' :: rest => pairs? fuel room entries rest
      | '}' :: rest => return (entries, rest)
      | _ => none
    | _ => none

end

/-- The rest of a document; `table` is the header that the next pair stands under. -/
def lines? : Nat → List String → Entries → List Char → Option Entries
  | 0, _, _, _ => none
  | fuel + 1, table, entries, text =>
    match skipBlanks text with
    | [] => some entries
    | '[' :: rest => do
      let (keys, rest) ← dottedKey? fuel rest
      match rest with
      | ']' :: rest =>
        let entries ← entries.openTable? keys
        lines? fuel keys entries (← lineEnd? rest)
      | _ => none
    | rest =>
      match lineEnd? rest with
      | some rest => lines? fuel table entries rest
      | none => do
        let (keys, rest) ← dottedKey? fuel rest
        match rest with
        | '=' :: rest =>
          let (value, rest) ← value? fuel deepest (skipBlanks rest)
          let entries ← entries.assignUnder? value keys table
          lines? fuel table entries (← lineEnd? rest)
        | _ => none

end Reader

/-- Reads a document, which may start with a byte order mark. -/
def read? (document : List Char) : Option Entries :=
  let text := if document.head? = some '\uFEFF' then document.drop 1 else document
  Reader.lines? (2 * text.length + 2) [] [] text

end DriverIndex.Toml
