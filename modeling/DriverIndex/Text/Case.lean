import DriverIndex.Text.CaseTable

/-!
# Letter case

Upper and lower case of whole texts, by the full mappings of Unicode: one character may become several, and a capital sigma in lower case depends on whether it ends a word.
-/

namespace DriverIndex.Text

/-- The image of a code point under the first row that covers it. -/
def rowImage? (rows : List (Nat × Nat × Nat × Nat)) (code : Nat) : Option Nat :=
  rows.findSome? fun (first, last, step, image) =>
    if first ≤ code ∧ code ≤ last ∧ (code - first) % step = 0 then some (image + (code - first)) else none

/-- The characters that a case mapping makes of one character. -/
def mapCase (rows : List (Nat × Nat × Nat × Nat)) (expansions : List (Nat × List Nat)) (c : Char) : List Char :=
  match rowImage? rows c.toNat with
  | some image => [Char.ofNat image]
  | none => match expansions.lookup c.toNat with
    | some images => images.map Char.ofNat
    | none => [c]

def upperChar : Char → List Char := mapCase CaseTable.upperRows CaseTable.upperExpansions

/-- The lower case of a character that stands alone. -/
def lowerChar : Char → List Char := mapCase CaseTable.lowerRows CaseTable.lowerExpansions

def hasProperty (ranges : List (Nat × Nat)) (c : Char) : Bool :=
  ranges.any fun (first, last) => first ≤ c.toNat && c.toNat ≤ last

def isCased : Char → Bool := hasProperty CaseTable.casedRanges

def isCaseIgnorable : Char → Bool := hasProperty CaseTable.ignorableRanges

/-- Whether a cased letter is the first character that counts. -/
def meetsCased (text : List Char) : Bool := ((text.dropWhile isCaseIgnorable).head?.map isCased).getD false

/-- Whether a letter ends a word: a cased letter stands before it and none after it. The text before it is given backwards. -/
def endsWord (before after : List Char) : Bool := meetsCased before && !meetsCased after

def upper (text : List Char) : List Char := text.flatMap upperChar

/-- Reads on with all that was read and its lower case, both backwards. -/
def lowerFrom (before done : List Char) : List Char → List Char
  | [] => done.reverse
  | c :: after =>
    let image := if c = 'Σ' then [if endsWord before after then 'ς' else 'σ'] else lowerChar c
    lowerFrom (c :: before) (image.reverse ++ done) after

def lower (text : List Char) : List Char := lowerFrom [] [] text

end DriverIndex.Text
