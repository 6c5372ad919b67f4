import DriverIndex.Proofs.Text.Json.Grammar

/-!
# Reading JSON documents

A reader for the documents of the grammar. Every function takes the text that is left and gives back what it read with the text behind it. The reader finds the document of every text that the grammar gives it, so no text is written for two documents. What makes this true is that the beginning of a text tells what it is written for, and that a number cannot go on behind its last digit.
-/

namespace DriverIndex.Text.Json

/-! ### Strings and integers -/

def skip (text : List Char) : List Char := text.dropWhile isGap

/-- The number that four hexadecimal digits at the start of a text are written for. -/
def code? (text : List Char) : Option (Nat × List Char) :=
  let digits := text.take 4
  if digits.length = 4 ∧ digits.all (Digit.isOf 16) then some (Digit.number 16 digits, text.drop 4) else none

/-- The character that is written as a code, or as the codes of the two halves of a surrogate pair. -/
def coded? (text : List Char) : Option (Char × List Char) := do
  let (code, rest) ← code? text
  if 0xD800 ≤ code ∧ code < 0xDC00 then
    match rest with
    | '\\' :: 'u' :: rest => do
      let (low, rest) ← code? rest
      if 0xDC00 ≤ low ∧ low < 0xE000 then
        some (Char.ofNat (0x10000 + (code - 0xD800) * 0x400 + (low - 0xDC00)), rest)
      else none
    | _ => none
  else if code.isValidChar then some (Char.ofNat code, rest) else none

/-- The character of a string at the start of a text. -/
def character? : List Char → Option (Char × List Char)
  | '\\' :: 'u' :: rest => coded? rest
  | '\\' :: letter :: rest => (escapes.lookup letter).map (·, rest)
  | c :: rest => if c = '"' ∨ c = '\\' ∨ c.toNat < 0x20 then none else some (c, rest)
  | [] => none

/-- The characters up to a closing quote, as many as `bound` at most. -/
def characters? : Nat → List Char → Option (List Char × List Char)
  | _, '"' :: rest => some ([], rest)
  | 0, _ => none
  | bound + 1, chars => do
    let (c, rest) ← character? chars
    let (s, rest) ← characters? bound rest
    return (c :: s, rest)

def quoted? : List Char → Option (String × List Char)
  | '"' :: rest => (characters? rest.length rest).map fun (s, rest) => (String.ofList s, rest)
  | _ => none

def numeral? (text : List Char) : Option (Nat × List Char) :=
  let digits := text.takeWhile Char.isDigit
  if digits = [] ∨ digits.head? = some '0' ∧ digits ≠ ['0'] then none
  else some (Nat.ofDigitChars 10 digits 0, text.dropWhile Char.isDigit)

def integer? : List Char → Option (Int × List Char)
  | '-' :: rest => (numeral? rest).map fun (n, rest) => (-n, rest)
  | chars => (numeral? chars).map fun (n, rest) => (n, rest)

/-! ### Documents -/

section Lists

variable {α : Type}

/-- Reads a part with gaps around it. -/
def padded? (part? : List Char → Option (α × List Char)) (text : List Char) : Option (α × List Char) :=
  (part? (skip text)).map fun (part, rest) => (part, skip rest)

/-- The entries up to a closing bracket, as many as `bound` at most, with commas between them. -/
def entries? (close : Char) (item? : List Char → Option (α × List Char)) :
    Nat → List Char → Option (List α × List Char)
  | 0, _ => none
  | bound + 1, chars => do
    match ← item? chars with
    | (entry, ',' :: rest) => do
      let (entries, rest) ← entries? close item? bound rest
      return (entry :: entries, rest)
    | (entry, c :: rest) => if c = close then some ([entry], rest) else none
    | (_, []) => none

/-- What stands behind an opening bracket: nothing but gaps, or entries. -/
def bracketed? (close : Char) (item? : List Char → Option (α × List Char)) (text : List Char) :
    Option (List α × List Char) :=
  if (skip text).head? = some close then some ([], (skip text).tail) else entries? close item? text.length text

end Lists

def field? (value? : List Char → Option (Json × List Char)) (text : List Char) :
    Option ((String × Json) × List Char) := do
  match ← padded? quoted? text with
  | (name, ':' :: rest) => do
    let (value, rest) ← padded? value? rest
    return ((name, value), rest)
  | _ => none

/-- The document at the start of a text, nested less than `bound` deep. -/
def value? : Nat → List Char → Option (Json × List Char)
  | 0, _ => none
  | bound + 1, chars =>
    match chars with
    | '"' :: _ => (quoted? chars).map fun (s, rest) => (.text s, rest)
    | '[' :: rest => (bracketed? ']' (padded? (value? bound)) rest).map fun (items, rest) => (.list items, rest)
    | '{' :: rest => (bracketed? '}' (field? (value? bound)) rest).map fun (fields, rest) => (.record fields, rest)
    | _ => (integer? chars).map fun (i, rest) => (.number i, rest)

/-- The document of a text. -/
def read? (text : List Char) : Option Json :=
  match padded? (value? (text.length + 1)) text with
  | some (document, []) => some document
  | _ => none

/-! ### What is read from strings and integers -/

variable {piece inner inside key quoted digits spelling : List Char} {c : Char} {s name : String} {document value : Json}

theorem skip_append {gap : List Char} (hgap : ∀ c ∈ gap, isGap c = true) (rest : List Char) :
    skip (gap ++ rest) = skip rest := List.dropWhile_append_of_pos hgap

theorem skip_cons_of_not_gap (hother : isGap c = false) (rest : List Char) : skip (c :: rest) = c :: rest :=
  List.dropWhile_cons_of_neg (by simp [hother])

theorem IsCode.code?_append {code : Nat} (hcode : IsCode digits code) (rest : List Char) :
    code? (digits ++ rest) = some (code, rest) := by
  obtain ⟨hlength, hhex, hnumber⟩ := hcode
  rw [code?, ← hlength, List.take_left, List.drop_left, hnumber]
  exact if_pos ⟨hlength.trans hlength.symm, List.all_eq_true.2 hhex⟩

theorem IsCode.coded?_append (hcode : IsCode digits c.toNat) (rest : List Char) :
    coded? (digits ++ rest) = some (c, rest) := by
  have hvalid : c.toNat.isValidChar := c.valid
  have hwhole : ¬(0xD800 ≤ c.toNat ∧ c.toNat < 0xDC00) := by
    rintro ⟨hlow, hhigh⟩
    rcases hvalid with hsmall | hlarge <;> omega
  rw [coded?, hcode.code?_append]
  simp [hwhole, hvalid]

theorem IsCode.coded?_pair {high low : List Char} {first second : Nat} (hhigh : IsCode high first)
    (hlow : IsCode low second) (hfirst : 0xD800 ≤ first ∧ first < 0xDC00) (hsecond : 0xDC00 ≤ second ∧ second < 0xE000)
    (hpair : 0x10000 + (first - 0xD800) * 0x400 + (second - 0xDC00) = c.toNat) (rest : List Char) :
    coded? (high ++ '\\' :: 'u' :: (low ++ rest)) = some (c, rest) := by
  rw [coded?, hhigh.code?_append]
  simp only [Option.bind_eq_bind, Option.bind_some]
  rw [if_pos hfirst, hlow.code?_append]
  simp only [Option.bind_some, hpair]
  simp [hsecond]

/-- However a character is written, it is read back. -/
theorem Spells.character?_append (hspells : Spells spelling c) (rest : List Char) :
    character? (spelling ++ rest) = some (c, rest) := by
  cases hspells with
  | plain hquote hbackslash hcontrol =>
    rw [List.singleton_append, character?.eq_def]
    split
    · rename_i heq
      exact absurd (List.cons.inj heq).1 hbackslash
    · rename_i heq
      exact absurd (List.cons.inj heq).1 hbackslash
    · rename_i heq
      obtain ⟨rfl, rfl⟩ := List.cons.inj heq
      exact if_neg (by simp [hquote, hbackslash, Nat.not_lt.2 hcontrol])
    · rename_i heq
      cases heq
  | letter hescape =>
    simp only [escapes, List.mem_cons, Prod.mk.injEq, List.not_mem_nil, or_false] at hescape
    rcases hescape with ⟨rfl, rfl⟩ | ⟨rfl, rfl⟩ | ⟨rfl, rfl⟩ | ⟨rfl, rfl⟩ | ⟨rfl, rfl⟩ | ⟨rfl, rfl⟩ | ⟨rfl, rfl⟩ | ⟨rfl, rfl⟩ <;>
      rfl
  | code hdigits => exact hdigits.coded?_append rest
  | pair hbeyond hhigh hlow =>
    have hvalid : c.toNat.isValidChar := c.valid
    have hrange : c.toNat < 0x110000 := by rcases hvalid with hsmall | hlarge <;> omega
    rw [List.cons_append, List.cons_append, List.append_assoc, character?]
    exact hhigh.coded?_pair hlow (by omega) (by omega) (by omega) rest

theorem Spells.ne_quote (hspells : Spells spelling c) (rest tail : List Char) : spelling ++ rest ≠ '"' :: tail := by
  cases hspells with
  | plain hquote => exact fun heq => hquote (List.cons.inj heq).1
  | letter => exact fun heq => absurd (List.cons.inj heq).1 (by decide)
  | code => exact fun heq => absurd (List.cons.inj heq).1 (by decide)
  | pair => exact fun heq => absurd (List.cons.inj heq).1 (by decide)

theorem Spells.length_pos (hspells : Spells spelling c) : 0 < spelling.length := by
  cases hspells <;> exact Nat.succ_pos _

theorem characters?_flatten {spellings : List (List Char)} {chars : List Char}
    (hspells : List.Forall₂ Spells spellings chars) (rest : List Char) {bound : Nat}
    (hbound : spellings.flatten.length ≤ bound) :
    characters? bound (spellings.flatten ++ '"' :: rest) = some (chars, rest) := by
  induction hspells generalizing bound with
  | nil => simp [characters?]
  | @cons spelling c spellings chars hspelling hspellings ih =>
    have hpos := hspelling.length_pos
    rw [List.flatten_cons, List.length_append] at hbound
    obtain ⟨bound, rfl⟩ : ∃ smaller, bound = smaller + 1 := ⟨bound - 1, by omega⟩
    rw [List.flatten_cons, List.append_assoc, characters?.eq_def]
    split
    · -- The quote that would end the string begins no spelling.
      rename_i heq
      exact absurd heq (hspelling.ne_quote _ _)
    · rename_i hzero _
      cases hzero
    · rename_i heq _
      obtain rfl := Nat.succ.inj heq
      rw [hspelling.character?_append, Option.bind_eq_bind, Option.bind_some]
      dsimp only
      rw [ih (by omega)]
      rfl

theorem Quotes.quoted?_append (hquotes : Quotes piece s) (rest : List Char) :
    quoted? (piece ++ rest) = some (s, rest) := by
  obtain ⟨spellings, hspells, rfl⟩ := hquotes
  have hbound : spellings.flatten.length ≤ (spellings.flatten ++ '"' :: rest).length := by
    rw [List.length_append]
    exact Nat.le_add_right _ _
  rw [List.cons_append, List.append_assoc, List.singleton_append, quoted?, characters?_flatten hspells rest hbound,
    Option.map_some]
  simp

/-! ### Where a part ends and where one begins -/

/-- A text does not begin with a digit, so a number before it ends there. -/
def Ends (text : List Char) : Prop := ∀ c ∈ text.head?, c.isDigit = false

theorem isDigit_of_isGap (hgap : isGap c = true) : c.isDigit = false := by
  simp only [isGap, Bool.or_eq_true, decide_eq_true_eq] at hgap
  rcases hgap with ((rfl | rfl) | rfl) | rfl <;> rfl

theorem ends_cons (hother : c.isDigit = false) (rest : List Char) : Ends (c :: rest) := by
  intro first hfirst
  obtain rfl := Option.some.inj hfirst
  exact hother

theorem ends_append {gap rest : List Char} (hgap : ∀ c ∈ gap, isGap c = true) (hrest : Ends rest) : Ends (gap ++ rest) := by
  cases gap with
  | nil => exact hrest
  | cons c gap => exact ends_cons (isDigit_of_isGap (hgap c List.mem_cons_self)) _

theorem IsPlain.numeral?_append (hplain : IsPlain digits) {rest : List Char} (hrest : Ends rest) :
    numeral? (digits ++ rest) = some (Nat.ofDigitChars 10 digits 0, rest) := by
  obtain ⟨⟨hne, hdigits⟩, hzero⟩ := hplain
  have hstop : rest.takeWhile Char.isDigit = [] ∧ rest.dropWhile Char.isDigit = rest := by
    cases rest with
    | nil => exact ⟨rfl, rfl⟩
    | cons c rest =>
      have hc := hrest c rfl
      exact ⟨List.takeWhile_cons_of_neg (by simp [hc]), List.dropWhile_cons_of_neg (by simp [hc])⟩
  rw [numeral?, List.takeWhile_append_of_pos hdigits, List.dropWhile_append_of_pos hdigits, hstop.1, hstop.2,
    List.append_nil]
  exact if_neg fun hbad => hbad.elim hne fun hneedless => hneedless.2 (hzero hneedless.1)

theorem IsPlain.exists_digit (hplain : IsPlain digits) : ∃ c rest, digits = c :: rest ∧ c.isDigit = true := by
  obtain ⟨⟨hne, hdigits⟩, -⟩ := hplain
  obtain ⟨c, rest, rfl⟩ := List.exists_cons_of_ne_nil hne
  exact ⟨c, rest, rfl, hdigits c List.mem_cons_self⟩

theorem IsInteger.integer?_append {i : Int} (hinteger : IsInteger piece i) {rest : List Char} (hrest : Ends rest) :
    integer? (piece ++ rest) = some (i, rest) := by
  cases hinteger with
  | unsigned hplain =>
    rw [integer?.eq_def]
    split
    · rename_i heq
      obtain ⟨c, digits, rfl, hc⟩ := hplain.exists_digit
      rw [(List.cons.inj heq).1] at hc
      cases hc
    · rw [hplain.numeral?_append hrest]
      rfl
  | negative hplain =>
    rw [List.cons_append, integer?, hplain.numeral?_append hrest]
    rfl

theorem IsInteger.exists_head {i : Int} (hinteger : IsInteger piece i) :
    ∃ c rest, piece = c :: rest ∧ c ≠ '"' ∧ c ≠ '[' ∧ c ≠ '{' := by
  cases hinteger with
  | unsigned hplain =>
    obtain ⟨c, rest, rfl, hdigit⟩ := hplain.exists_digit
    refine ⟨c, rest, rfl, ?_, ?_, ?_⟩ <;> rintro rfl <;> cases hdigit
  | negative => exact ⟨_, _, rfl, by decide, by decide, by decide⟩

/-- A piece begins with a character that neither is a gap nor closes a list or a record. -/
def Opens (piece : List Char) : Prop := ∃ c rest, piece = c :: rest ∧ isGap c = false ∧ c ≠ ']' ∧ c ≠ '}'

theorem Quotes.opens (hquotes : Quotes piece s) : Opens piece := by
  obtain ⟨spellings, -, rfl⟩ := hquotes
  exact ⟨_, _, rfl, by decide, by decide, by decide⟩

theorem opens_of_isDigit (hdigit : c.isDigit = true) (rest : List Char) : Opens (c :: rest) := by
  refine ⟨c, rest, rfl, ?_, ?_, ?_⟩
  · by_contra hgap
    rw [isDigit_of_isGap (Bool.of_not_eq_false hgap)] at hdigit
    cases hdigit
  all_goals
    rintro rfl
    cases hdigit

theorem Denotes.opens (hdenotes : Denotes piece (.value document)) : Opens piece := by
  cases hdenotes with
  | text hquotes => exact hquotes.opens
  | number hinteger =>
    cases hinteger with
    | unsigned hplain =>
      obtain ⟨c, rest, rfl, hdigit⟩ := hplain.exists_digit
      exact opens_of_isDigit hdigit rest
    | negative => exact ⟨_, _, rfl, by decide, by decide, by decide⟩
  | emptyList => exact ⟨_, _, rfl, by decide, by decide, by decide⟩
  | list => exact ⟨_, _, rfl, by decide, by decide, by decide⟩
  | emptyRecord => exact ⟨_, _, rfl, by decide, by decide, by decide⟩
  | record => exact ⟨_, _, rfl, by decide, by decide, by decide⟩

theorem Pads.length_le (hpads : Pads inner piece) : inner.length ≤ piece.length := by
  obtain ⟨front, back, -, -, rfl⟩ := hpads
  rw [List.length_append, List.length_append]
  omega

theorem Pads.head?_skip (hpads : Pads inner piece) (hopens : Opens inner) (rest : List Char) :
    (skip (piece ++ rest)).head? ≠ some ']' ∧ (skip (piece ++ rest)).head? ≠ some '}' := by
  obtain ⟨front, back, hfront, -, rfl⟩ := hpads
  obtain ⟨c, tail, rfl, hgap, hlist, hrecord⟩ := hopens
  rw [List.append_assoc, skip_append hfront, List.cons_append, List.cons_append, skip_cons_of_not_gap hgap]
  simp [hlist, hrecord]

/-- What is read back from a piece is read back from it with gaps around it, up to the next part. -/
theorem Pads.padded?_append {α : Type} {part? : List Char → Option (α × List Char)} {part : α} {rest : List Char}
    (hpads : Pads inner piece) (hopens : Opens inner) (hends : Ends rest) (hskip : skip rest = rest)
    (hread : ∀ tail, Ends tail → part? (inner ++ tail) = some (part, tail)) :
    padded? part? (piece ++ rest) = some (part, rest) := by
  obtain ⟨front, back, hfront, hback, rfl⟩ := hpads
  have hinner : skip (inner ++ (back ++ rest)) = inner ++ (back ++ rest) := by
    obtain ⟨c, tail, rfl, hgap, -, -⟩ := hopens
    exact skip_cons_of_not_gap hgap _
  rw [padded?, List.append_assoc, List.append_assoc, skip_append hfront, hinner, hread _ (ends_append hback hends),
    Option.map_some]
  dsimp only
  rw [skip_append hback, hskip]

/-! ### What is read from documents -/

section Lists

variable {α : Type} {close : Char} {item? : List Char → Option (α × List Char)} {entry : α} {entries : List α}
  {chars rest more : List Char} {bound : Nat}

theorem entries?_last (hentry : item? chars = some (entry, close :: rest)) (hclose : close ≠ ',') :
    entries? close item? (bound + 1) chars = some ([entry], rest) := by
  rw [entries?, hentry, Option.bind_eq_bind, Option.bind_some]
  split
  · rename_i heq
    exact absurd (List.cons.inj (Prod.mk.inj heq).2).1 hclose
  · rename_i heq
    obtain ⟨rfl, hrest⟩ := Prod.mk.inj heq
    obtain ⟨rfl, rfl⟩ := List.cons.inj hrest
    exact if_pos rfl
  · rename_i heq
    cases heq

theorem entries?_more (hentry : item? chars = some (entry, ',' :: more))
    (hmore : entries? close item? bound more = some (entries, rest)) :
    entries? close item? (bound + 1) chars = some (entry :: entries, rest) := by
  rw [entries?, hentry]
  simp only [Option.bind_eq_bind, Option.bind_some, hmore]
  rfl

theorem bracketed?_of_entries? (hopens : (skip chars).head? ≠ some close)
    (hentries : entries? close item? chars.length chars = some (entries, rest)) :
    bracketed? close item? chars = some (entries, rest) := by
  rw [bracketed?, if_neg hopens, hentries]

theorem bracketed?_gap {gap : List Char} (hgap : ∀ c ∈ gap, isGap c = true) (hclose : isGap close = false) :
    bracketed? close item? (gap ++ close :: rest) = some ([], rest) := by
  rw [bracketed?, skip_append hgap, skip_cons_of_not_gap hclose]
  exact if_pos rfl

end Lists

theorem IsInteger.value?_append {i : Int} {bound : Nat} {rest : List Char} (hinteger : IsInteger piece i)
    (hends : Ends rest) : value? (bound + 1) (piece ++ rest) = some (.number i, rest) := by
  have hread := hinteger.integer?_append hends
  obtain ⟨c, tail, rfl, hquote, hlist, hrecord⟩ := hinteger.exists_head
  rw [List.cons_append] at hread ⊢
  rw [value?.eq_def]
  dsimp only
  split
  · rename_i heq
    exact absurd (List.cons.inj heq).1 hquote
  · rename_i heq
    exact absurd (List.cons.inj heq).1 hlist
  · rename_i heq
    exact absurd (List.cons.inj heq).1 hrecord
  · rw [hread]
    rfl

theorem value?_list {bound : Nat} {text rest : List Char} {items : List Json}
    (hitems : bracketed? ']' (padded? (value? bound)) text = some (items, rest)) :
    value? (bound + 1) ('[' :: text) = some (.list items, rest) := by
  rw [value?, hitems]
  rfl

theorem value?_record {bound : Nat} {text rest : List Char} {fields : List (String × Json)}
    (hfields : bracketed? '}' (field? (value? bound)) text = some (fields, rest)) :
    value? (bound + 1) ('{' :: text) = some (.record fields, rest) := by
  rw [value?, hfields]
  rfl

theorem field?_append {value? : List Char → Option (Json × List Char)} {rest : List Char} (hname : Quotes quoted name)
    (hkey : Pads quoted key) (hpads : Pads inner piece) (hopens : Opens inner) (hends : Ends rest)
    (hskip : skip rest = rest) (hread : ∀ tail, Ends tail → value? (inner ++ tail) = some (value, tail)) :
    field? value? (key ++ ':' :: (piece ++ rest)) = some ((name, value), rest) := by
  have hkeyread : padded? quoted? (key ++ ':' :: (piece ++ rest)) = some (name, ':' :: (piece ++ rest)) :=
    hkey.padded?_append hname.opens (ends_cons rfl _) (skip_cons_of_not_gap rfl _) fun tail _ => hname.quoted?_append tail
  rw [field?, hkeyread]
  simp only [Option.bind_eq_bind, Option.bind_some, hpads.padded?_append hopens hends hskip hread]
  rfl

theorem Denotes.head?_skip_items {items : List Json} (hitems : Denotes inside (.items items)) (rest : List Char) :
    (skip (inside ++ rest)).head? ≠ some ']' := by
  cases hitems with
  | lastItem hitem hpads => exact (hpads.head?_skip hitem.opens rest).1
  | item hitem hpads =>
    rw [List.append_assoc]
    exact (hpads.head?_skip hitem.opens _).1

theorem Denotes.head?_skip_fields {fields : List (String × Json)} (hfields : Denotes inside (.fields fields))
    (rest : List Char) : (skip (inside ++ rest)).head? ≠ some '}' := by
  cases hfields with
  | lastField hname hkey =>
    rw [List.append_assoc]
    exact (hkey.head?_skip hname.opens _).2
  | field hname hkey =>
    rw [List.append_assoc]
    exact (hkey.head?_skip hname.opens _).2

/-- A part is read back from a piece, whatever stands behind it. -/
def IsRead (piece : List Char) : Part → Prop
  | .value document => ∀ bound rest, piece.length ≤ bound → Ends rest →
      value? (bound + 1) (piece ++ rest) = some (document, rest)
  | .items items => ∀ bound steps rest, piece.length ≤ bound → piece.length < steps →
      entries? ']' (padded? (value? (bound + 1))) steps (piece ++ ']' :: rest) = some (items, rest)
  | .fields fields => ∀ bound steps rest, piece.length ≤ bound → piece.length < steps →
      entries? '}' (field? (value? (bound + 1))) steps (piece ++ '}' :: rest) = some (fields, rest)

/-- By induction on how the grammar gives the piece. A comma or a closing bracket stands behind every entry of a list or a record, so the entries are read one after the other. -/
theorem Denotes.isRead {part : Part} (hdenotes : Denotes piece part) : IsRead piece part := by
  induction hdenotes with
  | text hquotes =>
    intro bound rest _ _
    have hread := hquotes.quoted?_append rest
    obtain ⟨spellings, -, rfl⟩ := hquotes
    rw [List.cons_append] at hread ⊢
    rw [value?, hread]
    rfl
  | number hinteger => exact fun _ _ _ hends => hinteger.value?_append hends
  | emptyList hgap =>
    intro bound rest _ _
    rw [List.cons_append, List.append_assoc]
    exact value?_list (bracketed?_gap hgap rfl)
  | @list inside items hitems ih =>
    intro bound rest hbound _
    rw [List.length_cons, List.length_append] at hbound
    obtain ⟨bound, rfl⟩ : ∃ inner, bound = inner + 1 := ⟨bound - 1, by omega⟩
    have hentries := ih bound (inside ++ ']' :: rest).length rest (by omega) (by simp)
    rw [List.cons_append, List.append_assoc]
    exact value?_list (bracketed?_of_entries? (hitems.head?_skip_items _) hentries)
  | emptyRecord hgap =>
    intro bound rest _ _
    rw [List.cons_append, List.append_assoc]
    exact value?_record (bracketed?_gap hgap rfl)
  | @record inside fields hfields ih =>
    intro bound rest hbound _
    rw [List.length_cons, List.length_append] at hbound
    obtain ⟨bound, rfl⟩ : ∃ inner, bound = inner + 1 := ⟨bound - 1, by omega⟩
    have hentries := ih bound (inside ++ '}' :: rest).length rest (by omega) (by simp)
    rw [List.cons_append, List.append_assoc]
    exact value?_record (bracketed?_of_entries? (hfields.head?_skip_fields _) hentries)
  | lastItem hitem hpads ih =>
    intro bound steps rest hbound hsteps
    obtain ⟨steps, rfl⟩ := Nat.exists_eq_add_one_of_ne_zero (Nat.ne_zero_of_lt hsteps)
    exact entries?_last (hpads.padded?_append hitem.opens (ends_cons rfl _) (skip_cons_of_not_gap rfl _)
      fun tail => ih bound tail (Nat.le_trans hpads.length_le hbound)) (by decide)
  | item hitem hpads hrest ih ihrest =>
    intro bound steps rest hbound hsteps
    obtain ⟨steps, rfl⟩ := Nat.exists_eq_add_one_of_ne_zero (Nat.ne_zero_of_lt hsteps)
    have hinner := hpads.length_le
    rw [List.length_append, List.length_cons] at hbound hsteps
    rw [List.append_assoc]
    exact entries?_more (hpads.padded?_append hitem.opens (ends_cons rfl _) (skip_cons_of_not_gap rfl _)
      fun tail => ih bound tail (by omega)) (ihrest bound steps rest (by omega) (by omega))
  | lastField hname hkey hvalue hpads ih =>
    intro bound steps rest hbound hsteps
    obtain ⟨steps, rfl⟩ := Nat.exists_eq_add_one_of_ne_zero (Nat.ne_zero_of_lt hsteps)
    have hinner := hpads.length_le
    rw [List.length_append, List.length_cons] at hbound
    rw [List.append_assoc]
    exact entries?_last (field?_append hname hkey hpads hvalue.opens (ends_cons rfl _) (skip_cons_of_not_gap rfl _)
      fun tail => ih bound tail (by omega)) (by decide)
  | field hname hkey hvalue hpads hrest ih ihrest =>
    intro bound steps rest hbound hsteps
    obtain ⟨steps, rfl⟩ := Nat.exists_eq_add_one_of_ne_zero (Nat.ne_zero_of_lt hsteps)
    have hinner := hpads.length_le
    rw [List.length_append, List.length_cons, List.length_append, List.length_cons] at hbound hsteps
    rw [List.append_assoc, List.cons_append, List.append_assoc]
    exact entries?_more (field?_append hname hkey hpads hvalue.opens (ends_cons rfl _) (skip_cons_of_not_gap rfl _)
      fun tail => ih bound tail (by omega)) (ihrest bound steps rest (by omega) (by omega))

/-- Every text that the grammar gives a document is read as that document. -/
theorem read?_of_isDocument {text : List Char} (hdocument : IsDocument text document) : read? text = some document := by
  obtain ⟨inner, hdenotes, hpads⟩ := hdocument
  have hread : padded? (value? (text.length + 1)) (text ++ []) = some (document, []) :=
    hpads.padded?_append hdenotes.opens (fun _ hnone => nomatch hnone) rfl fun tail =>
      hdenotes.isRead _ tail hpads.length_le
  rw [List.append_nil] at hread
  rw [read?, hread]

example : read? "[ -10, \"\\u00e9\\n\" ]".toList = some (.list [.number (-10), .text "é\n"]) := by rfl

example : read? "[ 1, ]".toList = none := by rfl

/-- No text is written for two documents. -/
theorem IsDocument.unique {text : List Char} {first second : Json} (hfirst : IsDocument text first)
    (hsecond : IsDocument text second) : first = second :=
  Option.some.inj ((read?_of_isDocument hfirst).symm.trans (read?_of_isDocument hsecond))

end DriverIndex.Text.Json
