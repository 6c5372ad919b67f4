/-!
# Configuration documents

A configuration document is a tree of tables in the notation TOML. A table remembers how it came about, since that decides whether more may be added to it later: a table written in braces is complete, a table with a header of its own is opened once, and one that dotted keys built grows with further dotted keys only.
-/

namespace DriverIndex.Toml

/-- How a table came about. -/
inductive Origin where
  /-- It was written in braces. -/
  | braces
  /-- It has a header of its own. -/
  | header
  /-- It is named in the header of a table inside it. -/
  | implied
  /-- It is named in dotted keys. -/
  | dotted
deriving DecidableEq

inductive Value where
  | text (s : String)
  | flag (b : Bool)
  /-- A number, a date or a time, kept as it is written. -/
  | bare (word : String)
  | list (values : List Value)
  | table (origin : Origin) (entries : List (String × Value))

abbrev Entries := List (String × Value)

namespace Entries

/-- Puts a value under a key, in the place of the value that has it. -/
def set (key : String) (value : Value) : Entries → Entries
  | [] => [(key, value)]
  | (other, old) :: rest => if other = key then (key, value) :: rest else (other, old) :: set key value rest

/-- Adds a value under a dotted key, which must be new; the tables on the way must be built by dotted keys too. -/
def assign? (value : Value) : List String → Entries → Option Entries
  | [], _ => none
  | [key], entries => if (entries.lookup key).isSome then none else some (entries ++ [(key, value)])
  | key :: keys, entries =>
    match entries.lookup key with
    | none => (assign? value keys []).map fun inner => entries ++ [(key, .table .dotted inner)]
    | some (.table .dotted inner) => (assign? value keys inner).map fun inner => set key (.table .dotted inner) entries
    | some _ => none

/-- Opens the table of a header. It must not have been opened or filled before; naming it in another header is allowed. -/
def openTable? : List String → Entries → Option Entries
  | [], _ => none
  | [key], entries =>
    match entries.lookup key with
    | none => some (entries ++ [(key, .table .header [])])
    | some (.table .implied inner) => some (set key (.table .header inner) entries)
    | some _ => none
  | key :: keys, entries =>
    match entries.lookup key with
    | none => (openTable? keys []).map fun inner => entries ++ [(key, .table .implied inner)]
    | some (.table .braces _) => none
    | some (.table origin inner) => (openTable? keys inner).map fun inner => set key (.table origin inner) entries
    | some _ => none

/-- Adds a value under a dotted key inside the table of a header. -/
def assignUnder? (value : Value) (keys : List String) : List String → Entries → Option Entries
  | [], entries => assign? value keys entries
  | name :: names, entries =>
    match entries.lookup name with
    | some (.table origin inner) => (assignUnder? value keys names inner).map fun inner =>
        set name (.table origin inner) entries
    | _ => none

end Entries

end DriverIndex.Toml
