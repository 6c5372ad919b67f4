import DriverIndex.Log.Event
import DriverIndex.Text.Decimal

/-!
# Directives

A directive says up to which level events are shown, and may say of which targets and with which field. Directives are judged in an order that puts the more specific ones first.
-/

namespace DriverIndex.Log

/-- The number of levels up to a level, the most urgent being the first. -/
def Level.rank : Level → Nat
  | .error => 1
  | .warn => 2
  | .info => 3
  | .debug => 4

structure Directive where
  /-- The start of the targets that it is about, if it is not about all of them. -/
  target : Option String
  /-- The field that an event must have. -/
  field : Option String
  /-- The rank of the last level that is shown. -/
  limit : Nat
deriving DecidableEq

namespace Directive

def fits (directive : Directive) (event : Event) : Bool :=
  (match directive.target with
    | some target => target.toList.isPrefixOf event.target.toList
    | none => true) &&
    directive.field.all fun field => event.fields.any fun (name, _) => name = field

def targetLength (directive : Directive) : Nat :=
  match directive.target with
  | some target => target.utf8ByteSize + 1
  | none => 0

/-- Whether a directive is judged no later than another: the longer target first, then one with a field, then the field that is later in the alphabet. -/
def precedes (left right : Directive) : Bool :=
  if left.targetLength ≠ right.targetLength then right.targetLength < left.targetLength
  else match left.field, right.field with
    | _, none => true
    | none, some _ => false
    | some left, some right => right ≤ left

/-- The limit that shows every event. -/
def everything : Nat := 5

/-- The levels by their names, of which the rank is the place. -/
def levelNames : List String := ["off", "error", "warn", "info", "debug", "trace"]

/-- Reads a level, by its name in any letter case or by its rank. -/
def limit? (text : List Char) : Option Nat :=
  let digits := match text with
    | '+' :: digits => digits
    | digits => digits
  match Text.Decimal.toNat? digits with
  | some rank => if rank ≤ everything then some rank else none
  | none => levelNames.idxOf? (String.ofList (text.map Char.toLower))

end Directive

end DriverIndex.Log
