import DriverIndex.Log.Directive.Reader

/-!
# Log filters

A filter says which events are shown. It is written as directives between commas. An event is judged by the most specific directive that fits it, and is not shown if none does.
-/

namespace DriverIndex.Log

/-- Directives, the most specific ones first. -/
structure Filter where
  directives : List Directive
deriving DecidableEq

namespace Filter

/-- A filter of some directives; of two that differ in their limit only, the later one counts. -/
def ofDirectives (directives : List Directive) : Filter := ⟨directives.reverse.mergeSort Directive.precedes⟩

/-- Shows the events of the program itself up to the level of information. -/
def standard : Filter := ofDirectives [⟨some "dridefs_core", none, Level.info.rank⟩]

def read? (text : String) : Option Filter := do
  let directives ← ((text.toList.splitOn ',').filter (· ≠ [])).mapM Directive.read?
  return ofDirectives (directives.filterMap id)

/-- The filter in a text; the standard one if there is no text or it cannot be read. -/
def ofText (text : Option String) : Filter := (text.bind read?).getD standard

def shows (filter : Filter) (event : Event) : Bool :=
  match filter.directives.find? fun directive => directive.fits event with
  | some directive => event.level.rank ≤ directive.limit
  | none => false

def apply (filter : Filter) (events : List Event) : List Event := events.filter filter.shows

end Filter

end DriverIndex.Log
