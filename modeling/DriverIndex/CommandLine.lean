import DriverIndex.Path

/-!
# The command line

Four positional arguments, a few options among or behind them, and any further arguments, which are kept and ignored. Two dashes end the options. The first further argument ends them too; once all four positional arguments are there, an argument with a dash that is no known option is a further argument.
-/

namespace DriverIndex

/-- What a run is asked for. -/
structure Invocation where
  marker : String
  root : Path
  header : Path
  source : Path
  config : Option Path := none
  extensions : List String := []
  noSort : Bool := false
  json : Bool := false
  further : List String := []
deriving DecidableEq

/-- What an argument list asks for. -/
inductive CommandLine where
  | run (invocation : Invocation)
  | help
  | version
  | usageError
deriving DecidableEq

namespace CommandLine

/-- The options that take a value. -/
inductive ValueOption where
  | config
  | extension
deriving DecidableEq

/-- What an argument is by its form alone. -/
inductive Form where
  /-- Two dashes and nothing else. -/
  | endOfOptions
  | noSort
  | json
  | help
  | version
  | valueOption (option : ValueOption) (value : Option String)
  /-- A known option with a value that it does not take. -/
  | surplusValue
  /-- Some other option; `first` is the option of its first letter, if that is a known one. -/
  | unknown (first : Option CommandLine)
  | plain
deriving DecidableEq

/-- What was read so far. Lists are backwards. -/
structure State where
  positionals : List String := []
  config : Option Path := none
  extensions : List String := []
  noSort : Bool := false
  json : Bool := false
  further : List String := []
deriving DecidableEq

/-- Splits a long option at its first equals sign. -/
def splitValue (option : List Char) : String × Option String :=
  let name := option.takeWhile (· ≠ '=')
  match option.drop name.length with
  | _ :: value => (String.ofList name, some (String.ofList value))
  | [] => (String.ofList name, none)

def longForm (option : List Char) : Form :=
  match splitValue option with
  | ("config", value) => .valueOption .config value
  | ("ext", value) => .valueOption .extension value
  | ("no-sort", none) => .noSort
  | ("json", none) => .json
  | ("help", none) => .help
  | ("version", none) => .version
  | ("no-sort", some _) | ("json", some _) | ("help", some _) | ("version", some _) => .surplusValue
  | _ => .unknown none

/-- The option of a single letter. -/
def letter? : Char → Option CommandLine
  | 'h' => some .help
  | 'V' => some .version
  | _ => none

def shortForm (letters : List Char) : Form :=
  match letters.head?.bind letter? with
  | some .help => if letters.all fun c => (letter? c).isSome then .help else .unknown (some .help)
  | some .version => if letters.all fun c => (letter? c).isSome then .version else .unknown (some .version)
  | _ => .unknown none

def form (argument : String) : Form :=
  match argument.toList with
  | ['-', '-'] => .endOfOptions
  | '-' :: '-' :: option => longForm option
  | ['-'] => .plain
  | '-' :: letters => shortForm letters
  | _ => .plain

/-- The number of positional arguments that a run needs. -/
def needed : Nat := 4

namespace State

def complete (state : State) : Bool := needed ≤ state.positionals.length

/-- Takes an argument that is no option. Paths cannot be empty, the marker can. -/
def takePlain? (state : State) (argument : String) : Option State :=
  if state.complete then some { state with further := argument :: state.further }
  else if argument = "" ∧ state.positionals ≠ [] then none
  else some { state with positionals := argument :: state.positionals }

def takeValue? (state : State) (option : ValueOption) (value : String) : Option State :=
  match option with
  | .config => if value = "" ∨ state.config.isSome then none else some { state with config := some ⟨value⟩ }
  | .extension => some { state with extensions := value :: state.extensions }

/-- What was asked for, if nothing is missing. -/
def finish (state : State) : CommandLine :=
  match state.positionals.reverse with
  | [marker, root, header, source] => .run {
      marker, root := ⟨root⟩, header := ⟨header⟩, source := ⟨source⟩, config := state.config,
      extensions := state.extensions.reverse, noSort := state.noSort, json := state.json,
      further := state.further.reverse }
  | _ => .usageError

end State

/-- Reads arguments of which none is an option. -/
def readPlain (state : State) : List String → CommandLine
  | [] => state.finish
  | argument :: rest => match state.takePlain? argument with
    | some state => readPlain state rest
    | none => .usageError

/-- Reads arguments; an option may wait for its value. -/
def readFrom (state : State) : Option ValueOption → List String → CommandLine
  | some _, [] => .usageError
  | none, [] => state.finish
  | some option, argument :: rest =>
    match form argument with
    | .plain => match state.takeValue? option argument with
      | some state => readFrom state none rest
      | none => .usageError
    | .unknown _ =>
      if state.complete then match state.takeValue? option argument with
        | some state => readFrom state none rest
        | none => .usageError
      else .usageError
    | _ => .usageError
  | none, argument :: rest =>
    match form argument with
    | .endOfOptions => readPlain state rest
    | .help => .help
    | .version => .version
    | .surplusValue => .usageError
    | .noSort => if state.noSort then .usageError else readFrom { state with noSort := true } none rest
    | .json => if state.json then .usageError else readFrom { state with json := true } none rest
    | .valueOption option none => readFrom state (some option) rest
    | .valueOption option (some value) => match state.takeValue? option value with
      | some state => readFrom state none rest
      | none => .usageError
    | .unknown first =>
      if state.complete then readPlain state (argument :: rest) else first.getD .usageError
    | .plain =>
      if state.complete then readPlain state (argument :: rest)
      else match state.takePlain? argument with
        | some state => readFrom state none rest
        | none => .usageError

def read (arguments : List String) : CommandLine := readFrom {} none arguments

end CommandLine

end DriverIndex
