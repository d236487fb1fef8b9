import ChainIndex.CommandLine.Value
import ChainIndex.Text.Terminal

/-!
# Reading options

Options are read from left to right. The value of an option is looked at only when the next option
begins or the line ends, so an option that nobody knows is reported before a bad value in front of it.
What the line does not give is taken from the environment, option by option; then options that must be
given and are not are reported together.
-/

namespace ChainIndex.CommandLine

structure Spec where
  name : String
  kind : Kind
  /-- Whether the option is followed by a value; without one it stands for `true`. -/
  takesValue : Bool := true
  required : Bool := false
  deriving DecidableEq, Repr

def Spec.capitals (s : Spec) : String := s.name.map fun c => if c = '-' then '_' else c.toUpper

/-- The option as errors show it. -/
def Spec.display (s : Spec) : String :=
  if s.takesValue then "--" ++ s.name ++ " <" ++ s.capitals ++ ">" else "--" ++ s.name

/-- The name under which the environment gives the option. -/
def Spec.variable (s : Spec) : String := "INDEXER_" ++ s.capitals

inductive UsageError where
  /-- The line asks for help. -/
  | help
  | noCommand
  | unknownCommand (name : String)
  | unknownArgument (arg : String)
  /-- An option is given twice. -/
  | repeated (option : String)
  /-- An option that takes no value has one. -/
  | unwantedValue (option : String)
  /-- An option has no value, or none that it can have. -/
  | noValue (option : String)
  | badValue (option value reason : String)
  | missing (options : List String)
  deriving DecidableEq, Repr

/-- The first line of what is said of a bad value. Nothing in it is an order to a terminal. -/
def UsageError.message : UsageError → Option String
  | .badValue option value reason =>
    let value := Text.visible value
    let reason := Text.visible reason
    some (Text.firstLine ("error: invalid value '" ++ value ++ "' for '" ++ option ++ "': " ++ reason))
  | _ => none

/-- The options or arguments that an error is about. -/
def UsageError.arguments : UsageError → List String
  | .unknownArgument arg => [arg]
  | .repeated option | .unwantedValue option | .noValue option | .badValue option .. => [option]
  | .missing options => options
  | .help | .noCommand | .unknownCommand _ => []

/-- Options with their values, the last one first. -/
abbrev Given := List (Spec × Value)

def Given.find? (g : Given) (name : String) : Option Value :=
  (List.find? (fun (s, _) => s.name = name) g).map (·.2)

/-- An option whose value is not looked at yet, with the value if it was there. -/
abbrev Pending := Option (Spec × Option String)

/-- Takes an option with its value. -/
def accept (given : Given) (spec : Spec) (value : Option String) : Except UsageError Given :=
  match value with
  | none => .error (.noValue spec.display)
  | some s =>
    if (given.find? spec.name).isSome then .error (.repeated spec.display)
    else
      match spec.kind.read s with
      | .ok v => .ok ((spec, v) :: given)
      | .error none => .error (.noValue spec.display)
      | .error (some reason) => .error (.badValue spec.display s reason)

/-- Looks at the value of an option that is pending. -/
def resolve (given : Given) : Pending → Except UsageError Given
  | none => .ok given
  | some (spec, value) => accept given spec value

/-- What an argument looks like. -/
inductive Argument where
  | long (name : String) (value : Option String)
  | short (c : Char)
  /-- Two dashes: options end here. -/
  | endOfOptions
  | plain (s : String)
  deriving DecidableEq, Repr

def Argument.of (s : String) : Argument :=
  match s.toList with
  | ['-', '-'] => .endOfOptions
  | '-' :: '-' :: rest =>
    let name := rest.takeWhile (· ≠ '=')
    match rest.drop name.length with
    | [] => .long (String.ofList name) none
    | _ :: value => .long (String.ofList name) (some (String.ofList value))
  | '-' :: c :: _ => .short c
  | _ => .plain s

/-- Reads what stands after the command. -/
def readLine (specs : List Spec) : (given : Given) → (pending : Pending) → List String → Except UsageError Given
  | given, pending, [] => resolve given pending
  | given, pending, arg :: rest =>
    match Argument.of arg with
    | .endOfOptions =>
      match rest with
      | [] => resolve given pending
      | extra :: _ => .error (.unknownArgument extra)
    | .short c => do
      if c = 'h' then
        let _ ← resolve given pending
        .error .help
      else
        .error (.unknownArgument ("-" ++ String.singleton c))
    | .plain s =>
      match pending with
      | some (spec, none) => readLine specs given (some (spec, some s)) rest
      | _ => .error (.unknownArgument s)
    | .long name value =>
      match specs.find? (·.name = name) with
      | none =>
        if name ≠ "help" then .error (.unknownArgument ("--" ++ name))
        else if value.isSome then .error (.unwantedValue "--help")
        else do
          let _ ← resolve given pending
          .error .help
      | some spec =>
        if spec.takesValue then do
          let given ← resolve given pending
          match value with
          | some s =>
            let given ← accept given spec (some s)
            readLine specs given none rest
          | none => readLine specs given (some (spec, none)) rest
        else if value.isSome then .error (.unwantedValue spec.display)
        else do
          let given ← resolve given pending
          let given ← accept given spec (some "true")
          readLine specs given none rest

/-- Takes from the environment what the line does not give. -/
def readEnvironment (env : String → Option String) (given : Given) : List Spec → Except UsageError Given
  | [] => .ok given
  | spec :: rest =>
    match given.find? spec.name, env spec.variable with
    | none, some s => do
      let given ← accept given spec (some s)
      readEnvironment env given rest
    | _, _ => readEnvironment env given rest

/-- Reads the options of a command. -/
def readOptions (specs : List Spec) (env : String → Option String) (args : List String) : Except UsageError Given := do
  let given ← readLine specs [] none args
  let given ← readEnvironment env given specs
  let missing := specs.filter fun s => s.required && (given.find? s.name).isNone
  if missing.isEmpty then pure given else throw (.missing (missing.map Spec.display))

end ChainIndex.CommandLine
