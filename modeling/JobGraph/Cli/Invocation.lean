import JobGraph.Config.Loading

/-!
# Invocations

The command line is a path of commands, each with options, flags and operands of its own. Two
options are understood at every command; of their values the one at the last command counts.
-/

namespace JobGraph.Cli

/-- What the program is asked to do. -/
inductive Command where
  | listTemplates
  | showTemplate (name : String) (entrypoint : Option String)
  | compile (file : String) (submit : Bool) (output : Option String)
  | validate (file : String)
deriving DecidableEq, Repr

/-- A command with the options that hold for all commands. -/
structure Invocation where
  config : Option String
  templatesDir : Option String
  command : Command
deriving DecidableEq, Repr

/-- Why a command line asks for nothing to be done. -/
inductive Stop where
  /-- The command line is ill-formed. -/
  | misuse
  | version
  | help
deriving DecidableEq, Repr

/-- The places in a command line: before all commands, and after each. -/
inductive Place where
  | start
  | templates
  | listing
  | details
  | compile
  | validate
deriving DecidableEq, Repr

/-- An option that takes a value. -/
structure ValueOption where
  name : String
  short : Option Char
  /-- Whether the value is a path, which may not be empty. -/
  isPath : Bool
deriving DecidableEq, Repr

namespace Place

/-- The commands that may follow. -/
def commands : Place → List (String × Place)
  | start => [("templates", templates), ("compile", compile), ("validate", validate)]
  | templates => [("list", listing), ("show", details)]
  | _ => []

/-- The options that are understood everywhere. -/
def commonOptions : List ValueOption :=
  [⟨"config", none, true⟩, ⟨"templates-dir", none, true⟩]

/-- The options that take a value. -/
def options : Place → List ValueOption
  | details => ⟨"entrypoint", some 'e', false⟩ :: commonOptions
  | compile => ⟨"output", some 'o', true⟩ :: commonOptions
  | _ => commonOptions

/-- The options that take no value. -/
def flags : Place → List String
  | compile => ["submit"]
  | _ => []

/-- How many operands there are, all of which are required. -/
def operandCount : Place → Nat
  | details => 1
  | compile => 1
  | validate => 1
  | _ => 0

/-- Whether the operands are paths. -/
def takesPaths (place : Place) : Bool :=
  place = compile || place = validate

end Place

/-- What was given at a place. -/
structure Given where
  values : List (String × String)
  flags : List String
  operands : List String
deriving DecidableEq, Repr

namespace Given

/-- Nothing. -/
def nothing : Given := ⟨[], [], []⟩

/-- One more option with its value. An option is given only once at a place. -/
def addValue (given : Given) (o : ValueOption) (value : String) : Except Stop Given :=
  if (given.values.lookup o.name).isSome ∨ (o.isPath ∧ value = "") then .error .misuse
  else .ok { given with values := given.values ++ [(o.name, value)] }

/-- One more flag. -/
def addFlag (given : Given) (name : String) : Except Stop Given :=
  if name ∈ given.flags then .error .misuse
  else .ok { given with flags := given.flags ++ [name] }

/-- One more operand. -/
def addOperand (given : Given) (place : Place) (value : String) : Except Stop Given :=
  if place.operandCount ≤ given.operands.length ∨ (place.takesPaths ∧ value = "") then
    .error .misuse
  else .ok { given with operands := given.operands ++ [value] }

/-- More operands. -/
def addOperands (given : Given) (place : Place) : List String → Except Stop Given
  | [] => .ok given
  | value :: values => do
    let given ← given.addOperand place value
    given.addOperands place values

end Given

/-- An argument by its form. -/
inductive Form where
  /-- All arguments behind it are operands. -/
  | divider
  /-- An option by its name, perhaps with its value. -/
  | long (name : String) (value : Option String)
  /-- An option by its letter, perhaps with its value. -/
  | short (letter : Char) (value : Option String)
  | word
deriving DecidableEq, Repr

/-- The form of an argument. -/
def Form.ofText (text : String) : Form :=
  match text.toList with
  | ['-', '-'] => divider
  | '-' :: '-' :: cs =>
    let (name, value) := Http.splitFirst '=' cs
    long (String.ofList name) (value.map String.ofList)
  | '-' :: letter :: cs =>
    match cs with
    | [] => short letter none
    | '=' :: value => short letter (some (String.ofList value))
    | value => short letter (some (String.ofList value))
  | _ => word

/-- The option that an argument names. -/
def Place.option? (place : Place) : Form → Option ValueOption
  | .long name _ => place.options.find? (·.name = name)
  | .short letter _ => place.options.find? (·.short = some letter)
  | _ => none

/-- The value that is a part of an argument. -/
def Form.value? : Form → Option String
  | long _ value => value
  | short _ value => value
  | _ => none

/-- What an argument means that is neither an option with a value nor an operand. -/
def Place.special (place : Place) (given : Given) : Form → Except Stop Given
  | .long name none =>
    if name ∈ place.flags then given.addFlag name
    else if name = "help" then .error .help
    else if name = "version" ∧ place = .start then .error .version
    else .error .misuse
  | .short 'h' _ => .error .help
  | .short 'V' _ => .error (if place = .start then .version else .misuse)
  | _ => .error .misuse

/-- Read the arguments at a place, up to the next command. The
option whose value is still to come is at hand. -/
def Place.read (place : Place) (given : Given) :
    Option ValueOption → List String → Except Stop (Given × Option (Place × List String))
  | none, [] => .ok (given, none)
  | some _, [] => .error .misuse
  | some o, arg :: rest =>
    if Form.ofText arg = .word then do
      let given ← given.addValue o arg
      place.read given none rest
    else .error .misuse
  | none, arg :: rest =>
    match place.commands.lookup arg with
    | some next => .ok (given, some (next, rest))
    | none =>
      let form := Form.ofText arg
      match form, place.option? form with
      | .divider, _ => do return (← given.addOperands place rest, none)
      | .word, _ =>
        if arg = "help" ∧ place.commands ≠ [] then .error .help
        else do
          let given ← given.addOperand place arg
          place.read given none rest
      | form, some o =>
        match form.value? with
        | some value => do
          let given ← given.addValue o value
          place.read given none rest
        | none => place.read given (some o) rest
      | form, none => do
        let given ← place.special given form
        place.read given none rest

/-- Read all arguments from a place on. At least one command has to follow where commands may
follow; `depth` is how many. -/
def Place.readAll (place : Place) : Nat → List String → Except Stop (List (Place × Given))
  | 0, _ => .error .misuse
  | depth + 1, args => do
    match ← place.read .nothing none args with
    | (given, some (next, rest)) =>
      let behind ← next.readAll depth rest
      return (place, given) :: behind
    | (given, none) =>
      if place.commands ≠ [] ∨ given.operands.length < place.operandCount then .error .misuse
      else return [(place, given)]

/-- The command of the last place. -/
def commandOf : Place × Given → Except Stop Command
  | (.listing, _) => .ok .listTemplates
  | (.details, ⟨values, _, [name]⟩) => .ok (.showTemplate name (values.lookup "entrypoint"))
  | (.compile, ⟨values, flags, [file]⟩) =>
    .ok (.compile file ("submit" ∈ flags) (values.lookup "output"))
  | (.validate, ⟨_, _, [file]⟩) => .ok (.validate file)
  | _ => .error .misuse

/-- The value of an option at the last place that has one. -/
def lastValue (places : List (Place × Given)) (name : String) : Option String :=
  places.reverse.findSome? fun (_, given) => given.values.lookup name

/-- Read a command line. Where it names no configuration the environment may. -/
def Invocation.parse (env : Config.Environment) (args : List String) :
    Except Stop Invocation := do
  let places ← Place.start.readAll 3 args
  let fromEnv := env "VMFLOW_CONFIG"
  if fromEnv = some "" ∧ places.any fun (_, given) => (given.values.lookup "config").isNone then
    throw .misuse
  let last ← match places.getLast? with
    | some last => .ok last
    | none => .error .misuse
  let command ← commandOf last
  return ⟨(lastValue places "config").or fromEnv, lastValue places "templates-dir", command⟩

end JobGraph.Cli
