import StyleBuild.Text.Split

/-!
# Command line arguments

The command line names a command, with options before and behind it. An option is given by its
long name or by one letter; letters may be joined, and a value may be joined to its option. What
stands behind `--` is never an option, and no command takes anything that is not an option.
-/

namespace StyleBuild

/-- Why a command line names nothing to run. -/
inductive UsageFault where
  | unknownArgument
  | unknownCommand
  | noCommand
  | missingOption
  | badValue
  | needlessValue
  | repeatedOption
  | help
  | version
  /-- Nothing was given at all. -/
  | nothing
  deriving DecidableEq, Repr, Inhabited

/-- An option: its names, and whether it takes a value. -/
structure OptionSpec where
  long : String
  short : Option Char := none
  takesValue : Bool := false
  deriving DecidableEq, Repr, Inhabited

/-- What may stand on one level of a command line: options, and the commands of the next level. -/
structure Level where
  options : List OptionSpec
  commands : List String := []
  deriving Repr, Inhabited

/-- What was given on one level. An option that waits for its value, or whose value has not been
looked at, is pending. -/
structure Given where
  flags : List String := []
  values : List (String × String) := []
  pending : Option (OptionSpec × Option String) := none
  deriving DecidableEq, Repr, Inhabited

namespace Given

/-- Give a value to an option. -/
def setValue (g : Given) (o : OptionSpec) (value : String) : Except UsageFault Given :=
  if (g.values.lookup o.long).isSome then .error .repeatedOption
  else if value.isEmpty then .error .badValue
  else .ok { g with values := g.values ++ [(o.long, value)] }

/-- Finish the option that is pending. -/
def settle (g : Given) : Except UsageFault Given :=
  match g.pending with
  | none => .ok g
  | some (_, none) => .error .badValue
  | some (o, some value) => setValue { g with pending := none } o value

/-- Set a flag. Those that ask for help or for the version end the command line. -/
def setFlag (g : Given) (o : OptionSpec) : Except UsageFault Given := do
  let g ← g.settle
  if o.long = "help" then throw .help
  else if o.long = "version" then throw .version
  else if g.flags.contains o.long then throw .repeatedOption
  else return { g with flags := g.flags ++ [o.long] }

/-- Meet an option that takes a value, which may be joined to it. -/
def meet (g : Given) (o : OptionSpec) (joined : Option String) : Except UsageFault Given := do
  let g ← g.settle
  match joined with
  | some value => g.setValue o value
  | none => return { g with pending := some (o, none) }

end Given

namespace Level

/-- Read an option by its long name; a value may stand behind an equals sign. -/
def readLong (l : Level) (g : Given) (text : List Char) : Except UsageFault Given :=
  let name := String.ofList (text.takeWhile (· ≠ '='))
  let joined := match text.dropWhile (· ≠ '=') with
    | [] => none
    | _ :: value => some (String.ofList value)
  match l.options.find? fun o => o.long = name with
  | none => .error .unknownArgument
  | some o =>
    if o.takesValue then g.meet o joined
    else if joined.isSome then .error .needlessValue
    else g.setFlag o

/-- Read options by their letters. The first one that takes a value takes what is joined to it. -/
def readShort (l : Level) (g : Given) : List Char → Except UsageFault Given
  | [] => .ok g
  | c :: rest =>
    match l.options.find? fun o => o.short = some c with
    | none => .error .unknownArgument
    | some o =>
      if o.takesValue then
        g.meet o (match rest with
          | [] => none
          | '=' :: value => some (String.ofList value)
          | value => some (String.ofList value))
      else do readShort l (← g.setFlag o) rest

/-- The fault of a word where no word may stand. -/
def strayWord (l : Level) (behindOptions : Bool) (word : String) : UsageFault :=
  if behindOptions ∧ l.commands.contains word then .unknownArgument
  else if l.commands.isEmpty then .unknownArgument
  else .unknownCommand

/-- Whether the pending option waits for its value. -/
def awaits (g : Given) : Bool :=
  match g.pending with
  | some (_, none) => true
  | _ => false

/-- Read one level: what was given, and the command with what stands behind it. -/
def read (l : Level) (g : Given) :
    List String → Except UsageFault (Given × Option (String × List String))
  | [] => do return (← g.settle, none)
  | word :: rest =>
    if !awaits g ∧ l.commands.contains word then do return (← g.settle, some (word, rest))
    else match word.toList with
      | ['-', '-'] => do
        match rest with
        | [] => return (← g.settle, none)
        | w :: _ => throw (l.strayWord true w)
      | '-' :: '-' :: text => do read l (← l.readLong g text) rest
      | '-' :: c :: text => do read l (← l.readShort g (c :: text)) rest
      | _ =>
        match g.pending with
        | some (o, none) => read l { g with pending := some (o, some word) } rest
        | _ => .error (l.strayWord false word)

end Level

/-! ## Commands -/

/-- Run a pipeline over a style sheet. -/
structure BuildCommand where
  config : String
  input : Option String := none
  output : Option String := none
  baseDir : Option String := none
  progress : Bool := false
  deriving DecidableEq, Repr, Inhabited

/-- Check a configuration. -/
structure ValidateCommand where
  config : String
  json : Bool := false
  deriving DecidableEq, Repr, Inhabited

/-- List the kinds of stages. -/
structure StagesCommand where
  json : Bool := false
  deriving DecidableEq, Repr, Inhabited

/-- Show which classes the content of a pipeline uses. -/
structure ScanCommand where
  config : String
  baseDir : Option String := none
  json : Bool := false
  deriving DecidableEq, Repr, Inhabited

/-- What to run. -/
inductive Command where
  | build (c : BuildCommand)
  | validate (c : ValidateCommand)
  | stages (c : StagesCommand)
  | scan (c : ScanCommand)
  deriving DecidableEq, Repr, Inhabited

/-- What to run, and whether to tell more of it. -/
structure Invocation where
  verbose : Bool
  command : Command
  deriving DecidableEq, Repr, Inhabited

/-- The paths that a command names. -/
def Command.paths : Command → List String
  | .build c => c.config :: c.input.toList ++ c.output.toList ++ c.baseDir.toList
  | .validate c => [c.config]
  | .stages _ => []
  | .scan c => c.config :: c.baseDir.toList

/-- Whether a command reads standard input. -/
def Command.readsInput : Command → Bool
  | .build c => c.input.isNone
  | _ => false

namespace Invocation

/-- The options that stand on every level. -/
def everywhere : List OptionSpec := [⟨"help", some 'h', false⟩, ⟨"verbose", some 'v', false⟩]

/-- The option that names a configuration. -/
def configOption : OptionSpec := ⟨"config", some 'c', true⟩

/-- The option that names the folder of content. -/
def baseOption : OptionSpec := ⟨"base-dir", none, true⟩

/-- The option that asks for JSON. -/
def jsonOption : OptionSpec := ⟨"json", none, false⟩

/-- The commands and their options. -/
def commands : List (String × List OptionSpec) := [
  ("build", [configOption, ⟨"input", some 'i', true⟩, ⟨"output", some 'o', true⟩, baseOption,
    ⟨"progress", none, false⟩]),
  ("validate", [configOption, jsonOption]),
  ("stages", [jsonOption]),
  ("scan", [configOption, baseOption, jsonOption])]

/-- The command that shows help on another one. -/
def helpCommand : String := "help"

/-- The names of all commands. -/
def names : List String := commands.map Prod.fst ++ [helpCommand]

/-- The first level of the command line. -/
def top : Level := ⟨everywhere ++ [⟨"version", some 'V', false⟩], names⟩

/-- The fault that shows help on what the words name. -/
def helpOn : List String → UsageFault
  | [] => .help
  | [name] => if names.contains name then .help else .unknownCommand
  | _ => .unknownCommand

/-- The configuration that was given. -/
def configOf (g : Given) : Except UsageFault String :=
  match g.values.lookup "config" with
  | some path => .ok path
  | none => .error .missingOption

/-- The command of a name and what was given to it. -/
def commandOf (name : String) (g : Given) : Except UsageFault Command := do
  let json := g.flags.contains "json"
  let baseDir := g.values.lookup "base-dir"
  match name with
  | "build" =>
    return .build ⟨← configOf g, g.values.lookup "input", g.values.lookup "output", baseDir,
      g.flags.contains "progress"⟩
  | "validate" => return .validate ⟨← configOf g, json⟩
  | "stages" => return .stages ⟨json⟩
  | _ => return .scan ⟨← configOf g, baseDir, json⟩

/-- The fault of a command line without a command. -/
def withoutCommand (g : Given) : UsageFault :=
  if g.flags.isEmpty then .nothing else .noCommand

/-- Read the words of a command line. -/
def read (words : List String) : Except UsageFault Invocation := do
  match ← top.read {} words with
  | (g, none) => throw (withoutCommand g)
  | (g, some (name, rest)) =>
    if name = helpCommand then throw (helpOn rest)
    let level : Level := ⟨everywhere ++ (commands.lookup name).getD [], []⟩
    let (h, _) ← level.read {} rest
    return ⟨g.flags.contains "verbose" || h.flags.contains "verbose", ← commandOf name h⟩

end Invocation

end StyleBuild
