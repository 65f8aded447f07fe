import StyleBuild.Command.Build
import StyleBuild.Command.Inspect

/-!
# The program

The program reads its command line and runs what it names. What it notes down is shown from the
level that its surroundings ask for, else from the one that the command line asks for.
-/

namespace StyleBuild

/-- Run a command. -/
def Command.run (c : Command) (s : Session) : Finish :=
  match c with
  | .build b => b.run s
  | .validate v => v.run s
  | .stages t => t.run s
  | .scan t => t.run s

namespace Program

/-- The name and the version of the program. -/
def title : String := "stylepipe 0.1.0"

/-- How the program is used. -/
def usage : String :=
  "Usage: stylepipe [-v] <COMMAND>\n\nCommands:\n" ++
  "  build     Run a pipeline over a style sheet\n" ++
  "  validate  Validate a pipeline configuration\n" ++
  "  stages    List the available stage kinds\n" ++
  "  scan      Show which classes the content globs reference"

/-- What is wrong with a command line, in words. -/
def faultText : UsageFault → String
  | .unknownArgument => "unexpected argument"
  | .unknownCommand => "unrecognized subcommand"
  | .noCommand => "a subcommand is required"
  | .missingOption => "a required option was not given"
  | .badValue => "an option has no value"
  | .needlessValue => "a flag was given a value"
  | .repeatedOption => "an option was given twice"
  | .help | .version | .nothing => ""

/-- End because of what the command line says. -/
def explain (s : Session) : UsageFault → Finish
  | .help => ⟨0, [.out usage], s.files⟩
  | .version => ⟨0, [.out title], s.files⟩
  | .nothing => ⟨2, [.err usage], s.files⟩
  | f => ⟨2, [.err ("error: " ++ faultText f ++ "\n\n" ++ usage)], s.files⟩

/-- The notes to show if nothing else is asked for. -/
def standardFilter (verbose : Bool) : LogFilter := ⟨some (if verbose then .debug else .info)⟩

/-- Run the program on the words of a command line. -/
def run (filter : Option LogFilter) (s : Session) (words : List String) : Finish :=
  match Invocation.read words with
  | .error f => explain s f
  | .ok i => i.command.run { s with filter := filter.getD (standardFilter i.verbose) }

end Program

end StyleBuild
