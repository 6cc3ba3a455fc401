import AvcPipeline.Log
import AvcPipeline.Settings.Resolve

/-!
# Invocations

An `Invocation` is what a command line asks for: one command, and the options that hold for every
command. A command line that asks for nothing of the kind is a `UsageError`.
-/

namespace AvcPipeline.CommandLine

inductive Command where
  | play (args : Settings.PlayArgs)
  | info (input : String)
  deriving DecidableEq, Repr

structure Invocation where
  verbosity : Verbosity := .upTo .info
  strict : Bool := false
  logStyle : LogStyle := .plain
  progress : Bool := false
  config : Option String := none
  command : Command
  deriving DecidableEq, Repr

inductive UsageError where
  | helpRequested
  | versionRequested
  | nothingGiven
  | missingCommand
  | unknownCommand (name : String)
  | missingInput
  | unknownArgument (argument : String)
  | repeated (option : String)
  | missingValue (option : String)
  | unexpectedValue (option : String)
  | invalidValue (option value : String)
  | invalidNumber (option value : String)
  deriving DecidableEq, Repr

namespace UsageError

def message : UsageError → String
  | .helpRequested =>
    "Usage: [OPTIONS] play [PLAY OPTIONS] INPUT | [OPTIONS] info INPUT"
  | .versionRequested => "AVC pipeline 1.0"
  | .nothingGiven | .missingCommand => "a command is needed: play or info"
  | .unknownCommand name => s!"unknown command '{name}'"
  | .missingInput => "an input is needed"
  | .unknownArgument argument => s!"unexpected argument '{argument}'"
  | .repeated option => s!"'{option}' is given more than once"
  | .missingValue option => s!"'{option}' needs a value"
  | .unexpectedValue option => s!"'{option}' takes no value"
  | .invalidValue option value => s!"'{value}' is no value for '{option}'"
  | .invalidNumber option value => s!"'{value}' is no number for '{option}'"

/-- A request for help or the version is no failure. -/
def exitCode : UsageError → UInt32
  | .helpRequested | .versionRequested => 0
  | _ => 2

end UsageError
end AvcPipeline.CommandLine
