import LiquidEval.Setting

/-! Command lines: a command with its arguments, and flags that set what it runs under. -/
namespace LiquidEval

structure VariableSources where
  file : Option String := none
  /-- Names with their values as they were written, in the order given. -/
  assignments : List (String × String) := []
  deriving Repr, DecidableEq

/-- What to do. Values are text that may be JSON. -/
inductive Command where
  | condition (markup : String) (sources : VariableSources)
  | applyFilter (name input : String) (args : List String) (named : List (String × String))
      (sources : VariableSources)
  | parse (markup : String)
  | operators
  | filters
  deriving Repr, DecidableEq

/-- The sources of the variables that a command works with; some work with none. -/
def Command.sources : Command → VariableSources
  | condition _ sources | applyFilter _ _ _ _ sources => sources
  | parse _ | operators | filters => {}

structure CommandLine where
  command : Command
  naming : Option Naming := none
  level : Option Level := none
  config : Option String := none
  verbosity : Nat := 0
  deriving Repr, DecidableEq

/-- Why a command line is not run: it asks for help or for the version, or it is at fault. -/
inductive UsageError where
  | help
  | version
  | nothingGiven
  | noCommand
  | unknownCommand
  | unknownArgument
  | missingArgument
  /-- A flag that stands without the value that it needs, or with an empty path. -/
  | missingValue
  | badValue
  | unneededValue
  | repeatedFlag
  deriving Repr, DecidableEq

def UsageError.message : UsageError → String
  | help | version => ""
  | nothingGiven | noCommand => "a command is required"
  | unknownCommand => "unknown command"
  | unknownArgument => "unexpected argument"
  | missingArgument => "a required argument is missing"
  | missingValue => "a flag needs a value"
  | badValue => "a value is not valid"
  | unneededValue => "a flag takes no value"
  | repeatedFlag => "a flag cannot be used more than once"

end LiquidEval
