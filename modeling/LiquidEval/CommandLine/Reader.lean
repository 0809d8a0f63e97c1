import LiquidEval.CommandLine.Part
import LiquidEval.Config

/-! Reading command lines. Flags that may stand on both sides of the command count in the part after
it where both have one. The two environment variables are checked for every part that lacks their
flags. -/
namespace LiquidEval

inductive CommandName where
  | condition
  | applyFilter
  | parse
  | operators
  | filters
  deriving Repr, DecidableEq

namespace CommandName

def text : CommandName → String
  | condition => "condition"
  | applyFilter => "filter"
  | parse => "parse"
  | operators => "operators"
  | filters => "filters"

def all : List CommandName := [condition, applyFilter, parse, operators, filters]

def ofText? (s : String) : Option CommandName := all.find? fun c => c.text == s

def shape : CommandName → PartShape
  | condition => { flags := [.assign, .variableFile] ++ Flag.everywhere, capacity := some 1 }
  | applyFilter =>
    { flags := [.named, .assign, .variableFile] ++ Flag.everywhere, capacity := none }
  | parse => { flags := Flag.everywhere, capacity := some 1 }
  | operators | filters => { flags := Flag.everywhere }

def command (name : CommandName) (p : Part) : Except UsageError Command :=
  match name, p.arguments with
  | condition, markup :: _ => .ok (.condition markup p.values.sources)
  | applyFilter, name :: input :: args =>
    .ok (.applyFilter name input args p.values.named p.values.sources)
  | parse, markup :: _ => .ok (.parse markup)
  | operators, _ => .ok .operators
  | filters, _ => .ok .filters
  | _, _ => .error .missingArgument

end CommandName

def helpCommand : String := "help"

namespace CommandLine

def commandNames : List String := helpCommand :: CommandName.all.map CommandName.text

def mainShape : PartShape := { flags := Flag.everywhere, commands := commandNames }

def checkVariable {α ε : Type} (given : Option α) (read : String → Except ε α)
    (value : Option String) :
    Except UsageError Unit :=
  match given, value with
  | none, some text => do discard (FlagValues.checked (read text))
  | _, _ => .ok ()

/-- Settles what is pending, and checks the variables of the environment that stand in for absent
flags. -/
def finish (env : Environment) (p : Part) : Except UsageError Part := do
  let p ← p.settle
  checkVariable p.values.naming Naming.ofText (env Config.namingVariable)
  checkVariable p.values.level Level.ofText (env Config.levelVariable)
  return p

/-- Help is given on one command at a time. -/
def helpOutcome : List String → UsageError
  | [] => .help
  | [word] => if commandNames.contains word then .help else .unknownCommand
  | _ => .unknownCommand

def isBlank (env : Environment) (v : FlagValues) : Bool :=
  v == {} && (env Config.namingVariable).isNone && (env Config.levelVariable).isNone

def ofParts (main sub : FlagValues) (command : Command) : CommandLine where
  command := command
  naming := sub.naming.or main.naming
  level := sub.level.or main.level
  config := sub.config.or main.config
  verbosity := if sub.verbosity = 0 then main.verbosity else sub.verbosity

def withoutCommand (env : Environment) (p : Part) : Except UsageError CommandLine := do
  let p ← finish env p
  .error (if isBlank env p.values then .nothingGiven else .noCommand)

/-- The part before the command is settled last. -/
def withCommand (env : Environment) (main : Part) (name : CommandName) (words : List String) :
    Except UsageError CommandLine := do
  let (sub, _) ← Part.read name.shape {} words
  let sub ← finish env sub
  let command ← name.command sub
  let main ← finish env main
  return ofParts main.values sub.values command

def ofWords (env : Environment) (words : List String) : Except UsageError CommandLine := do
  match ← Part.read mainShape {} words with
  | (p, none) => withoutCommand env p
  | (p, some (word, rest)) =>
    match CommandName.ofText? word with
    | some name => withCommand env p name rest
    | none => .error (helpOutcome rest)

end CommandLine
end LiquidEval
