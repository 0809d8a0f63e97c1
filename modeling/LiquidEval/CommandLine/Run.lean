import LiquidEval.CommandLine.Reader
import LiquidEval.Condition.Document
import LiquidEval.Condition.Evaluation
import LiquidEval.Registry

/-! Running a command line: the configuration that it asks for, the context that its command works
in, and the text that the command prints. Files and environment are arguments. -/
namespace LiquidEval

inductive VariableFileError where
  | unreadable
  | notJson
  /-- JSON of another type than an object. -/
  | notObject (typeName : String)
  deriving Repr, DecidableEq

def VariableFileError.message (path : String) : VariableFileError → String
  | unreadable => "Failed to read variables file " ++ path
  | notJson => "Invalid JSON in " ++ path
  | notObject typeName =>
    "Variables file " ++ path ++ " must hold a JSON object, found " ++ typeName

inductive RunError where
  | usage (e : UsageError)
  | config (e : ConfigError)
  | variableFile (path : String) (e : VariableFileError)
  | eval (e : EvalError)
  deriving Repr, DecidableEq

def RunError.message : RunError → String
  | usage e => e.message
  | config e => e.message?.getD "Invalid TOML config"
  | variableFile path e => e.message path
  | eval e => e.message

structure RunResult where
  output : String
  naming : Naming
  verbosity : Nat
  deriving Repr, DecidableEq

/-- No objects of a host exist on a command line. -/
instance : Host Empty where
  interface e := e.elim
  inspect e := e.elim

namespace CommandLine

/-- Flags go before the environment, and the environment before the file. -/
def loadConfig (files : Files) (env : Environment) (line : CommandLine) :
    Except ConfigError Config := do
  let c ← Config.load files env line.config
  return { c with naming := line.naming.getD c.naming, level := line.level.getD c.level }

def paths (line : CommandLine) (directory : String) (home : Option String) : List String :=
  (match line.config with
    | some path => [path]
    | none => Config.candidates directory home) ++ line.command.sources.file.toList

def readVariables (files : Files) (path : String) :
    Except VariableFileError (List (String × Value Empty)) :=
  match files.read path with
  | .error _ => .error .unreadable
  | .ok text =>
    match Json.read? text with
    | none => .error .notJson
    | some document =>
      match Value.ofJson document with
      | .object fields => .ok fields
      | other => .error (.notObject other.typeName)

def fileVariables (files : Files) : Option String → Except RunError (List (String × Value Empty))
  | none => .ok []
  | some path =>
    match readVariables files path with
    | .ok fields => .ok fields
    | .error e => .error (.variableFile path e)

def assignedVariables (assignments : List (String × String)) : List (String × Value Empty) :=
  assignments.map fun a => (a.1, Value.ofText a.2)

/-- The configured variables, then those of the file, then the assigned ones; later ones replace
earlier. -/
def contextFor (files : Files) (c : Config) (sources : VariableSources) :
    Except RunError (Context Empty) := do
  let fields ← fileVariables files sources.file
  return (c.newContext.setGlobals fields).setGlobals (assignedVariables sources.assignments)

def ofEval {α : Type} : Except EvalError α → Except RunError α
  | .ok a => .ok a
  | .error e => .error (.eval e)

def lines (items : List String) : String := String.intercalate "\n" items

def perform (files : Files) (c : Config) (command : Command) : Except RunError String :=
  let registry : Registry Empty := { Registry.initial with naming := c.naming }
  match command with
  | .condition text sources => do
    let context ← contextFor files c sources
    let result ← ofEval (Condition.evaluateText registry.operators context text)
    return if result then "true" else "false"
  | .applyFilter name input args named sources => do
    let context ← contextFor files c sources
    let result ← ofEval ((registry.strainer context.view).invoke name
      ((input :: args).map Value.ofText) (Table.ofList (assignedVariables named)))
    return result.toJson.compact
  | .parse text => do
    let markup ← ofEval (Markup.ofSource text)
    return markup.document.pretty
  | .operators => .ok (lines (Table.names registry.operators))
  | .filters => .ok (lines (registry.strainer c.newContext.view).filterNames)

def run (files : Files) (env : Environment) (line : CommandLine) : Except RunError RunResult :=
  match line.loadConfig files env with
  | .error e => .error (.config e)
  | .ok c => do
    let output ← perform files c line.command
    return ⟨output, c.naming, line.verbosity⟩

def runWords (files : Files) (env : Environment) (words : List String) :
    Except RunError RunResult :=
  match ofWords env words with
  | .error e => .error (.usage e)
  | .ok line => line.run files env

end CommandLine
end LiquidEval
