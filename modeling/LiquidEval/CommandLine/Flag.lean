import LiquidEval.CommandLine
import LiquidEval.Text.Blank

/-! Flags and what they set. -/
namespace LiquidEval

inductive Flag where
  | help
  | version
  | verbose
  | naming
  | level
  | config
  | assign
  | variableFile
  | named
  deriving Repr, DecidableEq

namespace Flag

def long : Flag → String
  | help => "help"
  | version => "version"
  | verbose => "verbose"
  | naming => "naming"
  | level => "syntax"
  | config => "config"
  | assign => "var"
  | variableFile => "vars"
  | named => "named"

def short? : Flag → Option Char
  | help => some 'h'
  | version => some 'V'
  | verbose => some 'v'
  | _ => none

def takesValue : Flag → Bool
  | help | version | verbose => false
  | _ => true

def everywhere : List Flag := [naming, level, config, verbose, help, version]

end Flag

structure FlagValues where
  naming : Option Naming := none
  level : Option Level := none
  config : Option String := none
  /-- How often more output was asked for, up to 255. -/
  verbosity : Nat := 0
  sources : VariableSources := {}
  named : List (String × String) := []
  deriving Repr, DecidableEq

/-- `name=value`, cut at the first equals sign, with a name that is not blank. -/
def assignment? (text : String) : Option (String × String) :=
  let chars := text.toList
  match chars.dropWhile (· != '=') with
  | [] => none
  | _ :: value =>
    let name := Text.trim (String.ofList (chars.takeWhile (· != '=')))
    if name = "" then none else some (name, String.ofList value)

namespace FlagValues

def once {α : Type} (old : Option α) (new : Except UsageError α) : Except UsageError α :=
  if old.isSome then .error .repeatedFlag else new

def checked {ε α : Type} : Except ε α → Except UsageError α
  | .ok a => .ok a
  | .error _ => .error .badValue

def path (text : String) : Except UsageError String :=
  if text = "" then .error .missingValue else .ok text

def assignment (text : String) : Except UsageError (String × String) :=
  match assignment? text with
  | some a => .ok a
  | none => .error .badValue

def set (s : FlagValues) (f : Flag) (value : String) : Except UsageError FlagValues :=
  match f with
  | .naming => do return { s with naming := ← once s.naming (checked (Naming.ofText value)) }
  | .level => do return { s with level := ← once s.level (checked (Level.ofText value)) }
  | .config => do return { s with config := ← once s.config (path value) }
  | .variableFile => do
    let file ← once s.sources.file (path value)
    return { s with sources := { s.sources with file } }
  | .assign => do
    let a ← assignment value
    let assignments := s.sources.assignments ++ [a]
    return { s with sources := { s.sources with assignments } }
  | .named => do return { s with named := s.named ++ [← assignment value] }
  | .help | .version | .verbose => .error .unneededValue

def raise (s : FlagValues) : Flag → Except UsageError FlagValues
  | .help => .error .help
  | .version => .error .version
  | .verbose => .ok { s with verbosity := min 255 (s.verbosity + 1) }
  | _ => .error .missingValue

end FlagValues
end LiquidEval
