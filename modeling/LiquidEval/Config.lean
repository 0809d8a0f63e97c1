import LiquidEval.Config.FileTree
import LiquidEval.Context
import LiquidEval.Toml.Reader
import LiquidEval.Toml.Writer
import LiquidEval.Value.Document

/-! Configuration: the two settings of a render and the variables that it starts with. Settings come
from defaults, a file, the environment and the caller, each going before the ones named earlier. -/
namespace LiquidEval

structure Config where
  naming : Naming := .ruby
  level : Level := .liquid20
  bindings : List (String × Json) := []

inductive ConfigError where
  | read (path : String) (cause : FileError)
  | parse
  | serialize
  | write (path : String) (cause : FileError)
  | env (name : String) (cause : SettingError)
  deriving Repr, DecidableEq

/-- The text of an error; what is wrong with a document is not told. -/
def ConfigError.message? : ConfigError → Option String
  | read path cause => some ("Failed to read config file " ++ path ++ ": " ++ cause.message)
  | parse | serialize => none
  | write path cause => some ("Failed to write config file " ++ path ++ ": " ++ cause.message)
  | env name cause => some ("Invalid value for " ++ name ++ ": " ++ cause.message)

abbrev Environment := String → Option String

namespace Config

def namingVariable : String := "LIQUOR_NAMING_CONVENTION"

def levelVariable : String := "LIQUOR_SYNTAX_COMPATIBILITY"

def namingKeywords : List (String × Naming) :=
  [("ruby", .ruby), ("csharp", .csharp), ("c#", .csharp), ("cs", .csharp)]

def levelKeywords : List (String × Level) :=
  [Level.liquid20, .liquid21, .liquid22, .liquid22a].map fun l => (l.text, l)

def isEmptyContainer : Toml → Bool
  | .array [] | .table [] => true
  | _ => false

/-- The word that a setting is given by: a string, or the only key of a table with nothing under
it. -/
def keyword? : Toml → Option String
  | .string s => some s
  | .table [(name, inner)] => if isEmptyContainer inner then some name else none
  | _ => none

/-- A setting of a document; without the key it has its default. -/
def setting? {α : Type} (words : List (String × α)) (default : α) (entries : List (String × Toml))
    (key : String) : Option α :=
  match List.lookup key entries with
  | none => some default
  | some t => (keyword? t).bind fun w => List.lookup w words

def bindings? (entries : List (String × Toml)) : Option (List (String × Json)) :=
  match List.lookup "variables" entries with
  | none => some []
  | some t =>
    match t.toJson? with
    | some (.object fields) => some fields
    | _ => none

def ofEntries? (entries : List (String × Toml)) : Option Config := do
  let naming ← setting? namingKeywords .ruby entries "naming_convention"
  let level ← setting? levelKeywords .liquid20 entries "syntax_compatibility"
  let bindings ← bindings? entries
  some ⟨naming, level, bindings⟩

/-- The configuration that a TOML document holds; keys that mean nothing here are passed over. -/
def ofToml (text : String) : Except ConfigError Config :=
  match (Toml.read? text).bind ofEntries? with
  | some c => .ok c
  | none => .error .parse

def ofFile (files : Files) (path : String) : Except ConfigError Config :=
  match files.read path with
  | .error cause => .error (.read path cause)
  | .ok text => ofToml text

def fileNames : List String := ["liquor.toml", ".liquor.toml"]

/-- Where a configuration is looked for, the first path first: in the current directory, then under
the home directory. -/
def candidates (directory : String) (home : Option String) : List String :=
  fileNames.map (Files.below directory) ++ home.toList.flatMap fun home =>
    let settings := Files.below home ".config/liquor"
    fileNames.flatMap fun name => [Files.below settings name, Files.below home name]

def findFile? (files : Files) : Option String :=
  (candidates files.directory files.home).find? files.has

def ofChosenFile (files : Files) (path : Option String) : Except ConfigError Config :=
  match path.or (findFile? files) with
  | some path => ofFile files path
  | none => .ok {}

/-- Sets what the environment sets. What was set before an error stays. -/
def applyEnv (env : Environment) (c : Config) : Config × Option ConfigError :=
  match env namingVariable with
  | some text =>
    match Naming.ofText text with
    | .ok n => applyLevel { c with naming := n }
    | .error e => (c, some (.env namingVariable e))
  | none => applyLevel c
where
  applyLevel (c : Config) : Config × Option ConfigError :=
    match env levelVariable with
    | some text =>
      match Level.ofText text with
      | .ok l => ({ c with level := l }, none)
      | .error e => (c, some (.env levelVariable e))
    | none => (c, none)

def load (files : Files) (env : Environment) (path : Option String) : Except ConfigError Config :=
  match ofChosenFile files path with
  | .error e => .error e
  | .ok c =>
    match c.applyEnv env with
    | (c, none) => .ok c
    | (_, some e) => .error e

def variableFields {H : Type} (c : Config) : List (String × Value H) :=
  Value.ofJsonFields c.bindings

def newContext {H : Type} (c : Config) : Context H :=
  { naming := c.naming, level := c.level : Context H }.setGlobals c.variableFields

def toToml (c : Config) : Except ConfigError String :=
  match Toml.sections? false "variables" (.object c.bindings) with
  | none => .error .serialize
  | some lines =>
    .ok (String.intercalate "\n" (["naming_convention = " ++ Toml.quote c.naming.text,
      "syntax_compatibility = " ++ Toml.quote c.level.text] ++ lines) ++ "\n")

def save (c : Config) (t : FileTree) (path : String) : Except ConfigError FileTree :=
  match c.toToml with
  | .error e => .error e
  | .ok text =>
    match t.write path text with
    | .ok t => .ok t
    | .error cause => .error (.write path cause)

mutual
/-- Whether two documents are the same; a float equals another as a number does. -/
def sameJson : Json → Json → Bool
  | .null, .null => true
  | .bool a, .bool b => a == b
  | .int a, .int b => a == b
  | .float a, .float b => a == b
  | .string a, .string b => a == b
  | .array a, .array b => sameAll a b
  | .object a, .object b => sameFields a b
  | _, _ => false
def sameAll : List Json → List Json → Bool
  | [], [] => true
  | a :: as, b :: bs => sameJson a b && sameAll as bs
  | _, _ => false
def sameFields : List (String × Json) → List (String × Json) → Bool
  | [], [] => true
  | (n, a) :: as, (m, b) :: bs => n == m && sameJson a b && sameFields as bs
  | _, _ => false
end

def same (a b : Config) : Bool :=
  a.naming == b.naming && a.level == b.level && sameFields a.bindings b.bindings

end Config
end LiquidEval
