import LiquidEval.CommandLine.Flag

/-! A part of a command line: the words before the command, or those after it. A flag that takes a
value is settled only when the next flag or argument comes, or the end; what is wrong with a later
word may then be told first. -/
namespace LiquidEval

structure PartShape where
  flags : List Flag
  commands : List String := []
  /-- How many arguments that are no flags it takes; `none` for any number. -/
  capacity : Option Nat := some 0

inductive Word where
  /-- `--`, after which nothing is a flag. -/
  | separator
  /-- `--name` or `--name=value`. -/
  | long (name : String) (value : Option String)
  /-- Flags of one letter behind one hyphen. -/
  | cluster (letters : List Char)
  | plain
  deriving Repr, DecidableEq

def Word.ofString (s : String) : Word :=
  match s.toList with
  | ['-', '-'] => separator
  | '-' :: '-' :: rest =>
    let name := String.ofList (rest.takeWhile (· != '='))
    match rest.dropWhile (· != '=') with
    | [] => long name none
    | _ :: value => long name (some (String.ofList value))
  | '-' :: c :: rest => cluster (c :: rest)
  | _ => plain

structure Part where
  values : FlagValues := {}
  arguments : List String := []
  /-- A flag that is not settled yet, with its value once that has come. -/
  pending : Option (Flag × Option String) := none
  /-- Whether `--` went before. -/
  closed : Bool := false

namespace Part

def isWaiting (p : Part) : Bool :=
  match p.pending with
  | some (_, none) => true
  | _ => false

def settle (p : Part) : Except UsageError Part :=
  match p.pending with
  | none => .ok p
  | some (_, none) => .error .missingValue
  | some (f, some value) => do return { p with values := ← p.values.set f value, pending := none }

def strayError (shape : PartShape) (closed : Bool) (word : String) : UsageError :=
  if shape.commands.isEmpty || (closed && shape.commands.contains word) then .unknownArgument
  else .unknownCommand

def hasRoom (shape : PartShape) (p : Part) : Bool :=
  match shape.capacity with
  | none => true
  | some n => decide (p.arguments.length < n)

def addArgument (shape : PartShape) (p : Part) (word : String) : Except UsageError Part :=
  if p.hasRoom shape then do
    let p ← p.settle
    return { p with arguments := p.arguments ++ [word] }
  else .error (strayError shape p.closed word)

def addBare (p : Part) (f : Flag) : Except UsageError Part := do
  let p ← p.settle
  if f.takesValue then return { p with pending := some (f, none) }
  else return { p with values := ← p.values.raise f }

def addLong (shape : PartShape) (p : Part) (name : String) (value : Option String) :
    Except UsageError Part :=
  match shape.flags.find? fun f => f.long == name with
  | none => .error .unknownArgument
  | some f =>
    match value with
    | none => p.addBare f
    | some value =>
      if f.takesValue then do
        let p ← p.settle
        return { p with values := ← p.values.set f value }
      else .error .unneededValue

def addCluster (shape : PartShape) : Part → List Char → Except UsageError Part
  | p, [] => .ok p
  | p, c :: rest =>
    match shape.flags.find? fun f => f.short? == some c with
    | none => .error .unknownArgument
    | some f => do addCluster shape (← p.addBare f) rest

/-- Takes a word; one that is no flag may be the value that a flag waits for. -/
def addWord (shape : PartShape) (p : Part) (word : String) : Except UsageError Part :=
  if p.closed then p.addArgument shape word
  else match Word.ofString word with
    | .separator => .ok { p with closed := true }
    | .long name value => p.addLong shape name value
    | .cluster letters => p.addCluster shape letters
    | .plain =>
      match p.pending with
      | some (f, none) => .ok { p with pending := some (f, some word) }
      | _ => p.addArgument shape word

/-- Whether a word ends the part: a command's name where no flag waits for a value. -/
def endsAt (shape : PartShape) (p : Part) (word : String) : Bool :=
  !p.closed && !p.isWaiting && shape.commands.contains word

/-- Reads up to the name of a command and gives it with the words behind it. The last flag may be
unsettled. -/
def read (shape : PartShape) :
    Part → List String → Except UsageError (Part × Option (String × List String))
  | p, [] => .ok (p, none)
  | p, word :: rest =>
    if p.endsAt shape word then .ok (p, some (word, rest))
    else do read shape (← p.addWord shape word) rest

end Part
end LiquidEval
