import LiquidEval.CommandLine.Run

/-! The program: reads the environment, looks at the files that a command line may need, runs it,
and prints the outcome. -/
namespace LiquidEval.Main

def usage : String := String.intercalate "\n"
  ["Evaluate Liquid conditions and filters", "",
    "Usage: liquid-eval [FLAGS] COMMAND", "",
    "Commands:",
    "  condition MARKUP [--var NAME=JSON] [--vars FILE]",
    "  filter NAME INPUT [ARGS] [--named KEY=JSON] [--var NAME=JSON] [--vars FILE]",
    "  parse MARKUP",
    "  operators",
    "  filters", "",
    "Flags:",
    "  --naming CONVENTION   ruby or csharp",
    "  --syntax LEVEL        liquid20, liquid21, liquid22 or liquid22a",
    "  --config FILE",
    "  -v, --verbose",
    "  -h, --help",
    "  -V, --version"]

/-- The number of a system error, which some calls give with its sign changed. -/
def errorNumber (code : UInt32) : UInt32 := min code (0 - code)

def fileError : IO.Error → FileError
  | .noFileOrDirectory .. => .notFound
  | .permissionDenied .. => .denied
  | .inappropriateType _ code _ =>
    if errorNumber code = 20 then .notADirectory else .isADirectory
  | e@(.invalidArgument _ code _) =>
    if errorNumber code = 36 then .nameTooLong
    else if errorNumber code = 40 then .linkLoop
    else .other (toString e)
  | e => .other (toString e)

/-- Tells something that cannot be read from a path that cannot be followed to its end. -/
def unread (path : String) (cause : FileError) : IO Finding := do
  try
    let _ ← IO.FS.realPath path
    return .unreadable cause
  catch _ => return .unreachable cause

def look (path : String) : IO Finding := do
  try
    match String.fromUTF8? (← IO.FS.readBinFile path) with
    | some text => return .text text
    | none => return .unreadable .notText
  catch e => unread path (fileError e)

/-- The current directory; a single point stands for one that is gone. -/
def currentDirectory : IO String := do
  try
    return toString (← IO.currentDir)
  catch _ => return "."

/-- Looks at the files that a command line may need. -/
def readFiles (line : CommandLine) : IO Files := do
  let directory ← currentDirectory
  let home ← IO.getEnv "HOME"
  let findings ← (line.paths directory home).mapM fun path => return (path, ← look path)
  return ⟨directory, home, fun path => (List.lookup path findings).getD (.unreachable .notFound)⟩

def readEnvironment : IO Environment := do
  let names := [Config.namingVariable, Config.levelVariable]
  let values ← names.mapM fun name => return (name, ← IO.getEnv name)
  return fun name => (List.lookup name values).bind id

def refuse (e : UsageError) : IO UInt32 := do
  match e with
  | .help => IO.println usage; return 0
  | .version => IO.println "liquid-eval 0.3.0"; return 0
  | e => IO.eprintln ("error: " ++ e.message); return 2

def start (words : List String) : IO UInt32 := do
  let env ← readEnvironment
  match CommandLine.ofWords env words with
  | .error e => refuse e
  | .ok line =>
    let files ← readFiles line
    match line.run files env with
    | .ok r => IO.println r.output; return 0
    | .error e => IO.eprintln ("Error: " ++ e.message); return 1

end LiquidEval.Main

def main (words : List String) : IO UInt32 := LiquidEval.Main.start words
