/-! Files as a program sees them: the two directories that it starts from, and what lies at each
path. -/
namespace LiquidEval

inductive FileError where
  | notFound
  | notADirectory
  | isADirectory
  | nameTooLong
  | linkLoop
  /-- The path holds the character that ends paths in a system call. -/
  | nulInName
  | denied
  | notText
  | other (text : String)
  deriving Repr, DecidableEq

def FileError.message : FileError → String
  | notFound => "No such file or directory (os error 2)"
  | notADirectory => "Not a directory (os error 20)"
  | isADirectory => "Is a directory (os error 21)"
  | nameTooLong => "File name too long (os error 36)"
  | linkLoop => "Too many levels of symbolic links (os error 40)"
  | nulInName => "file name contained an unexpected NUL byte"
  | denied => "Permission denied (os error 13)"
  | notText => "stream did not contain valid UTF-8"
  | other text => text

/-- What is found at a path. -/
inductive Finding where
  | text (s : String)
  /-- Something is there, and it cannot be read as a text. -/
  | unreadable (cause : FileError)
  /-- Nothing is there, or there is no way to it. -/
  | unreachable (cause : FileError)

structure Files where
  directory : String
  home : Option String
  look : String → Finding

def Files.read (files : Files) (path : String) : Except FileError String :=
  match files.look path with
  | .text s => .ok s
  | .unreadable cause | .unreachable cause => .error cause

/-- Whether a path leads to something, be it readable or not. -/
def Files.has (files : Files) (path : String) : Bool :=
  match files.look path with
  | .unreachable _ => false
  | _ => true

def Files.below (directory name : String) : String :=
  if directory = "" || directory.endsWith "/" then directory ++ name else directory ++ "/" ++ name

end LiquidEval
