import LiquidEval.Config.Files
import LiquidEval.Table

/-! Files held in memory. A path is followed step by step from the root or from the current
directory; positions on the way are the names that lead there from the root. -/
namespace LiquidEval

structure FileTree where
  directory : String
  home : String
  /-- The text of each file under its full path. -/
  contents : Table String

namespace FileTree

def steps (path : String) : List String := (path.splitOn "/").filter (· != "")

/-- The names that a full path leads along. -/
def components (path : String) : List String := (steps path).filter (· != ".")

/-- Directories are the current one, the home directory, and all that something lies below. -/
def isDirectory (t : FileTree) (position : List String) : Bool :=
  position.isPrefixOf (components t.directory) || position.isPrefixOf (components t.home) ||
    t.contents.any fun e =>
      let c := components e.1
      position.length < c.length && position.isPrefixOf c

def file? (t : FileTree) (position : List String) : Option String :=
  (t.contents.find? fun e => components e.1 == position).map Prod.snd

/-- The most bytes that one name may have. -/
def longestName : Nat := 255

/-- The most bytes that a path may have. -/
def longestPath : Nat := 4095

/-- Follows steps. Each of them starts in a directory, and only the last name may lead to nothing.
The root is its own parent. -/
def walk (t : FileTree) (position : List String) : List String → Except FileError (List String)
  | [] => .ok position
  | name :: rest =>
    if !t.isDirectory position then
      .error (if (t.file? position).isSome then .notADirectory else .notFound)
    else if name = "." then walk t position rest
    else if name = ".." then walk t position.dropLast rest
    else if longestName < name.utf8ByteSize then .error .nameTooLong
    else walk t (position ++ [name]) rest

/-- What is wrong with a path before any step is followed. -/
def pathFault? (path : String) : Option FileError :=
  if path.toList.contains '\x00' then some .nulInName
  else if path = "" then some .notFound
  else if longestPath < path.utf8ByteSize then some .nameTooLong
  else none

def follow (t : FileTree) (path : String) (steps : List String) : Except FileError (List String) :=
  match pathFault? path with
  | some e => .error e
  | none => t.walk (if path.startsWith "/" then [] else components t.directory) steps

/-- Whether a path asks for a directory by its spelling. -/
def endsOpen (path : String) : Bool := path.endsWith "/"

def look (t : FileTree) (path : String) : Finding :=
  match t.follow path (steps path) with
  | .error cause => .unreachable cause
  | .ok target =>
    if t.isDirectory target then .unreadable .isADirectory
    else match t.file? target with
      | none => .unreachable .notFound
      | some text => if endsOpen path then .unreachable .notADirectory else .text text

/-- Writes a file into a directory that exists. The last name of an open path is not looked at. -/
def write (t : FileTree) (path text : String) : Except FileError FileTree := do
  if endsOpen path then
    let _ ← t.follow path ((steps path).dropLast ++ ["."])
    .error .isADirectory
  else
    let target ← t.follow path (steps path)
    if t.isDirectory target then .error .isADirectory
    else
      let others := t.contents.filter fun e => components e.1 != target
      .ok { t with contents := others ++ [("/" ++ String.intercalate "/" target, text)] }

def files (t : FileTree) : Files := ⟨t.directory, some t.home, t.look⟩

end FileTree
end LiquidEval
