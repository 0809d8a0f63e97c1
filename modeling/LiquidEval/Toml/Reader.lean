import LiquidEval.Json.Reader
import LiquidEval.Toml.Scalar
import LiquidEval.Toml.Tree

/-! Reading TOML documents. Brackets and braces nest at most eighty deep, and a key has at most
eighty names. -/
namespace LiquidEval.Toml

abbrev Reader (α : Type) := List Char → Option (α × List Char)

def isBlank (c : Char) : Bool := c == ' ' || c == '\t'

/-- Control characters other than the tab, which stand nowhere but in line ends. -/
def isControl (c : Char) : Bool := (c.toNat < 32 && c != '\t') || c.toNat == 127

def skipBlanks (s : List Char) : List Char := s.dropWhile isBlank

def lineEnd? : List Char → Option (List Char)
  | '\n' :: s => some s
  | '\r' :: '\n' :: s => some s
  | _ => none

def skipComment (s : List Char) : List Char :=
  match s with
  | '#' :: t => t.dropWhile fun c => !isControl c
  | _ => s

/-- Skips line ends and what `skip` skips on each line. -/
def skipLines (skip : List Char → List Char) (fuel : Nat) (s : List Char) : List Char :=
  match fuel with
  | 0 => s
  | fuel + 1 =>
    match lineEnd? (skip s) with
    | some rest => skipLines skip fuel rest
    | none => skip s

/-- Skips blanks, comments and line ends. -/
def layout (s : List Char) : List Char :=
  skipLines (fun line => skipComment (skipBlanks line)) (s.length + 1) s

def scalarOf? (code : Nat) : Option Char :=
  if code.isValidChar then some (Char.ofNat code) else none

/-- A character by its number in so many hexadecimal digits. -/
def numbered? (width : Nat) : Reader Char := fun s => do
  if s.length < width then none
  let c ← (Json.hexNumber? (s.take width)).bind scalarOf?
  some (c, s.drop width)

def escape? : Reader Char
  | 'b' :: s => some ('\x08', s)
  | 't' :: s => some ('\t', s)
  | 'n' :: s => some ('\n', s)
  | 'f' :: s => some ('\x0c', s)
  | 'r' :: s => some ('\r', s)
  | 'e' :: s => some ('\x1b', s)
  | '"' :: s => some ('"', s)
  | '\\' :: s => some ('\\', s)
  | 'x' :: s => numbered? 2 s
  | 'u' :: s => numbered? 4 s
  | 'U' :: s => numbered? 8 s
  | _ => none

/-- A string on one line, with escapes unless the quote is single. -/
def lineString (quote : Char) (fuel : Nat) : Reader (List Char) := fun s =>
  match fuel, s with
  | 0, _ | _, [] => none
  | fuel + 1, c :: s =>
    if c = quote then some ([], s)
    else if isControl c then none
    else do
      let (d, s) ← if c = '\\' && quote = '"' then escape? s else some (c, s)
      let (ds, s) ← lineString quote fuel s
      some (d :: ds, s)

/-- What follows a backslash at the end of a line: all blanks and line ends are skipped. -/
def continued? (s : List Char) : Option (List Char) :=
  (lineEnd? (skipBlanks s)).map fun t => skipLines skipBlanks (t.length + 1) t

/-- A string of several lines, whose line ends are kept as they are written. Up to two quotes may
stand in front of the three that end it. -/
def blockString (quote : Char) (fuel : Nat) : Reader (List Char) := fun s =>
  match fuel, s with
  | 0, _ | _, [] => none
  | fuel + 1, c :: t =>
    if c = quote then
      let run := (s.takeWhile (· == quote)).length
      if run < 3 then (blockString quote fuel t).map fun r => (c :: r.1, r.2)
      else
        let kept := min (run - 3) 2
        some (List.replicate kept quote, s.drop (kept + 3))
    else if isControl c && (lineEnd? s).isNone then none
    else if c = '\\' && quote = '"' then
      match continued? t with
      | some rest => blockString quote fuel rest
      | none => do
        let (d, rest) ← escape? t
        let (ds, rest) ← blockString quote fuel rest
        some (d :: ds, rest)
    else (blockString quote fuel t).map fun r => (c :: r.1, r.2)

/-- The line end right after the opening quotes is no part of the string. -/
def block? (quote : Char) : Reader (List Char) := fun s =>
  let s := (lineEnd? s).getD s
  blockString quote (s.length + 1) s

def isQuote (c : Char) : Bool := c == '"' || c == '\''

def string? : Reader String := fun s => do
  let (chars, rest) ← match s with
    | a :: b :: c :: t =>
      if isQuote a && a == b && a == c then block? a t
      else if isQuote a then lineString a s.length (b :: c :: t)
      else none
    | [a, b] => if isQuote a && a == b then some ([], []) else none
    | _ => none
  some (String.ofList chars, rest)

def isBareKey (c : Char) : Bool := c.isAlphanum || c == '_' || c == '-'

def simpleKey? : Reader String := fun s =>
  match s with
  | c :: t =>
    if isQuote c then (lineString c s.length t).map fun r => (String.ofList r.1, r.2)
    else
      let name := s.takeWhile isBareKey
      if name.isEmpty then none else some (String.ofList name, s.dropWhile isBareKey)
  | [] => none

/-- Names joined by dots, all but the last one first. -/
def dottedKey (fuel : Nat) : Reader (List String × String) := fun s =>
  match fuel with
  | 0 => none
  | fuel + 1 => do
    let (name, s) ← simpleKey? s
    match skipBlanks s with
    | '.' :: t =>
      let ((path, last), s) ← dottedKey fuel (skipBlanks t)
      some ((name :: path, last), s)
    | _ => some (([], name), s)

/-- How deep values nest, and how many names a key has, at most. -/
def maxDepth : Nat := 80

def key? : Reader (List String × String) := dottedKey maxDepth

def isScalarChar (c : Char) : Bool := c.isAlphanum || ['+', '-', '.', '_', ':'].contains c

/-- The characters of a scalar; a blank may stand between a date and a time. -/
def scalarText (s : List Char) : List Char × List Char :=
  let text := s.takeWhile isScalarChar
  let rest := s.dropWhile isScalarChar
  match rest with
  | ' ' :: d :: t =>
    if Decimal.isAsciiDigit d && (date? text == some (text, [])) then
      (text ++ ' ' :: (d :: t).takeWhile isScalarChar, (d :: t).dropWhile isScalarChar)
    else (text, rest)
  | _ => (text, rest)

def scalarValue? : Reader Toml := fun s =>
  let (text, rest) := scalarText s
  (scalar? text).map (·, rest)

/-- Values up to the closing bracket; a comma may follow the last one. -/
def items (value : Reader Toml) (fuel : Nat) : Reader (List Toml) := fun s =>
  match fuel with
  | 0 => none
  | fuel + 1 =>
    match layout s with
    | ']' :: rest => some ([], rest)
    | s => do
      let (item, s) ← value s
      match layout s with
      | ']' :: rest => some ([item], rest)
      | ',' :: rest =>
        let (more, s) ← items value fuel rest
        some (item :: more, s)
      | _ => none

/-- A key, an equals sign and a value; what may stand around the sign is skipped. -/
def pair? (skip : List Char → List Char) (value : Reader Toml) :
    Reader ((List String × String) × Toml) := fun s => do
  let (key, s) ← key? s
  match skip s with
  | '=' :: t =>
    let (v, s) ← value (skip t)
    some ((key, v), s)
  | _ => none

/-- Pairs up to the closing brace; a comma may follow the last one. -/
def pairs (value : Reader Toml) (fuel : Nat) (sofar : Entries) : Reader Entries := fun s =>
  match fuel with
  | 0 => none
  | fuel + 1 =>
    match layout s with
    | '\x7d' :: rest => some (sofar, rest)
    | s => do
      let ((key, v), s) ← pair? layout value s
      let entries ← enter key.1 key.2 v sofar
      match layout s with
      | '\x7d' :: rest => some (entries, rest)
      | ',' :: rest => pairs value fuel entries rest
      | _ => none

def value? (depth : Nat) : Reader Toml
  | '[' :: s =>
    match depth with
    | 0 => none
    | depth + 1 => (items (value? depth) (s.length + 1) s).map fun r => (.array r.1, r.2)
  | '\x7b' :: s =>
    match depth with
    | 0 => none
    | depth + 1 =>
      (pairs (value? depth) (s.length + 1) [] s).map fun r => (.table (valueEntries r.1), r.2)
  | c :: s =>
    if isQuote c then (string? (c :: s)).map fun r => (.string r.1, r.2) else scalarValue? (c :: s)
  | [] => none

/-- The document so far, and the path of the table that pairs go into. -/
structure Progress where
  entries : Entries := []
  current : List String := []

def header? (isNext : Bool) (p : Progress) (s : List Char) : Option (Progress × List Char) := do
  let ((path, name), s) ← key? (skipBlanks s)
  let rest ← match isNext, skipBlanks s with
    | false, ']' :: rest => some rest
    | true, ']' :: ']' :: rest => some rest
    | _, _ => none
  let change := if isNext then openNext name else openTable name
  let entries ← descend false (fun _ => change) path false p.entries
  some (⟨entries, path ++ [name]⟩, rest)

def statement? (p : Progress) (s : List Char) : Option (Progress × List Char) :=
  match s with
  | '[' :: '[' :: s => header? true p s
  | '[' :: s => header? false p s
  | s => do
    let ((key, v), rest) ← pair? skipBlanks (value? maxDepth) s
    let entries ← descend false (fun _ => enter key.1 key.2 v) p.current false p.entries
    some ({ p with entries }, rest)

def statements (fuel : Nat) (p : Progress) (s : List Char) : Option Entries :=
  match fuel with
  | 0 => none
  | fuel + 1 =>
    match layout s with
    | [] => some p.entries
    | s => do
      let (p, s) ← statement? p s
      match skipComment (skipBlanks s) with
      | [] => some p.entries
      | s => statements fuel p (← lineEnd? s)

/-- A mark of the byte order may stand in front. -/
def withoutMark (s : List Char) : List Char :=
  match s with
  | '\ufeff' :: t => t
  | s => s

def read? (text : String) : Option (List (String × Toml)) :=
  let s := withoutMark text.toList
  (statements (s.length + 1) {} s).map valueEntries

end LiquidEval.Toml
