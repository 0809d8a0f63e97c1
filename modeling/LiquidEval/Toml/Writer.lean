import LiquidEval.Decimal.Layout
import LiquidEval.Json.Writer
import LiquidEval.Toml

/-! Writing JSON values into TOML documents, which have no null. A table goes under a header of its
own, and so does each of several tables in an array, unless they stand inside of an array that holds
something else. -/
namespace LiquidEval.Toml

/-- Control characters are escaped by number, so that every string fits on a line. -/
def escapeChar (c : Char) : List Char :=
  if c = '\x7f' then Json.controlEscape c else Json.escape c

def quote (s : String) : String := String.ofList ('"' :: s.toList.flatMap escapeChar ++ ['"'])

mutual
def write? : Json → Option String
  | .null => none
  | .bool b => some (if b then "true" else "false")
  | .int i => some (toString i)
  | .float f => some (Decimal.Layout.inspected.write f)
  | .string s => some (quote s)
  | .array items => (writeAll? items).map fun parts => "[" ++ String.intercalate ", " parts ++ "]"
  | .object fields =>
    (writeFields? fields).map fun parts => "\x7b" ++ String.intercalate ", " parts ++ "\x7d"
def writeAll? : List Json → Option (List String)
  | [] => some []
  | j :: rest =>
    match write? j, writeAll? rest with
    | some part, some parts => some (part :: parts)
    | _, _ => none
def writeFields? : List (String × Json) → Option (List String)
  | [] => some []
  | (name, j) :: rest =>
    match write? j, writeFields? rest with
    | some part, some parts => some ((quote name ++ " = " ++ part) :: parts)
    | _, _ => none
end

def isTable : Json → Bool
  | .object _ => true
  | _ => false

def areTables (items : List Json) : Bool := !items.isEmpty && items.all isTable

/-- Whether a value goes under headers of its own, and not behind its name. -/
def hasHeader : Json → Bool
  | .array items => areTables items
  | j => isTable j

def header (repeated : Bool) (path : String) : String :=
  if repeated then "[[" ++ path ++ "]]" else "[" ++ path ++ "]"

mutual
/-- The lines of the tables that a value goes into: its header, the pairs under it, then the tables
inside. -/
def sections? (repeated : Bool) (path : String) : Json → Option (List String)
  | .object fields =>
    match writeFields? (fields.filter fun f => !hasHeader f.2), fieldSections? path fields with
    | some pairs, some inner => some (header repeated path :: pairs ++ inner)
    | _, _ => none
  | .array items => if areTables items then repeatedSections? path items else some []
  | _ => some []
def repeatedSections? (path : String) : List Json → Option (List String)
  | [] => some []
  | j :: rest =>
    match sections? true path j, repeatedSections? path rest with
    | some lines, some more => some (lines ++ more)
    | _, _ => none
def fieldSections? (path : String) : List (String × Json) → Option (List String)
  | [] => some []
  | (name, j) :: rest =>
    match sections? false (path ++ "." ++ quote name) j, fieldSections? path rest with
    | some lines, some more => some (lines ++ more)
    | _, _ => none
end

end LiquidEval.Toml
