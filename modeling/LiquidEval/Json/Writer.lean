import LiquidEval.Decimal.Layout
import LiquidEval.Json

/-! The text of a JSON document, on one line or indented by two blanks a level. -/
namespace LiquidEval.Json

def controlEscape (c : Char) : List Char :=
  let hex := Nat.toDigits 16 c.toNat
  ['\\', 'u'] ++ List.replicate (4 - hex.length) '0' ++ hex

def escape (c : Char) : List Char :=
  if c = '"' then ['\\', '"']
  else if c = '\\' then ['\\', '\\']
  else if c = '\n' then ['\\', 'n']
  else if c = '\r' then ['\\', 'r']
  else if c = '\t' then ['\\', 't']
  else if c = '\x08' then ['\\', 'b']
  else if c = '\x0c' then ['\\', 'f']
  else if c.toNat < 32 then controlEscape c
  else [c]

def quote (s : String) : String := String.ofList ('"' :: s.toList.flatMap escape ++ ['"'])

/-- JSON has no infinity and no not-a-number; `null` stands for them. -/
def floatText (f : Float) : String :=
  if f.isNaN || f.isInf then "null" else Decimal.Layout.json.write f

def scalarText : Json → String
  | .bool b => if b then "true" else "false"
  | .int i => toString i
  | .float f => floatText f
  | .string s => quote s
  | _ => "null"

mutual
def compact : Json → String
  | .array items => "[" ++ String.intercalate "," (compactAll items) ++ "]"
  | .object fields => "\x7b" ++ String.intercalate "," (compactFields fields) ++ "\x7d"
  | j => scalarText j
def compactAll : List Json → List String
  | [] => []
  | j :: rest => compact j :: compactAll rest
def compactFields : List (String × Json) → List String
  | [] => []
  | (name, j) :: rest => (quote name ++ ":" ++ compact j) :: compactFields rest
end

def newline (level : Nat) : String := "\n" ++ String.ofList (List.replicate (2 * level) ' ')

/-- Parts one to a line between brackets; without parts the brackets close at once. -/
def block (level : Nat) (openBracket closeBracket : String) : List String → String
  | [] => openBracket ++ closeBracket
  | parts =>
    openBracket ++ newline (level + 1) ++ String.intercalate ("," ++ newline (level + 1)) parts ++
      newline level ++ closeBracket

mutual
def prettyAt (level : Nat) : Json → String
  | .array items => block level "[" "]" (prettyAll (level + 1) items)
  | .object fields => block level "\x7b" "\x7d" (prettyFields (level + 1) fields)
  | j => scalarText j
def prettyAll (level : Nat) : List Json → List String
  | [] => []
  | j :: rest => prettyAt level j :: prettyAll level rest
def prettyFields (level : Nat) : List (String × Json) → List String
  | [] => []
  | (name, j) :: rest => (quote name ++ ": " ++ prettyAt level j) :: prettyFields level rest
end

def pretty (j : Json) : String := prettyAt 0 j

end LiquidEval.Json
