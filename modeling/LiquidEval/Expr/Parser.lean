import LiquidEval.Expr
import LiquidEval.SyntaxError
import LiquidEval.Text.Blank
import LiquidEval.Text.Letter

/-! Reading expressions. A reader takes a text and gives what it read with the rest of the text, or
nothing. There are no tokens: each reader decides by the characters in front of it, and the first
alternative that fits is taken. -/
namespace LiquidEval.Expr

abbrev Reader (α : Type) := List Char → Option (α × List Char)

/-- Characters of a name after its first. -/
def isWord (c : Char) : Bool := Text.isAlphanumeric c || c == '_' || c == '-'

def startsName (c : Char) : Bool := Text.isAlphabetic c || c == '_'

def skipBlanks (s : List Char) : List Char := s.dropWhile Text.isBlank

def after? : List Char → List Char → Option (List Char)
  | [], s => some s
  | _ :: _, [] => none
  | c :: cs, d :: s => if c = d then after? cs s else none

/-- A word that no further character of a name follows. -/
def keyword? (word : List Char) (s : List Char) : Option (List Char) :=
  match after? word s with
  | some rest => if rest.head?.any isWord then none else some rest
  | none => none

def untilQuote (quote : Char) : Reader (List Char)
  | [] => none
  | c :: s =>
    if c = quote then some ([], s)
    else (untilQuote quote s).map fun r => (c :: r.1, r.2)

def quotedText? : Reader String
  | '"' :: s => (untilQuote '"' s).map fun r => (String.ofList r.1, r.2)
  | '\'' :: s => (untilQuote '\'' s).map fun r => (String.ofList r.1, r.2)
  | _ => none

def digits1? : Reader (List Char) := fun s =>
  let digits := s.takeWhile Decimal.isAsciiDigit
  if digits.isEmpty then none else some (digits, s.dropWhile Decimal.isAsciiDigit)

/-- A point and digits, with the point; nothing read where there is no such thing. -/
def fractionText (s : List Char) : List Char × List Char :=
  match s with
  | '.' :: t =>
    match digits1? t with
    | some (digits, rest) => ('.' :: digits, rest)
    | none => ([], s)
  | _ => ([], s)

def signText : List Char → List Char × List Char
  | '-' :: s => (['-'], s)
  | s => ([], s)

def numberText? : Reader (List Char) := fun s =>
  let (sign, s) := signText s
  match digits1? s with
  | some (whole, s) =>
    let (fraction, rest) := fractionText s
    some (sign ++ whole ++ fraction, rest)
  | none => none

/-- A number without a fraction is an integer if it fits in 64 bits. -/
def numberLiteral (text : List Char) : Literal :=
  match Decimal.readInt64? text with
  | some i => .int i
  | none => .float ((Decimal.readFloat? text).getD 0.0)

def keywords : List (List Char × Literal) :=
  [("true".toList, .bool true), ("false".toList, .bool false), ("nil".toList, .nil),
    ("null".toList, .nil)]

def keywordLiteral? : Reader Literal := fun s =>
  keywords.findSome? fun k => (keyword? k.1 s).map fun rest => (k.2, rest)

def literal? : Reader Literal := fun s =>
  match quotedText? s with
  | some (text, rest) => some (.string text, rest)
  | none =>
    match numberText? s with
    | some (text, rest) => some (numberLiteral text, rest)
    | none => keywordLiteral? s

/-- A question mark at the end of a name belongs to it. -/
def markText : List Char → List Char × List Char
  | '?' :: s => (['?'], s)
  | s => ([], s)

/-- Characters of a name with the mark that may end it. -/
def wordText (s : List Char) : List Char × List Char :=
  let (mark, rest) := markText (s.dropWhile isWord)
  (s.takeWhile isWord ++ mark, rest)

def name? : Reader String
  | c :: s =>
    if startsName c then
      let (word, rest) := wordText s
      some (String.ofList (c :: word), rest)
    else none
  | [] => none

/-- A string between brackets, which may name any variable. -/
def bracketedName? : Reader String
  | '[' :: s =>
    match quotedText? (skipBlanks s) with
    | some (text, s) =>
      match skipBlanks s with
      | ']' :: rest => some (text, rest)
      | _ => none
    | none => none
  | _ => none

def root? : Reader String := fun s =>
  match name? s with
  | some r => some r
  | none => bracketedName? s

/-- A segment after a dot is an index when it consists of digits. -/
def dotLookup (segment : List Char) : Lookup :=
  if segment.all Decimal.isAsciiDigit then
    match Decimal.readInt64? segment with
    | some i => .index i
    | none => .key (String.ofList segment)
  else .key (String.ofList segment)

def bracketLookup : Expr → Lookup
  | .literal (.string s) => .key s
  | .literal (.int i) => .index i
  | e => .dynamic e

def lookup? (inner : Reader Expr) : Reader Lookup
  | '.' :: s =>
    match s with
    | c :: _ =>
      if isWord c then
        let (segment, rest) := wordText s
        some (dotLookup segment, rest)
      else none
    | [] => none
  | '[' :: s =>
    match inner (skipBlanks s) with
    | some (e, s) =>
      match skipBlanks s with
      | ']' :: rest => some (bracketLookup e, rest)
      | _ => none
    | none => none
  | _ => none

def lookups (inner : Reader Expr) (fuel : Nat) (s : List Char) : List Lookup × List Char :=
  match fuel with
  | 0 => ([], s)
  | fuel + 1 =>
    match lookup? inner s with
    | some (l, s) =>
      let (rest, s) := lookups inner fuel s
      (l :: rest, s)
    | none => ([], s)

def path? (inner : Reader Expr) : Reader Expr := fun s =>
  match root? s with
  | some (root, s) =>
    let (steps, rest) := lookups inner s.length s
    some (.path root steps, rest)
  | none => none

def dots? : List Char → Option (List Char)
  | '.' :: '.' :: s => some s
  | _ => none

def range? (inner : Reader Expr) : Reader Expr
  | '(' :: s =>
    match inner (skipBlanks s) with
    | some (first, s) =>
      match dots? (skipBlanks s) with
      | some s =>
        match inner (skipBlanks s) with
        | some (last, s) =>
          match skipBlanks s with
          | ')' :: rest => some (.range first last, rest)
          | _ => none
        | none => none
      | none => none
    | none => none
  | _ => none

/-- An expression with fewer than `depth` expressions around any part of it. -/
def readAt (depth : Nat) : Reader Expr :=
  match depth with
  | 0 => fun _ => none
  | depth + 1 => fun s =>
    match literal? s with
    | some (value, rest) => some (.literal value, rest)
    | none =>
      match range? (readAt depth) s with
      | some r => some r
      | none => path? (readAt depth) s

/-- Every nested expression stands behind a bracket, so the length bounds the depth. -/
def read? : Reader Expr := fun s => readAt (s.length + 1) s

/-- Where reading gives up when there is no expression: in front of the text, or behind the opening
bracket of a name that is not closed. -/
def stuckAt (s : List Char) : List Char :=
  match s with
  | '[' :: t =>
    let t := skipBlanks t
    match quotedText? t with
    | some (_, rest) => skipBlanks rest
    | none => if t.head? == some '\'' then [] else t
  | _ => s

/-- The expression that a text holds, with or without white space around it. -/
def ofChars (s : List Char) : Except SyntaxError Expr :=
  let s := Text.trimChars s
  if s.isEmpty then .error .emptyInput
  else
    match read? s with
    | some (e, []) => .ok e
    | some (_, rest) => .error (.stoppedAt s rest)
    | none => .error (.stoppedAt s (stuckAt s))

def ofText (s : String) : Except SyntaxError Expr := ofChars s.toList

end LiquidEval.Expr
