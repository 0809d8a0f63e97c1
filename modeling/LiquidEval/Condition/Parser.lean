import LiquidEval.Condition
import LiquidEval.Expr.Parser

/-! Reading conditions. Blanks around operators may be left out where the operand and the operator
are told apart without them; `and` and `or` stand between blanks. -/
namespace LiquidEval.Markup

open LiquidEval.Expr (Reader skipBlanks)

def symbols : List (List Char) :=
  ["==", "!=", "<>", "<=", ">=", "<", ">"].map String.toList

def isOperatorWord (c : Char) : Bool := Text.isAlphanumeric c || c == '_'

/-- A word other than the two that join comparisons. -/
def wordOperator? : Reader (List Char)
  | c :: s =>
    if Expr.startsName c then
      let word := c :: s.takeWhile isOperatorWord
      if word == "and".toList || word == "or".toList then none
      else some (word, s.dropWhile isOperatorWord)
    else none
  | [] => none

def operator? : Reader (List Char) := fun s =>
  match symbols.findSome? fun symbol => (Expr.after? symbol s).map (symbol, ·) with
  | some r => some r
  | none => wordOperator? s

def operand? : Reader String := fun s =>
  (Expr.read? s).map fun r => (String.ofList (s.take (s.length - r.2.length)), r.2)

def test? : Reader (String × String) := fun s =>
  match operator? (skipBlanks s) with
  | some (operator, s) =>
    match operand? (skipBlanks s) with
    | some (right, rest) => some ((String.ofList operator, right), rest)
    | none => none
  | none => none

def comparison? : Reader Comparison := fun s =>
  match operand? s with
  | some (left, s) =>
    match test? s with
    | some ((operator, right), rest) => some (⟨left, some operator, some right⟩, rest)
    | none => some (⟨left, none, none⟩, s)
  | none => none

def blanks? : List Char → Option (List Char)
  | c :: s => if Text.isBlank c then some (skipBlanks s) else none
  | [] => none

def joiner? : Reader Logical := fun s =>
  match Expr.keyword? "and".toList s with
  | some rest => some (.and, rest)
  | none => (Expr.keyword? "or".toList s).map (.or, ·)

/-- A joining word between blanks, and the comparison that it joins. -/
def link? : Reader (Logical × Comparison) := fun s =>
  match blanks? s with
  | some s =>
    match joiner? s with
    | some (l, s) =>
      match blanks? s with
      | some s => (comparison? s).map fun r => ((l, r.1), r.2)
      | none => none
    | none => none
  | none => none

def links (fuel : Nat) (s : List Char) : List (Logical × Comparison) × List Char :=
  match fuel with
  | 0 => ([], s)
  | fuel + 1 =>
    match link? s with
    | some (l, s) =>
      let (rest, s) := links fuel s
      (l :: rest, s)
    | none => ([], s)

def read? : Reader Markup := fun s =>
  match comparison? s with
  | some (head, s) =>
    let (tail, rest) := links s.length s
    some (⟨head, tail⟩, rest)
  | none => none

/-- The markup that a text holds. Positions of errors count from the start of the text. -/
def ofChars (s : List Char) : Except SyntaxError Markup :=
  if (Text.trimChars s).isEmpty then .error .emptyInput
  else
    let start := skipBlanks s
    match read? start with
    | none => .error (.stoppedAt s (Expr.stuckAt start))
    | some (m, rest) =>
      match skipBlanks rest with
      | [] => .ok m
      | rest => .error (.stoppedAt s rest)

def ofText (s : String) : Except SyntaxError Markup := ofChars s.toList

end LiquidEval.Markup
