/-! Conditions: comparisons joined by `and` and `or` into one chain, without precedence. Operands
and operators are kept as text; they are read and looked up when the condition is evaluated. A
markup lists the comparisons that a text holds; a condition links each comparison to the rest of its
chain. -/
namespace LiquidEval

inductive Logical where
  | and
  | or
  deriving Repr, DecidableEq

def Logical.text : Logical → String
  | and => "and"
  | or => "or"

/-- `left operator right`, or `left` alone, which asks whether it is truthy. -/
structure Comparison where
  left : String
  operator : Option String
  right : Option String
  deriving Repr, DecidableEq

structure Markup where
  head : Comparison
  tail : List (Logical × Comparison)
  deriving Repr, DecidableEq

inductive Condition where
  | last (x : Comparison)
  | joined (x : Comparison) (l : Logical) (rest : Condition)
  deriving Repr, DecidableEq

namespace Condition

def comparing (left operator right : String) : Condition :=
  .last ⟨left, some operator, some right⟩

def truthy (expression : String) : Condition := .last ⟨expression, none, none⟩

/-- Joins a whole chain to the end of another. -/
def append : Condition → Logical → Condition → Condition
  | last x, l, b => joined x l b
  | joined x k rest, l, b => joined x k (append rest l b)

def and (a b : Condition) : Condition := a.append .and b

def or (a b : Condition) : Condition := a.append .or b

/-- Joins the comparisons of a markup one after another. -/
def ofMarkup (m : Markup) : Condition :=
  m.tail.foldl (fun c e => c.append e.1 (.last e.2)) (.last m.head)

def head : Condition → Comparison
  | last x => x
  | joined x _ _ => x

/-- What is joined to the first comparison, in the order of the chain. -/
def tail : Condition → List (Logical × Comparison)
  | last _ => []
  | joined _ l rest => (l, rest.head) :: rest.tail

end Condition

/-- A comparison that lacks a part prints its left operand only. -/
def Comparison.print (c : Comparison) : String :=
  match c.operator, c.right with
  | some operator, some right => c.left ++ " " ++ operator ++ " " ++ right
  | _, _ => c.left

def Markup.printTail : List (Logical × Comparison) → String
  | [] => ""
  | (l, c) :: rest => " " ++ l.text ++ " " ++ c.print ++ printTail rest

def Markup.print (m : Markup) : String := m.head.print ++ printTail m.tail

/-- A text that may be missing, behind a blank. -/
def optionalWord : Option String → String
  | some word => " " ++ word
  | none => ""

/-- In a chain every part that is there is printed. -/
def Comparison.printLink (c : Comparison) : String :=
  c.left ++ optionalWord c.operator ++ optionalWord c.right

def Condition.print : Condition → String
  | last x => x.printLink
  | joined x l rest => x.printLink ++ " " ++ l.text ++ " " ++ rest.print

end LiquidEval
