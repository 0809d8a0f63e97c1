import LiquidEval.Value

/-! Expressions: literals, ranges and paths that start at a variable. -/
namespace LiquidEval

inductive Literal where
  | nil
  | bool (b : Bool)
  | int (i : Int64)
  | float (f : Float)
  | string (s : String)

mutual
inductive Expr where
  | literal (value : Literal)
  /-- All integers from the first bound to the second. -/
  | range (first last : Expr)
  | path (root : String) (lookups : List Lookup)
inductive Lookup where
  | key (name : String)
  | index (i : Int64)
  | dynamic (e : Expr)
end

instance : Inhabited Expr := ⟨.literal .nil⟩

def Literal.value {H : Type} : Literal → Value H
  | nil => .nil
  | bool b => .bool b
  | int i => .int i
  | float f => .float f
  | string s => .string s

end LiquidEval
