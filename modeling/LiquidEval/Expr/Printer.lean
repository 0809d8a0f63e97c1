import LiquidEval.Expr

/-! The text of an expression. A string that holds a single quote is printed between double quotes;
there are no escapes. -/
namespace LiquidEval

def Literal.print : Literal → String
  | nil => "nil"
  | bool b => Value.boolText b
  | int i => Value.intText i
  | float f => Decimal.Layout.inspected.write f
  | string s => if s.contains '\'' then "\"" ++ s ++ "\"" else "'" ++ s ++ "'"

mutual
def Expr.print : Expr → String
  | .literal value => value.print
  | .range first last => "(" ++ first.print ++ ".." ++ last.print ++ ")"
  | .path root lookups => root ++ printLookups lookups
def Lookup.print : Lookup → String
  | .key name => "." ++ name
  | .index i => "[" ++ Value.intText i ++ "]"
  | .dynamic e => "[" ++ e.print ++ "]"
def printLookups : List Lookup → String
  | [] => ""
  | l :: rest => l.print ++ printLookups rest
end

end LiquidEval
