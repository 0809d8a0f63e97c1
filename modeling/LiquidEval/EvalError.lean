import LiquidEval.SyntaxError

/-! Everything that can go wrong while a condition, an expression or a filter is evaluated. -/
namespace LiquidEval

inductive SyntaxCause where
  | unreadable (e : SyntaxError)
  /-- A bound of a range that stands for no integer, as it prints. -/
  | rangeBound (text : String)
  | rangeLength (items limit : Int)
  deriving Repr, DecidableEq

inductive EvalError where
  | unknownOperator (token : String)
  | unknownFilter (name : String)
  | missingDefault (filter parameter : String)
  /-- An argument that its parameter's type cannot hold; `value` as it prints. -/
  | argumentConversion (filter parameter value target : String)
  | badSyntax (expression : String) (cause : SyntaxCause)
  | filterFailed (text : String)
  deriving Repr, DecidableEq

def SyntaxCause.message : SyntaxCause → String
  | unreadable e => e.message
  | rangeBound text => "invalid range bound " ++ text
  | rangeLength items limit =>
    "range of " ++ toString items ++ " items exceeds the limit of " ++ toString limit

namespace EvalError

def unreadable (text : String) (e : SyntaxError) : EvalError := badSyntax text (.unreadable e)

def message : EvalError → String
  | unknownOperator token => "Unknown operator " ++ token
  | unknownFilter name => "Unknown filter " ++ name
  | missingDefault filter parameter =>
    "Filter '" ++ filter ++ "' does not have a default value for '" ++ parameter ++
      "' and no value was supplied"
  | argumentConversion filter parameter value target =>
    "Cannot convert " ++ value ++ " to " ++ target ++ " for parameter '" ++ parameter ++
      "' of filter '" ++ filter ++ "'"
  | badSyntax expression cause => "Syntax error in '" ++ expression ++ "': " ++ cause.message
  | filterFailed text => text

/-- Whether the host application, not the template, is at fault. -/
def isConfiguration : EvalError → Bool
  | missingDefault .. => true
  | _ => false

end EvalError
end LiquidEval
