import LiquidEval.Condition.Parser
import LiquidEval.Context
import LiquidEval.Operator

/-! Evaluating conditions, strictly from left to right. A comparison that cannot change the result
any more is skipped, and then it cannot fail either. -/
namespace LiquidEval
variable {H : Type} [Host H]

/-- An operator without a right operand is asked about nil. -/
def Comparison.rightValue (c : Context H) (x : Comparison) : Except EvalError (Value H) :=
  match x.right with
  | some right => c.resolve right
  | none => .ok .nil

def Comparison.evaluate (ops : Operators H) (c : Context H) (x : Comparison) :
    Except EvalError Bool :=
  match c.resolve x.left with
  | .error e => .error e
  | .ok left =>
    match x.operator with
    | none => .ok left.isTruthy
    | some operator =>
      match x.rightValue c with
      | .error e => .error e
      | .ok right => ops.apply operator left right c.view

/-- Whether a joined comparison leaves the result as it is. -/
def Logical.skips : Logical → Bool → Bool
  | .and, result => !result
  | .or, result => result

namespace Condition

/-- Goes through the chain behind a comparison whose result is known. -/
def evaluateFrom (ops : Operators H) (c : Context H) (result : Bool) :
    Condition → Except EvalError Bool
  | last _ => .ok result
  | joined _ l rest =>
    if l.skips result then evaluateFrom ops c result rest
    else
      match rest.head.evaluate ops c with
      | .ok next => evaluateFrom ops c next rest
      | .error e => .error e

def evaluate (ops : Operators H) (c : Context H) (x : Condition) : Except EvalError Bool :=
  match x.head.evaluate ops c with
  | .ok first => evaluateFrom ops c first x
  | .error e => .error e

end Condition

def Markup.ofSource (text : String) : Except EvalError Markup :=
  match ofText text with
  | .ok m => .ok m
  | .error e => .error (.unreadable text e)

namespace Condition

def ofText (text : String) : Except EvalError Condition :=
  match Markup.ofSource text with
  | .ok m => .ok (ofMarkup m)
  | .error e => .error e

def evaluateText (ops : Operators H) (c : Context H) (text : String) : Except EvalError Bool :=
  match ofText text with
  | .ok x => x.evaluate ops c
  | .error e => .error e

end Condition
end LiquidEval
