import LiquidEval.Context
import LiquidEval.Operator

/-! Sample operators: some look at their operands only, some at the render too. -/
namespace LiquidEval.Sample
variable {H : Type}

/-- Whether an integer is a multiple of another; nothing is a multiple of zero. -/
def multipleOf : Value H → Value H → Bool
  | .int a, .int b => b != 0 && a.toInt % b.toInt == 0
  | _, _ => false

def hasPrefix : Value H → Value H → Bool
  | .string s, .string t => Text.startsWith s t
  | _, _ => false

def plainPredicate? (name : String) : Option (Predicate H) :=
  match name with
  | "multiple_of" => some fun l r _ => multipleOf l r
  | "true" => some fun _ _ _ => true
  | "false" => some fun _ _ _ => false
  | "left_truthy" => some fun l _ _ => l.isTruthy
  | "same_type" => some fun l r _ => l.typeName == r.typeName
  | "prefix" => some fun l r _ => hasPrefix l r
  | _ => none

def contextPredicate? [Host H] (name : String) : Option (Predicate H) :=
  match name with
  | "flag" => some fun _ _ v => (v.valueOf? "flag").any Value.isTruthy
  | "ruby" => some fun _ _ v => v.naming == .ruby
  | "sees" => some fun _ r v => (v.valueOf? (r.toString?.getD "")).isSome
  | _ => none

end LiquidEval.Sample
