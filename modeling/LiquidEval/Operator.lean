import LiquidEval.EvalError
import LiquidEval.Text.Contains
import LiquidEval.Value.Equality
import LiquidEval.Value.Render

/-! Operators: named predicates on two values. A token means the operator of exactly that name, and
otherwise the first one that the naming convention lets it name. -/
namespace LiquidEval

abbrev Predicate (H : Type) := Value H → Value H → View H → Bool

abbrev Operators (H : Type) := Table (Predicate H)

namespace Value
variable {H : Type} [Host H]

def isOrdered (accept : Ordering → Bool) (l r : Value H) : Bool := (compare? l r).any accept

/-- The text by which a value is sought in a string. -/
def operandText? (v : Value H) : Option String := v.scalarText?.or v.dropText?

def hasKey (w : View H) (l r : Value H) : Bool :=
  match r.scalarText? with
  | none => false
  | some name =>
    match l with
    | object fields => Table.contains fields name
    | l => l.hasMember w name

def hasValue (l r : Value H) : Bool :=
  match l with
  | object fields => fields.any fun e => e.2.equals r
  | _ => false

def containsValue (w : View H) (l r : Value H) : Bool :=
  if r.isNil then false
  else match l with
    | string s => r.operandText?.any (Text.contains s)
    | array items => items.any fun item => item.equals r
    | object fields => hasKey w (object fields) r
    | entry id key value => hasKey w (entry id key value) r
    | host id h => hasKey w (host id h) r
    | _ => false

def startsWith (l r : Value H) : Bool :=
  if r.isNil then false
  else match l with
    | string s => r.operandText?.any (Text.startsWith s)
    | array items => items.head?.any fun item => item.looselyEquals r
    | _ => false

def endsWith (l r : Value H) : Bool :=
  if r.isNil then false
  else match l with
    | string s => r.operandText?.any (Text.endsWith s)
    | array items => items.getLast?.any fun item => item.looselyEquals r
    | _ => false

end Value

namespace Operators
variable {H : Type}

def builtin [Host H] : Operators H :=
  [("==", fun l r _ => l.equals r),
    ("!=", fun l r _ => !l.equals r),
    ("<>", fun l r _ => !l.equals r),
    ("<", fun l r _ => Value.isOrdered Ordering.isLT l r),
    (">", fun l r _ => Value.isOrdered Ordering.isGT l r),
    ("<=", fun l r _ => Value.isOrdered Ordering.isLE l r),
    (">=", fun l r _ => Value.isOrdered Ordering.isGE l r),
    ("contains", fun l r w => Value.containsValue w l r),
    ("startsWith", fun l r _ => Value.startsWith l r),
    ("startswith", fun l r _ => Value.startsWith l r),
    ("endsWith", fun l r _ => Value.endsWith l r),
    ("endswith", fun l r _ => Value.endsWith l r),
    ("hasKey", fun l r w => Value.hasKey w l r),
    ("haskey", fun l r w => Value.hasKey w l r),
    ("hasValue", fun l r _ => Value.hasValue l r),
    ("hasvalue", fun l r _ => Value.hasValue l r)]

def register (t : Operators H) (name : String) (p : Predicate H) : Operators H :=
  Table.insert t name p

def unregister (t : Operators H) (name : String) : Operators H := Table.erase t name

def find? (t : Operators H) (n : Naming) (token : String) : Option (Predicate H) :=
  match Table.get? t token with
  | some p => some p
  | none => (List.find? (fun e => n.operatorMatches token e.1) t).map Prod.snd

def apply (t : Operators H) (token : String) (l r : Value H) (view : View H) :
    Except EvalError Bool :=
  match t.find? view.naming token with
  | some p => .ok (p l r view)
  | none => .error (.unknownOperator token)

end Operators
end LiquidEval
