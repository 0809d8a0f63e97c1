import LiquidEval.Context.Lookup
import LiquidEval.EvalError
import LiquidEval.Expr.Parser
import LiquidEval.Expr.Printer
import LiquidEval.Text.Blank
import LiquidEval.Value.Render

/-! The context of a render: what is done to its scopes, and the values that expressions have in
it. -/
namespace LiquidEval

def maxRangeLength : Int := 100000

/-- The nearest integer of 64 bits. -/
def clamp (i : Int) : Int := max Decimal.leastInt64 (min i Decimal.greatestInt64)

namespace Value
variable {H : Type}

/-- The integer that a bound of a range stands for. -/
def rangeBound? : Value H → Option Int
  | int i => some i.toInt
  | float f => if f.isFinite then some (clamp (Decimal.Dyadic.ofFloat f).truncate) else none
  | string s => (Decimal.readInt64? (Text.trim s).toList).map (·.toInt)
  | _ => none

def integersFrom (first : Int) (length : Nat) : List (Value H) :=
  (List.range length).map fun (k : Nat) => int (Int64.ofInt (first + (k : Int)))

end Value

namespace Context
variable {H : Type}

def get? (c : Context H) (name : String) : Option (Value H) := c.scopes.get? name

def set (c : Context H) (name : String) (v : Value H) : Context H :=
  { c with scopes := c.scopes.set name v }

def setGlobal (c : Context H) (name : String) (v : Value H) : Context H :=
  { c with scopes := c.scopes.setGlobal name v }

def setGlobals (c : Context H) (entries : List (String × Value H)) : Context H :=
  entries.foldl (fun c e => c.setGlobal e.1 e.2) c

def push (c : Context H) : Context H := { c with scopes := c.scopes.push }

def pop? (c : Context H) : Option (Table (Value H) × Context H) :=
  c.scopes.pop?.map fun r => (r.1, { c with scopes := r.2 })

/-- The context after its innermost scope was closed, if it may be. -/
def pop (c : Context H) : Context H := (c.pop?.map Prod.snd).getD c

/-- Runs a block in a scope of its own. -/
def inScope {α : Type} (c : Context H) (f : Context H → α × Context H) : α × Context H :=
  let r := f c.push
  (r.1, r.2.pop)

/-- Entries of a map as items to iterate over: drops at first, pairs from `liquid22` on. -/
def mapEntries (c : Context H) (fields : List (String × Value H)) : List (Value H) :=
  fields.map fun (key, value) =>
    if c.level.rank < Level.liquid22.rank then .entry .unnamed key value
    else .array [.string key, value]

def view (c : Context H) : View H := .render c

variable [Host H]

/-- The items of a range, or what is wrong with it. -/
def rangeItems (e : Expr) (first last : Value H) : Except EvalError (Value H) :=
  match first.rangeBound? with
  | none => .error (.badSyntax e.print (.rangeBound first.display))
  | some a =>
    match last.rangeBound? with
    | none => .error (.badSyntax e.print (.rangeBound last.display))
    | some b =>
      if maxRangeLength < b - a + 1 then
        .error (.badSyntax e.print (.rangeLength (b - a + 1) maxRangeLength))
      else .ok (.array (Value.integersFrom a (b - a + 1).toNat))

mutual
def evaluate (c : Context H) : Expr → Except EvalError (Value H)
  | .literal l => .ok l.value
  | .range first last =>
    match evaluate c first with
    | .error e => .error e
    | .ok a =>
      match evaluate c last with
      | .error e => .error e
      | .ok b => rangeItems (.range first last) a b
  | .path root lookups => follow c ((c.get? root).getD .nil) lookups
def keyOf (c : Context H) : Lookup → Except EvalError (Value H)
  | .key name => .ok (.string name)
  | .index i => .ok (.int i)
  | .dynamic e => evaluate c e
/-- Takes the steps of a path until they are done or lead to nil. -/
def follow (c : Context H) (current : Value H) : List Lookup → Except EvalError (Value H)
  | [] => .ok current
  | l :: rest =>
    match keyOf c l with
    | .error e => .error e
    | .ok key =>
      let next := current.lookup c.view key
      if next.isNil then .ok .nil else follow c next rest
end

def resolve (c : Context H) (text : String) : Except EvalError (Value H) :=
  match Expr.ofText text with
  | .ok e => c.evaluate e
  | .error e => .error (.unreadable text e)

def valueOf? (c : Context H) (text : String) : Option (Value H) :=
  match c.resolve text with
  | .ok v => if v.isNil then none else some v
  | .error _ => none

end Context

/-- What a name, or in a render an expression, stands for. -/
def View.valueOf? {H : Type} [Host H] : View H → String → Option (Value H)
  | render c => c.valueOf?
  | flat c => c.bindings.get?

end LiquidEval
