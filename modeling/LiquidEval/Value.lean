import LiquidEval.Decimal.Layout
import LiquidEval.Decimal.Reader
import LiquidEval.Table

/-! Values that a template can see: literals, containers, and drops. A drop is either an entry of a
map, which holds a key and a value, or an object of a host type `H` about which nothing is known
here. -/
namespace LiquidEval

/-- Which object a drop is. A drop made while an expression is evaluated has no name of its own
until a render keeps it. -/
inductive Identity where
  | unnamed
  | given (number : Nat)
  | kept (number : Nat)
  deriving Repr, DecidableEq

def Identity.same : Identity → Identity → Bool
  | unnamed, _ => false
  | a, b => a == b

inductive Value (H : Type) where
  | nil
  | bool (b : Bool)
  | int (i : Int64)
  | float (f : Float)
  | char (c : Char)
  | string (s : String)
  | array (items : List (Value H))
  | object (fields : List (String × Value H))
  | entry (id : Identity) (key : String) (value : Value H)
  | host (id : Identity) (h : H)

/-- What is left of a path at an undefined name. -/
instance {H : Type} : Inhabited (Value H) := ⟨.nil⟩

namespace Value
variable {H : Type}

def typeName : Value H → String
  | nil => "nil"
  | bool _ => "boolean"
  | int _ => "integer"
  | float _ => "float"
  | char _ => "char"
  | string _ => "string"
  | array _ => "array"
  | object _ => "object"
  | entry .. | host .. => "drop"

def isNil : Value H → Bool
  | nil => true
  | _ => false

def isTruthy : Value H → Bool
  | nil | bool false => false
  | _ => true

def isNumber : Value H → Bool
  | int _ | float _ => true
  | _ => false

/-- The floating-point number nearest to an integer. -/
def floatOfInt (i : Int64) : Float := Float.ofInt i.toInt

def toFloat? : Value H → Option Float
  | int i => some (floatOfInt i)
  | float f => some f
  | _ => none

def toString? : Value H → Option String
  | string s => some s
  | _ => none

def boolText (b : Bool) : String := if b then "true" else "false"

def intText (i : Int64) : String := toString i.toInt

def floatText (f : Float) : String := Decimal.Layout.plain.write f

/-- The text of a scalar, which is what it is compared by when a string meets it. -/
def scalarText? : Value H → Option String
  | bool b => some (boolText b)
  | int i => some (intText i)
  | float f => some (floatText f)
  | char c => some c.toString
  | string s => some s
  | _ => none

/-- How many there are of something, as a value; counts above the largest integer are cut. -/
def count (n : Nat) : Value H := int (Int64.ofInt (min n Decimal.greatestInt64))

def onlyChar? (s : String) : Option Char :=
  match s.toList with
  | [c] => some c
  | _ => none

theorem onlyChar?_eq_some_iff {s : String} {c : Char} : onlyChar? s = some c ↔ s = c.toString := by
  rw [← String.toList_inj, show c.toString.toList = [c] from String.toList_singleton c, onlyChar?]
  split
  next d h => rw [h, Option.some.injEq, List.cons.injEq, and_iff_left rfl]
  next hs => exact iff_of_false nofun (hs c)

/-- No object at any depth has two fields of one name. -/
inductive WellFormed : Value H → Prop where
  | nil : WellFormed nil
  | bool (b : Bool) : WellFormed (bool b)
  | int (i : Int64) : WellFormed (int i)
  | float (f : Float) : WellFormed (float f)
  | char (c : Char) : WellFormed (char c)
  | string (s : String) : WellFormed (string s)
  | array {items : List (Value H)} (h : ∀ v ∈ items, WellFormed v) : WellFormed (array items)
  | object {fields : List (String × Value H)} (distinct : Table.Distinct fields)
      (h : ∀ e ∈ fields, WellFormed e.2) : WellFormed (object fields)
  | entry (id : Identity) (key : String) {value : Value H} (h : WellFormed value) :
      WellFormed (entry id key value)
  | host (id : Identity) (x : H) : WellFormed (host id x)

end Value
end LiquidEval
