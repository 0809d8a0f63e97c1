import LiquidEval.Filter.Coercion
import LiquidEval.Value.Render

/-! Filters. A descriptor is one overload of a filter: its parameters and its body. Ordered
parameters are filled by position or by name, named ones by name only. -/
namespace LiquidEval

structure Parameter (H : Type) where
  name : String
  type : ParamType
  default : Option (Value H)

/-- What the body of a filter is given: one value for each parameter, ordered ones first. -/
structure Arguments (H : Type) where
  names : List String
  values : List (Value H)
  view : Option (View H)
  /-- What was bound to the filter when it was made. -/
  target : Option (Value H)

namespace Arguments
variable {H : Type}

def get (a : Arguments H) (i : Nat) : Value H := (a.values[i]?).getD .nil

def input (a : Arguments H) : Value H := a.get 0

/-- The value of the first parameter declared under exactly this name. -/
def named (a : Arguments H) (name : String) : Value H :=
  match a.names.findIdx? (· == name) with
  | some i => a.get i
  | none => .nil

end Arguments

abbrev Body (H : Type) := Arguments H → Except String (Value H)

structure Descriptor (H : Type) where
  name : String
  takesContext : Bool := false
  ordered : List (Parameter H) := []
  named : List (Parameter H) := []
  target : Option (Value H) := none
  body : Body H

def insertName (name : String) : List String → List String
  | [] => [name]
  | n :: rest =>
    if n = name then n :: rest
    else if name < n then name :: n :: rest
    else n :: insertName name rest

/-- The set of the lookup keys of names, as a sorted list. -/
def Naming.keySet (n : Naming) (names : List String) : List String :=
  names.foldl (fun keys name => insertName (n.lookupKey name) keys) []

namespace Descriptor
variable {H : Type}

def parameters (d : Descriptor H) : List (Parameter H) := d.ordered ++ d.named

def orderedCount (d : Descriptor H) : Nat := d.ordered.length

/-- All parameters; the render counts as one. -/
def totalCount (d : Descriptor H) : Nat :=
  (if d.takesContext then 1 else 0) + d.ordered.length + d.named.length

def namedKeys (d : Descriptor H) (n : Naming) : List String := n.keySet (d.named.map (·.name))

/-- Whether a call supplies exactly the ordered count and exactly the named parameters. -/
def fitsCall (d : Descriptor H) (n : Naming) (positional : Nat) (names : List String) : Bool :=
  positional == d.orderedCount && n.keySet names == d.namedKeys n

def sameSignature (d e : Descriptor H) (n : Naming) : Bool :=
  d.orderedCount == e.orderedCount && d.namedKeys n == e.namedKeys n

variable [Host H]

def inspectType : ParamType → String
  | .any => "Any"
  | .bool => "Bool"
  | .int32 => "Int32"
  | .int64 => "Int64"
  | .float => "Float"
  | .char => "Char"
  | .string => "String"
  | .array => "Array"
  | .object => "Object"

def inspectDefault : Option (Value H) → String
  | none => "None"
  | some v => "Some(" ++ v.inspect ++ ")"

def inspectParameter (p : Parameter H) : String :=
  Value.listed "ParamSpec \x7b " " \x7d" ["name: " ++ Text.quoted p.name,
    "ty: " ++ inspectType p.type, "default: " ++ inspectDefault p.default]

def inspect (d : Descriptor H) : String :=
  Value.listed "FilterDescriptor \x7b " " \x7d" ["name: " ++ Text.quoted d.name,
    "takes_context: " ++ Value.boolText d.takesContext,
    "ordered: " ++ Value.listed "[" "]" (d.ordered.map inspectParameter),
    "named: " ++ Value.listed "[" "]" (d.named.map inspectParameter),
    "bound: " ++ Value.boolText d.target.isSome]

end Descriptor
end LiquidEval
