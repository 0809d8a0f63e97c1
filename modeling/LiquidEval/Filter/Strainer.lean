import LiquidEval.EvalError
import LiquidEval.Filter.Descriptor

/-! The filters of one render. A strainer holds the overloads of every lookup key, picks the one
that a call means, binds and converts the arguments, and runs its body. -/
namespace LiquidEval

structure Strainer (H : Type) where
  view : View H
  methods : Table (List (Descriptor H)) := []

namespace Strainer
variable {H : Type}

def naming (s : Strainer H) : Naming := s.view.naming

def overloads (s : Strainer H) (name : String) : List (Descriptor H) :=
  (s.methods.get? (s.naming.lookupKey name)).getD []

def setOverloads (s : Strainer H) (name : String) (ds : List (Descriptor H)) : Strainer H :=
  { s with methods := s.methods.insert (s.naming.lookupKey name) ds }

/-- Adds an overload in the place of those that have its name and signature. -/
def merge (s : Strainer H) (d : Descriptor H) : Strainer H :=
  s.setOverloads d.name
    ((s.overloads d.name).filter (fun e => !e.sameSignature d s.naming) ++ [d])

def extend (s : Strainer H) (ds : List (Descriptor H)) : Strainer H := ds.foldl merge s

/-- Adds an overload beside all others of the name. -/
def addFunction (s : Strainer H) (name : String) (d : Descriptor H) : Strainer H :=
  s.setOverloads name (s.overloads name ++ [d])

def respondsTo (s : Strainer H) (name : String) : Bool :=
  s.methods.contains (s.naming.lookupKey name)

def filterNames (s : Strainer H) : List String := Table.names s.methods

def descriptors (s : Strainer H) : List (Descriptor H) := (Table.values s.methods).flatten

def widest (d : Descriptor H) : List (Descriptor H) → Descriptor H
  | [] => d
  | e :: rest => widest (if d.totalCount < e.totalCount then e else d) rest

/-- The overload that a call means: the first one that fits exactly, or else the widest. -/
def resolve (s : Strainer H) (name : String) (positional : Nat) (names : List String) :
    Except EvalError (Descriptor H) :=
  match s.overloads name with
  | [] => .error (.unknownFilter name)
  | d :: rest =>
    match (d :: rest).find? fun e => e.fitsCall s.naming positional names with
    | some e => .ok e
    | none => .ok (widest d rest)

/-- Positional arguments in front of empty slots; what exceeds the ordered parameters is dropped. -/
def positionalSlots (d : Descriptor H) (args : List (Value H)) : List (Option (Value H)) :=
  let given := (args.take d.orderedCount).map some
  given ++ List.replicate (d.parameters.length - given.length) none

def slotOf? (n : Naming) (d : Descriptor H) (name : String) : Option Nat :=
  d.parameters.findIdx? fun p => n.namesMatch p.name name

def fillNamed (n : Naming) (d : Descriptor H) (slots : List (Option (Value H)))
    (named : List (String × Value H)) : List (Option (Value H)) :=
  named.foldl (fun slots e =>
    match slotOf? n d e.1 with
    | some i => slots.set i (some e.2)
    | none => slots) slots

def slots (n : Naming) (d : Descriptor H) (args : List (Value H))
    (named : List (String × Value H)) : List (Option (Value H)) :=
  fillNamed n d (positionalSlots d args) named

variable [Host H]

def bindValue (filter : String) (p : Parameter H) (slot : Option (Value H)) :
    Except EvalError (Value H) :=
  match slot.or p.default with
  | none => .error (.missingDefault filter p.name)
  | some v =>
    match v.coerce p.type with
    | .ok w => .ok w
    | .error w => .error (.argumentConversion filter p.name w.display p.type.text)

/-- The values of all parameters, or what is wrong with the first that has none. -/
def bindValues (filter : String) :
    List (Parameter H) → List (Option (Value H)) → Except EvalError (List (Value H))
  | p :: ps, slot :: slots =>
    match bindValue filter p slot with
    | .error e => .error e
    | .ok v =>
      match bindValues filter ps slots with
      | .error e => .error e
      | .ok vs => .ok (v :: vs)
  | _, _ => .ok []

def arguments (s : Strainer H) (d : Descriptor H) (values : List (Value H)) : Arguments H :=
  { names := d.parameters.map (·.name)
    values
    view := if d.takesContext then some s.view else none
    target := d.target }

def run (s : Strainer H) (d : Descriptor H) (values : List (Value H)) :
    Except EvalError (Value H) :=
  match d.body (s.arguments d values) with
  | .ok v => .ok v
  | .error text => .error (.filterFailed text)

def invoke (s : Strainer H) (name : String) (args : List (Value H))
    (named : List (String × Value H)) : Except EvalError (Value H) :=
  match s.resolve name args.length (named.map Prod.fst) with
  | .error e => .error e
  | .ok d =>
    match bindValues name d.parameters (slots s.naming d args named) with
    | .error e => .error e
    | .ok values => s.run d values

omit [Host H] in
def inspect (s : Strainer H) : String :=
  "Strainer \x7b naming: " ++ s.naming.text ++ ", filters: " ++ toString s.methods.length ++
    " names \x7d"

end Strainer
end LiquidEval
