import LiquidEval.Context.View
import LiquidEval.Text.Blank

/-! Drops answer member names. A host type says how its objects do that: by a list of declared
members, looked up under the naming convention of the render, or by answering each name on its own,
for which an object may look at everything that the render hands on. -/
namespace LiquidEval

inductive Interface (H : Type) where
  /-- Declared members, and an answer for names that are none of them. -/
  | typed (members : List (String × Value H)) (fallback : String → Option (Value H))
  | direct (contains : View H → String → Bool) (resolve : View H → String → Option (Value H))

/-- What objects of a host type do. Without an equality of its own an object equals only itself. -/
class Host (H : Type) where
  interface : H → Interface H
  equals : H → Value H → Option Bool := fun _ _ => none
  text : H → Option String := fun _ => none
  inspect : H → String

namespace Interface
variable {H : Type}

/-- Members by lookup key; of two with one key the later is meant. -/
def memberTable (n : Naming) (members : List (String × Value H)) : Table (Value H) :=
  Table.ofList (members.map fun m => (n.lookupKey m.1, m.2))

def contains (w : View H) (i : Interface H) (name : String) : Bool :=
  match i with
  | typed members fallback =>
    (memberTable w.naming members).contains (w.naming.lookupKey name) || (fallback name).isSome
  | direct contains _ => contains w name

def resolve (w : View H) (i : Interface H) (name : String) : Option (Value H) :=
  match i with
  | typed members fallback =>
    ((memberTable w.naming members).get? (w.naming.lookupKey name)).or (fallback name)
  | direct _ resolve => resolve w name

end Interface

namespace Value
variable {H : Type}

/-- Whether a name is the decimal number `position`, with or without blanks around it. -/
def isPosition (name : String) (position : Int64) : Bool :=
  Decimal.readInt64? (Text.trim name).toList == some position

def isKeyName (name : String) : Bool :=
  isPosition name 0 || name == "Key" || name == "itemName"

def isValueName (name : String) : Bool := isPosition name 1 || name == "Value"

def field? : Value H → String → Option (Value H)
  | object fields, name => Table.get? fields name
  | _, _ => none

/-- The key and the value of an entry go before the fields of a map that it wraps. -/
def entryMember? (key : String) (value : Value H) (name : String) : Option (Value H) :=
  if isKeyName name then some (string key)
  else if isValueName name then some value
  else value.field? name

variable [Host H]

def hasMember (w : View H) : Value H → String → Bool
  | entry _ key value, name => (entryMember? key value name).isSome
  | host _ h, name => (Host.interface h).contains w name
  | _, _ => false

def member? (w : View H) : Value H → String → Option (Value H)
  | entry _ key value, name => entryMember? key value name
  | host _ h, name => (Host.interface h).resolve w name
  | _, _ => none

def hostEquals? : Value H → Value H → Option Bool
  | host _ h, other => Host.equals h other
  | _, _ => none

end Value
end LiquidEval
