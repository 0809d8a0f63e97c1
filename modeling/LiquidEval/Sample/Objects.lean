import LiquidEval.Text.Quoted
import LiquidEval.Value.Drop

/-! Host objects of four kinds, one for each way an object can answer: declared members with and
without an equality and a text, members whose spellings overlap, and an object that answers every
name itself. -/
namespace LiquidEval.Sample

inductive Object where
  | car (make model : String)
  | plain (make model : String)
  | names
  | probe (equals : Option Bool) (text : Option String)
  deriving Repr, DecidableEq

namespace Object

def fullName (make model : String) : String := make ++ " " ++ model

def makeAndModel (make model : String) : List (String × Value Object) :=
  [("Make", .string make), ("Model", .string model)]

/-- Several declared names share a lookup key under one convention or the other. -/
def overlappingNames : List (String × Value Object) :=
  [("IsMultipleOf", .int 1), ("HTMLParser", .int 2), ("XMLHttpRequest2", .int 3),
    ("already_snake", .int 4), ("FirstName", .int 5), ("firstName", .int 6), ("Size", .int 7),
    ("0", .int 8), ("Nested", .entry .unnamed "k" (.array [.int 1, .int 2])), ("Nothing", .nil),
    ("Éclair", .int 9)]

def dynamicName (name : String) : Option (Value Object) :=
  if name = "nilish" then some .nil
  else if name.startsWith "dyn_" then some (.string (name.drop 4).toString)
  else none

def interface : Object → Interface Object
  | car make model => .typed (makeAndModel make model) fun _ => none
  | plain make model => .typed (makeAndModel make model) fun name =>
      if name = "description" then some (.string (fullName make model)) else none
  | names => .typed overlappingNames dynamicName
  | probe .. => .direct (fun _ name => !name.startsWith "no") fun _ name =>
      if name.startsWith "null" then none else some (.string name)

/-- A car equals a car of the same make and model, and the text of the two. -/
def carEquals (make model : String) : Value Object → Option Bool
  | .host _ (car otherMake otherModel) => some (make == otherMake && model == otherModel)
  | .string s => some (s == fullName make model)
  | _ => none

def inspectFields (kind make model : String) : String :=
  kind ++ " \x7b make: " ++ Text.quoted make ++ ", model: " ++ Text.quoted model ++ " \x7d"

instance : Host Object where
  interface := interface
  equals h other := match h with
    | car make model => carEquals make model other
    | probe answer _ => answer
    | _ => none
  text
    | car make model => some (fullName make model)
    | probe _ text => text
    | _ => none
  inspect
    | car make model => inspectFields "Car" make model
    | plain make model => inspectFields "Plain" make model
    | names => "Names"
    | probe .. => "Probe"

end Object
end LiquidEval.Sample
