import LiquidEval.Filter.Standard
import LiquidEval.Registry

/-! Sample filters: bodies that show what they were given, and providers whose filters share names
with one another and with the standard ones. -/
namespace LiquidEval.Sample
variable {H : Type} [Host H]

def showArguments : Body H := fun a => .ok (.array a.values)

def label (text : String) : Body H := fun _ => .ok (.string text)

def showInput : Body H := fun a => .ok a.input

def showArgument (i : Nat) : Body H := fun a => .ok (a.get i)

def showNamed (name : String) : Body H := fun a => .ok (a.named name)

def failing (text : String) : Body H := fun _ => Filter.operationError text

def failingWith (text : String) : Body H := fun _ => .error text

def showTarget : Body H := fun a => .ok (a.target.getD (.string "no target"))

def ofView (f : View H → Value H) : Body H := fun a =>
  .ok ((a.view.map f).getD (.string "no context"))

def showVariable (name : String) : Body H := ofView fun v => (v.valueOf? name).getD .nil

def showNaming : Body H := ofView fun v => .string v.naming.text

def anything (name : String) : Parameter H := Filter.required name .any

def pick (ordered : List (Parameter H)) (text : String) : Descriptor H :=
  { name := "pick", ordered, body := label text }

def overloads : Provider H := ⟨"Overloads", [
  pick [anything "input"] "one",
  pick [anything "input", anything "second"] "two",
  pick [anything "input", Filter.optional "second" .any (.int 0),
    Filter.optional "third" .any (.int 0)] "three"]⟩

def replacementPick : Provider H := ⟨"ReplacementPick", [pick [anything "input"] "replaced"]⟩

def greetings : Provider H := ⟨"Greetings", [
  { name := "Greet"
    ordered := [Filter.required "input" .string]
    named := [Filter.optional "greeting" .string (.string "Hello")]
    body := fun a => .ok (.string ((a.named "greeting").display ++ ", " ++ a.input.display)) }]⟩

def shadow : Provider H := ⟨"Shadow", [
  { name := "Size", ordered := [anything "x"], body := label "shadow size" },
  { name := "upcase", ordered := [anything "x", anything "y"], body := label "shadow upcase/2" },
  { name := "DividedBy", ordered := [anything "x", anything "y"], body := label "shadow divided" },
  { name := "Truncate"
    ordered := [anything "x", Filter.optional "n" .int64 (.int 1)]
    named := [Filter.optional "Ellipsis" .any (.string "!")]
    body := label "shadow truncate" }]⟩

def provider? (name : String) : Option (Provider H) :=
  [overloads, replacementPick, greetings, shadow].find? fun p => p.name == name

end LiquidEval.Sample
