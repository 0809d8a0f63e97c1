import LiquidEval.Text.Quoted
import LiquidEval.Value.Drop

/-! The two texts of a value: as a template prints it, and as it is inspected. -/
namespace LiquidEval.Value
variable {H : Type} [Host H]

def listed (openText closeText : String) (parts : List String) : String :=
  openText ++ String.intercalate ", " parts ++ closeText

def inspectEntry (key valueText : String) : String :=
  listed "LegacyKeyValueDrop \x7b " " \x7d" ["key: " ++ Text.quoted key, "value: " ++ valueText]

mutual
def inspect : Value H → String
  | nil => "Nil"
  | bool b => listed "Bool(" ")" [boolText b]
  | int i => listed "Int(" ")" [intText i]
  | float f => listed "Float(" ")" [Decimal.Layout.inspected.write f]
  | char c => listed "Char(" ")" [Text.quotedChar c]
  | string s => listed "String(" ")" [Text.quoted s]
  | array items => listed "Array([" "])" (inspectAll items)
  | object fields => listed "Object(\x7b" "\x7d)" (inspectFields fields)
  | entry _ key value => listed "Drop(" ")" [inspectEntry key (inspect value)]
  | host _ h => listed "Drop(" ")" [Host.inspect h]
def inspectAll : List (Value H) → List String
  | [] => []
  | v :: rest => inspect v :: inspectAll rest
def inspectFields : List (String × Value H) → List String
  | [] => []
  | (name, v) :: rest => (Text.quoted name ++ ": " ++ inspect v) :: inspectFields rest
end

/-- A field as it is printed: the name between plain quotes. -/
def printedField (f : String × Value H) : String := "\"" ++ f.1 ++ "\"=>" ++ inspect f.2

mutual
/-- Nil prints as nothing, and an array as its items one after another. -/
def display : Value H → String
  | nil => ""
  | bool b => boolText b
  | int i => intText i
  | float f => floatText f
  | char c => c.toString
  | string s => s
  | array items => displayAll items
  | object fields => listed "\x7b" "\x7d" (fields.map printedField)
  | entry _ key value => key ++ display value
  | host _ h => (Host.text h).getD (Host.inspect h)
def displayAll : List (Value H) → String
  | [] => ""
  | v :: rest => display v ++ displayAll rest
end

def dropText? : Value H → Option String
  | entry _ key value => some (key ++ display value)
  | host _ h => Host.text h
  | _ => none

end LiquidEval.Value
