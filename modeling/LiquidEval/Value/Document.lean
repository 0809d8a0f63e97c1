import LiquidEval.Json.Reader
import LiquidEval.Json.Writer
import LiquidEval.Value.Render

/-! Values and JSON documents. A drop is written as its text, and a number that JSON lacks as
null. -/
namespace LiquidEval.Value
variable {H : Type}

def finiteOrNull (f : Float) : Json := if f.isNaN || f.isInf then .null else .float f

section
variable [Host H]

mutual
/-- The document with the fields of an object in their own order. -/
def document : Value H → Json
  | nil => .null
  | bool b => .bool b
  | int i => .int i.toInt
  | float f => finiteOrNull f
  | char c => .string c.toString
  | string s => .string s
  | array items => .array (documentAll items)
  | object fields => .object (documentFields fields)
  | entry _ key value => .string (key ++ display value)
  | host _ h => ((Host.text h).map Json.string).getD .null
def documentAll : List (Value H) → List Json
  | [] => []
  | v :: rest => document v :: documentAll rest
def documentFields : List (String × Value H) → List (String × Json)
  | [] => []
  | (name, v) :: rest => (name, document v) :: documentFields rest
end

def toJson (v : Value H) : Json := v.document.sorted

end

/-- An integer beyond 64 bits becomes the floating-point number nearest to it. -/
def ofInteger (i : Int) : Value H :=
  match Decimal.int64? i with
  | some n => int n
  | none => float (Float.ofInt i)

mutual
def ofJson : Json → Value H
  | .null => nil
  | .bool b => bool b
  | .int i => ofInteger i
  | .float f => float f
  | .string s => string s
  | .array items => array (ofJsonAll items)
  | .object fields => object (ofJsonFields fields)
def ofJsonAll : List Json → List (Value H)
  | [] => []
  | j :: rest => ofJson j :: ofJsonAll rest
def ofJsonFields : List (String × Json) → List (String × Value H)
  | [] => []
  | (name, j) :: rest => (name, ofJson j) :: ofJsonFields rest
end

/-- The value written in JSON, or the text itself where it is no JSON. -/
def ofText (text : String) : Value H :=
  match Json.read? text with
  | some j => ofJson j
  | none => string text

end LiquidEval.Value
