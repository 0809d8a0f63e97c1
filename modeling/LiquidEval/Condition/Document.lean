import LiquidEval.Condition
import LiquidEval.Json

/-! The structure of a markup as a JSON document. -/
namespace LiquidEval

def optionalText : Option String → Json
  | some s => .string s
  | none => .null

def Logical.document : Logical → Json
  | and => .string "And"
  | or => .string "Or"

def Comparison.document (c : Comparison) : Json :=
  .object [("left", .string c.left), ("operator", optionalText c.operator),
    ("right", optionalText c.right)]

def Markup.document (m : Markup) : Json :=
  .object [("head", m.head.document),
    ("tail", .array (m.tail.map fun (l, c) => .array [l.document, c.document]))]

end LiquidEval
