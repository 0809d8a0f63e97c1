import LiquidEval.Decimal.Bounds
import LiquidEval.Json

/-! Configuration documents in TOML, and what they hold as JSON. -/
namespace LiquidEval

inductive Toml where
  | string (s : String)
  | int (i : Int)
  | float (f : Float)
  | bool (b : Bool)
  /-- A date, a time of day or both, in normal form. -/
  | dateTime (text : String)
  | array (items : List Toml)
  | table (entries : List (String × Toml))
  deriving Inhabited

namespace Toml

/-- The field under which JSON holds a date or time. -/
def dateTimeField : String := "$__toml_private_datetime"

/-- Integers of 64 bits, with or without a sign. -/
def fitsJson (i : Int) : Bool := Decimal.leastInt64 ≤ i && i ≤ Decimal.greatestUInt64

mutual
/-- Infinities and not-a-number become null; integers beyond 64 bits have no place in JSON. -/
def toJson? : Toml → Option Json
  | .string s => some (.string s)
  | .int i => if fitsJson i then some (.int i) else none
  | .float f => some (if f.isFinite then .float f else .null)
  | .bool b => some (.bool b)
  | .dateTime text => some (.object [(dateTimeField, .string text)])
  | .array items => (toJsonAll? items).map .array
  | .table entries => (toJsonEntries? entries).map fun fields => .object (Json.sortFields fields)
def toJsonAll? : List Toml → Option (List Json)
  | [] => some []
  | t :: rest =>
    match toJson? t, toJsonAll? rest with
    | some j, some js => some (j :: js)
    | _, _ => none
def toJsonEntries? : List (String × Toml) → Option (List (String × Json))
  | [] => some []
  | (name, t) :: rest =>
    match toJson? t, toJsonEntries? rest with
    | some j, some js => some ((name, j) :: js)
    | _, _ => none
end

end Toml
end LiquidEval
