import LiquidEval.Table

/-! JSON documents. Numbers keep apart whether they are written as integers. -/
namespace LiquidEval

inductive Json where
  | null
  | bool (b : Bool)
  | int (i : Int)
  | float (f : Float)
  | string (s : String)
  | array (items : List Json)
  | object (fields : List (String × Json))
  deriving Inhabited

namespace Json

/-- Enters a field among fields sorted by name, replacing one of the same name. -/
def insertSorted (name : String) (value : Json) : List (String × Json) → List (String × Json)
  | [] => [(name, value)]
  | (n, v) :: rest =>
    if n = name then (name, value) :: rest
    else if name < n then (name, value) :: (n, v) :: rest
    else (n, v) :: insertSorted name value rest

def sortFields (fields : List (String × Json)) : List (String × Json) :=
  fields.foldl (fun t e => insertSorted e.1 e.2 t) []

mutual
def sorted : Json → Json
  | .array items => .array (sortedAll items)
  | .object fields => .object (sortFields (sortedFields fields))
  | j => j
def sortedAll : List Json → List Json
  | [] => []
  | j :: rest => sorted j :: sortedAll rest
def sortedFields : List (String × Json) → List (String × Json)
  | [] => []
  | (name, j) :: rest => (name, sorted j) :: sortedFields rest
end

end Json
end LiquidEval
