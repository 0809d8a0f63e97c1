import LiquidEval.Value.Drop

/-! One step of a path: items and fields of containers first, then members of drops, otherwise
nil. -/
namespace LiquidEval.Value
variable {H : Type}

/-- The item at a position; a negative one counts from the end. -/
def itemAt (items : List (Value H)) (i : Int) : Value H :=
  if 0 ≤ i then (items[i.toNat]?).getD nil
  else if i.natAbs ≤ items.length then (items[items.length - i.natAbs]?).getD nil
  else nil

/-- What the words `size`, `first` and `last` ask of a sequence. -/
def sequenceWord? (size : Nat) (first last : Option (Value H)) (word : String) : Option (Value H) :=
  if word = "size" then some (count size)
  else if word = "first" then some (first.getD nil)
  else if word = "last" then some (last.getD nil)
  else none

/-- A field; `size` counts the fields of a map that has none of that name. -/
def mapField? (fields : List (String × Value H)) (name : String) : Option (Value H) :=
  match Table.get? fields name with
  | some found => some found
  | none => if name = "size" then some (count fields.length) else none

def containerLookup? : Value H → Value H → Option (Value H)
  | array items, int i => some (itemAt items i.toInt)
  | array items, string word => sequenceWord? items.length items.head? items.getLast? word
  | string s, string word =>
    let chars := s.toList
    sequenceWord? chars.length (chars.head?.map char) (chars.getLast?.map char) word
  | object fields, key => key.scalarText?.bind (mapField? fields)
  | _, _ => none

variable [Host H]

def memberLookup? (w : View H) (v key : Value H) : Option (Value H) :=
  match key.scalarText? with
  | some name => if v.hasMember w name then v.member? w name else none
  | none => none

def lookup (w : View H) (v key : Value H) : Value H :=
  ((containerLookup? v key).or (memberLookup? w v key)).getD nil

end LiquidEval.Value
