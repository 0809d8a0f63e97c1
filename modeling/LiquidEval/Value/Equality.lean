import LiquidEval.Value.Drop

/-! Equality and order of values. Two relations are called equality: `equals`, which templates use,
takes a character for the string that holds it; `identical` does not. -/
namespace LiquidEval.Value
variable {H : Type} [Host H]

/-- What a host type on either side decides, the left one first. -/
def ownEquality? (l r : Value H) : Option Bool := (hostEquals? l r).or (hostEquals? r l)

def sameDrop : Value H → Value H → Bool
  | entry a .., entry b .. => a.same b
  | host a _, host b _ => a.same b
  | _, _ => false

mutual
def equals (l r : Value H) : Bool :=
  match ownEquality? l r with
  | some answer => answer
  | none =>
    match l, r with
    | nil, nil => true
    | bool a, bool b => a == b
    | int a, int b => a == b
    | int a, float b => floatOfInt a == b
    | float a, int b => a == floatOfInt b
    | float a, float b => a == b
    | char a, char b => a == b
    | string a, string b => a == b
    | char c, string s => onlyChar? s == some c
    | string s, char c => onlyChar? s == some c
    | array a, array b => equalsAll a b
    | object a, object b => a.length == b.length && equalsFields a b
    | l, r => sameDrop l r
def equalsAll : List (Value H) → List (Value H) → Bool
  | [], [] => true
  | a :: as, b :: bs => equals a b && equalsAll as bs
  | _, _ => false
/-- Whether the right side has every field of the left one with an equal value. -/
def equalsFields : List (String × Value H) → List (String × Value H) → Bool
  | [], _ => true
  | (name, a) :: rest, bs =>
    (match Table.get? bs name with
      | some b => equals a b
      | none => false) && equalsFields rest bs
end

/-- Equality with the first or last item of a sequence: a string is also equal to a scalar of that
text. -/
def looselyEquals (element operand : Value H) : Bool :=
  element.equals operand ||
    match operand with
    | string s => element.scalarText? == some s
    | _ => false

mutual
def identical : Value H → Value H → Bool
  | nil, nil => true
  | bool a, bool b => a == b
  | int a, int b => a == b
  | float a, float b => a == b
  | char a, char b => a == b
  | string a, string b => a == b
  | array a, array b => identicalAll a b
  | object a, object b => a.length == b.length && identicalFields a b
  | int a, float b => floatOfInt a == b
  | float a, int b => a == floatOfInt b
  | entry a .., entry b .. => a.same b
  | host a h, host b k => a.same b || (Host.equals h (host b k)).getD false
  | host _ h, entry b key value => (Host.equals h (entry b key value)).getD false
  | _, _ => false
def identicalAll : List (Value H) → List (Value H) → Bool
  | [], [] => true
  | a :: as, b :: bs => identical a b && identicalAll as bs
  | _, _ => false
def identicalFields : List (String × Value H) → List (String × Value H) → Bool
  | [], _ => true
  | (name, a) :: rest, bs =>
    (match Table.get? bs name with
      | some b => identical a b
      | none => false) && identicalFields rest bs
end

/-- Not-a-number is neither less than, equal to nor greater than anything. -/
def compareFloats (a b : Float) : Option Ordering :=
  if a < b then some .lt else if a == b then some .eq else if b < a then some .gt else none

/-- Numbers have an order, and so have strings and characters; any other pair has none. -/
def compare? : Value H → Value H → Option Ordering
  | int a, int b => some (compare a b)
  | int a, float b => compareFloats (floatOfInt a) b
  | float a, int b => compareFloats a (floatOfInt b)
  | float a, float b => compareFloats a b
  | string a, string b => some (compare a b)
  | char a, char b => some (compare a b)
  | _, _ => none

end LiquidEval.Value
