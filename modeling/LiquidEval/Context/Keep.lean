import LiquidEval.Context

/-! Keeping a value in a variable gives the drops in it that were made during evaluation a name, so
that copies of the variable hold one object. -/
namespace LiquidEval
namespace Value
variable {H : Type}

def nameDrop (next : Nat) : Identity → Identity × Nat
  | .unnamed => (.kept next, next + 1)
  | id => (id, next)

mutual
def nameDrops (next : Nat) : Value H → Value H × Nat
  | array items =>
    let r := nameDropsAll next items
    (array r.1, r.2)
  | object fields =>
    let r := nameDropsFields next fields
    (object r.1, r.2)
  | entry id key value =>
    let named := nameDrop next id
    let r := nameDrops named.2 value
    (entry named.1 key r.1, r.2)
  | host id h =>
    let named := nameDrop next id
    (host named.1 h, named.2)
  | v => (v, next)
def nameDropsAll (next : Nat) : List (Value H) → List (Value H) × Nat
  | [] => ([], next)
  | v :: rest =>
    let r := nameDrops next v
    let rs := nameDropsAll r.2 rest
    (r.1 :: rs.1, rs.2)
def nameDropsFields (next : Nat) : List (String × Value H) → List (String × Value H) × Nat
  | [] => ([], next)
  | (name, v) :: rest =>
    let r := nameDrops next v
    let rs := nameDropsFields r.2 rest
    ((name, r.1) :: rs.1, rs.2)
end

end Value

namespace Context
variable {H : Type}

def keep (c : Context H) (name : String) (v : Value H) : Context H :=
  let r := v.nameDrops c.kept
  { c with kept := r.2 }.set name r.1

end Context
end LiquidEval
