import LiquidEval.Context.Scopes
import LiquidEval.Setting

/-! What a render hands on of itself to drops, operators and filters: all of its context, or of the
plainest one, which is a single flat scope. -/
namespace LiquidEval

structure Context (H : Type) where
  scopes : Scopes H := .empty
  naming : Naming
  level : Level := .liquid20
  /-- How many drops made in this render have been kept. -/
  kept : Nat := 0

/-- One scope in which names mean exactly what was assigned to them. -/
structure FlatContext (H : Type) where
  naming : Naming
  bindings : Table (Value H) := []

inductive View (H : Type) where
  | render (c : Context H)
  | flat (c : FlatContext H)

def View.naming {H : Type} : View H → Naming
  | render c => c.naming
  | flat c => c.naming

namespace FlatContext
variable {H : Type}

def set (c : FlatContext H) (name : String) (v : Value H) : FlatContext H :=
  { c with bindings := c.bindings.insert name v }

def view (c : FlatContext H) : View H := .flat c

end FlatContext
end LiquidEval
