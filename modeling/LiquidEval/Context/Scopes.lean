import LiquidEval.Value

/-! Variable scopes: a global one that always exists, and inner ones that are opened and closed. A
name means the binding of the innermost scope that has one. -/
namespace LiquidEval

/-- `inner` lists the innermost scope first. -/
structure Scopes (H : Type) where
  globals : Table (Value H)
  inner : List (Table (Value H))

namespace Scopes
variable {H : Type}

def empty : Scopes H := ⟨[], []⟩

def push (s : Scopes H) : Scopes H := ⟨s.globals, [] :: s.inner⟩

/-- Closes the innermost scope; the global one stays. -/
def pop? (s : Scopes H) : Option (Table (Value H) × Scopes H) :=
  match s.inner with
  | [] => none
  | scope :: rest => some (scope, ⟨s.globals, rest⟩)

def set (s : Scopes H) (name : String) (v : Value H) : Scopes H :=
  match s.inner with
  | [] => ⟨s.globals.insert name v, []⟩
  | scope :: rest => ⟨s.globals, scope.insert name v :: rest⟩

def setGlobal (s : Scopes H) (name : String) (v : Value H) : Scopes H :=
  ⟨s.globals.insert name v, s.inner⟩

def get? (s : Scopes H) (name : String) : Option (Value H) :=
  (s.inner.findSome? fun scope => scope.get? name).or (s.globals.get? name)

end Scopes
end LiquidEval
