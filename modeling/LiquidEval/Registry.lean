import LiquidEval.Context
import LiquidEval.Filter.Standard
import LiquidEval.Filter.Strainer
import LiquidEval.Operator

/-! What all renders of a process share: the operators, the filters that were registered, and the
naming convention that a new render takes. -/
namespace LiquidEval

structure Provider (H : Type) where
  name : String
  filters : List (Descriptor H)

abbrev FilterLists (H : Type) := Table (List (Descriptor H))

structure Registry (H : Type) where
  operators : Operators H
  /-- Providers that are part of the program. -/
  linked : List (Provider H) := []
  /-- Registered providers by name, in the order of registration. -/
  providers : FilterLists H := []
  /-- The lists that strainers were made of. A list stays as it was when it was first asked for. -/
  built : FilterLists H := []
  /-- Single filters by lookup key, each under the name of its latest registration. -/
  functions : Table (String × Descriptor H) := []
  naming : Naming := .ruby

namespace Registry
variable {H : Type}

def registerProvider (r : Registry H) (p : Provider H) : Registry H :=
  { r with providers := r.providers.insert p.name p.filters }

def unregisterProvider (r : Registry H) (name : String) : Registry H :=
  { r with providers := r.providers.erase name }

/-- The name counts under the convention that renders take now. -/
def registerFunction (r : Registry H) (name : String) (d : Descriptor H) : Registry H :=
  { r with functions := r.functions.insert (r.naming.lookupKey name) (name, d) }

def hasFunction (r : Registry H) (name : String) : Bool :=
  r.functions.contains (r.naming.lookupKey name)

def unregisterFunction (r : Registry H) (name : String) : Registry H :=
  { r with functions := r.functions.erase (r.naming.lookupKey name) }

def resetFilters (r : Registry H) : Registry H := { r with providers := [], functions := [] }

def newContext (r : Registry H) : Context H := { naming := r.naming }

/-- All providers, in the order in which they are merged. -/
def allProviders (r : Registry H) : List (Provider H) :=
  r.linked ++ r.providers.map fun e => ⟨e.1, e.2⟩

def providerNames (r : Registry H) : List String := r.allProviders.map (·.name)

/-- Asks a provider for its list, unless one was built under its name before. -/
def build (built : FilterLists H) (p : Provider H) : List (Descriptor H) × FilterLists H :=
  match built.get? p.name with
  | some ds => (ds, built)
  | none => (p.filters, built.insert p.name p.filters)

def buildAll (built : FilterLists H) :
    List (Provider H) → List (List (Descriptor H)) × FilterLists H
  | [] => ([], built)
  | p :: rest =>
    let r := build built p
    let rs := buildAll r.2 rest
    (r.1 :: rs.1, rs.2)

def providerFilters (r : Registry H) : List (List (Descriptor H)) :=
  (buildAll r.built r.allProviders).1

def afterStrainer (r : Registry H) : Registry H :=
  { r with built := (buildAll r.built r.allProviders).2 }

/-- A strainer with everything registered: providers first, then single filters. -/
def strainer (r : Registry H) (view : View H) : Strainer H :=
  (Table.values r.functions).foldl (fun s f => s.addFunction f.1 f.2)
    (r.providerFilters.foldl Strainer.extend { view })

def extendProvider (r : Registry H) (s : Strainer H) (p : Provider H) : Strainer H × Registry H :=
  let b := build r.built p
  (s.extend b.1, { r with built := b.2 })

variable [Host H]

def standardProvider : Provider H := ⟨"StandardFilters", Filter.standard⟩

def initial : Registry H := { operators := .builtin, linked := [standardProvider] }

def resetOperators (r : Registry H) : Registry H := { r with operators := .builtin }

end Registry
end LiquidEval
