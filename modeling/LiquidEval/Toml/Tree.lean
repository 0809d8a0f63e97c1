import LiquidEval.Toml

/-! How tables of a document come about. A table is opened by a header, by a longer header or by
dotted keys, and each of them may extend only some of the tables that are already there. -/
namespace LiquidEval.Toml

inductive Node where
  /-- Scalars, arrays and inline tables: complete where they are written. -/
  | leaf (value : Toml)
  /-- An implicit table has no header of its own; a dotted one was made by the keys of another
  table. -/
  | table (implicit dotted : Bool) (entries : List (String × Node))
  /-- Tables under one header, all but the last one closed. -/
  | tables (closed : List (List (String × Node))) (last : List (String × Node))

abbrev Entries := List (String × Node)

def replace (entries : Entries) (name : String) (node : Node) : Entries :=
  entries.map fun e => if e.1 = name then (name, node) else e

/-- Changes the table at the end of a path, making the tables on the way. `change` is told whether
the table was made by dotted keys. -/
def descend (dotted : Bool) (change : Bool → Entries → Option Entries) :
    List String → Bool → Entries → Option Entries
  | [], isDotted, entries => change isDotted entries
  | name :: path, _, entries =>
    match List.lookup name entries with
    | none => do
      let made ← descend dotted change path dotted []
      some (entries ++ [(name, .table true dotted made)])
    | some (.leaf _) => none
    | some (.table implicit wasDotted inner) =>
      if dotted && !implicit then none
      else do
        let changed ← descend dotted change path wasDotted inner
        some (replace entries name (.table implicit wasDotted changed))
    | some (.tables closed last) => do
      let changed ← descend dotted change path false last
      some (replace entries name (.tables closed changed))

def openTable (name : String) (entries : Entries) : Option Entries :=
  match List.lookup name entries with
  | none => some (entries ++ [(name, .table false false [])])
  | some (.table true false inner) => some (replace entries name (.table false false inner))
  | some _ => none

/-- Opens one more table under a header that may repeat. -/
def openNext (name : String) (entries : Entries) : Option Entries :=
  match List.lookup name entries with
  | none => some (entries ++ [(name, .tables [] [])])
  | some (.tables closed last) => some (replace entries name (.tables (closed ++ [last]) []))
  | some _ => none

/-- Enters a value. Dotted keys reach only tables that dotted keys made. -/
def enter (path : List String) (name : String) (value : Toml) (entries : Entries) :
    Option Entries :=
  descend true (fun isDotted entries =>
    if isDotted == path.isEmpty || (List.lookup name entries).isSome then none
    else some (entries ++ [(name, .leaf value)])) path false entries

mutual
def Node.value : Node → Toml
  | .leaf value => value
  | .table _ _ entries => .table (valueEntries entries)
  | .tables closed last => .array (valueTables closed ++ [.table (valueEntries last)])
def valueEntries : List (String × Node) → List (String × Toml)
  | [] => []
  | (name, node) :: rest => (name, node.value) :: valueEntries rest
def valueTables : List (List (String × Node)) → List Toml
  | [] => []
  | t :: rest => .table (valueEntries t) :: valueTables rest
end

end LiquidEval.Toml
