import LiquidEval.Context
import LiquidEval.Filter.Descriptor

/-! The standard filters, which every render has. -/
namespace LiquidEval.Filter
variable {H : Type}

def operationError {α : Type} (text : String) : Except String α :=
  .error ("Operation error: " ++ text)

def size : Value H → Value H
  | .string s => .count s.length
  | .array items => .count items.length
  | .object fields => .count fields.length
  | _ => .int 0

def mapText (f : String → String) : Value H → Value H
  | .string s => .string (f s)
  | v => v

/-- Empty containers, nil and false are replaced by a default. -/
def isBlank : Value H → Bool
  | .string s => s.isEmpty
  | .array items => items.isEmpty
  | .object fields => fields.isEmpty
  | v => !v.isTruthy

inductive Number where
  | int (i : Int64)
  | float (f : Float)

def Number.toFloat : Number → Float
  | int i => Value.floatOfInt i
  | float f => f

def numberOfText (s : String) : Except String Number :=
  let text := Value.trimmed s
  match Decimal.readInt64? text with
  | some i => .ok (.int i)
  | none =>
    match Decimal.readFloat? text with
    | some f => .ok (.float f)
    | none => operationError ("'" ++ String.ofList text ++ "' is not a number")

/-- Nil counts as zero. -/
def number : Value H → Except String Number
  | .nil => .ok (.int 0)
  | .int i => .ok (.int i)
  | .float f => .ok (.float f)
  | .string s => numberOfText s
  | v => operationError (v.typeName ++ " is not a number")

def add : Number → Number → Value H
  | .int x, .int y =>
    match Decimal.int64? (x.toInt + y.toInt) with
    | some sum => .int sum
    | none => .float (Value.floatOfInt x + Value.floatOfInt y)
  | a, b => .float (a.toFloat + b.toFloat)

/-- Integers divide to the quotient that leaves a remainder of zero or more. -/
def divide : Number → Number → Except String (Value H)
  | a, .int y =>
    if y = 0 then operationError "divided by 0"
    else match a with
      | .int x =>
        match Decimal.int64? (x.toInt / y.toInt) with
        | some q => .ok (.int q)
        | none => .ok (.float (Value.floatOfInt x / Value.floatOfInt y))
      | .float f => .ok (.float (f / Value.floatOfInt y))
  | a, .float g => .ok (.float (a.toFloat / g))

def plus (left right : Value H) : Except String (Value H) := do
  let a ← number left
  let b ← number right
  .ok (add a b)

def dividedBy (left right : Value H) : Except String (Value H) := do
  let a ← number left
  let b ← number right
  divide a b

/-- The start of a text with the ellipsis, in `length` characters if the ellipsis leaves room for
that. -/
def truncateText (s : String) (length : Nat) (ellipsis : String) : String :=
  if s.length ≤ length then s
  else String.ofList (s.toList.take (length - ellipsis.length) ++ ellipsis.toList)

def truncate (input : Value H) (length : Nat) (ellipsis : String) : Value H :=
  mapText (fun s => truncateText s length ellipsis) input

/-- A negative length is zero, and without a length it is fifty. -/
def lengthOf : Value H → Nat
  | .int n => n.toInt.toNat
  | _ => 50

def required (name : String) (type : ParamType) : Parameter H := ⟨name, type, none⟩

def optional (name : String) (type : ParamType) (default : Value H) : Parameter H :=
  ⟨name, type, some default⟩

variable [Host H]

def standard : List (Descriptor H) := [
  { name := "size"
    ordered := [required "input" .any]
    body := fun a => .ok (size a.input) },
  { name := "upcase"
    ordered := [required "input" .string]
    body := fun a => .ok (mapText Text.upper a.input) },
  { name := "downcase"
    ordered := [required "input" .string]
    body := fun a => .ok (mapText Text.lower a.input) },
  { name := "append"
    ordered := [required "input" .string, required "suffix" .string]
    body := fun a => .ok (.string ((a.get 0).display ++ (a.get 1).display)) },
  { name := "default"
    ordered := [required "input" .any, required "fallback" .any]
    body := fun a => .ok (if isBlank a.input then a.get 1 else a.input) },
  { name := "plus"
    ordered := [required "input" .any, required "operand" .any]
    body := fun a => plus (a.get 0) (a.get 1) },
  { name := "divided_by"
    ordered := [required "input" .any, required "operand" .any]
    body := fun a => dividedBy (a.get 0) (a.get 1) },
  { name := "truncate"
    ordered := [required "input" .string, optional "length" .int32 (.int 50)]
    named := [optional "ellipsis" .string (.string "...")]
    body := fun a => .ok (truncate a.input (lengthOf (a.get 1)) (a.named "ellipsis").display) },
  { name := "lookup"
    takesContext := true
    ordered := [required "input" .any, required "name" .string]
    body := fun a =>
      .ok ((a.view.bind fun v => v.valueOf? (a.get 1).display).getD .nil) }]

end LiquidEval.Filter
