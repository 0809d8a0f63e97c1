import LiquidEval.Text.Blank
import LiquidEval.Value

/-! Conversion of arguments to the types that parameters declare. Nil passes everywhere; a narrowing
conversion succeeds only when the value is representable. -/
namespace LiquidEval

inductive ParamType where
  | any
  | bool
  | int32
  | int64
  | float
  | char
  | string
  | array
  | object
  deriving Repr, DecidableEq

def ParamType.text : ParamType → String
  | any => "any"
  | bool => "bool"
  | int32 => "int32"
  | int64 => "int64"
  | float => "float"
  | char => "char"
  | string => "string"
  | array => "array"
  | object => "object"

namespace Value
variable {H : Type}

def trimmed (s : String) : List Char := Text.trimChars s.toList

def asBool? : Value H → Option Bool
  | bool b => some b
  | int i => some (i != 0)
  | float f => some (f != 0.0)
  | string s =>
    let word := String.ofList ((trimmed s).map Char.toLower)
    if word = "true" then some true else if word = "false" then some false else none
  | _ => none

/-- The nearest integer of a finite number, a half going to the even one. -/
def roundedInt? (f : Float) : Option Int64 :=
  if f.isFinite then Decimal.int64? (Decimal.Dyadic.ofFloat f).roundHalfEven else none

def asInt64? : Value H → Option Int64
  | int i => some i
  | float f => roundedInt? f
  | bool b => some (if b then 1 else 0)
  | char c => some (Int64.ofInt c.toNat)
  | string s => Decimal.readInt64? (trimmed s)
  | _ => none

def asInt32? (v : Value H) : Option Int64 := v.asInt64?.filter fun i => Decimal.fitsInt32 i.toInt

def asFloat? : Value H → Option Float
  | int i => some (floatOfInt i)
  | float f => some f
  | bool b => some (if b then 1.0 else 0.0)
  | string s => Decimal.readFloat? (trimmed s)
  | _ => none

/-- The character of a code point; surrogates are none. -/
def charOfCode? (i : Int) : Option Char :=
  if 0 ≤ i && i.toNat.isValidChar then some (Char.ofNat i.toNat) else none

def asChar? : Value H → Option Char
  | char c => some c
  | int i => charOfCode? i.toInt
  | string s => onlyChar? s
  | _ => none

def asArray? : Value H → Option (Value H)
  | array items => some (array items)
  | _ => none

def asObject? : Value H → Option (Value H)
  | object fields => some (object fields)
  | _ => none

def convert? (t : ParamType) (v : Value H) : Option (Value H) :=
  match t with
  | .any => some v
  | .bool => v.asBool?.map bool
  | .int32 => v.asInt32?.map int
  | .int64 => v.asInt64?.map int
  | .float => v.asFloat?.map float
  | .char => v.asChar?.map char
  | .string => v.scalarText?.map string
  | .array => v.asArray?
  | .object => v.asObject?

def coerce (t : ParamType) (v : Value H) : Except (Value H) (Value H) :=
  if v.isNil then .ok v
  else match v.convert? t with
    | some w => .ok w
    | none => .error v

end Value
end LiquidEval
