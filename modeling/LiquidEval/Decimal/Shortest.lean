import LiquidEval.Decimal.Dyadic

/-! The shortest decimal that reads back as a given floating-point number: the coarsest decimal grid
with a point among the reals that round to the number, and on it the point nearest to the number. -/
namespace LiquidEval.Decimal

/-- `coefficient · 10 ^ power`. -/
structure Scaled where
  coefficient : Nat
  power : Int
  deriving Repr, DecidableEq

inductive Tie where
  | up
  | toEven
  deriving Repr, DecidableEq

def digitCount (n : Nat) : Nat := (Nat.toDigits 10 n).length

/-- The reals that round to `value`, all three over one denominator; the ends belong when
`closed`. -/
structure Interval where
  low : Nat
  value : Nat
  high : Nat
  denominator : Nat
  closed : Bool

/-- The gap below a power of two is half the gap above it. -/
def Dyadic.interval (d : Dyadic) : Interval :=
  let narrow := d.mantissa == hiddenBit && -1074 < d.exponent
  let scale := Nat.pow 2 (d.exponent - 2).toNat
  { low := (4 * d.mantissa - (if narrow then 1 else 2)) * scale
    value := 4 * d.mantissa * scale
    high := (4 * d.mantissa + 2) * scale
    denominator := Nat.pow 2 (2 - d.exponent).toNat
    closed := d.mantissa % 2 == 0 }

/-- The interval measured in units of `10 ^ power`. -/
def Interval.onGrid (v : Interval) (power : Int) : Interval :=
  let up := Nat.pow 10 (-power).toNat
  { v with
    low := v.low * up
    value := v.value * up
    high := v.high * up
    denominator := v.denominator * Nat.pow 10 power.toNat }

def Interval.holds (v : Interval) (n : Nat) : Bool :=
  let x := n * v.denominator
  if v.closed then v.low ≤ x && x ≤ v.high else v.low < x && x < v.high

def Interval.nearest? (v : Interval) (tie : Tie) : Option Nat :=
  let below := v.value / v.denominator
  let twice := 2 * (v.value % v.denominator)
  let takeUpper : Bool := match tie with
    | .up => v.denominator ≤ twice
    | .toEven => v.denominator < twice || (twice == v.denominator && below % 2 == 1)
  match v.holds below, v.holds (below + 1) with
  | true, true => some (if takeUpper then below + 1 else below)
  | true, false => some below
  | false, true => some (below + 1)
  | false, false => none

/-- The exponent of the leading decimal digit of a positive value. -/
def Interval.leadingExponent (v : Interval) : Int :=
  if v.denominator ≤ v.value then digitCount (v.value / v.denominator) - 1
  else
    let k := digitCount (v.denominator / v.value) - 1
    if v.denominator ≤ v.value * Nat.pow 10 k then -(k : Int) else -(k : Int) - 1

def Scaled.normalize (fuel : Nat) (s : Scaled) : Scaled :=
  match fuel with
  | 0 => s
  | fuel + 1 =>
    if s.coefficient % 10 == 0 then Scaled.normalize fuel ⟨s.coefficient / 10, s.power + 1⟩ else s

/-- Seventeen digits always suffice. -/
def Dyadic.shortest (d : Dyadic) (tie : Tie) : Scaled :=
  if d.mantissa = 0 then ⟨0, 0⟩
  else
    let v := d.interval
    let lead := v.leadingExponent
    let candidate (digits : Nat) : Option Scaled :=
      let power := lead + 1 - digits
      ((v.onGrid power).nearest? tie).map fun n => Scaled.normalize 18 ⟨n, power⟩
    ((List.range' 1 17).findSome? candidate).getD ⟨0, 0⟩

end LiquidEval.Decimal
