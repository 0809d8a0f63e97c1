/-! Finite floating-point numbers as exact values, a natural number times a power of two, and the
integers next to them. -/
namespace LiquidEval.Decimal

/-- `mantissa · 2 ^ exponent`, with the sign apart so that zero keeps one. -/
structure Dyadic where
  negative : Bool
  mantissa : Nat
  exponent : Int
  deriving Repr, DecidableEq

/-- The leading bit of a normal mantissa, which is not stored; below it are the 52 bits that are. -/
def hiddenBit : Nat := 0x10000000000000

/-- The value of a finite number, read off its 64 bits. -/
def Dyadic.ofFloat (f : Float) : Dyadic :=
  let bits := f.toBits.toNat
  let fraction : Nat := bits % hiddenBit
  let biased : Nat := bits / hiddenBit % 2048
  { negative := bits / (2048 * hiddenBit) == 1
    mantissa := if biased = 0 then fraction else fraction + hiddenBit
    exponent := (if biased = 0 then 1 else (biased : Int)) - 1075 }

/-- Numerator and denominator of the absolute value. -/
def Dyadic.ratio (d : Dyadic) : Nat × Nat :=
  (d.mantissa * Nat.pow 2 d.exponent.toNat, Nat.pow 2 (-d.exponent).toNat)

def signed (negative : Bool) (n : Nat) : Int := if negative then -(n : Int) else n

def Dyadic.truncate (d : Dyadic) : Int :=
  signed d.negative (d.ratio.1 / d.ratio.2)

/-- The nearest integer; a half goes to the even neighbour. -/
def Dyadic.roundHalfEven (d : Dyadic) : Int :=
  let (num, den) := d.ratio
  let below := num / den
  let twice := 2 * (num % den)
  let up := den < twice || (twice == den && below % 2 == 1)
  signed d.negative (if up then below + 1 else below)

end LiquidEval.Decimal
