import LiquidEval.Decimal.Bounds

/-! Numbers read from text. Integers have an optional sign and ASCII digits and fit in 64 bits;
other numbers may have a fraction, an exponent, or be one of the words for infinity and
not-a-number. -/
namespace LiquidEval.Decimal

def isAsciiDigit (c : Char) : Bool := '0' ≤ c && c ≤ '9'

def digitValue (c : Char) : Nat := c.toNat - 48

def naturalOf (digits : List Char) : Nat := digits.foldl (fun n c => 10 * n + digitValue c) 0

def natural? (s : List Char) : Option Nat :=
  if s.isEmpty || !s.all isAsciiDigit then none else some (naturalOf s)

/-- Whether a minus stands in front, and what follows the sign. -/
def splitSign : List Char → Bool × List Char
  | '-' :: rest => (true, rest)
  | '+' :: rest => (false, rest)
  | s => (false, s)

def integer? (s : List Char) : Option Int :=
  let (negative, digits) := splitSign s
  (natural? digits).map fun n => if negative then -(n : Int) else n

def int64? (i : Int) : Option Int64 :=
  if fitsInt64 i then some (Int64.ofInt i) else none

def readInt64? (s : List Char) : Option Int64 := (integer? s).bind int64?

def infinity : Float := 1.0 / 0.0

def notANumber : Float := 0.0 / 0.0

/-- The floating-point number nearest to `coefficient · 10 ^ power`. Powers far outside the range
are decided without computing them. -/
def nearestFloat (coefficient : Nat) (power : Int) : Float :=
  if coefficient = 0 then 0.0
  else
    let lead := (Nat.toDigits 10 coefficient).length + power
    if 400 < lead then infinity
    else if lead < -400 then 0.0
    else if 0 ≤ power then Float.ofScientific coefficient false power.toNat
    else Float.ofScientific coefficient true (-power).toNat

/-- An exponent mark with its signed digits; nothing means power zero. -/
def exponent? : List Char → Option Int
  | [] => some 0
  | c :: rest => if c == 'e' || c == 'E' then integer? rest else none

/-- An unsigned number: digits on at least one side of the point. -/
def unsignedFloat? (s : List Char) : Option Float :=
  let whole := s.takeWhile isAsciiDigit
  let afterWhole := s.dropWhile isAsciiDigit
  let (fraction, tail) := match afterWhole with
    | '.' :: rest => (rest.takeWhile isAsciiDigit, rest.dropWhile isAsciiDigit)
    | rest => ([], rest)
  if whole.isEmpty && fraction.isEmpty then none
  else (exponent? tail).map fun e =>
    nearestFloat (naturalOf (whole ++ fraction)) (e - fraction.length)

def wordFloat? (s : List Char) : Option Float :=
  let word := String.ofList (s.map Char.toLower)
  if word == "inf" || word == "infinity" then some infinity
  else if word == "nan" then some notANumber
  else none

def readFloat? (s : List Char) : Option Float :=
  let (negative, rest) := splitSign s
  ((unsignedFloat? rest).or (wordFloat? rest)).map fun f => if negative then -f else f

end LiquidEval.Decimal
