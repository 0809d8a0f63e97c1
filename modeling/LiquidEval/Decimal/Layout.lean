import LiquidEval.Decimal.Shortest

/-! How a floating-point number is written: its shortest digits in a layout. The three layouts in
use differ in when they turn to an exponent, in its sign, and in which of two equally near digits
they take. -/
namespace LiquidEval.Decimal

structure Layout where
  /-- Decimal exponents of the leading digit that are written without an exponent. -/
  positional : Int → Bool
  /-- Whether a positive exponent carries a plus sign. -/
  plusSign : Bool
  tie : Tie

/-- What a template prints: never an exponent. -/
def Layout.plain : Layout := ⟨fun _ => true, false, .up⟩

/-- What an inspected value shows: an exponent below `1e-4` and from `1e16` on. -/
def Layout.inspected : Layout := ⟨fun e => -4 ≤ e && e < 16, false, .up⟩

/-- What a JSON document holds: an exponent below `1e-5` and from `1e16` on. -/
def Layout.json : Layout := ⟨fun e => -5 ≤ e && e < 16, true, .toEven⟩

def zeros (n : Int) : List Char := List.replicate n.toNat '0'

/-- Digits without an exponent; a whole number below `10 ^ 16` keeps one decimal. -/
def positionalText (digits : List Char) (power lead : Int) : List Char :=
  if 0 ≤ power then digits ++ zeros power ++ (if lead < 16 then ['.', '0'] else [])
  else if 0 ≤ lead then digits.take (lead + 1).toNat ++ '.' :: digits.drop (lead + 1).toNat
  else ['0', '.'] ++ zeros (-lead - 1) ++ digits

def exponentText (plusSign : Bool) (digits : List Char) (lead : Int) : List Char :=
  let mantissa := match digits with
    | d :: r :: rest => d :: '.' :: r :: rest
    | short => short
  let sign := if lead < 0 then ['-'] else if plusSign then ['+'] else []
  mantissa ++ 'e' :: sign ++ Nat.toDigits 10 lead.natAbs

def Layout.finite (l : Layout) (d : Dyadic) : List Char :=
  let s := d.shortest l.tie
  let digits := Nat.toDigits 10 s.coefficient
  let lead := s.power + digits.length - 1
  (if d.negative then ['-'] else []) ++
    (if l.positional lead then positionalText digits s.power lead
      else exponentText l.plusSign digits lead)

def Layout.write (l : Layout) (f : Float) : String :=
  if f.isNaN then "NaN"
  else if f.isInf then (if f < 0.0 then "-inf" else "inf")
  else String.ofList (l.finite (Dyadic.ofFloat f))

end LiquidEval.Decimal
