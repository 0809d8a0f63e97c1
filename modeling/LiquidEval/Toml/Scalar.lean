import LiquidEval.Decimal.Reader
import LiquidEval.Toml

/-! Numbers, truth values, dates and times, as they are written between other tokens. -/
namespace LiquidEval.Toml

open Decimal (isAsciiDigit naturalOf)

/-- Characters without underscores, each of which must stand between two digits. -/
def ungroup (isDigit : Char → Bool) : List Char → Option (List Char)
  | [] => none
  | [c] => if isDigit c then some [c] else none
  | c :: '_' :: d :: rest =>
    if isDigit c && isDigit d then (ungroup isDigit (d :: rest)).map (c :: ·) else none
  | c :: rest => if isDigit c then (ungroup isDigit rest).map (c :: ·) else none

def digitIn (base : Nat) (c : Char) : Bool :=
  (isAsciiDigit c && c.toNat - 48 < base) ||
    (base == 16 && (('a' ≤ c && c ≤ 'f') || ('A' ≤ c && c ≤ 'F')))

def digitOf (c : Char) : Nat :=
  if isAsciiDigit c then c.toNat - 48 else if 'a' ≤ c then c.toNat - 87 else c.toNat - 55

def based? (base : Nat) (s : List Char) : Option Toml :=
  (ungroup (digitIn base) s).map fun digits =>
    .int (digits.foldl (fun n c => base * n + digitOf c) 0)

/-- Decimal digits of an integer; a zero stands alone. -/
def wholeDigits? (s : List Char) : Option (List Char) :=
  match ungroup isAsciiDigit s with
  | some ('0' :: _ :: _) => none
  | digits => digits

def splitAt (c : Char → Bool) (s : List Char) : List Char × Option (List Char) :=
  match s.dropWhile fun d => !c d with
  | [] => (s, none)
  | _ :: rest => (s.takeWhile fun d => !c d, some rest)

def exponent? (s : List Char) : Option Int :=
  let (negative, digits) := Decimal.splitSign s
  (ungroup isAsciiDigit digits).map fun d => if negative then -(naturalOf d : Int) else naturalOf d

def float? (s : List Char) : Option Float := do
  let (mantissa, power) := splitAt (fun c => c == 'e' || c == 'E') s
  let (whole, fraction) := splitAt (· == '.') mantissa
  let digits ← wholeDigits? whole
  let fractionDigits ← match fraction with
    | none => some []
    | some f => ungroup isAsciiDigit f
  let e ← match power with
    | none => some 0
    | some p => exponent? p
  let f := Decimal.nearestFloat (naturalOf (digits ++ fractionDigits)) (e - fractionDigits.length)
  if f.isInf then none else some f

def unsignedNumber? (s : List Char) : Option Toml :=
  if s == "inf".toList then some (.float Decimal.infinity)
  else if s == "nan".toList then some (.float Decimal.notANumber)
  else match wholeDigits? s with
    | some digits => some (.int (naturalOf digits))
    | none => (float? s).map .float

def negate : Toml → Toml
  | .int i => .int (-i)
  | .float f => .float (-f)
  | t => t

def anyNumber? : List Char → Option Toml
  | '0' :: 'x' :: s => based? 16 s
  | '0' :: 'o' :: s => based? 8 s
  | '0' :: 'b' :: s => based? 2 s
  | '-' :: s => (unsignedNumber? s).map negate
  | '+' :: s => unsignedNumber? s
  | s => unsignedNumber? s

/-- Integers of 128 bits, with or without a sign. -/
def isReadable : Toml → Bool
  | .int i => Decimal.leastInt128 ≤ i && i ≤ Decimal.greatestUInt128
  | _ => true

def number? (s : List Char) : Option Toml := (anyNumber? s).filter isReadable

/-- A number of exactly `width` digits from `least` to `greatest`. -/
def fixed? (width least greatest : Nat) (s : List Char) : Option (Nat × List Char) :=
  let digits := s.take width
  let n := naturalOf digits
  if digits.length == width && digits.all isAsciiDigit && least ≤ n && n ≤ greatest then
    some (n, s.drop width)
  else none

def padded (width n : Nat) : List Char :=
  let digits := Nat.toDigits 10 n
  List.replicate (width - digits.length) '0' ++ digits

def isLeap (year : Nat) : Bool := year % 4 == 0 && (year % 100 != 0 || year % 400 == 0)

def daysIn (year month : Nat) : Nat :=
  if month == 2 then if isLeap year then 29 else 28
  else if [4, 6, 9, 11].contains month then 30 else 31

def date? (s : List Char) : Option (List Char × List Char) := do
  let (year, s) ← fixed? 4 0 9999 s
  let s ← match s with | '-' :: t => some t | _ => none
  let (month, s) ← fixed? 2 1 12 s
  let s ← match s with | '-' :: t => some t | _ => none
  let (day, s) ← fixed? 2 1 (daysIn year month) s
  some (padded 4 year ++ '-' :: padded 2 month ++ '-' :: padded 2 day, s)

def dropTrailingZeros (s : List Char) : List Char := (s.reverse.dropWhile (· == '0')).reverse

/-- A fraction of a second; nine digits count, and zeros at the end do not show. -/
def secondFraction? (s : List Char) : Option (List Char × List Char) :=
  match s with
  | '.' :: t =>
    let digits := t.takeWhile isAsciiDigit
    if digits.isEmpty then none
    else
      let shown := dropTrailingZeros (digits.take 9)
      some (if shown.isEmpty then [] else '.' :: shown, t.dropWhile isAsciiDigit)
  | s => some ([], s)

/-- A time of day in normal form; seconds that are left out are zero. -/
def time? (s : List Char) : Option (List Char × List Char) := do
  let (hour, s) ← fixed? 2 0 23 s
  let s ← match s with | ':' :: t => some t | _ => none
  let (minute, s) ← fixed? 2 0 59 s
  let text := padded 2 hour ++ ':' :: padded 2 minute
  match s with
  | ':' :: s => do
    let (second, s) ← fixed? 2 0 60 s
    let (fraction, s) ← secondFraction? s
    some (text ++ ':' :: padded 2 second ++ fraction, s)
  | s => some (text ++ ":00".toList, s)

/-- The distance from universal time, if one is given. -/
def offset? : List Char → Option (List Char)
  | [] => some []
  | ['Z'] | ['z'] => some ['Z']
  | sign :: s => do
    if sign != '+' && sign != '-' then none
    let (hour, s) ← fixed? 2 0 23 s
    let s ← match s with | ':' :: t => some t | _ => none
    let (minute, s) ← fixed? 2 0 59 s
    let shown := if hour == 0 && minute == 0 then '+' else sign
    if s.isEmpty then some (shown :: padded 2 hour ++ ':' :: padded 2 minute) else none

def dateTime? (s : List Char) : Option Toml :=
  match date? s with
  | some (day, []) => some (.dateTime (String.ofList day))
  | some (day, c :: s) => do
    if c != 'T' && c != 't' && c != ' ' then none
    let (time, s) ← time? s
    let offset ← offset? s
    some (.dateTime (String.ofList (day ++ 'T' :: time ++ offset)))
  | none =>
    match time? s with
    | some (time, []) => some (.dateTime (String.ofList time))
    | _ => none

def scalar? (s : List Char) : Option Toml :=
  if s == "true".toList then some (.bool true)
  else if s == "false".toList then some (.bool false)
  else (number? s).or (dateTime? s)

end LiquidEval.Toml
