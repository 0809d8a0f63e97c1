import LiquidEval.Decimal.Reader
import LiquidEval.Json

/-! Reading JSON texts. Containers nest at most 127 deep; of two fields with one name the later
stays. A number with a fraction or an exponent keeps as many leading digits as fit in 64 bits and is
scaled by one power of ten, which may miss the nearest floating-point number by its last bit. -/
namespace LiquidEval.Json

def isSpace (c : Char) : Bool := c == ' ' || c == '\n' || c == '\t' || c == '\r'

def skipSpace (s : List Char) : List Char := s.dropWhile isSpace

/-- Appends digits to a number while it fits in 64 bits; returns the digits left over. -/
def accumulate (n : Nat) : List Char → Nat × List Char
  | [] => (n, [])
  | c :: rest =>
    let next := 10 * n + Decimal.digitValue c
    if next ≤ Decimal.greatestUInt64 then accumulate next rest else (n, c :: rest)

/-- Divides by `10 ^ 308` until the power is within range or nothing is left. -/
def scaleDown (fuel : Nat) (f : Float) (power : Int) : Float :=
  match fuel with
  | 0 => f
  | fuel + 1 =>
    if f == 0.0 then f
    else if -308 ≤ power then f / Float.ofScientific 1 false power.natAbs
    else scaleDown fuel (f / 1e308) (power + 308)

def scale (significand : Nat) (power : Int) : Option Float :=
  let f := Float.ofNat significand
  if power < 0 then some (scaleDown (power.natAbs / 308 + 1) f power)
  else if 308 < power then if significand = 0 then some f else none
  else
    let g := f * Float.ofScientific 1 false power.toNat
    if g.isInf then none else some g

/-- A number of 64 bits with its sign; a negative zero and what does not fit are not integers. -/
def wholeNumber (negative : Bool) (n : Nat) : Json :=
  if !negative then .int n
  else if n = 0 || !Decimal.fitsInt64 (-(n : Int)) then .float (-(Float.ofNat n))
  else .int (-(n : Int))

structure NumberParts where
  negative : Bool
  whole : List Char
  fraction : Option (List Char)
  exponent : Option (Bool × List Char)

def NumberParts.value (p : NumberParts) : Option Json :=
  let (n, dropped) := accumulate 0 p.whole
  if p.fraction.isNone && p.exponent.isNone && dropped.isEmpty then some (wholeNumber p.negative n)
  else
    let digits := p.fraction.getD []
    let (significand, ignored) := accumulate n digits
    let power : Int := dropped.length - (digits.length - ignored.length : Nat)
    let float := match p.exponent with
      | none => scale significand power
      | some (down, e) =>
        let by10 := Decimal.naturalOf e
        if !Decimal.fitsInt32 by10 then if significand ≠ 0 && !down then none else some 0.0
        else scale significand (if down then power - by10 else power + by10)
    float.map fun f => .float (if p.negative then -f else f)

def spanDigits (s : List Char) : List Char × List Char :=
  (s.takeWhile Decimal.isAsciiDigit, s.dropWhile Decimal.isAsciiDigit)

/-- Digits before the point; a zero stands alone. -/
def readWhole (s : List Char) : Option (List Char × List Char) :=
  let (digits, rest) := spanDigits s
  match digits with
  | [] => none
  | '0' :: _ :: _ => none
  | _ => some (digits, rest)

def readFraction : List Char → Option (Option (List Char) × List Char)
  | '.' :: s =>
    let (digits, rest) := spanDigits s
    if digits.isEmpty then none else some (some digits, rest)
  | s => some (none, s)

def readExponent : List Char → Option (Option (Bool × List Char) × List Char)
  | [] => some (none, [])
  | c :: s =>
    if c == 'e' || c == 'E' then
      let (down, unsigned) := match s with
        | '+' :: t => (false, t)
        | '-' :: t => (true, t)
        | t => (false, t)
      let (digits, rest) := spanDigits unsigned
      if digits.isEmpty then none else some (some (down, digits), rest)
    else some (none, c :: s)

def readNumber (s : List Char) : Option (Json × List Char) := do
  let (negative, unsigned) := match s with
    | '-' :: t => (true, t)
    | t => (false, t)
  let (whole, s) ← readWhole unsigned
  let (fraction, s) ← readFraction s
  let (exponent, s) ← readExponent s
  let value ← NumberParts.value ⟨negative, whole, fraction, exponent⟩
  some (value, s)

def hexValue? (c : Char) : Option Nat :=
  if '0' ≤ c && c ≤ '9' then some (c.toNat - 48)
  else if 'a' ≤ c && c ≤ 'f' then some (c.toNat - 87)
  else if 'A' ≤ c && c ≤ 'F' then some (c.toNat - 55)
  else none

def hexNumber? (digits : List Char) : Option Nat :=
  digits.foldlM (fun n c => (hexValue? c).map (16 * n + ·)) 0

def codeUnit? (s : List Char) : Option Nat :=
  if s.length < 4 then none else hexNumber? (s.take 4)

/-- The character after `\u`; a pair of surrogates is one character, a surrogate alone is none. -/
def unicodeEscape? (s : List Char) : Option (Char × List Char) := do
  let high ← codeUnit? s
  let rest := s.drop 4
  if high < 0xD800 || 0xDFFF < high then some (Char.ofNat high, rest)
  else if 0xDC00 ≤ high then none
  else match rest with
    | '\\' :: 'u' :: t => do
      let low ← codeUnit? t
      if low < 0xDC00 || 0xDFFF < low then none
      else some (Char.ofNat (0x10000 + (high - 0xD800) * 0x400 + (low - 0xDC00)), t.drop 4)
    | _ => none

def simpleEscape? (c : Char) : Option Char :=
  match c with
  | '"' => some '"'
  | '\\' => some '\\'
  | '/' => some '/'
  | 'b' => some '\x08'
  | 'f' => some '\x0c'
  | 'n' => some '\n'
  | 'r' => some '\r'
  | 't' => some '\t'
  | _ => none

def readChars (fuel : Nat) (s : List Char) : Option (List Char × List Char) :=
  match fuel, s with
  | 0, _ => none
  | _, [] => none
  | fuel + 1, c :: rest =>
    if c = '"' then some ([], rest)
    else if c.toNat < 32 then none
    else do
      let (d, after) ← match c, rest with
        | '\\', 'u' :: t => unicodeEscape? t
        | '\\', e :: t => (simpleEscape? e).map (·, t)
        | '\\', [] => none
        | _, _ => some (c, rest)
      let (ds, final) ← readChars fuel after
      some (d :: ds, final)

def readString (s : List Char) : Option (String × List Char) :=
  (readChars (s.length + 1) s).map fun r => (String.ofList r.1, r.2)

abbrev Reader := List Char → Option (Json × List Char)

/-- Values separated by commas up to the closing bracket. -/
def readItems (value : Reader) (fuel : Nat) (s : List Char) : Option (List Json × List Char) :=
  match fuel with
  | 0 => none
  | fuel + 1 => do
    let (item, s) ← value (skipSpace s)
    match skipSpace s with
    | ',' :: t =>
      let (items, s) ← readItems value fuel t
      some (item :: items, s)
    | ']' :: t => some ([item], t)
    | _ => none

/-- Fields separated by commas up to the closing brace. -/
def readFields (value : Reader) (fuel : Nat) (s : List Char) :
    Option (List (String × Json) × List Char) :=
  match fuel, skipSpace s with
  | fuel + 1, '"' :: t => do
    let (name, s) ← readString t
    match skipSpace s with
    | ':' :: t =>
      let (field, s) ← value (skipSpace t)
      match skipSpace s with
      | ',' :: t =>
        let (fields, s) ← readFields value fuel t
        some ((name, field) :: fields, s)
      | '\x7d' :: t => some ([(name, field)], t)
      | _ => none
    | _ => none
  | _, _ => none

/-- A value with at most `depth` containers inside one another. -/
def readValue (depth : Nat) : Reader
  | 'n' :: 'u' :: 'l' :: 'l' :: s => some (.null, s)
  | 't' :: 'r' :: 'u' :: 'e' :: s => some (.bool true, s)
  | 'f' :: 'a' :: 'l' :: 's' :: 'e' :: s => some (.bool false, s)
  | '"' :: s => (readString s).map fun r => (.string r.1, r.2)
  | '[' :: s =>
    match depth with
    | 0 => none
    | depth + 1 =>
      match skipSpace s with
      | ']' :: t => some (.array [], t)
      | t => (readItems (readValue depth) (t.length + 1) t).map fun r => (.array r.1, r.2)
  | '\x7b' :: s =>
    match depth with
    | 0 => none
    | depth + 1 =>
      match skipSpace s with
      | '\x7d' :: t => some (.object [], t)
      | t => (readFields (readValue depth) (t.length + 1) t).map fun r =>
          (.object (sortFields r.1), r.2)
  | s => readNumber s

def maxDepth : Nat := 127

def read? (s : String) : Option Json :=
  match readValue maxDepth (skipSpace s.toList) with
  | some (j, rest) => if (skipSpace rest).isEmpty then some j else none
  | none => none

end LiquidEval.Json
