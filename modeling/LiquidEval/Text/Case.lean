import LiquidEval.Text.CaseTable
import LiquidEval.Text.Letter

/-! Small and capital forms of texts. Both may lengthen a text. Only the small form depends on the
neighbours of a character: a capital sigma at the end of a word has a form of its own. -/
namespace LiquidEval.Text

def mapCase (long : List (Nat × List Nat)) (runs : List CaseRun) (c : Char) : List Char :=
  match long.lookup c.toNat with
  | some codes => codes.map Char.ofNat
  | none =>
    match runs.find? fun r => r.covers c.toNat with
    | some r => [Char.ofNat (c.toNat + r.shift).toNat]
    | none => [c]

def lowerChar (c : Char) : List Char :=
  if isAscii c then [c.toLower] else mapCase longLower lowerRuns c

def upperChar (c : Char) : List Char :=
  if isAscii c then [c.toUpper] else mapCase longUpper upperRuns c

def isCased (c : Char) : Bool :=
  if isAscii c then c.isAlpha else casedRanges.contains c

def isCaseIgnorable (c : Char) : Bool :=
  if isAscii c then ['\'', '.', ':', '^', '\x60'].contains c else caseIgnorableRanges.contains c

/-- Whether the first character that is not passed over has case. -/
def meetsCased (s : List Char) : Bool :=
  match s.dropWhile isCaseIgnorable with
  | c :: _ => isCased c
  | [] => false

def lowerSigma (before after : List Char) : Char :=
  if meetsCased before && !meetsCased after then 'ς' else 'σ'

def lowerFrom (before : List Char) : List Char → List Char
  | [] => []
  | c :: rest =>
    (if c = 'Σ' then [lowerSigma before rest] else lowerChar c) ++ lowerFrom (c :: before) rest

def lowerChars (s : List Char) : List Char := lowerFrom [] s

def upperChars (s : List Char) : List Char := s.flatMap upperChar

def lower (s : String) : String := String.ofList (lowerChars s.toList)

def upper (s : String) : String := String.ofList (upperChars s.toList)

def upperFirst (s : String) : String :=
  match s.toList with
  | [] => ""
  | c :: rest => String.ofList (upperChar c ++ rest)

end LiquidEval.Text
