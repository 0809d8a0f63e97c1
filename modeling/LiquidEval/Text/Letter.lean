import LiquidEval.Text.LetterTable

/-! Letters and numbers. ASCII is decided directly; all other characters by the tables, so that what
a grammar needs to know about ASCII holds by computation. -/
namespace LiquidEval.Text

def isAscii (c : Char) : Bool := c.toNat < 128

def isAlphabetic (c : Char) : Bool :=
  if isAscii c then c.isAlpha else alphabeticRanges.contains c

def isNumeric (c : Char) : Bool :=
  if isAscii c then c.isDigit else numericRanges.contains c

def isAlphanumeric (c : Char) : Bool := isAlphabetic c || isNumeric c

def isDecimalDigit (c : Char) : Bool :=
  if isAscii c then c.isDigit else decimalDigitRanges.contains c

theorem isAlphanumeric_of_isAlphabetic {c : Char} (h : isAlphabetic c = true) :
    isAlphanumeric c = true := by
  simp [isAlphanumeric, h]

end LiquidEval.Text
