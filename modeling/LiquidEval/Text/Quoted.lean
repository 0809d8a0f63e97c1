import LiquidEval.Text.HiddenTable
import LiquidEval.Text.Letter

/-! Quoted texts, as shown when a value is inspected: the quote in use and the backslash are
escaped, and what would not be visible is written by its code point. -/
namespace LiquidEval.Text

def isHidden (c : Char) : Bool :=
  if isAscii c then c.toNat < 32 || c.toNat == 127
  else hiddenRanges.contains c || extendingRanges.contains c

def codeEscape (c : Char) : List Char :=
  ['\\', 'u', '\x7b'] ++ Nat.toDigits 16 c.toNat ++ ['\x7d']

def escape (quote c : Char) : List Char :=
  if c = '\x00' then ['\\', '0']
  else if c = '\t' then ['\\', 't']
  else if c = '\r' then ['\\', 'r']
  else if c = '\n' then ['\\', 'n']
  else if c = '\\' || c = quote then ['\\', c]
  else if isHidden c then codeEscape c
  else [c]

def quotedWith (quote : Char) (s : List Char) : String :=
  String.ofList (quote :: s.flatMap (escape quote) ++ [quote])

def quoted (s : String) : String := quotedWith '"' s.toList

def quotedChar (c : Char) : String := quotedWith '\'' [c]

end LiquidEval.Text
