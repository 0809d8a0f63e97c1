/-! Texts inside texts. The empty text is in every text, at its start and at its end. -/
namespace LiquidEval.Text

def hasInfix (part : List Char) : List Char → Bool
  | [] => part.isEmpty
  | c :: s => part.isPrefixOf (c :: s) || hasInfix part s

def contains (s part : String) : Bool := hasInfix part.toList s.toList

def startsWith (s part : String) : Bool := part.toList.isPrefixOf s.toList

def endsWith (s part : String) : Bool := part.toList.isSuffixOf s.toList

end LiquidEval.Text
