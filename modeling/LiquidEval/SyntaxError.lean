/-! Where and why a text is no expression or condition. Positions count bytes of the text in
UTF-8. -/
namespace LiquidEval

inductive SyntaxError where
  /-- Nothing could be read from here on; `found` is what stands there, cut to sixteen
  characters. -/
  | unexpected (found : String) (position : Nat)
  | unterminatedString (position : Nat)
  | emptyInput
  deriving Repr, DecidableEq

def utf8Length : List Char → Nat
  | [] => 0
  | c :: s => c.utf8Size + utf8Length s

/-- Reading `text` stopped in front of `rest`. A quote there means that its string has no end. -/
def SyntaxError.stoppedAt (text rest : List Char) : SyntaxError :=
  let position := utf8Length text - utf8Length rest
  if rest.head? == some '\'' || rest.head? == some '"' then .unterminatedString position
  else .unexpected (String.ofList (rest.take 16)) position

def SyntaxError.foundText (found : String) : String :=
  if found.isEmpty then "unexpected end of input" else "unexpected '" ++ found ++ "'"

def SyntaxError.message : SyntaxError → String
  | unexpected found position =>
    "Invalid syntax at position " ++ toString position ++ ": " ++ foundText found
  | unterminatedString position =>
    "Unterminated string literal starting at position " ++ toString position
  | emptyInput => "Empty input"

end LiquidEval
