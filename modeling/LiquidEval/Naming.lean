import LiquidEval.Text.Blank
import LiquidEval.Text.Case

/-! Naming conventions. A convention maps each spelling of a name to the key under which the name is
looked up; two spellings address the same entry exactly when their keys are equal. -/
namespace LiquidEval

inductive Naming where
  /-- Words in small letters joined by underscores. -/
  | ruby
  /-- Names as declared, matched without regard to case. -/
  | csharp
  deriving Repr, DecidableEq, Inhabited

namespace Naming

def isCapital (c : Char) : Bool := 'A' ≤ c && c ≤ 'Z'

def isSmall (c : Char) : Bool := 'a' ≤ c && c ≤ 'z'

/-- A capital starts a word after a small letter or a digit, and after a capital if a small letter
follows. -/
def startsWord (before c : Char) (after : Option Char) : Bool :=
  isCapital c &&
    (isSmall before || Text.isDecimalDigit before || (isCapital before && after.any isSmall))

def splitFrom (before : Char) : List Char → List Char
  | [] => []
  | c :: rest =>
    if startsWord before c rest.head? then '_' :: c :: splitFrom c rest
    else c :: splitFrom c rest

/-- The text with an underscore in front of every word but the first. -/
def splitWords : List Char → List Char
  | [] => []
  | c :: rest => c :: splitFrom c rest

def canonical (n : Naming) (name : String) : String :=
  match n with
  | ruby => String.ofList (Text.lowerChars (splitWords name.toList))
  | csharp => name

def lookupKey (n : Naming) (name : String) : String :=
  match n with
  | ruby => n.canonical name
  | csharp => Text.lower name

def namesMatch (n : Naming) (a b : String) : Bool := n.lookupKey a == n.lookupKey b

/-- Whether an operator written as `token` is the one declared as `name`: spelled alike, in small
letters, or in the spelling of the convention. -/
def operatorMatches (n : Naming) (token name : String) : Bool :=
  token == name || token == Text.lower name ||
    match n with
    | ruby => token == n.canonical name
    | csharp => token == Text.upperFirst name

def text : Naming → String
  | ruby => "ruby"
  | csharp => "csharp"

end Naming
end LiquidEval
