import LiquidEval.Naming

/-! The two settings of a render as text: the naming convention and the language level. -/
namespace LiquidEval

/-- Language level. From `liquid22` on, the entries of a map are pairs. -/
inductive Level where
  | liquid20
  | liquid21
  | liquid22
  | liquid22a
  deriving Repr, DecidableEq, Inhabited

namespace Level

def rank : Level → Nat
  | liquid20 => 0
  | liquid21 => 1
  | liquid22 => 2
  | liquid22a => 3

def text : Level → String
  | liquid20 => "liquid20"
  | liquid21 => "liquid21"
  | liquid22 => "liquid22"
  | liquid22a => "liquid22a"

end Level

/-- A setting that names nothing known; the text is what was looked for. -/
inductive SettingError where
  | naming (text : String)
  | level (text : String)
  deriving Repr, DecidableEq

def SettingError.message : SettingError → String
  | naming text => "Unknown naming convention: " ++ text
  | level text => "Unknown syntax compatibility level: " ++ text

/-- Settings are read without regard to case and to blanks around them. -/
def settingKey (s : String) : String := Text.lower (Text.trim s)

def Naming.ofText (s : String) : Except SettingError Naming :=
  let key := settingKey s
  if key = "ruby" then .ok .ruby
  else if key = "csharp" || key = "c#" || key = "cs" then .ok .csharp
  else .error (.naming key)

def Level.ofText (s : String) : Except SettingError Level :=
  let key := settingKey s
  if key = "liquid20" || key = "2.0" then .ok .liquid20
  else if key = "liquid21" || key = "2.1" then .ok .liquid21
  else if key = "liquid22" || key = "2.2" then .ok .liquid22
  else if key = "liquid22a" || key = "2.2a" then .ok .liquid22a
  else .error (.level key)

end LiquidEval
