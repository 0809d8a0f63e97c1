import Mathlib
import LiquidEval.CommandLine.Run
import LiquidEval.Proofs.CommandLine.Texts
import LiquidEval.Proofs.Context.Scopes
import LiquidEval.Proofs.Json.Fields

/-! Where the settings and the variables of a run come from. Each of them is taken from the first of
its sources that has it, whatever the other sources say. -/
namespace LiquidEval.Config

/-- How a setting is written: in the environment and behind its flag as a text, in a file as a word
under a key. -/
structure Setting (α : Type) where
  read : String → Except SettingError α
  variableName : String
  key : String
  words : List (String × α)
  default : α

/-- The fields of a file of variables. Without a file there are none. -/
inductive VariablesOf (files : Files) : Option String → List (String × Json) → Prop where
  | absent : VariablesOf files none []
  | read {path text : String} {fields : List (String × Json)} (hlook : files.look path = .text text)
    (hfields : Json.read? text = some (.object fields)) : VariablesOf files (some path) fields

section
variable {α : Type} {files : Files} {env : Environment} {c c' : Config}

end

section
variable {name raw : String} {texts : List String} {fields : List (String × Json)}
  {entries : List (String × Toml)} {bindings : List (String × Json)}

end

section
variable {files : Files} {c : Config} {sources : VariableSources}

theorem VariablesOf.distinct {file : Option String} {fields : List (String × Json)}
    (h : VariablesOf files file fields) : Table.Distinct fields := by
  cases h with
  | absent => exact List.nodup_nil
  | read _ hfields => exact Json.distinct_of_read? hfields

end

end LiquidEval.Config
