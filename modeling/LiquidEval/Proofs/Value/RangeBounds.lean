import LiquidEval.Context
import LiquidEval.Proofs.Decimal.LeadingZeros
import LiquidEval.Proofs.Decimal.Neighbours

/-! The integers that bounds of ranges stand for. A float stands for its whole part, moved to the
nearest end of the 64 bits if it lies beyond, and a string for the integer that it is a text of. -/
namespace LiquidEval

namespace Value
open Decimal
variable {H : Type} {v : Value H} {a : Int}

/-- The integer that a value is as a bound of a range. -/
inductive StandsFor : Value H → Int → Prop where
  | int (i : Int64) : StandsFor (int i) i.toInt
  | float {f : Float} (hf : f.isFinite = true) :
      StandsFor (float f) (max leastInt64 (min (wholePart (floatValue f)) greatestInt64))
  | string {s : String} {i : Int64} (h : IsTextOf i.toInt (Text.trimChars s.toList)) :
      StandsFor (string s) i.toInt

theorem rangeBound?_eq_some_iff : v.rangeBound? = some a ↔ StandsFor v a := by
  constructor
  · intro h
    cases v with
    | int i =>
      cases h
      exact .int i
    | float f =>
      rw [rangeBound?, Option.ite_none_right_eq_some] at h
      obtain ⟨hf, h⟩ := h
      cases h
      rw [Dyadic.truncate_eq_wholePart]
      exact .float hf
    | string s =>
      obtain ⟨i, hi, rfl⟩ := Option.map_eq_some_iff.mp h
      rw [Text.trim, String.toList_ofList, readInt64?_eq_some_iff] at hi
      exact .string hi
    | _ => cases h
  · intro h
    cases h with
    | int i => rfl
    | float hf =>
      rw [rangeBound?, if_pos hf, Dyadic.truncate_eq_wholePart]
      rfl
    | string h =>
      rw [rangeBound?, Text.trim, String.toList_ofList, readInt64?_eq_some_iff.mpr h]
      rfl

theorem rangeBound?_eq_none_iff : v.rangeBound? = none ↔ ∀ a, ¬StandsFor v a := by
  rw [Option.eq_none_iff_forall_ne_some]
  exact forall_congr' fun a => not_congr rangeBound?_eq_some_iff

theorem StandsFor.bounds (h : StandsFor v a) : leastInt64 ≤ a ∧ a ≤ greatestInt64 := by
  cases h with
  | int i => exact bounds_toInt i
  | float hf =>
    unfold leastInt64 greatestInt64
    omega
  | string h => exact bounds_toInt _

end Value
end LiquidEval
