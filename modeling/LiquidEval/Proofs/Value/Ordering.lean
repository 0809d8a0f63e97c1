import Mathlib.Data.String.Basic
import Mathlib.Order.Compare
import LiquidEval.Value.Equality

/-! The order of values. Taken the other way round it is reversed, and where two values have an
order, it says `eq` of exactly those that are equal. Numbers have an order among each other, and so
have strings and so have characters. -/
namespace LiquidEval
open Float.Model

namespace Decimal

/-- By cases on both floats; only of two finite ones with the same sign are the numbers looked
at. -/
theorem unpacked_compare_swap (a b : UnpackedFloat) :
    b.compare a = (a.compare b).map Ordering.swap := by
  cases a with
  | notANumber => cases b <;> rfl
  | infinity s =>
    cases b with
    | infinity t => cases s <;> cases t <;> rfl
    | _ => cases s <;> rfl
  | zero s =>
    cases b with
    | infinity t => cases t <;> rfl
    | finite t => cases t <;> rfl
    | _ => rfl
  | finite s m e hm =>
    cases b with
    | notANumber => cases s <;> rfl
    | infinity t => cases s <;> cases t <;> rfl
    | zero t => cases s <;> rfl
    | finite t n k hn =>
      have hswap : (compare k e).then (compare n m) = ((compare e k).then (compare m n)).swap := by
        rw [Ordering.swap_then, Int.compare_swap, Nat.compare_swap]
      cases s <;> cases t
      · exact congrArg (fun o => some o.swap) hswap
      · rfl
      · rfl
      · exact congrArg some hswap

theorem lt_iff_unpacked_compare {a b : Float} :
    a < b ↔ a.toModel.unpack.compare b.toModel.unpack = some .lt := by
  have hlt : (a < b) = (decide (a.toModel < b.toModel) = true) := rfl
  rw [hlt, decide_eq_true_iff]
  exact beq_iff_eq

theorem beq_eq_unpacked_compare (a b : Float) :
    (a == b) = (a.toModel.unpack.compare b.toModel.unpack == some .eq) := rfl

end Decimal

namespace Value

/-- Three tests in a row give the order that the parts of two floats have. -/
theorem compareFloats_eq (a b : Float) :
    compareFloats a b = a.toModel.unpack.compare b.toModel.unpack := by
  unfold compareFloats
  simp only [Decimal.lt_iff_unpacked_compare, Decimal.beq_eq_unpacked_compare, beq_iff_eq]
  rw [Decimal.unpacked_compare_swap a.toModel.unpack b.toModel.unpack]
  cases a.toModel.unpack.compare b.toModel.unpack with
  | none => rfl
  | some o => cases o <;> rfl

theorem compareFloats_swap (a b : Float) :
    compareFloats b a = (compareFloats a b).map Ordering.swap := by
  rw [compareFloats_eq, compareFloats_eq, Decimal.unpacked_compare_swap]

theorem compareFloats_eq_some_eq_iff {a b : Float} :
    compareFloats a b = some .eq ↔ (a == b) = true := by
  rw [compareFloats_eq, Decimal.beq_eq_unpacked_compare, beq_iff_eq]

variable {H : Type}

/-- The pairs that are compared. Not-a-number is, and has no order. -/
inductive Comparable : Value H → Value H → Prop where
  | ints (i j : Int64) : Comparable (int i) (int j)
  | intFloat (i : Int64) (g : Float) : Comparable (int i) (float g)
  | floatInt (f : Float) (j : Int64) : Comparable (float f) (int j)
  | floats (f g : Float) : Comparable (float f) (float g)
  | strings (s t : String) : Comparable (string s) (string t)
  | chars (c d : Char) : Comparable (char c) (char d)

theorem Comparable.symm {a b : Value H} (h : a.Comparable b) : b.Comparable a := by
  cases h <;> constructor

theorem compare?_eq_none {a b : Value H} (h : ¬a.Comparable b) : compare? a b = none := by
  cases a with
  | int i =>
    cases b with
    | int j => exact absurd (.ints i j) h
    | float g => exact absurd (.intFloat i g) h
    | _ => rfl
  | float f =>
    cases b with
    | int j => exact absurd (.floatInt f j) h
    | float g => exact absurd (.floats f g) h
    | _ => rfl
  | string s =>
    cases b with
    | string t => exact absurd (.strings s t) h
    | _ => rfl
  | char c =>
    cases b with
    | char d => exact absurd (.chars c d) h
    | _ => rfl
  | _ => rfl

theorem comparable_of_compare? {a b : Value H} {o : Ordering} (h : compare? a b = some o) :
    a.Comparable b := by
  by_contra hne
  rw [compare?_eq_none hne] at h
  cases h

theorem compare?_swap (a b : Value H) : compare? b a = (compare? a b).map Ordering.swap := by
  by_cases h : a.Comparable b
  · cases h with
    | ints i j => exact congrArg some Std.OrientedCmp.eq_swap
    | intFloat i g => exact compareFloats_swap (floatOfInt i) g
    | floatInt f j => exact compareFloats_swap f (floatOfInt j)
    | floats f g => exact compareFloats_swap f g
    | strings s t => exact congrArg some Std.OrientedCmp.eq_swap
    | chars c d => exact congrArg some Std.OrientedCmp.eq_swap
  · rw [compare?_eq_none h, compare?_eq_none (mt Comparable.symm h)]
    rfl

variable [Host H]

/-- Order and equality are computed apart from each other, and agree. -/
theorem compare?_eq_some_eq_iff {a b : Value H} (h : a.Comparable b) :
    compare? a b = some .eq ↔ a.equals b = true := by
  cases h with
  | ints i j => exact Option.some_inj.trans (Std.compare_eq_iff_eq.trans beq_iff_eq.symm)
  | intFloat i g => exact compareFloats_eq_some_eq_iff
  | floatInt f j => exact compareFloats_eq_some_eq_iff
  | floats f g => exact compareFloats_eq_some_eq_iff
  | strings s t => exact Option.some_inj.trans (Std.compare_eq_iff_eq.trans beq_iff_eq.symm)
  | chars c d => exact Option.some_inj.trans (Std.compare_eq_iff_eq.trans beq_iff_eq.symm)

theorem equals_eq_isEq {a b : Value H} {o : Ordering} (h : compare? a b = some o) :
    a.equals b = o.isEq := by
  rw [Bool.eq_iff_iff, ← compare?_eq_some_eq_iff (comparable_of_compare? h), h, Option.some_inj,
    Ordering.isEq_iff_eq_eq]

end Value
end LiquidEval
