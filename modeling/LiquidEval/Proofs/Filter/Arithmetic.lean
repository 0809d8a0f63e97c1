import Mathlib.Algebra.Order.Group.Unbundled.Int
import LiquidEval.Filter.Standard
import LiquidEval.Proofs.Decimal.LeadingZeros
import LiquidEval.Sample.Objects

/-! Arithmetic of filters on integers. However the two integers are given, sums and quotients are
exact if they fit in 64 bits, and floats if they do not. Sums may be too large on both sides; of the
quotients only one is. -/
namespace LiquidEval

namespace Decimal

/-- What the quotient leaves of the dividend is at least zero and smaller than the divisor without
its sign. -/
def IsQuotient (x y q : Int) : Prop := 0 ≤ x - q * y ∧ x - q * y < |y|

theorem isQuotient_iff {x y q : Int} (hy : y ≠ 0) : IsQuotient x y q ↔ q = x / y := by
  constructor
  · rintro ⟨hlow, hhigh⟩
    have hsplit : x = x - q * y + q * y := by omega
    rw [hsplit, Int.add_mul_ediv_right _ _ hy, Int.ediv_eq_zero_of_lt_abs hlow hhigh, zero_add]
  · rintro rfl
    have hrest : x - x / y * y = x % y := by rw [Int.emod_def, mul_comm]
    rw [IsQuotient, hrest]
    exact ⟨Int.emod_nonneg x hy, Int.emod_lt_abs x hy⟩

/-- A quotient is not larger than the dividend, so it leaves the bounds only where the sign of the
least integer changes. -/
theorem ediv_fits_iff {x y : Int} (hx : leastInt64 ≤ x ∧ x ≤ greatestInt64) (hy : y ≠ 0) :
    (leastInt64 ≤ x / y ∧ x / y ≤ greatestInt64) ↔ ¬(x = leastInt64 ∧ y = -1) := by
  have hsize := Int.natAbs_ediv_le_natAbs x y
  unfold leastInt64 greatestInt64 at *
  constructor
  · rintro hfits ⟨rfl, rfl⟩
    omega
  · intro hne
    refine ⟨by omega, ?_⟩
    by_contra hlarge
    have hq : x / y = 0x8000000000000000 := by omega
    obtain ⟨hlow, hhigh⟩ := (isQuotient_iff hy).mpr hq.symm
    have hneg : y < 0 := by omega
    rw [abs_of_neg hneg] at hhigh
    omega

end Decimal

namespace Filter
open Decimal
variable {H : Type} {l r : Value H} {x y : Int}

/-- The integer that an argument is: nil is zero, and a string is what it is a text of with the
blanks taken off. -/
inductive Denotes : Value H → Int → Prop where
  | nil : Denotes .nil 0
  | int (i : Int64) : Denotes (.int i) i.toInt
  | string {s : String} {x : Int} (htext : IsTextOf x (Text.trimChars s.toList))
      (hfits : leastInt64 ≤ x ∧ x ≤ greatestInt64) : Denotes (.string s) x

theorem number_of_denotes (h : Denotes l x) :
    ∃ i : Int64, number l = .ok (.int i) ∧ i.toInt = x := by
  cases h with
  | nil => exact ⟨0, rfl, rfl⟩
  | int i => exact ⟨i, rfl, rfl⟩
  | @string s x htext hfits =>
    have hi := toInt_ofInt_of_bounds hfits.1 hfits.2
    have hread : readInt64? (Value.trimmed s) = some (Int64.ofInt x) :=
      readInt64?_eq_some_iff.mpr (hi.symm ▸ htext)
    refine ⟨Int64.ofInt x, ?_, hi⟩
    rw [number, numberOfText, hread]

/-- A sum is an integer if there is one, and some float if there is none. -/
theorem plus_of_denotes (hl : Denotes l x) (hr : Denotes r y) :
    ∃ f, plus l r = .ok ((int64? (x + y)).elim (.float f) .int) := by
  obtain ⟨i, hi, rfl⟩ := number_of_denotes hl
  obtain ⟨j, hj, rfl⟩ := number_of_denotes hr
  refine ⟨Value.floatOfInt i + Value.floatOfInt j, ?_⟩
  have hplus : plus l r = .ok (add (.int i) (.int j)) := by
    rw [plus, hi, hj]
    rfl
  rw [hplus, add]
  cases int64? (i.toInt + j.toInt) with
  | none => rfl
  | some n => rfl

theorem dividedBy_of_denotes (hl : Denotes l x) (hr : Denotes r y) :
    ∃ f, dividedBy l r =
      if y = 0 then operationError "divided by 0"
      else .ok ((int64? (x / y)).elim (.float f) .int) := by
  obtain ⟨i, hi, rfl⟩ := number_of_denotes hl
  obtain ⟨j, hj, rfl⟩ := number_of_denotes hr
  refine ⟨Value.floatOfInt i / Value.floatOfInt j, ?_⟩
  have hdivide : dividedBy l r = divide (.int i) (.int j) := by
    rw [dividedBy, hi, hj]
    rfl
  have hzero : j = 0 ↔ j.toInt = 0 := Int64.toInt_inj.symm
  rw [hdivide, divide]
  simp only [hzero]
  split
  next => rfl
  next =>
    cases int64? (i.toInt / j.toInt) with
    | none => rfl
    | some q => rfl

theorem Denotes.bounds (h : Denotes l x) : leastInt64 ≤ x ∧ x ≤ greatestInt64 := by
  obtain ⟨i, -, rfl⟩ := number_of_denotes h
  exact bounds_toInt i

/-- A sum is an integer exactly if it fits. Division fails for zero only, gives a float for one pair
only, and gives the one quotient that leaves a proper remainder for all others. -/
theorem integers_added_and_divided (hl : Denotes l x) (hr : Denotes r y) :
    (∀ n : Int64, plus l r = .ok (.int n) ↔ n.toInt = x + y) ∧
    ((∃ f, plus l r = .ok (.float f)) ↔ ¬(leastInt64 ≤ x + y ∧ x + y ≤ greatestInt64)) ∧
    (∀ text, dividedBy l r = .error text ↔ y = 0 ∧ text = "Operation error: divided by 0") ∧
    ((∃ f, dividedBy l r = .ok (.float f)) ↔ x = leastInt64 ∧ y = -1) ∧
    (y ≠ 0 → ¬(x = leastInt64 ∧ y = -1) →
      ∃ q : Int64, dividedBy l r = .ok (.int q) ∧ ∀ m, IsQuotient x y m ↔ m = q.toInt) := by
  obtain ⟨f, hplus⟩ := plus_of_denotes hl hr
  obtain ⟨g, hdivided⟩ := dividedBy_of_denotes hl hr
  refine ⟨fun n => ?_, ?_, fun text => ?_, ?_, fun hy hne => ?_⟩
  · rw [hplus, ← int64?_eq_some_iff]
    cases int64? (x + y) <;> simp
  · rw [hplus, ← int64?_eq_none_iff]
    cases int64? (x + y) <;> simp
  · rw [hdivided]
    by_cases hy : y = 0
    · simp [hy, operationError, eq_comm]
    · simp [hy]
  · rw [hdivided]
    by_cases hy : y = 0
    · simp [hy, operationError]
    · have hnone := int64?_eq_none_iff.trans (not_congr (ediv_fits_iff hl.bounds hy))
      rw [not_not] at hnone
      rw [← hnone, if_neg hy]
      cases int64? (x / y) <;> simp
  · obtain ⟨hlow, hhigh⟩ := (ediv_fits_iff hl.bounds hy).mpr hne
    have hq := toInt_ofInt_of_bounds hlow hhigh
    refine ⟨Int64.ofInt (x / y), ?_, fun m => ?_⟩
    · rw [hdivided, if_neg hy, int64?_eq_some_iff.mpr hq]
      rfl
    · rw [hq, isQuotient_iff hy]

/-- The least integer, given as a string, with one added to it, with its sign changed, by nil, and
by minus two. -/
theorem integers_added_and_divided_at_least :
    let least : Value Sample.Object := .string " -09223372036854775808\n"
    plus least (.string "+1") = .ok (.int (-9223372036854775807)) ∧
      (∃ f, plus least (.int (-1)) = .ok (.float f)) ∧
      (∃ f, dividedBy least (.int (-1)) = .ok (.float f)) ∧
      dividedBy least .nil = .error "Operation error: divided by 0" ∧
      ∃ q : Int64, dividedBy (.int (-7)) (.int (-2) : Value Sample.Object) = .ok (.int q) ∧
        ∀ m, IsQuotient (-7) (-2) m ↔ m = q.toInt := by
  intro least
  have hleast : Denotes least leastInt64 :=
    .string ⟨['-'], 1, .inr ⟨rfl, by decide⟩, by decide +kernel⟩ (by decide)
  have hone : Denotes (.string "+1" : Value Sample.Object) 1 :=
    .string ⟨['+'], 0, .inl ⟨.inr rfl, by decide⟩, by decide +kernel⟩ (by decide)
  have hint (i : Int64) : Denotes (.int i : Value Sample.Object) i.toInt := .int i
  exact ⟨((integers_added_and_divided hleast hone).1 _).mpr (by decide),
    (integers_added_and_divided hleast (hint (-1))).2.1.mpr (by decide),
    (integers_added_and_divided hleast (hint (-1))).2.2.2.1.mpr (by decide),
    ((integers_added_and_divided hleast .nil).2.2.1 _).mpr ⟨rfl, rfl⟩,
    (integers_added_and_divided (hint (-7)) (hint (-2))).2.2.2.2 (by decide) (by decide)⟩

end Filter
end LiquidEval
