import LiquidEval.Operator
import LiquidEval.Proofs.Decimal.Rounding
import LiquidEval.Sample.Objects

/-! Equality of numbers. An integer and a float are compared after the integer was rounded to a
float, so besides equal numbers an integer that no float denotes is taken for the float that it is
rounded to. -/
namespace LiquidEval
open Decimal

namespace Value
variable {H : Type}

/-- The number that a value is; not-a-number and the infinities are none. -/
def number? : Value H → Option ℚ
  | int i => some i.toInt
  | float f => if f.isFinite then some (floatValue f) else none
  | _ => none

/-- An integer that no float denotes, and the float that it is rounded to. -/
def Confused : Value H → Value H → Prop
  | int i, float f | float f, int i =>
    ¬ Representable i.toInt ∧ f.isFinite = true ∧ floatValue f = floatValue (floatOfInt i)
  | _, _ => False

theorem number?_float {f : Float} {y : ℚ} :
    (float f : Value H).number? = some y ↔ f.isFinite = true ∧ floatValue f = y :=
  Option.ite_none_right_eq_some.trans (and_congr_right' Option.some_inj)

theorem floatValue_floatOfInt (i : Int64) : (floatOfInt i).isFinite = true ∧
    (Representable i.toInt → floatValue (floatOfInt i) = i.toInt) := by
  have hlow := i.le_toInt
  have hhigh := i.toInt_lt
  exact floatValue_ofInt (by omega)

/-- A float that is equal to a rounded integer is that integer or is taken for it. -/
theorem beq_floatOfInt_iff {f : Float} {i : Int64} : (f == floatOfInt i) = true ↔
    (float f : Value H).number? = some (i.toInt : ℚ) ∨ (float f : Value H).Confused (int i) := by
  obtain ⟨hfinite, hkept⟩ := floatValue_floatOfInt i
  rw [number?_float]
  constructor
  · intro h
    have hf := isFinite_of_beq h hfinite
    have hvalue := (beq_iff_floatValue_eq hf hfinite).mp h
    by_cases hi : Representable i.toInt
    · exact .inl ⟨hf, hvalue.trans (hkept hi)⟩
    · exact .inr ⟨hi, hf, hvalue⟩
  · rintro (⟨hf, hvalue⟩ | ⟨-, hf, hvalue⟩)
    · have hi := representable_of_floatValue hvalue
      exact (beq_iff_floatValue_eq hf hfinite).mpr (hvalue.trans (hkept hi).symm)
    · exact (beq_iff_floatValue_eq hf hfinite).mpr hvalue

theorem Confused.symm {a b : Value H} (h : a.Confused b) : b.Confused a := by
  cases a <;> cases b <;> exact h

/-- Values that are taken for each other are different numbers. -/
theorem Confused.ne {a b : Value H} {x y : ℚ} (h : a.Confused b) (ha : a.number? = some x)
    (hb : b.number? = some y) : x ≠ y := by
  rintro rfl
  have hint {i : Int64} {f : Float} (h : (int i : Value H).Confused (float f))
      (hi : (int i : Value H).number? = some x)
      (hf : (float f : Value H).number? = some x) : False := by
    have hx : (i.toInt : ℚ) = x := Option.some_inj.mp hi
    obtain ⟨-, hvalue⟩ := number?_float.mp hf
    exact h.1 (representable_of_floatValue (hvalue.trans hx.symm))
  cases a with
  | int i =>
    cases b with
    | float f => exact hint h ha hb
    | _ => exact h
  | float f =>
    cases b with
    | int i => exact hint h.symm hb ha
    | _ => exact h
  | _ => cases ha

variable [Host H]

/-- Equality with a number, unless a host type decides it. -/
theorem equals_number_iff {a b : Value H} {y : ℚ} (ha : hostEquals? a b = none)
    (hb : b.number? = some y) :
    a.equals b = true ↔ a.number? = some y ∨ a.Confused b := by
  have hown : ownEquality? a b = none := by
    unfold ownEquality?
    rw [ha]
    cases b with
    | host => cases hb
    | _ => rfl
  unfold equals
  rw [hown]
  cases b with
  | int j =>
    have hj : (j.toInt : ℚ) = y := Option.some_inj.mp hb
    subst hj
    cases a with
    | int i =>
      dsimp only
      rw [beq_iff_eq, ← Int64.toInt_inj]
      simp [number?, Confused]
    | float f => exact beq_floatOfInt_iff
    | _ => simp [number?, Confused, sameDrop]
  | float g =>
    obtain ⟨hg, hy⟩ := number?_float.mp hb
    cases a with
    | int i =>
      dsimp only
      rw [BEq.comm, @beq_floatOfInt_iff H, hb, eq_comm]
      rfl
    | float f =>
      dsimp only
      rw [number?_float, ← hy]
      constructor
      · intro h
        have hf := isFinite_of_beq h hg
        exact .inl ⟨hf, (beq_iff_floatValue_eq hf hg).mp h⟩
      · rintro (⟨hf, hvalue⟩ | hconfused)
        · exact (beq_iff_floatValue_eq hf hg).mpr hvalue
        · exact hconfused.elim
    | _ => simp [number?, Confused, sameDrop]
  | _ => cases hb

theorem hostEquals?_of_number {a b : Value H} {x : ℚ} (ha : a.number? = some x) :
    hostEquals? a b = none := by
  cases a with
  | host => cases ha
  | _ => rfl

/-- Equality is equality of numbers unless an integer meets the float that it is taken for. -/
theorem equals_iff_same_number (w : View H) {a b : Value H} {x y : ℚ} (ha : a.number? = some x)
    (hb : b.number? = some y) :
    (a.equals b = true ↔ x = y ∨ a.Confused b) ∧
      ((a.equals b = true ↔ x = y) ↔ ¬ a.Confused b) ∧
      (∀ (c : Value H) (z : ℚ), c.number? = some z → a.equals b = true → b.equals c = true →
        ¬ a.Confused b → ¬ b.Confused c → a.equals c = true) ∧
      ∀ items : List (Value H), (∀ item ∈ items, hostEquals? item b = none) →
        (containsValue w (array items) b = true ↔
          ∃ item ∈ items, item.number? = some y ∨ item.Confused b) := by
  have hequals {a b : Value H} {x y : ℚ} (ha : a.number? = some x) (hb : b.number? = some y) :
      a.equals b = true ↔ x = y ∨ a.Confused b := by
    rw [equals_number_iff (hostEquals?_of_number ha) hb, ha, Option.some_inj]
  refine ⟨hequals ha hb, ⟨?_, ?_⟩, ?_, ?_⟩
  · intro hsame hconfused
    exact hconfused.ne ha hb (hsame.mp ((hequals ha hb).mpr (.inr hconfused)))
  · intro hclear
    rw [hequals ha hb, or_iff_left hclear]
  · intro c z hc hab hbc hab' hbc'
    have hxy := ((hequals ha hb).mp hab).resolve_right hab'
    have hyz := ((hequals hb hc).mp hbc).resolve_right hbc'
    exact (hequals ha hc).mpr (.inl (hxy.trans hyz))
  · intro items hitems
    have hnil : b.isNil = false := by
      cases b with
      | nil => cases hb
      | _ => rfl
    unfold containsValue
    rw [hnil, if_neg Bool.false_ne_true, List.any_eq_true]
    exact exists_congr fun item =>
      and_congr_right fun hmem => equals_number_iff (hitems item hmem) hb

theorem number?_two_pow :
    (float (.ofBits 0x4340000000000000) : Value Sample.Object).number? = some 9007199254740992 := by
  have hread : Dyadic.ofFloat (.ofBits 0x4340000000000000) = ⟨false, 0x10000000000000, 1⟩ := by
    decide +kernel
  refine number?_float.mpr ⟨by decide +kernel, ?_⟩
  rw [floatValue, hread]
  norm_num [Dyadic.value, scaled, signed]

theorem equals_iff_same_number_at_two_pow :
    let whole : Value Sample.Object := .int 9007199254740992
    let point : Value Sample.Object := .float (.ofBits 0x4340000000000000)
    whole.equals point = true ∧
      containsValue (.flat ⟨.ruby, []⟩) (.array [.bool true, whole]) point = true := by
  intro whole point
  have hwhole : whole.number? = some 9007199254740992 := by
    refine congrArg some ?_
    have hread : (9007199254740992 : Int64).toInt = 9007199254740992 := by decide
    rw [hread]
    norm_num
  obtain ⟨hequals, -, -, hcontains⟩ :=
    equals_iff_same_number (.flat ⟨.ruby, []⟩) hwhole number?_two_pow
  refine ⟨hequals.mpr (.inl rfl), (hcontains _ ?_).mpr ⟨whole, by simp, .inl hwhole⟩⟩
  intro item hitem
  rcases List.mem_pair.mp hitem with rfl | rfl <;> rfl

/-- The first integer that no float denotes: it is equal to a float that is equal to another
integer. -/
theorem rounded_integer_taken_for_float :
    let odd : Value Sample.Object := .int 9007199254740993
    let point : Value Sample.Object := .float (.ofBits 0x4340000000000000)
    odd.number? = some 9007199254740993 ∧ point.number? = some 9007199254740992 ∧
      odd.equals point = true ∧
      point.equals (.int 9007199254740992) = true ∧ odd.equals (.int 9007199254740992) = false ∧
      containsValue (.flat ⟨.ruby, []⟩) (.array [point]) odd = true := by
  intro odd point
  have hodd : odd.number? = some 9007199254740993 := by
    refine congrArg some ?_
    have hread : (9007199254740993 : Int64).toInt = 9007199254740993 := by decide
    rw [hread]
    norm_num
  exact ⟨hodd, number?_two_pow, by decide +kernel, by decide +kernel, by decide +kernel,
    by decide +kernel⟩

end Value
end LiquidEval
