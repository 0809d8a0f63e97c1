import LiquidEval.Proofs.Decimal.Binary64

/-! The integers next to a floating-point number: the one on the side of zero, and the nearest. -/
namespace LiquidEval.Decimal

/-- The integer next to a number on the side of zero. -/
def wholePart (q : ℚ) : Int := if 0 ≤ q then ⌊q⌋ else ⌈q⌉

theorem wholePart_neg {q : ℚ} (h : 0 ≤ q) : wholePart (-q) = -⌊q⌋ := by
  unfold wholePart
  split
  next hneg =>
    have hzero : q = 0 := le_antisymm (neg_nonneg.mp hneg) h
    rw [hzero, neg_zero, Int.floor_zero, neg_zero]
  next => exact Int.ceil_neg

theorem Dyadic.ratio_div (d : Dyadic) :
    (d.ratio.1 : ℚ) / d.ratio.2 = d.mantissa * 2 ^ d.exponent := by
  obtain ⟨negative, m, e⟩ := d
  have hpow : (2 : ℚ) ^ e = 2 ^ e.toNat / 2 ^ (-e).toNat := by
    rw [← zpow_natCast, ← zpow_natCast, ← zpow_sub₀ two_ne_zero]
    congr 1
    omega
  have hnum : ((ratio ⟨negative, m, e⟩).1 : ℚ) = m * 2 ^ e.toNat := by
    exact_mod_cast rfl
  have hden : ((ratio ⟨negative, m, e⟩).2 : ℚ) = 2 ^ (-e).toNat := by
    exact_mod_cast rfl
  rw [hnum, hden, hpow, mul_div_assoc]

theorem Dyadic.truncate_eq_wholePart (d : Dyadic) : d.truncate = wholePart d.value := by
  have hfloor : ⌊(d.mantissa : ℚ) * 2 ^ d.exponent⌋ = (d.ratio.1 / d.ratio.2 : Nat) := by
    rw [← d.ratio_div]
    exact Rat.floor_intCast_div_natCast d.ratio.1 d.ratio.2
  have hnonneg : 0 ≤ (d.mantissa : ℚ) * 2 ^ d.exponent :=
    mul_nonneg (Nat.cast_nonneg _) (zpow_nonneg zero_le_two _)
  rw [truncate, value, scaled, signed, signed]
  cases d.negative with
  | true =>
    have hneg : (-(d.mantissa : ℤ) : ℤ) * (2 : ℚ) ^ d.exponent =
        -((d.mantissa : ℚ) * 2 ^ d.exponent) := by
      push_cast
      ring
    rw [if_pos rfl, if_pos rfl, hneg, wholePart_neg hnonneg, hfloor]
  | false =>
    rw [if_neg Bool.false_ne_true, if_neg Bool.false_ne_true, wholePart, Int.cast_natCast,
      if_pos hnonneg, hfloor]

/-- An integer is the nearest to a number, and even where another one is as near. -/
structure IsNearest (q : ℚ) (i : Int) : Prop where
  near : |q - i| ≤ 1 / 2
  even : |q - i| = 1 / 2 → Even i

theorem IsNearest.unique {q : ℚ} {i j : Int} (hi : IsNearest q i) (hj : IsNearest q j) : i = j := by
  wlog hle : i ≤ j generalizing i j
  · exact (this hj hi (by omega)).symm
  obtain ⟨hlow, hhigh⟩ := abs_le.mp hi.near
  obtain ⟨hlow', hhigh'⟩ := abs_le.mp hj.near
  by_contra hne
  have hgap : j = i + 1 := by
    have hcast : (j : ℚ) ≤ (i + 1 : Int) := by
      push_cast
      linarith
    have hupper : j ≤ i + 1 := by exact_mod_cast hcast
    omega
  -- Halfway between two integers both of them would have to be even.
  subst hgap
  push_cast at hlow'
  have hhalf : q - i = 1 / 2 := by linarith
  have hhalf' : q - (i + 1 : Int) = -(1 / 2) := by
    push_cast
    linarith
  have heven := hi.even (by rw [hhalf]; norm_num)
  have heven' := hj.even (by rw [hhalf']; norm_num)
  rw [Int.even_add_one] at heven'
  exact heven' heven

theorem IsNearest.neg {q : ℚ} {i : Int} (h : IsNearest q i) : IsNearest (-q) (-i) := by
  have hflip : -q - (-i : Int) = -(q - i) := by
    push_cast
    ring
  refine ⟨?_, ?_⟩
  · rw [hflip, abs_neg]
    exact h.near
  · rw [hflip, abs_neg, even_neg]
    exact h.even

theorem isNearest_add_half_le {below : Nat} {x : ℚ} (hnonneg : 0 ≤ x) (hhalf : x ≤ 1 / 2)
    (heven : x = 1 / 2 → below % 2 = 0) : IsNearest (below + x) below := by
  have hrest : (below + x : ℚ) - ((below : Nat) : Int) = x := by
    push_cast
    ring
  refine ⟨?_, fun h => ?_⟩
  · rwa [hrest, abs_of_nonneg hnonneg]
  · rw [hrest, abs_of_nonneg hnonneg] at h
    exact_mod_cast Nat.even_iff.mpr (heven h)

theorem isNearest_add_half_ge {below : Nat} {x : ℚ} (hhalf : 1 / 2 ≤ x) (hlt : x ≤ 1)
    (hodd : x = 1 / 2 → below % 2 = 1) : IsNearest (below + x) (below + 1 : Nat) := by
  have hrest : (below + x : ℚ) - ((below + 1 : Nat) : Int) = -(1 - x) := by
    push_cast
    ring
  have hnonneg : 0 ≤ 1 - x := by linarith
  refine ⟨?_, fun h => ?_⟩
  · rw [hrest, abs_neg, abs_of_nonneg hnonneg]
    linarith
  · rw [hrest, abs_neg, abs_of_nonneg hnonneg] at h
    have hbelow := hodd (by linarith)
    exact_mod_cast Nat.even_iff.mpr (show (below + 1) % 2 = 0 by omega)

/-- Twice the remainder of a quotient tells on which side of a half it lies. -/
theorem isNearest_div (num : Nat) {den : Nat} (hden : 0 < den) :
    IsNearest ((num : ℚ) / den)
      ((if den < 2 * (num % den) || (2 * (num % den) == den && num / den % 2 == 1) then
        num / den + 1 else num / den : Nat) : Int) := by
  have hpos : (0 : ℚ) < den := Nat.cast_pos.mpr hden
  have hsplit : (num : ℚ) / den = (num / den : Nat) + (num % den : Nat) / (den : ℚ) := by
    rw [div_eq_iff hpos.ne', add_mul, div_mul_cancel₀ _ hpos.ne']
    exact_mod_cast (Nat.div_add_mod' num den).symm
  have hhalf : ((num % den : Nat) / den : ℚ) = 1 / 2 ↔ 2 * (num % den) = den := by
    rw [div_eq_div_iff hpos.ne' two_ne_zero, one_mul, mul_comm]
    norm_cast
  have hmod := Nat.mod_lt num hden
  rw [hsplit]
  split
  next hup =>
    rw [Bool.or_eq_true, Bool.and_eq_true, decide_eq_true_iff, beq_iff_eq, beq_iff_eq] at hup
    refine isNearest_add_half_ge ?_ ?_ fun h => ?_
    · rw [div_le_div_iff₀ two_pos hpos]
      exact_mod_cast (by omega : 1 * den ≤ num % den * 2)
    · rw [div_le_one hpos]
      exact_mod_cast hmod.le
    · have hrem := hhalf.mp h
      omega
  next hup =>
    rw [Bool.or_eq_true, Bool.and_eq_true, decide_eq_true_iff, beq_iff_eq, beq_iff_eq] at hup
    refine isNearest_add_half_le (div_nonneg (Nat.cast_nonneg _) hpos.le) ?_ fun h => ?_
    · rw [div_le_div_iff₀ hpos two_pos]
      exact_mod_cast (by omega : num % den * 2 ≤ 1 * den)
    · have hrem := hhalf.mp h
      omega

theorem Dyadic.isNearest_roundHalfEven (d : Dyadic) : IsNearest d.value d.roundHalfEven := by
  have hden : 0 < d.ratio.2 := Nat.pow_pos two_pos
  have hnearest := isNearest_div d.ratio.1 hden
  rw [d.ratio_div] at hnearest
  unfold value scaled roundHalfEven signed
  cases d.negative with
  | true =>
    rw [if_pos rfl, Int.cast_neg, neg_mul]
    exact hnearest.neg
  | false =>
    rw [if_neg Bool.false_ne_true]
    exact hnearest

theorem Dyadic.roundHalfEven_eq_iff {d : Dyadic} {i : Int} :
    d.roundHalfEven = i ↔ IsNearest d.value i := by
  constructor
  · rintro rfl
    exact d.isNearest_roundHalfEven
  · exact d.isNearest_roundHalfEven.unique

end LiquidEval.Decimal
