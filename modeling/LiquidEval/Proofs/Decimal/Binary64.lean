import Mathlib
import LiquidEval.Decimal.Dyadic

/-! Finite floating-point numbers as the rationals that their bits denote. A rational has one normal
form, so two of them are equal exactly if they denote the same number. -/
namespace LiquidEval.Decimal
open Float.Model Float.Model.UnpackedFloat

/-- The rational number that a mantissa and an exponent stand for. -/
def scaled (negative : Bool) (mantissa : Nat) (exponent : Int) : ℚ :=
  (signed negative mantissa : ℚ) * 2 ^ exponent

def Dyadic.value (d : Dyadic) : ℚ := scaled d.negative d.mantissa d.exponent

/-- The number that the bits of a finite float denote. -/
def floatValue (f : Float) : ℚ := (Dyadic.ofFloat f).value

/-- The 53 bits of a mantissa are used up, unless the exponent is the least one. -/
structure Normal (m : Nat) (e : Int) : Prop where
  lt : m < 2 ^ 53
  least : -1074 ≤ e
  full : 2 ^ 52 ≤ m ∨ e = -1074

/-- Of two exponents the greater leaves no room for the other mantissa. -/
theorem Normal.exponent_le {m n : Nat} {e k : Int} (hm : Normal m e) (hn : Normal n k)
    (h : (m : ℚ) * 2 ^ e = n * 2 ^ k) : e ≤ k := by
  by_contra hlt
  obtain ⟨d, hd⟩ : ∃ d : Nat, e = k + (d + 1 : Nat) := ⟨(e - k - 1).toNat, by omega⟩
  have hfull : 2 ^ 52 ≤ m := by
    rcases hm.full with h | h
    · exact h
    · have := hn.least
      omega
  have hpow : (2 : ℚ) ^ k ≠ 0 := zpow_ne_zero k two_ne_zero
  have hq : (m : ℚ) * 2 ^ (d + 1) = n := by
    rw [hd, zpow_add₀ two_ne_zero, zpow_natCast, mul_comm ((2 : ℚ) ^ k), ← mul_assoc] at h
    exact mul_right_cancel₀ hpow h
  have hnat : m * 2 ^ (d + 1) = n := by exact_mod_cast hq
  have hbig : 2 ^ 52 * 2 ^ 1 ≤ m * 2 ^ (d + 1) :=
    Nat.mul_le_mul hfull (Nat.pow_le_pow_right two_pos (by omega))
  have := hn.lt
  omega

theorem Normal.ext {m n : Nat} {e k : Int} (hm : Normal m e) (hn : Normal n k)
    (h : (m : ℚ) * 2 ^ e = n * 2 ^ k) : m = n ∧ e = k := by
  have hexponent : e = k := le_antisymm (hm.exponent_le hn h) (hn.exponent_le hm h.symm)
  subst hexponent
  have hq : (m : ℚ) = n := mul_right_cancel₀ (zpow_ne_zero e two_ne_zero) h
  exact ⟨by exact_mod_cast hq, rfl⟩

theorem abs_scaled (negative : Bool) (m : Nat) (e : Int) :
    |scaled negative m e| = (m : ℚ) * 2 ^ e := by
  have hpow : (0 : ℚ) ≤ 2 ^ e := zpow_nonneg zero_le_two e
  unfold scaled signed
  rw [abs_mul, abs_of_nonneg hpow]
  cases negative <;> simp

theorem scaled_eq_iff {a b : Bool} {m n : Nat} {e k : Int} (hm : Normal m e) (hn : Normal n k) :
    scaled a m e = scaled b n k ↔ m = 0 ∧ n = 0 ∨ a = b ∧ m = n ∧ e = k := by
  constructor
  · intro h
    have habs := congrArg (fun x : ℚ => |x|) h
    rw [abs_scaled, abs_scaled] at habs
    obtain ⟨rfl, rfl⟩ := hm.ext hn habs
    rcases Nat.eq_zero_or_pos m with hzero | hpos
    · exact .inl ⟨hzero, hzero⟩
    · refine .inr ⟨?_, rfl, rfl⟩
      have hsigned : (signed a m : ℚ) = signed b m :=
        mul_right_cancel₀ (zpow_ne_zero e two_ne_zero) h
      have hint : signed a m = signed b m := by exact_mod_cast hsigned
      unfold signed at hint
      cases a <;> cases b <;> simp at hint ⊢ <;> omega
  · rintro (⟨rfl, rfl⟩ | ⟨rfl, rfl, rfl⟩)
    · cases a <;> cases b <;> simp [scaled, signed]
    · rfl

/-- The sign that a float is unpacked with. -/
def signOf (negative : Bool) : Sign := if negative then .negative else .positive

/-- What a finite float is unpacked into. -/
def Dyadic.parts (d : Dyadic) : UnpackedFloat :=
  if h : d.mantissa = 0 then .zero (signOf d.negative)
  else .finite (signOf d.negative) d.mantissa d.exponent (Nat.pos_of_ne_zero h)

theorem Dyadic.parts_of_zero {d : Dyadic} (h : d.mantissa = 0) :
    d.parts = .zero (signOf d.negative) := dif_pos h

theorem Dyadic.parts_of_pos {d : Dyadic} {m : Nat} {e : Int} (hm : 0 < m) (hd : d.mantissa = m)
    (he : d.exponent = e) : d.parts = .finite (signOf d.negative) m e hm := by
  subst hd he
  exact dif_neg hm.ne'

theorem signOf_inj {a b : Bool} : signOf a = signOf b ↔ a = b := by
  cases a <;> cases b <;> simp [signOf]

theorem Dyadic.beq_parts_iff (d d' : Dyadic) : d.parts.beq d'.parts = true ↔
    d.mantissa = 0 ∧ d'.mantissa = 0 ∨
      d.negative = d'.negative ∧ d.mantissa = d'.mantissa ∧ d.exponent = d'.exponent := by
  rw [beq_iff_ne_notANumber_and_eq]
  unfold parts
  by_cases hd : d.mantissa = 0
  · by_cases hd' : d'.mantissa = 0
    · simp only [hd, hd']
      cases d.negative <;> cases d'.negative <;> simp [signOf]
    · simp [hd, hd', Ne.symm hd']
  · by_cases hd' : d'.mantissa = 0
    · simp [hd, hd']
    · simp [hd, hd', signOf_inj]

theorem toNat_one_append (m : BitVec 52) : (1#1 ++ m).toNat = m.toNat + hiddenBit := by
  rw [BitVec.toNat_append, ← Nat.shiftLeft_add_eq_or_of_lt m.isLt, Nat.add_comm]
  rfl

section
variable (f : Float)

theorem toNat_unpackMantissa :
    (@unpackMantissa Format.binary64 f.toModel.toBits.toBitVec).toNat =
      f.toBits.toNat % hiddenBit := by
  rw [unpackMantissa_def, BitVec.extractLsb'_toNat]
  rfl

theorem toNat_unpackExponent :
    (@unpackExponent Format.binary64 f.toModel.toBits.toBitVec).toNat =
      f.toBits.toNat / hiddenBit % 2048 := by
  rw [unpackExponent_def, BitVec.extractLsb'_toNat, Nat.shiftRight_eq_div_pow]
  rfl

theorem ofBitVec_unpackSign :
    Sign.ofBitVec (@unpackSign Format.binary64 f.toModel.toBits.toBitVec) =
      signOf (Dyadic.ofFloat f).negative := by
  have hsign : @unpackSign Format.binary64 f.toModel.toBits.toBitVec =
      BitVec.ofNat 1 (f.toBits.toNat / (2048 * hiddenBit)) := by
    apply BitVec.eq_of_toNat_eq
    rw [unpackSign_def, BitVec.extractLsb'_toNat, Nat.shiftRight_eq_div_pow, BitVec.toNat_ofNat]
    rfl
  have hlt : f.toBits.toNat / (2048 * hiddenBit) < 2 := by
    have := f.toBits.toNat_lt
    unfold hiddenBit
    omega
  rw [hsign]
  unfold Dyadic.ofFloat
  dsimp only
  rcases Nat.lt_succ_iff_lt_or_eq.mp hlt with h | h
  · rw [Nat.lt_one_iff.mp h]
    rfl
  · rw [h]
    rfl

theorem parts_ofFloat (h : f.isFinite = true) :
    f.toModel.unpack = (Dyadic.ofFloat f).parts := by
  have hmantissa := toNat_unpackMantissa f
  have hexponent := toNat_unpackExponent f
  have hsign := ofBitVec_unpackSign f
  have hparts : f.toModel.unpack = UnpackedFloat.unpack Format.binary64 f.toModel.toBits.toBitVec :=
    rfl
  change f.toModel.unpack.isFinite = true at h
  rw [hparts] at h ⊢
  generalize f.toModel.toBits.toBitVec = bits at *
  unfold UnpackedFloat.unpack at h ⊢
  dsimp only at h ⊢
  split at h
  next =>
    split at h <;> cases h
  next hinfinite =>
    rw [if_neg hinfinite]
    split at h
    next hleast =>
      rw [if_pos hleast]
      rw [hleast] at hexponent
      have hbiased : f.toBits.toNat / hiddenBit % 2048 = 0 := hexponent.symm
      have hd : (Dyadic.ofFloat f).mantissa = (@unpackMantissa Format.binary64 bits).toNat := by
        rw [hmantissa]
        exact if_pos hbiased
      split
      next hzero =>
        rw [hsign, Dyadic.parts_of_zero]
        rw [hd, hzero]
        rfl
      next hne =>
        rw [hsign]
        refine (Dyadic.parts_of_pos _ hd ?_).symm
        rw [hleast]
        change (if f.toBits.toNat / hiddenBit % 2048 = 0 then (1 : Int) else _) - 1075 = _
        rw [if_pos hbiased]
        rfl
    next hnormal =>
      rw [if_neg hnormal, hsign]
      have hbiased : f.toBits.toNat / hiddenBit % 2048 ≠ 0 := by
        rw [← hexponent]
        exact fun h0 => hnormal (BitVec.eq_of_toNat_eq h0)
      refine (Dyadic.parts_of_pos _ ?_ ?_).symm
      · change (if f.toBits.toNat / hiddenBit % 2048 = 0 then _ else _) = _
        rw [if_neg hbiased, ← hmantissa]
        exact (toNat_one_append _).symm
      · change (if f.toBits.toNat / hiddenBit % 2048 = 0 then (1 : Int) else _) - 1075 = _
        rw [if_neg hbiased, ← hexponent]
        rfl

theorem normal_ofFloat : Normal (Dyadic.ofFloat f).mantissa (Dyadic.ofFloat f).exponent := by
  have hfraction : f.toBits.toNat % hiddenBit < hiddenBit := Nat.mod_lt _ (by decide)
  have hhidden : hiddenBit = 2 ^ 52 := rfl
  unfold Dyadic.ofFloat
  constructor
  · dsimp only
    split <;> omega
  · dsimp only
    split <;> omega
  · dsimp only
    split <;> omega

end

theorem floatValue_of_unpack {f : Float} {negative : Bool} {m : Nat} {e : Int} {hm : 0 < m}
    (h : f.toModel.unpack = .finite (signOf negative) m e hm) :
    f.isFinite = true ∧ floatValue f = scaled negative m e := by
  have hfinite : f.isFinite = true := by
    change f.toModel.unpack.isFinite = true
    rw [h]
    rfl
  refine ⟨hfinite, ?_⟩
  rw [parts_ofFloat f hfinite, Dyadic.parts] at h
  split at h
  next => cases h
  next =>
    obtain ⟨hsign, hmantissa, hexponent⟩ := (UnpackedFloat.finite.injEq ..).mp h
    rw [floatValue, Dyadic.value, signOf_inj.mp hsign, hmantissa, hexponent]

/-- Equality of finite floats is equality of numbers. -/
theorem beq_iff_floatValue_eq {f g : Float} (hf : f.isFinite = true) (hg : g.isFinite = true) :
    (f == g) = true ↔ floatValue f = floatValue g := by
  have hbeq : (f == g) = f.toModel.unpack.beq g.toModel.unpack := rfl
  rw [hbeq, parts_ofFloat f hf, parts_ofFloat g hg, Dyadic.beq_parts_iff]
  exact (scaled_eq_iff (normal_ofFloat f) (normal_ofFloat g)).symm

/-- A finite float is equal to none of the others. -/
theorem isFinite_of_beq {f g : Float} (h : (f == g) = true) (hg : g.isFinite = true) :
    f.isFinite = true := by
  change f.toModel.unpack.beq g.toModel.unpack = true at h
  change g.toModel.unpack.isFinite = true at hg
  change f.toModel.unpack.isFinite = true
  rw [beq_iff_ne_notANumber_and_eq] at h
  rcases h.2.2 with heq | ⟨hf, -⟩ | ⟨hf, -⟩
  · rwa [heq]
  · rw [hf]
    rfl
  · rw [hf]
    rfl

end LiquidEval.Decimal
