import LiquidEval.Proofs.Decimal.Binary64

/-! The float that an integer becomes. An integer whose bits fit into a mantissa stays the number
that it is. Every other one is rounded, and no float denotes it. -/
namespace LiquidEval.Decimal
open Float.Model Float.Model.UnpackedFloat

/-- A mantissa with its leading bit, at an exponent that can be stored. -/
structure Full (m : Nat) (e : Int) : Prop where
  low : 2 ^ 52 ≤ m
  high : m < 2 ^ 53
  least : -1074 ≤ e
  greatest : e ≤ 971

section
variable {m : Nat} {e : Int}

theorem Full.pos (h : Full m e) : 0 < m := Nat.lt_of_lt_of_le (by decide) h.low

theorem log2_of_full (hlow : 2 ^ 52 ≤ m) (hhigh : m < 2 ^ 53) : m.log2 = 52 :=
  (Nat.log2_eq_iff (by omega)).mpr ⟨hlow, hhigh⟩

theorem Full.log2 (h : Full m e) : m.log2 = 52 := log2_of_full h.low h.high

theorem mantissa_shiftRight (em : ExtendedMantissa) (k : Nat) :
    (em >>> k).mantissa = em.mantissa / 2 ^ k := by
  induction k with
  | zero => exact (Nat.div_one _).symm
  | succ k ih =>
    have hstep : em >>> (k + 1) = (em >>> k).shiftRightOne := rfl
    rw [hstep, ExtendedMantissa.shiftRightOne, ih, Nat.div_div_eq_div_mul, Nat.pow_succ]

/-- Shifting loses nothing if only zeros are shifted out. -/
theorem shiftRight_of_dvd {k : Nat} (h : 2 ^ k ∣ m) :
    (⟨m, false, false⟩ : ExtendedMantissa) >>> k =
    (⟨m / 2 ^ k, false, false⟩ : ExtendedMantissa) := by
  induction k with
  | zero => rw [Nat.pow_zero, Nat.div_one]; rfl
  | succ k ih =>
    have hstep : (⟨m, false, false⟩ : ExtendedMantissa) >>> (k + 1) =
      ((⟨m, false, false⟩ : ExtendedMantissa) >>> k).shiftRightOne := rfl
    rw [hstep, ih (Nat.dvd_trans (Nat.pow_dvd_pow 2 (Nat.le_succ k)) h),
      ExtendedMantissa.shiftRightOne]
    have heven : m / 2 ^ k % 2 = 0 := by
      rw [← Nat.dvd_iff_mod_eq_zero]
      exact (Nat.dvd_div_iff_mul_dvd (Nat.dvd_trans (Nat.pow_dvd_pow 2 (Nat.le_succ k)) h)).mpr h
    rw [heven, Nat.div_div_eq_div_mul, ← Nat.pow_succ]
    rfl

theorem roundedMantissa_bounds (em : ExtendedMantissa) :
    em.mantissa ≤ em.roundedMantissa ∧ em.roundedMantissa ≤ em.mantissa + 1 := by
  obtain ⟨m, r, s⟩ := em
  cases r <;> cases s <;>
    simp only [ExtendedMantissa.roundedMantissa, ExtendedMantissa.accuracy,
      Accuracy.roundToNearestEven] <;> omega

theorem targetExponent_eq (m : Nat) (e : Int) :
    Format.binary64.targetExponent (totalExponent m e) = max (m.log2 + e - 52) (-1074) := by
  have hbits : Format.binary64.mantissaBits = 53 := rfl
  have hleast : Format.binary64.minExponent = -1074 := rfl
  rw [Format.targetExponent, totalExponent, hbits, hleast]
  omega

theorem shiftToTargetExponent_eq {k : Nat} (hk : m.log2 = 52 + k) (he : -1074 ≤ e) :
    shiftToTargetExponent Format.binary64 m e .exact =
      ((⟨m, false, false⟩ : ExtendedMantissa) >>> k, e + k) := by
  have htarget : Format.binary64.targetExponent (totalExponent m e) = e + k := by
    rw [targetExponent_eq, hk]
    omega
  have hshift : (e + k - e).toNat = k := by omega
  unfold shiftToTargetExponent shiftToExponent
  rw [htarget]
  dsimp only
  rw [hshift]
  rfl

theorem div_pow_bounds {k : Nat} (hk : m.log2 = 52 + k) :
    2 ^ 52 ≤ m / 2 ^ k ∧ m / 2 ^ k < 2 ^ 53 := by
  have hm : m ≠ 0 := by
    rintro rfl
    rw [Nat.log2_zero] at hk
    omega
  obtain ⟨hlow, hhigh⟩ := (Nat.log2_eq_iff hm).mp hk
  refine ⟨(Nat.le_div_iff_mul_le (Nat.two_pow_pos k)).mpr ?_,
    (Nat.div_lt_iff_lt_mul (Nat.two_pow_pos k)).mpr ?_⟩
  · rwa [← Nat.pow_add]
  · rwa [← Nat.pow_add, show 53 + k = 52 + k + 1 by omega]

/-- Rounding leaves a full mantissa, and changes no number whose last bits are zeros. -/
theorem round_full (s : Sign) {k : Nat} (hk : m.log2 = 52 + k) (hleast : -1074 ≤ e)
    (hgreatest : e + k < 971) :
    ∃ n i, ∃ h : Full n i, roundWithAccuracy Format.binary64 s m e .exact = .finite s n i h.pos ∧
      (2 ^ k ∣ m → m = n * 2 ^ k ∧ i = e + k) := by
  obtain ⟨hlow, hhigh⟩ := div_pow_bounds hk
  let first : ExtendedMantissa := (⟨m, false, false⟩ : ExtendedMantissa) >>> k
  have hfirst : first.mantissa = m / 2 ^ k := mantissa_shiftRight _ _
  obtain ⟨hbelow, habove⟩ := roundedMantissa_bounds first
  -- a mantissa of ones is rounded up to a power of two, and moved once more
  obtain ⟨j, hj, hj1⟩ : ∃ j, first.roundedMantissa.log2 = 52 + j ∧ j ≤ 1 := by
    by_cases hcarry : first.roundedMantissa < 2 ^ 53
    · exact ⟨0, log2_of_full (by omega) hcarry, by omega⟩
    · exact ⟨1, (Nat.log2_eq_iff (by omega)).mpr ⟨by omega, by omega⟩, le_rfl⟩
  obtain ⟨hlow', hhigh'⟩ := div_pow_bounds hj
  have hfull : Full (first.roundedMantissa / 2 ^ j) (e + k + j) :=
    ⟨hlow', hhigh', by omega, by omega⟩
  refine ⟨_, _, hfull, ?_, ?_⟩
  · unfold roundWithAccuracy
    rw [shiftToTargetExponent_eq hk hleast]
    dsimp only
    rw [shiftToTargetExponent_eq hj (by omega)]
    dsimp only
    rw [dif_neg (by rw [mantissa_shiftRight]; exact hfull.pos.ne')]
    congr 1
    exact mantissa_shiftRight _ _
  · intro hdvd
    have hexact : first.roundedMantissa = m / 2 ^ k := by
      have hkept : first = ⟨m / 2 ^ k, false, false⟩ := shiftRight_of_dvd hdvd
      rw [hkept]
      rfl
    have hjzero : j = 0 := by
      have := log2_of_full hlow hhigh
      rw [hexact] at hj
      omega
    subst hjzero
    rw [hexact, Nat.pow_zero, Nat.div_one, Nat.cast_zero, add_zero]
    exact ⟨(Nat.div_mul_cancel hdvd).symm, rfl⟩

theorem pack_full (s : Sign) (h : Full m e) :
    UnpackedFloat.pack Format.binary64 (.finite s m e h.pos) =
      packComponents Format.binary64 s (BitVec.ofNat 11 (e + 1075).toNat) (BitVec.ofNat 52 m) := by
  have hbiased :
      (e + Format.binary64.exponentBias + Format.binary64.mantissaBitsWithoutImplicit).toNat =
        (e + 1075).toNat := by
    change (e + 1023 + 52).toNat = (e + 1075).toNat
    omega
  have hrange := h.greatest
  unfold UnpackedFloat.pack
  dsimp only
  rw [hbiased, if_neg, if_pos]
  · rw [h.log2]
    rfl
  · omega

theorem unpack_packComponents {spec : Format} (s : Sign) {exponent : BitVec spec.exponentBits}
    (fraction : BitVec spec.mantissaBitsWithoutImplicit) (hleast : exponent ≠ 0#_)
    (hgreatest : exponent ≠ -1#_) :
    UnpackedFloat.unpack spec (packComponents spec s exponent fraction) =
      .finite s (1#1 ++ fraction).toNat
        ((exponent.toNat : Int) - (spec.exponentBias + spec.mantissaBitsWithoutImplicit))
        (by simp) := by
  unfold UnpackedFloat.unpack
  simp only [unpackExponent_packComponents, unpackMantissa_packComponents,
    unpackSign_packComponents, Sign.ofBitVec_toBitVec, if_neg hgreatest, if_neg hleast]

/-- A full mantissa and its exponent are stored and read back as they are. -/
theorem unpack_pack (s : Sign) (h : Full m e) :
    (Float.Model.pack (.finite s m e h.pos)).unpack = .finite s m e h.pos := by
  have hrange := h.least
  have hrange' := h.greatest
  have hlow := h.low
  have hhigh := h.high
  have hexponent : (BitVec.ofNat 11 (e + 1075).toNat).toNat = (e + 1075).toNat := by
    rw [BitVec.toNat_ofNat, Nat.mod_eq_of_lt (by omega)]
  have hleast : BitVec.ofNat 11 (e + 1075).toNat ≠ 0#11 := by
    intro hzero
    rw [hzero] at hexponent
    change 0 = (e + 1075).toNat at hexponent
    omega
  have hgreatest : BitVec.ofNat 11 (e + 1075).toNat ≠ -1#11 := by
    intro hones
    rw [hones] at hexponent
    change 2047 = (e + 1075).toNat at hexponent
    omega
  have hmantissa : (1#1 ++ BitVec.ofNat 52 m).toNat = m := by
    rw [toNat_one_append, BitVec.toNat_ofNat]
    change m % 2 ^ 52 + 2 ^ 52 = m
    omega
  have hoffset : ((e + 1075).toNat : Int) -
      (Format.binary64.exponentBias + Format.binary64.mantissaBitsWithoutImplicit) = e := by
    change ((e + 1075).toNat : Int) - (1023 + 52) = e
    omega
  have hread := @unpack_packComponents Format.binary64 s _ (BitVec.ofNat 52 m) hleast hgreatest
  change UnpackedFloat.unpack Format.binary64
    (UnpackedFloat.pack Format.binary64 (.finite s m e h.pos)) = _
  rw [pack_full s h, hread]
  exact (UnpackedFloat.finite.injEq ..).mpr ⟨rfl, hmantissa, hexponent.symm ▸ hoffset⟩

theorem log2_mul_pow {n : Nat} (hpos : 0 < n) (k : Nat) : (n * 2 ^ k).log2 = n.log2 + k := by
  obtain ⟨hlow, hhigh⟩ := (Nat.log2_eq_iff hpos.ne').mp rfl
  rw [Nat.log2_eq_iff (Nat.mul_pos hpos (Nat.two_pow_pos k)).ne',
    show n.log2 + k + 1 = n.log2 + 1 + k by omega, Nat.pow_add, Nat.pow_add]
  exact ⟨Nat.mul_le_mul_right _ hlow, Nat.mul_lt_mul_of_pos_right hhigh (Nat.two_pow_pos k)⟩

theorem scaled_eq_of_shifts {n k t : Nat} (hm : n * 2 ^ k = m * 2 ^ t) (he : e = (t : Int) - k) :
    (m : ℚ) * 2 ^ e = n := by
  rw [he, zpow_sub₀ two_ne_zero, zpow_natCast, zpow_natCast, ← mul_div_assoc,
    div_eq_iff (by positivity)]
  exact_mod_cast hm.symm

theorem round_nat {n : Nat} (hpos : 0 < n) (hlt : n < 2 ^ 53) :
    ∃ h : Full (n * 2 ^ (52 - n.log2)) (n.log2 - 52),
      UnpackedFloat.round Format.binary64 .positive n 0 =
        .finite .positive (n * 2 ^ (52 - n.log2)) (n.log2 - 52) h.pos := by
  have hlog : n.log2 < 53 := (Nat.log2_lt hpos.ne').mpr hlt
  have htarget : Format.binary64.targetExponent (totalExponent n 0) = n.log2 - 52 := by
    rw [targetExponent_eq]
    omega
  have hshift : (0 - ((n.log2 : Int) - 52)).toNat = 52 - n.log2 := by omega
  have hmoved : (0 : Int) - (52 - n.log2 : Nat) = n.log2 - 52 := by omega
  have hfull : (n * 2 ^ (52 - n.log2)).log2 = 52 + 0 := by
    rw [log2_mul_pow hpos]
    omega
  obtain ⟨m, e, h, hround, hkept⟩ :=
    @round_full _ (n.log2 - 52) .positive _ hfull (by omega) (by omega)
  obtain ⟨hm, he⟩ := hkept (Nat.one_dvd _)
  rw [Nat.pow_zero, Nat.mul_one] at hm
  rw [Nat.cast_zero, add_zero] at he
  subst hm he
  refine ⟨h, ?_⟩
  rw [← hround, UnpackedFloat.round, htarget, decreaseExponent, hshift]
  dsimp only
  rw [hmoved, Nat.shiftLeft_eq]

theorem ofUInt64_small {n : Nat} (hpos : 0 < n) (hlt : n < 2 ^ 53) :
    UnpackedFloat.ofUInt64 Format.binary64 n.toUInt64 =
      UnpackedFloat.round Format.binary64 .positive n 0 := by
  have hn : n.toUInt64.toNat = n := Nat.mod_eq_of_lt (by omega)
  have hgt : compare (n : Int) 0 = .gt := Int.compare_eq_gt.mpr (by omega)
  unfold UnpackedFloat.ofUInt64 UnpackedFloat.ofNat UnpackedFloat.ofInt UnpackedFloat.normalize
  rw [hn, hgt]
  rfl

/-- Up to `2 ^ 53` an integer is multiplied by the float that is one. -/
theorem unpack_ofNat_small {n : Nat} (hpos : 0 < n) (hlt : n < 2 ^ 53) :
    ∃ m e, ∃ h : Full m e, (Float.ofNat n).toModel.unpack = .finite .positive m e h.pos ∧
      (m : ℚ) * 2 ^ e = n := by
  have hproduct : Float.ofNat n = n.toUInt64.toFloat * Float.ofBits 0x3FF0000000000000 := by
    change Float.ofScientific n false 0 = _
    rw [Float.ofScientific, dif_pos ⟨hlt, by decide⟩]
    rfl
  have hlog : n.log2 < 53 := (Nat.log2_lt hpos.ne').mpr hlt
  obtain ⟨hfull, hround⟩ := round_nat hpos hlt
  have hone : (Float.ofBits 0x3FF0000000000000).toModel.unpack =
      .finite .positive (2 ^ 52) (-52) (by decide) := rfl
  have hleft : n.toUInt64.toFloat.toModel.unpack =
      .finite .positive (n * 2 ^ (52 - n.log2)) (n.log2 - 52) hfull.pos := by
    change (Float.Model.pack (UnpackedFloat.ofUInt64 Format.binary64 n.toUInt64)).unpack = _
    rw [ofUInt64_small hpos hlt, hround, unpack_pack .positive hfull]
  obtain ⟨m, e, h, hrounded, hkept⟩ :=
    @round_full (n * 2 ^ (52 - n.log2) * 2 ^ 52) (n.log2 - 52 + -52)
    .positive 52 (by rw [log2_mul_pow hfull.pos, hfull.log2]) (by omega) (by omega)
  obtain ⟨hm, he⟩ := hkept (Nat.dvd_mul_left _ _)
  refine ⟨m, e, h, ?_, ?_⟩
  · rw [hproduct]
    change (Float.Model.pack (UnpackedFloat.mul Format.binary64 n.toUInt64.toFloat.toModel.unpack
      (Float.ofBits 0x3FF0000000000000).toModel.unpack)).unpack = _
    rw [hleft, hone, ← unpack_pack .positive h, ← hrounded]
    rfl
  · refine @scaled_eq_of_shifts _ _ n (52 - n.log2 + 52) 52 ?_ (by omega)
    rw [← hm, Nat.pow_add, Nat.mul_assoc]

/-- Without decimal places an integer is shifted by one mantissa and rounded. -/
theorem ofScientific_nat {n : Nat} (hne : n ≠ 0) : UnpackedFloat.ofScientific Format.binary64 n 0 =
    roundWithAccuracy Format.binary64 .positive (n * 2 ^ 53) (-53) .exact := by
  have hmantissa : n <<< Format.binary64.mantissaBits * 10 ^ (0 : Int).toNat = n * 2 ^ 53 := by
    rw [Nat.shiftLeft_eq]
    exact Nat.mul_one _
  have hlimit : (2 : Int) ^ Format.binary64.exponentBits = 2048 := rfl
  rw [← hmantissa]
  unfold UnpackedFloat.ofScientific
  rw [dif_neg hne, hlimit, if_neg (by decide), if_neg (by omega), if_pos le_rfl]
  rfl

theorem unpack_ofNat_large {n : Nat} (hge : 2 ^ 53 ≤ n) (hlt : n < 2 ^ 64) :
    ∃ m e, ∃ h : Full m e, (Float.ofNat n).toModel.unpack = .finite .positive m e h.pos ∧
      (2 ^ (n.log2 - 52) ∣ n → (m : ℚ) * 2 ^ e = n) := by
  have hrounded : Float.ofNat n = Float.ofModel (Float.Model.ofScientific n 0) := by
    change Float.ofScientific n false 0 = _
    rw [Float.ofScientific, dif_neg (fun h => absurd h.1 (by omega))]
    rfl
  have hlog : 53 ≤ n.log2 := (Nat.le_log2 (by omega)).mpr hge
  have hlog' : n.log2 < 64 := (Nat.log2_lt (by omega)).mpr hlt
  obtain ⟨m, e, h, hround, hkept⟩ := @round_full (n * 2 ^ 53) (-53) .positive (n.log2 + 1)
    (by rw [log2_mul_pow (by omega)]; omega) (by omega) (by omega)
  refine ⟨m, e, h, ?_, ?_⟩
  · rw [hrounded, Float.Model.ofScientific, ofScientific_nat (by omega), hround]
    exact unpack_pack .positive h
  · intro hdvd
    have hzeros : 2 ^ (n.log2 + 1) ∣ n * 2 ^ 53 := by
      rw [show n.log2 + 1 = n.log2 - 52 + 53 by omega, Nat.pow_add]
      exact Nat.mul_dvd_mul_right hdvd _
    obtain ⟨hm, he⟩ := hkept hzeros
    exact scaled_eq_of_shifts hm (by omega)

theorem unpack_ofNat {n : Nat} (hpos : 0 < n) (hlt : n < 2 ^ 64) :
    ∃ m e, ∃ h : Full m e, (Float.ofNat n).toModel.unpack = .finite .positive m e h.pos ∧
      (2 ^ (n.log2 - 52) ∣ n → (m : ℚ) * 2 ^ e = n) := by
  by_cases hsmall : n < 2 ^ 53
  · obtain ⟨m, e, h, hunpack, hvalue⟩ := unpack_ofNat_small hpos hsmall
    exact ⟨m, e, h, hunpack, fun _ => hvalue⟩
  · exact unpack_ofNat_large (by omega) hlt
end

/-- The bits of an integer past the first 53 are zeros. -/
def Representable (i : Int) : Prop := 2 ^ (i.natAbs.log2 - 52) ∣ i.natAbs

instance (i : Int) : Decidable (Representable i) := inferInstanceAs (Decidable (_ ∣ _))

theorem floatValue_ofInt {i : Int} (hlt : i.natAbs < 2 ^ 64) :
    (Float.ofInt i).isFinite = true ∧ (Representable i → floatValue (Float.ofInt i) = i) := by
  rcases Nat.eq_zero_or_pos i.natAbs with hzero | hpos
  · have hi : i = 0 := Int.natAbs_eq_zero.mp hzero
    subst hi
    have hread : Dyadic.ofFloat (Float.ofInt 0) = ⟨false, 0, -1074⟩ := by decide +kernel
    refine ⟨by decide +kernel, fun _ => ?_⟩
    rw [floatValue, hread]
    simp [Dyadic.value, scaled, signed]
  · obtain ⟨m, e, h, hunpack, hvalue⟩ := unpack_ofNat hpos hlt
    cases i with
    | ofNat n =>
      obtain ⟨hfinite, hread⟩ :=
        @floatValue_of_unpack (Float.ofInt (Int.ofNat n)) false m e h.pos hunpack
      refine ⟨hfinite, fun hdvd => ?_⟩
      rw [hread]
      exact hvalue hdvd
    | negSucc n =>
      have hnegated : (Float.ofInt (Int.negSucc n)).toModel.unpack =
          .finite .negative m e h.pos := by
        change (Float.Model.pack (Float.ofNat (Int.negSucc n).natAbs).toModel.unpack.neg).unpack = _
        rw [hunpack]
        exact unpack_pack .negative h
      obtain ⟨hfinite, hread⟩ :=
        @floatValue_of_unpack (Float.ofInt (Int.negSucc n)) true m e h.pos hnegated
      refine ⟨hfinite, fun hdvd => ?_⟩
      have hnat := hvalue hdvd
      rw [hread, scaled, signed, if_pos rfl]
      push_cast
      rw [neg_mul, hnat]
      simp

theorem dvd_of_scaled {n m : Nat} {e : Int} (hm : m < 2 ^ 53) (h : (n : ℚ) = m * 2 ^ e) :
    2 ^ (n.log2 - 52) ∣ n := by
  rcases Nat.eq_zero_or_pos n with rfl | hpos
  · exact Nat.dvd_zero _
  rcases Int.le_total 0 e with he | he
  · obtain ⟨k, rfl⟩ := Int.eq_ofNat_of_zero_le he
    have hn : n = m * 2 ^ k := by
      rw [zpow_natCast] at h
      exact_mod_cast h
    have hlog : n.log2 < 53 + k := by
      rw [Nat.log2_lt hpos.ne', hn, Nat.pow_add]
      exact Nat.mul_lt_mul_of_pos_right hm (Nat.two_pow_pos k)
    rw [hn] at hlog ⊢
    exact Nat.dvd_trans (Nat.pow_dvd_pow 2 (by omega)) (Nat.dvd_mul_left _ _)
  · obtain ⟨k, hk⟩ := Int.eq_ofNat_of_zero_le (Int.neg_nonneg_of_nonpos he)
    have hn : n * 2 ^ k = m := by
      rw [show e = -(k : Int) by omega, zpow_neg, zpow_natCast, ← div_eq_mul_inv,
        eq_div_iff (by positivity)] at h
      exact_mod_cast h
    have hlog : n.log2 < 53 := by
      rw [Nat.log2_lt hpos.ne']
      exact Nat.lt_of_le_of_lt (Nat.le_mul_of_pos_right n (Nat.two_pow_pos k)) (hn ▸ hm)
    rw [show n.log2 - 52 = 0 by omega]
    exact Nat.one_dvd n

/-- A float denotes no integer with bits past the first 53. -/
theorem representable_of_floatValue {f : Float} {i : Int} (h : floatValue f = i) :
    Representable i := by
  have hvalue : (i.natAbs : ℚ) = (Dyadic.ofFloat f).mantissa * 2 ^ (Dyadic.ofFloat f).exponent := by
    rw [← abs_scaled (Dyadic.ofFloat f).negative, Nat.cast_natAbs, Int.cast_abs, ← h]
    rfl
  exact dvd_of_scaled (normal_ofFloat f).lt hvalue

end LiquidEval.Decimal
