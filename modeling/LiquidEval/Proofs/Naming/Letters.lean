import LiquidEval.Naming
import LiquidEval.Proofs.Text.Classes

/-! Small letters and capitals by code point, and the small form of texts in which all characters
are ASCII. -/
namespace LiquidEval.Naming
open Text

theorem isSmall_iff_toNat (c : Char) : isSmall c = true ↔ 97 ≤ c.toNat ∧ c.toNat ≤ 122 := by
  simp only [isSmall, Bool.and_eq_true, decide_eq_true_eq, Char.le_def, UInt32.le_iff_toNat_le]
  rfl

theorem isCapital_iff_toNat (c : Char) : isCapital c = true ↔ 65 ≤ c.toNat ∧ c.toNat ≤ 90 := by
  simp only [isCapital, Bool.and_eq_true, decide_eq_true_eq, Char.le_def, UInt32.le_iff_toNat_le]
  rfl

theorem toNat_toUpper {c : Char} (h : isSmall c = true) : c.toUpper.toNat = c.toNat - 32 := by
  have hc : 97 ≤ c.val.toNat ∧ c.val.toNat ≤ 122 := (isSmall_iff_toNat c).mp h
  have hval : 'a'.val ≤ c.val ∧ c.val ≤ 'z'.val := by
    simp only [UInt32.le_iff_toNat_le]
    exact hc
  unfold Char.toUpper
  rw [dif_pos hval]
  -- the shift of a capital wraps around
  change (c.val + 4294967264).toNat = c.val.toNat - 32
  have hshift : (4294967264 : UInt32).toNat = 4294967264 := rfl
  rw [UInt32.toNat_add]
  omega

theorem toNat_toLower {c : Char} (h : isCapital c = true) : c.toLower.toNat = c.toNat + 32 := by
  have hc : 65 ≤ c.val.toNat ∧ c.val.toNat ≤ 90 := (isCapital_iff_toNat c).mp h
  have hval : c.val ≥ 'A'.val ∧ c.val ≤ 'Z'.val := by
    simp only [ge_iff_le, UInt32.le_iff_toNat_le]
    exact hc
  unfold Char.toLower
  rw [dif_pos hval]
  change (c.val + 32).toNat = c.val.toNat + 32
  have hshift : (32 : UInt32).toNat = 32 := rfl
  rw [UInt32.toNat_add]
  omega

theorem toLower_eq_self {c : Char} (h : isCapital c = false) : c.toLower = c := by
  unfold Char.toLower
  apply dif_neg
  intro hval
  simp only [ge_iff_le, UInt32.le_iff_toNat_le] at hval
  rw [(isCapital_iff_toNat c).mpr hval] at h
  cases h

theorem toUpper_eq_self {c : Char} (h : isCapital c = true) : c.toUpper = c := by
  rw [isCapital_iff_toNat] at h
  unfold Char.toUpper
  apply dif_neg
  intro hval
  have hsmall : 97 ≤ c.toNat ∧ c.toNat ≤ 122 := by
    simp only [UInt32.le_iff_toNat_le] at hval
    exact hval
  omega

theorem isCapital_toUpper {c : Char} (h : isSmall c = true) : isCapital c.toUpper = true := by
  have hc := (isSmall_iff_toNat c).mp h
  rw [isCapital_iff_toNat, toNat_toUpper h]
  omega

theorem toLower_toUpper {c : Char} (h : isSmall c = true) : c.toUpper.toLower = c := by
  have hc := (isSmall_iff_toNat c).mp h
  apply Char.toNat_inj.mp
  rw [toNat_toLower (isCapital_toUpper h), toNat_toUpper h]
  omega

theorem isCapital_eq_false_of_isSmall {c : Char} (h : isSmall c = true) : isCapital c = false := by
  rw [isSmall_iff_toNat] at h
  rw [Bool.eq_false_iff, ne_eq, isCapital_iff_toNat]
  omega

theorem isCapital_eq_false_of_isDigit {c : Char} (h : c.isDigit = true) :
    isCapital c = false := by
  rw [isDigit_iff_toNat] at h
  rw [Bool.eq_false_iff, ne_eq, isCapital_iff_toNat]
  omega

theorem isAscii_of_isSmall {c : Char} (h : isSmall c = true) : isAscii c = true := by
  rw [isSmall_iff_toNat] at h
  rw [isAscii_iff]
  omega

theorem isAscii_of_isCapital {c : Char} (h : isCapital c = true) : isAscii c = true := by
  rw [isCapital_iff_toNat] at h
  rw [isAscii_iff]
  omega

theorem isAscii_of_isDigit {c : Char} (h : c.isDigit = true) : isAscii c = true := by
  rw [isDigit_iff_toNat] at h
  rw [isAscii_iff]
  omega

theorem map_toLower_eq_self {s : List Char} (h : ∀ c ∈ s, isCapital c = false) :
    s.map Char.toLower = s := by
  calc
    s.map Char.toLower = s.map id := List.map_congr_left fun c hc => toLower_eq_self (h c hc)
    _ = s := List.map_id s

/-- Only characters beyond ASCII look at their neighbours or change into several. -/
theorem lowerChars_of_isAscii {s : List Char} (h : ∀ c ∈ s, isAscii c = true) :
    lowerChars s = s.map Char.toLower := by
  suffices hfrom : ∀ before, lowerFrom before s = s.map Char.toLower from hfrom []
  induction s with
  | nil => exact fun _ => rfl
  | cons c s ih =>
    intro before
    rw [List.forall_mem_cons] at h
    have hsigma : c ≠ 'Σ' := by
      rintro rfl
      exact absurd h.1 (by decide)
    simp [lowerFrom, hsigma, lowerChar, h.1, ih h.2]

end LiquidEval.Naming
