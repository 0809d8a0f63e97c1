import LiquidEval.Expr.Parser

/-! Which classes of characters exclude one another. What a grammar separates is separated by
characters of different classes. -/
namespace LiquidEval.Text

/-- No code point lies in both sets, by their bounds. -/
def CodeRanges.apart (a b : CodeRanges) : Bool :=
  a.all fun r => b.all fun s => r.2 < s.1 || s.2 < r.1

theorem CodeRanges.not_contains_of_apart {a b : CodeRanges} (h : a.apart b = true) {c : Char}
    (hc : a.contains c = true) : b.contains c = false := by
  rw [apart, List.all_eq_true] at h
  rw [contains, List.any_eq_true] at hc
  obtain ⟨r, hr, hcr⟩ := hc
  rw [contains, List.any_eq_false]
  intro s hs hcs
  have hrs := List.all_eq_true.mp (h r hr) s hs
  simp only [Bool.and_eq_true, Bool.or_eq_true, decide_eq_true_eq] at hcr hcs hrs
  omega

theorem alphabetic_apart_whiteSpace : alphabeticRanges.apart whiteSpaceRanges = true := by
  decide +kernel

theorem numeric_apart_whiteSpace : numericRanges.apart whiteSpaceRanges = true := by
  decide +kernel

theorem isAlpha_iff_toNat (c : Char) :
    c.isAlpha = true ↔ 65 ≤ c.toNat ∧ c.toNat ≤ 90 ∨ 97 ≤ c.toNat ∧ c.toNat ≤ 122 := by
  have hletter : c.isAlpha = (decide (65 ≤ c.val ∧ c.val ≤ 90) ||
      decide (97 ≤ c.val) && decide (c.val ≤ 122)) := rfl
  rw [hletter]
  simp only [Bool.or_eq_true, Bool.and_eq_true, decide_eq_true_eq, UInt32.le_iff_toNat_le]
  rfl

theorem isDigit_iff_toNat (c : Char) : c.isDigit = true ↔ 48 ≤ c.toNat ∧ c.toNat ≤ 57 := by
  simp only [Char.isDigit, Bool.and_eq_true, decide_eq_true_eq, ge_iff_le,
    UInt32.le_iff_toNat_le]
  rfl

theorem isAsciiDigit_iff_toNat (c : Char) :
    Decimal.isAsciiDigit c = true ↔ 48 ≤ c.toNat ∧ c.toNat ≤ 57 := by
  simp only [Decimal.isAsciiDigit, Bool.and_eq_true, decide_eq_true_eq, Char.le_def,
    UInt32.le_iff_toNat_le]
  rfl

theorem isAscii_iff (c : Char) : isAscii c = true ↔ c.toNat < 128 := by
  simp [isAscii]

/-- The ASCII letters and digits, by code point. -/
def asciiWordRanges : CodeRanges := [(48, 57), (65, 90), (97, 122)]

theorem asciiWord_apart_whiteSpace : asciiWordRanges.apart whiteSpaceRanges = true := by
  decide +kernel

theorem isWhiteSpace_eq_false_of_isAlphanumeric {c : Char} (h : isAlphanumeric c = true) :
    isWhiteSpace c = false := by
  rw [isAlphanumeric, isAlphabetic, isNumeric] at h
  cases ha : isAscii c with
  | true =>
    rw [ha, if_pos rfl, if_pos rfl, Bool.or_eq_true, isAlpha_iff_toNat, isDigit_iff_toNat] at h
    refine CodeRanges.not_contains_of_apart asciiWord_apart_whiteSpace ?_
    simp only [CodeRanges.contains, asciiWordRanges, List.any_cons, List.any_nil, Bool.or_false,
      Bool.or_eq_true, Bool.and_eq_true, decide_eq_true_eq]
    omega
  | false =>
    rw [ha, if_neg (by decide), if_neg (by decide), Bool.or_eq_true] at h
    rcases h with h | h
    · exact CodeRanges.not_contains_of_apart alphabetic_apart_whiteSpace h
    · exact CodeRanges.not_contains_of_apart numeric_apart_whiteSpace h

end LiquidEval.Text

namespace LiquidEval.Expr
open Text

theorem isWhiteSpace_eq_false_of_isWord {c : Char} (h : isWord c = true) :
    isWhiteSpace c = false := by
  simp only [isWord, Bool.or_eq_true, beq_iff_eq] at h
  rcases h with (h | rfl) | rfl
  · exact isWhiteSpace_eq_false_of_isAlphanumeric h
  · decide
  · decide

theorem isBlank_cases {c : Char} (h : isBlank c = true) :
    c = ' ' ∨ c = '\t' ∨ c = '\r' ∨ c = '\n' := by
  simpa [isBlank, or_assoc] using h

theorem isWord_eq_false_of_isBlank {c : Char} (h : isBlank c = true) : isWord c = false := by
  rcases isBlank_cases h with rfl | rfl | rfl | rfl <;> decide

theorem isWord_of_startsName {c : Char} (h : startsName c = true) : isWord c = true := by
  simp only [startsName, Bool.or_eq_true] at h
  rcases h with h | h
  · simp [isWord, isAlphanumeric_of_isAlphabetic h]
  · simp [isWord, h]

theorem isWord_of_isAsciiDigit {c : Char} (h : Decimal.isAsciiDigit c = true) :
    isWord c = true := by
  rw [isAsciiDigit_iff_toNat] at h
  have ha : isAscii c = true := (isAscii_iff c).mpr (by omega)
  have hd : c.isDigit = true := (isDigit_iff_toNat c).mpr h
  simp [isWord, isAlphanumeric, isNumeric, ha, hd]

theorem startsName_eq_false_of_isAsciiDigit {c : Char} (h : Decimal.isAsciiDigit c = true) :
    startsName c = false := by
  rw [isAsciiDigit_iff_toNat] at h
  have ha : isAscii c = true := (isAscii_iff c).mpr (by omega)
  have hletter : ¬c.isAlpha = true := by rw [isAlpha_iff_toNat]; omega
  have hline : c ≠ '_' := by rintro rfl; revert h; decide
  simp [startsName, isAlphabetic, ha, hletter, hline]

end LiquidEval.Expr
