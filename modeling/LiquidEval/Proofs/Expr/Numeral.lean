import LiquidEval.Proofs.Expr.Words

/-! Numerals as they are written, and the number that each one denotes. -/
namespace LiquidEval.Expr
open Decimal

structure Numeral where
  negative : Bool
  whole : List Char
  fraction : Option (List Char)
  whole_digits : Digits whole
  fraction_digits : ∀ f, fraction = some f → Digits f

namespace Numeral

/-- A point with the digits behind it, or nothing. -/
def tail (n : Numeral) : List Char :=
  match n.fraction with
  | some f => '.' :: f
  | none => []

def text (n : Numeral) : List Char := (if n.negative then ['-'] else []) ++ (n.whole ++ n.tail)

/-- What a numeral without a fraction denotes. -/
def integer (n : Numeral) : Int := signed n.negative (naturalOf n.whole)

/-- The floating-point number that is nearest to what a numeral denotes. -/
def float (n : Numeral) : Float :=
  let digits := n.fraction.getD []
  let x := nearestFloat (naturalOf (n.whole ++ digits)) (-digits.length)
  if n.negative then -x else x

/-- Without a fraction a numeral is an integer if that fits in 64 bits. -/
def literal (n : Numeral) : Literal :=
  if n.fraction = none ∧ fitsInt64 n.integer = true then .int (Int64.ofInt n.integer)
  else .float n.float

theorem isFraction_tail (n : Numeral) : IsFraction n.tail := by
  unfold tail
  split
  next f hf => exact .inr ⟨f, n.fraction_digits f hf, rfl⟩
  next => exact .inl rfl

theorem isNumber_text (n : Numeral) : IsNumber n.text := by
  apply IsNumber.mk _ n.whole_digits n.isFraction_tail
  cases n.negative <;> simp

theorem head?_tail (n : Numeral) : n.tail.head?.any isAsciiDigit = false := by
  unfold tail
  split
  · rfl
  · rfl

/-- A sign is read off a numeral only if it is there. -/
theorem splitSign_text (n : Numeral) : splitSign n.text = (n.negative, n.whole ++ n.tail) := by
  unfold text
  cases hsign : n.negative with
  | true => rfl
  | false =>
    obtain ⟨c, w, hwhole, hc⟩ := n.whole_digits.exists_cons
    have hminus : c ≠ '-' := by rintro rfl; revert hc; decide
    have hplus : c ≠ '+' := by rintro rfl; revert hc; decide
    simp only [hwhole, Bool.false_eq_true, if_false, List.nil_append, List.cons_append]
    rw [splitSign.eq_def]
    split
    next h => exact absurd (List.cons.inj h).1 hminus
    next h => exact absurd (List.cons.inj h).1 hplus
    next => rfl

theorem natural?_of_digits {t : List Char} (h : Digits t) : natural? t = some (naturalOf t) := by
  have hall : t.all isAsciiDigit = true := List.all_eq_true.mpr h.2
  simp [natural?, h.1, hall]

theorem natural?_tail (n : Numeral) :
    natural? (n.whole ++ n.tail) =
      if n.fraction = none then some (naturalOf n.whole) else none := by
  unfold tail
  cases n.fraction with
  | none => simp [natural?_of_digits n.whole_digits]
  | some f =>
    have hpoint : isAsciiDigit '.' = false := by decide
    simp [natural?, hpoint]

theorem readInt64?_text (n : Numeral) :
    readInt64? n.text = if n.fraction = none then int64? n.integer else none := by
  simp only [readInt64?, integer?, splitSign_text, natural?_tail]
  unfold integer signed
  cases n.fraction <;> cases n.negative <;> simp

theorem unsignedFloat?_tail (n : Numeral) :
    unsignedFloat? (n.whole ++ n.tail) =
      some (nearestFloat (naturalOf (n.whole ++ n.fraction.getD []))
        (-(n.fraction.getD []).length)) := by
  have htake := takeWhile_append_of_head n.whole_digits.2 n.head?_tail
  have hdrop := dropWhile_append_of_head n.whole_digits.2 n.head?_tail
  have hne : n.whole.isEmpty = false := List.isEmpty_eq_false_iff.mpr n.whole_digits.1
  simp only [unsignedFloat?, htake, hdrop, hne, Bool.false_and, Bool.false_eq_true, if_false]
  unfold tail
  cases hf : n.fraction with
  | none => simp [exponent?]
  | some f =>
    have hdigits := (n.fraction_digits f hf).2
    have hftake : f.takeWhile isAsciiDigit = f := List.takeWhile_eq_self_iff.mpr hdigits
    have hfdrop : f.dropWhile isAsciiDigit = [] := List.dropWhile_eq_nil_iff.mpr hdigits
    simp [hftake, hfdrop, exponent?]

theorem readFloat?_text (n : Numeral) : readFloat? n.text = some n.float := by
  simp only [readFloat?, splitSign_text, unsignedFloat?_tail]
  rfl

theorem numberLiteral_text (n : Numeral) : numberLiteral n.text = n.literal := by
  unfold numberLiteral literal
  rw [readInt64?_text, readFloat?_text]
  cases n.fraction with
  | some f => rfl
  | none =>
    simp only [if_true, true_and, int64?]
    by_cases hfits : fitsInt64 n.integer = true <;> simp [hfits]

/-- A number is written in one way as sign, digits and fraction. -/
theorem text_injective : Function.Injective text := by
  intro n m h
  have hsign := congrArg splitSign h
  rw [splitSign_text, splitSign_text, Prod.mk.injEq] at hsign
  obtain ⟨hnegative, hrest⟩ := hsign
  have hwhole : n.whole = m.whole := by
    rw [← takeWhile_append_of_head n.whole_digits.2 n.head?_tail, hrest,
      takeWhile_append_of_head m.whole_digits.2 m.head?_tail]
  have htail : n.tail = m.tail := by
    rw [hwhole] at hrest
    exact List.append_cancel_left hrest
  have hfraction : n.fraction = m.fraction := by
    unfold tail at htail
    cases hn : n.fraction <;> cases hm : m.fraction <;> simp_all
  cases n
  cases m
  congr

theorem naturalOf_toDigits (n : Nat) : naturalOf (Nat.toDigits 10 n) = n :=
  Nat.ofDigitChars_ten_toDigits

theorem digits_toDigits (n : Nat) : Digits (Nat.toDigits 10 n) := by
  constructor
  · exact Nat.toDigits_ne_nil
  · intro c hc
    have hdigit : c.isDigit = true := Nat.isDigit_of_mem_toDigits (by decide) (by decide) hc
    rwa [Text.isAsciiDigit_iff_toNat, ← Text.isDigit_iff_toNat]

/-- An integer as it is printed. -/
def ofInt64 (i : Int64) : Numeral where
  negative := decide (i.toInt < 0)
  whole := Nat.toDigits 10 i.toInt.natAbs
  fraction := none
  whole_digits := digits_toDigits _
  fraction_digits := by simp

theorem text_ofInt64 (i : Int64) : (ofInt64 i).text = (Value.intText i).toList := by
  have hrepr (x : Int) : x.repr.toList =
      (if x < 0 then ['-'] else []) ++ Nat.toDigits 10 x.natAbs := by
    cases x with
    | ofNat n => simp [Int.repr, Nat.repr]
    | negSucc n => simp [Int.repr, Nat.repr]
  simp [text, tail, ofInt64, Value.intText, hrepr]

theorem integer_ofInt64 (i : Int64) : (ofInt64 i).integer = i.toInt := by
  simp only [integer, signed, ofInt64, naturalOf_toDigits, decide_eq_true_eq]
  split <;> omega

theorem fitsInt64_toInt (i : Int64) : fitsInt64 i.toInt = true := fitsInt64_iff.mpr (bounds_toInt i)

theorem literal_ofInt64 (i : Int64) : (ofInt64 i).literal = .int i := by
  have hfits : fitsInt64 (ofInt64 i).integer = true := by
    rw [integer_ofInt64]
    exact fitsInt64_toInt i
  rw [literal, if_pos ⟨rfl, hfits⟩, integer_ofInt64, Int64.ofInt_toInt]

end Numeral

theorem IsNumber.exists_numeral {t : List Char} (h : IsNumber t) : ∃ n : Numeral, n.text = t := by
  cases h with
  | @mk sign whole fraction hsign hwhole hfraction =>
    obtain ⟨negative, hnegative⟩ : ∃ b : Bool, sign = if b then ['-'] else [] := by
      rcases hsign with rfl | rfl
      · exact ⟨false, rfl⟩
      · exact ⟨true, rfl⟩
    rcases hfraction with rfl | ⟨digits, hdigits, rfl⟩
    · exact ⟨⟨negative, whole, none, hwhole, by simp⟩, by rw [hnegative]; rfl⟩
    · exact ⟨⟨negative, whole, some digits, hwhole, by simpa using hdigits⟩, by
        rw [hnegative]; rfl⟩

end LiquidEval.Expr
