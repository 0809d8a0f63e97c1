import Mathlib.Data.List.Induction
import LiquidEval.Proofs.Expr.Numeral

/-! Leading zeros. Digits are some zeros and the digits that their number is printed with, so the
texts that are read as one integer differ in their zeros and in how the sign is written. -/
namespace LiquidEval.Decimal
open LiquidEval.Expr

theorem naturalOf_concat (t : List Char) (c : Char) :
    naturalOf (t ++ [c]) = 10 * naturalOf t + digitValue c := by
  rw [naturalOf, List.foldl_append]
  rfl

theorem naturalOf_zeros_append (zeros : Nat) (t : List Char) :
    naturalOf (List.replicate zeros '0' ++ t) = naturalOf t := by
  induction zeros with
  | zero => rfl
  | succ zeros ih =>
    rw [List.replicate_succ, List.cons_append, ← ih]
    rfl

theorem digitValue_lt {c : Char} (h : isAsciiDigit c = true) : digitValue c < 10 := by
  have hbounds := (Text.isAsciiDigit_iff_toNat c).mp h
  unfold digitValue
  omega

theorem toDigits_digitValue {c : Char} (h : isAsciiDigit c = true) :
    Nat.toDigits 10 (digitValue c) = [c] := by
  have hbounds := (Text.isAsciiDigit_iff_toNat c).mp h
  have hchar : (digitValue c).digitChar = c := by
    apply Char.toNat_inj.mp
    rw [Nat.toNat_digitChar_of_lt_ten (digitValue_lt h)]
    unfold digitValue
    omega
  rw [Nat.toDigits_of_lt_base (digitValue_lt h), hchar]

/-- The digit that is read last is also printed last, unless only zeros stand in front of it. -/
theorem exists_zeros_append_toDigits {t : List Char} (h : Digits t) :
    ∃ zeros, t = List.replicate zeros '0' ++ Nat.toDigits 10 (naturalOf t) := by
  obtain ⟨hne, hdigits⟩ := h
  induction t using List.reverseRecOn with
  | nil => exact absurd rfl hne
  | append_singleton t c ih =>
    have hc : isAsciiDigit c = true := hdigits c (by simp)
    rw [naturalOf_concat]
    by_cases hempty : t = []
    · subst hempty
      refine ⟨0, ?_⟩
      have hvalue : 10 * naturalOf [] + digitValue c = digitValue c := Nat.zero_add _
      rw [hvalue, toDigits_digitValue hc]
      rfl
    · obtain ⟨zeros, ht⟩ := ih hempty fun d hd => hdigits d (List.mem_append_left _ hd)
      rcases Nat.eq_zero_or_pos (naturalOf t) with hzero | hpos
      · have hzeros : t = List.replicate (zeros + 1) '0' := by
          rw [hzero] at ht
          rw [ht, List.replicate_succ']
          rfl
        refine ⟨zeros + 1, ?_⟩
        rw [hzero, Nat.mul_zero, Nat.zero_add, toDigits_digitValue hc, ← hzeros]
      · refine ⟨zeros, ?_⟩
        rw [← Nat.toDigits_append_toDigits (by decide) hpos (digitValue_lt hc),
          toDigits_digitValue hc, ← List.append_assoc, ← ht]

/-- Digits are printed as they are read, unless they start with a zero that is not all of them. -/
theorem toDigits_naturalOf_eq_iff {t : List Char} (h : Digits t) :
    Nat.toDigits 10 (naturalOf t) = t ↔ (t.head? = some '0' → t = ['0']) := by
  constructor
  · intro hprinted hhead
    obtain ⟨rest, rfl⟩ := List.head?_eq_some_iff.mp hhead
    by_cases hrest : rest = []
    · rw [hrest]
    · have hdigits : Digits rest := ⟨hrest, fun c hc => h.2 c (List.mem_cons_of_mem _ hc)⟩
      obtain ⟨zeros, hzeros⟩ := exists_zeros_append_toDigits hdigits
      have hvalue : naturalOf rest = naturalOf ('0' :: rest) := (naturalOf_zeros_append 1 rest).symm
      rw [hvalue, hprinted] at hzeros
      have hlength := congrArg List.length hzeros
      rw [List.length_append, List.length_cons] at hlength
      omega
  · intro hhead
    obtain ⟨zeros, hzeros⟩ := exists_zeros_append_toDigits h
    cases zeros with
    | zero => exact hzeros.symm
    | succ zeros =>
      rw [hhead (by rw [hzeros]; rfl)]
      rfl

/-- How the sign of an integer may be written; zero may have any sign. -/
def IsSignOf (i : Int) (sign : List Char) : Prop :=
  (sign = [] ∨ sign = ['+']) ∧ 0 ≤ i ∨ sign = ['-'] ∧ i ≤ 0

/-- The texts of an integer: a sign, some zeros, and the digits that its size is printed with. -/
def IsTextOf (i : Int) (t : List Char) : Prop :=
  ∃ sign zeros, IsSignOf i sign ∧
    t = sign ++ (List.replicate zeros '0' ++ Nat.toDigits 10 i.natAbs)

theorem digits_zeros_append (zeros n : Nat) :
    Digits (List.replicate zeros '0' ++ Nat.toDigits 10 n) := by
  obtain ⟨hne, hdigits⟩ := Numeral.digits_toDigits n
  refine ⟨List.append_ne_nil_of_right_ne_nil _ hne, ?_⟩
  intro c hc
  rcases List.mem_append.mp hc with hzero | hdigit
  · rw [List.eq_of_mem_replicate hzero]
    decide
  · exact hdigits c hdigit

theorem digits_of_natural? {t : List Char} {n : Nat} (h : natural? t = some n) :
    Digits t ∧ naturalOf t = n := by
  unfold natural? at h
  split at h
  next => cases h
  next hdigits =>
    rw [Bool.or_eq_true, not_or, Bool.not_eq_true', Bool.not_eq_false, List.isEmpty_iff,
      List.all_eq_true] at hdigits
    exact ⟨hdigits, Option.some_inj.mp h⟩

theorem splitSign_of_digits {t : List Char} (h : Digits t) : splitSign t = (false, t) := by
  obtain ⟨c, w, rfl, hc⟩ := h.exists_cons
  rw [splitSign.eq_def]
  split
  next heq =>
    rw [(List.cons.inj heq).1] at hc
    exact absurd hc (by decide)
  next heq =>
    rw [(List.cons.inj heq).1] at hc
    exact absurd hc (by decide)
  next => rfl

theorem integer?_eq (t : List Char) :
    integer? t = (natural? (splitSign t).2).map (signed (splitSign t).1) := by
  rcases hsplit : splitSign t with ⟨negative, digits⟩
  simp only [integer?, hsplit]
  cases natural? digits with
  | none => rfl
  | some n => rfl

theorem exists_sign (t : List Char) : ∃ sign, t = sign ++ (splitSign t).2 ∧
    ∀ n, IsSignOf (signed (splitSign t).1 n) sign := by
  rw [splitSign.eq_def]
  split
  next => exact ⟨['-'], rfl, fun n => .inr ⟨rfl, Int.neg_nonpos_of_nonneg (Int.natCast_nonneg n)⟩⟩
  next => exact ⟨['+'], rfl, fun n => .inl ⟨.inr rfl, (Int.natCast_nonneg n)⟩⟩
  next => exact ⟨[], rfl, fun n => .inl ⟨.inl rfl, (Int.natCast_nonneg n)⟩⟩

theorem natAbs_signed (negative : Bool) (n : Nat) : (signed negative n).natAbs = n := by
  cases negative <;> simp [signed]

theorem IsSignOf.splitSign_append {i : Int} {sign t : List Char} (h : IsSignOf i sign)
    (ht : Digits t) :
    (splitSign (sign ++ t)).2 = t ∧ signed (splitSign (sign ++ t)).1 i.natAbs = i := by
  rcases h with ⟨rfl | rfl, hi⟩ | ⟨rfl, hi⟩
  · rw [List.nil_append, splitSign_of_digits ht]
    exact ⟨rfl, Int.natAbs_of_nonneg hi⟩
  · exact ⟨rfl, Int.natAbs_of_nonneg hi⟩
  · have hsigned : signed (splitSign ('-' :: t)).1 i.natAbs = -(i.natAbs : Int) := rfl
    refine ⟨rfl, hsigned.trans ?_⟩
    rw [Int.ofNat_natAbs_of_nonpos hi, Int.neg_neg]

/-- An integer is read from its texts and from no others. -/
theorem integer?_eq_some_iff {t : List Char} {i : Int} : integer? t = some i ↔ IsTextOf i t := by
  rw [integer?_eq]
  constructor
  · intro h
    obtain ⟨n, hn, rfl⟩ := Option.map_eq_some_iff.mp h
    obtain ⟨hdigits, hvalue⟩ := digits_of_natural? hn
    obtain ⟨sign, ht, hsign⟩ := exists_sign t
    obtain ⟨zeros, hzeros⟩ := exists_zeros_append_toDigits hdigits
    refine ⟨sign, zeros, hsign n, ?_⟩
    rw [natAbs_signed, ← hvalue, ← hzeros, ← ht]
  · rintro ⟨sign, zeros, hsign, rfl⟩
    have hdigits := digits_zeros_append zeros i.natAbs
    obtain ⟨hrest, hsigned⟩ := hsign.splitSign_append hdigits
    rw [hrest, Numeral.natural?_of_digits hdigits, naturalOf_zeros_append,
      Numeral.naturalOf_toDigits, Option.map_some, hsigned]

theorem toInt_ofInt_of_fitsInt64 {i : Int} (h : fitsInt64 i = true) :
    (Int64.ofInt i).toInt = i := by
  obtain ⟨hlow, hhigh⟩ := fitsInt64_iff.mp h
  exact toInt_ofInt_of_bounds hlow hhigh

theorem int64?_eq_some_iff {a : Int} {i : Int64} : int64? a = some i ↔ i.toInt = a := by
  rw [int64?, Option.ite_none_right_eq_some]
  constructor
  · rintro ⟨hfits, hi⟩
    cases hi
    exact toInt_ofInt_of_fitsInt64 hfits
  · rintro rfl
    exact ⟨fitsInt64_iff.mpr (bounds_toInt i), congrArg some (Int64.ofInt_toInt i)⟩

theorem int64?_eq_none_iff {a : Int} : int64? a = none ↔ ¬(leastInt64 ≤ a ∧ a ≤ greatestInt64) := by
  rw [← fitsInt64_iff, int64?, ite_eq_right_iff]
  exact forall_congr' fun _ => iff_false_intro (Option.some_ne_none _)

theorem readInt64?_eq_some_iff {t : List Char} {i : Int64} :
    readInt64? t = some i ↔ IsTextOf i.toInt t := by
  rw [← integer?_eq_some_iff, readInt64?, Option.bind_eq_some_iff]
  constructor
  · rintro ⟨n, hn, hi⟩
    rwa [int64?_eq_some_iff.mp hi]
  · exact fun h => ⟨i.toInt, h, int64?_eq_some_iff.mpr rfl⟩

end LiquidEval.Decimal
