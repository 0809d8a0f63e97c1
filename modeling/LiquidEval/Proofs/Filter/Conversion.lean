import LiquidEval.Proofs.Expr.Numeral
import LiquidEval.Proofs.Filter.Coercion

/-! Conversion there and back. A converted value is not changed by the same conversion again, and
integers, truth values and characters come back from the types that can hold all of them. -/
namespace LiquidEval

namespace Value
open Decimal
variable {H : Type}

theorem HasType.converts {t : ParamType} {v : Value H} (h : HasType t v) : Converts t v v := by
  cases h with
  | int32 least greatest => exact .int32 (.int _) least greatest
  | int64 i => exact .int64 (.int i)
  | _ => constructor

/-- A converted value converts to itself. -/
theorem Converts.again {t : ParamType} {v w : Value H} (h : Converts t v w) : Converts t w w := by
  rcases h.hasType with rfl | htype
  · exact .nil t
  · exact htype.converts

/-- A value becomes one of another type and comes back from there. -/
def Returns (v : Value H) (via back : ParamType) : Prop :=
  ∃ w, HasType via w ∧ v.coerce via = .ok w ∧ w.coerce back = .ok v

theorem returns_of_converts {v w : Value H} {via back : ParamType} (hnil : w.isNil = false)
    (hvia : Converts via v w) (hback : Converts back w v) : Returns v via back := by
  rcases hvia.hasType with rfl | htype
  · cases hnil
  · exact ⟨w, htype, hvia.coerce_eq, hback.coerce_eq⟩

theorem readInt64?_trimmed_intText (i : Int64) : readInt64? (trimmed (intText i)) = some i := by
  have hnumber := (Expr.Numeral.ofInt64 i).isNumber_text
  rw [trimmed, ← Expr.Numeral.text_ofInt64,
    Expr.trimChars_eq_self hnumber.startsSolid hnumber.endsSolid, Expr.Numeral.readInt64?_text,
    Expr.Numeral.integer_ofInt64, int64?, if_pos (Expr.Numeral.fitsInt64_toInt i),
    Int64.ofInt_toInt]
  rfl

theorem isInteger_intText (i : Int64) : IsInteger (string (intText i) : Value H) i.toInt :=
  .string (readInt64?_eq_some_iff.mp (readInt64?_trimmed_intText i))

/-- What is an integer among the 64 bits becomes a narrow one if it fits, and is handed back if
not. -/
theorem coerce_int32_of_isInteger {v : Value H} {i : Int64} (h : IsInteger v i.toInt) :
    v.coerce .int32 =
      if -0x80000000 ≤ i.toInt ∧ i.toInt ≤ 0x7fffffff then .ok (int i) else .error v := by
  split
  next hfits => exact (Converts.int32 h hfits.1 hfits.2).coerce_eq
  next hfits =>
    refine coerce_eq_error_iff.mpr ⟨rfl, fun w hw => ?_⟩
    cases hw with
    | nil => cases h
    | int32 h' least greatest =>
      obtain rfl := h.unique h'
      exact hfits ⟨least, greatest⟩

/-- An integer comes back from its text, as a narrow one where it is narrow. -/
theorem coerce_intText (i : Int64) :
    (string (intText i) : Value H).coerce .int64 = .ok (int i) ∧
      (string (intText i) : Value H).coerce .int32 =
        if -0x80000000 ≤ i.toInt ∧ i.toInt ≤ 0x7fffffff then .ok (int i)
        else .error (string (intText i)) :=
  ⟨(Converts.int64 (isInteger_intText i)).coerce_eq,
    coerce_int32_of_isInteger (isInteger_intText i)⟩

theorem isTruthWord_boolText (b : Bool) : IsTruthWord (boolText b) b := by
  cases b with
  | true => rfl
  | false => rfl

theorem converts_bool_of_number (b : Bool) :
    Converts .bool (int (if b then 1 else 0) : Value H) (bool b) := by
  cases b with
  | true => exact .boolOfInt 1
  | false => exact .boolOfInt 0

theorem converts_number_of_bool (b : Bool) {t : ParamType} (ht : t = .int64 ∨ t = .int32) :
    Converts t (bool b : Value H) (int (if b then 1 else 0)) := by
  have hnumber : IsInteger (bool b : Value H) (if b then 1 else 0 : Int64).toInt := by
    cases b with
    | true => exact .bool true
    | false => exact .bool false
  rcases ht with rfl | rfl
  · exact .int64 hnumber
  · refine .int32 hnumber ?_ ?_
    · cases b <;> decide
    · cases b <;> decide

theorem returns_bool (b : Bool) {t : ParamType} (ht : t = .string ∨ t = .int64 ∨ t = .int32) :
    Returns (bool b : Value H) t .bool := by
  rcases ht with rfl | ht
  · exact returns_of_converts rfl (.textOfBool b) (.boolOfText (isTruthWord_boolText b))
  · exact returns_of_converts rfl (converts_number_of_bool b ht) (converts_bool_of_number b)

/-- The numbers of characters; those of surrogates are left out. -/
def IsScalarValue (i : Int) : Prop := 0 ≤ i ∧ i < 0x110000 ∧ ¬(0xD800 ≤ i ∧ i ≤ 0xDFFF)

instance (i : Int) : Decidable (IsScalarValue i) := inferInstanceAs (Decidable (_ ∧ _ ∧ ¬(_ ∧ _)))

theorem isScalarValue_iff {i : Int} : IsScalarValue i ↔ 0 ≤ i ∧ i.toNat.isValidChar := by
  unfold IsScalarValue Nat.isValidChar
  omega

theorem isScalarValue_toNat (c : Char) : IsScalarValue c.toNat :=
  isScalarValue_iff.mpr ⟨Int.natCast_nonneg _, c.valid⟩

theorem exists_charOfCode?_iff {i : Int} : (∃ c, charOfCode? i = some c) ↔ IsScalarValue i := by
  constructor
  · rintro ⟨c, hc⟩
    rw [charOfCode?_eq_some_iff.mp hc]
    exact isScalarValue_toNat c
  · intro h
    obtain ⟨hnonneg, hvalid⟩ := isScalarValue_iff.mp h
    exact ⟨_, if_pos ((Bool.and_eq_true ..).mpr ⟨decide_eq_true hnonneg, decide_eq_true hvalid⟩)⟩

theorem converts_char_of_number (c : Char) :
    Converts .char (int (Int64.ofInt c.toNat) : Value H) (char c) :=
  .charOfInt (toInt_ofInt_toNat c)

theorem converts_number_of_char (c : Char) {t : ParamType} (ht : t = .int64 ∨ t = .int32) :
    Converts t (char c : Value H) (int (Int64.ofInt c.toNat)) := by
  have hnumber : IsInteger (char c : Value H) (Int64.ofInt c.toNat).toInt := by
    rw [toInt_ofInt_toNat]
    exact .char c
  rcases ht with rfl | rfl
  · exact .int64 hnumber
  · obtain ⟨hleast, hgreatest, -⟩ := isScalarValue_toNat c
    refine .int32 hnumber ?_ ?_
    · rw [toInt_ofInt_toNat]
      omega
    · rw [toInt_ofInt_toNat]
      omega

theorem returns_char (c : Char) {t : ParamType} (ht : t = .string ∨ t = .int64 ∨ t = .int32) :
    Returns (char c : Value H) t .char := by
  rcases ht with rfl | ht
  · exact returns_of_converts rfl (.textOfChar c) (.charOfText c)
  · exact returns_of_converts rfl (converts_number_of_char c ht) (converts_char_of_number c)

/-- What an integer converts to as a character is the character with that number. -/
theorem coerce_char_eq_ok_iff {i : Int64} {w : Value H} :
    (int i).coerce .char = .ok w ↔ ∃ c : Char, i.toInt = c.toNat ∧ w = char c := by
  rw [coerce_eq_ok_iff]
  constructor
  · intro h
    cases h with
    | charOfInt hnumber => exact ⟨_, hnumber, rfl⟩
  · rintro ⟨c, hnumber, rfl⟩
    exact .charOfInt hnumber

theorem exists_coerce_char_iff {i : Int64} :
    (∃ w, (int i : Value H).coerce .char = .ok w) ↔ IsScalarValue i.toInt := by
  rw [← exists_charOfCode?_iff]
  constructor
  · rintro ⟨w, h⟩
    obtain ⟨c, hnumber, -⟩ := coerce_char_eq_ok_iff.mp h
    exact ⟨c, charOfCode?_eq_some_iff.mpr hnumber⟩
  · rintro ⟨c, hc⟩
    exact ⟨_, coerce_char_eq_ok_iff.mpr ⟨c, charOfCode?_eq_some_iff.mp hc, rfl⟩⟩

theorem coerce_of_coerce_char {i : Int64} {w : Value H} (h : (int i).coerce .char = .ok w)
    {t : ParamType} (ht : t = .int64 ∨ t = .int32) : w.coerce t = .ok (int i) := by
  obtain ⟨c, hnumber, rfl⟩ := coerce_char_eq_ok_iff.mp h
  rw [(converts_number_of_char c ht).coerce_eq, ← hnumber, Int64.ofInt_toInt]

/-- A converted value is not changed by the same conversion again, and what does not convert is
handed back. An integer comes back from its text, whole or, if it is narrow, as a narrow one; truth
values and characters come back from texts and from integers of both widths; and the integers that
become characters, and come back, are the numbers of characters. -/
theorem conversion_stable_and_reversible :
    (∀ (t : ParamType) (v : Value H),
      (∀ w, v.coerce t = .ok w → w.coerce t = .ok w) ∧ ∀ w, v.coerce t = .error w → w = v) ∧
    (∀ i : Int64, ∃ text, (int i : Value H).coerce .string = .ok (string text) ∧
      (string text : Value H).coerce .int64 = .ok (int i) ∧
      (string text : Value H).coerce .int32 =
        if -0x80000000 ≤ i.toInt ∧ i.toInt ≤ 0x7fffffff then .ok (int i)
        else .error (string text)) ∧
    (∀ t : ParamType, t = .string ∨ t = .int64 ∨ t = .int32 →
      (∀ b, Returns (bool b : Value H) t .bool) ∧ ∀ c, Returns (char c : Value H) t .char) ∧
    ∀ i : Int64, ((∃ w, (int i : Value H).coerce .char = .ok w) ↔ IsScalarValue i.toInt) ∧
      ∀ w, (int i : Value H).coerce .char = .ok w → (∃ c : Char, i.toInt = c.toNat ∧ w = char c) ∧
        w.coerce .int64 = .ok (int i) ∧ w.coerce .int32 = .ok (int i) := by
  refine ⟨fun t v => ⟨fun w h => ?_, fun w h => eq_of_coerce_eq_error h⟩, ?_, ?_, ?_⟩
  · exact (coerce_eq_ok_iff.mp h).again.coerce_eq
  · intro i
    exact ⟨intText i, rfl, coerce_intText i⟩
  · intro t ht
    exact ⟨fun b => returns_bool b ht, fun c => returns_char c ht⟩
  · intro i
    refine ⟨exists_coerce_char_iff, fun w h => ?_⟩
    exact ⟨coerce_char_eq_ok_iff.mp h, coerce_of_coerce_char h (.inl rfl),
      coerce_of_coerce_char h (.inr rfl)⟩

/-- The numbers around the surrogates, an integer that is not narrow, and a text with a sign and
blanks. -/
theorem conversion_stable_and_reversible_at_edges :
    let sign : Value Empty := .string " +12 "
    sign.coerce .int32 = .ok (int 12) ∧ (int 12 : Value Empty).coerce .int32 = .ok (int 12) ∧
      (string "4294967296" : Value Empty).coerce .int64 = .ok (int 4294967296) ∧
      (string "4294967296" : Value Empty).coerce .int32 = .error (string "4294967296") ∧
      Returns (bool false : Value Empty) .string .bool ∧
      (char 'é' : Value Empty).coerce .int32 = .ok (int 233) ∧
      (¬∃ w, (int 0xD800 : Value Empty).coerce .char = .ok w) ∧
      ∃ w, (int 0xE000 : Value Empty).coerce .char = .ok w ∧
      w.coerce .int64 = .ok (int 0xE000) := by
  intro sign
  obtain ⟨hstable, hints, hboth, hchars⟩ := conversion_stable_and_reversible (H := Empty)
  have hsign : sign.coerce .int32 = .ok (int 12) := by rfl
  obtain ⟨text, htext, hwhole, hnarrow⟩ := hints 4294967296
  cases htext
  obtain ⟨w, hw⟩ := (hchars 0xE000).1.mpr (by decide)
  refine ⟨hsign, (hstable .int32 sign).1 _ hsign, hwhole, hnarrow, ?_, ?_, ?_, ?_⟩
  · exact (hboth .string (.inl rfl)).1 false
  · rfl
  · exact mt (hchars 0xD800).1.mp (by decide)
  · obtain ⟨-, hback, -⟩ := (hchars 0xE000).2 w hw
    exact ⟨w, hw, hback⟩

end Value
end LiquidEval
