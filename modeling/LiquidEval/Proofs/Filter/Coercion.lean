import LiquidEval.Filter.Coercion
import LiquidEval.Proofs.Decimal.LeadingZeros
import LiquidEval.Proofs.Decimal.Neighbours

/-! What an argument becomes as a value of the type that its parameter declares, and when it
cannot become one. -/
namespace LiquidEval.Value
open Decimal
variable {H : Type} {t : ParamType} {u v w : Value H}

/-- The values that a parameter of each type holds, nil apart. -/
inductive HasType : ParamType → Value H → Prop where
  | any (v : Value H) : HasType .any v
  | bool (b : Bool) : HasType .bool (bool b)
  | int32 {i : Int64} (least : -0x80000000 ≤ i.toInt) (greatest : i.toInt ≤ 0x7fffffff) :
      HasType .int32 (int i)
  | int64 (i : Int64) : HasType .int64 (int i)
  | float (f : Float) : HasType .float (float f)
  | char (c : Char) : HasType .char (char c)
  | string (s : String) : HasType .string (string s)
  | array (items : List (Value H)) : HasType .array (array items)
  | object (fields : List (String × Value H)) : HasType .object (object fields)

/-- The integer that a value is taken for: the nearest one to a float, the number of a character,
and the one that a text writes, with or without white space around it. -/
inductive IsInteger : Value H → Int → Prop where
  | int (i : Int64) : IsInteger (int i) i.toInt
  | float {f : Float} {i : Int} (hf : f.isFinite = true) (h : IsNearest (floatValue f) i) :
      IsInteger (float f) i
  | bool (b : Bool) : IsInteger (bool b) (if b then 1 else 0)
  | char (c : Char) : IsInteger (char c) c.toNat
  | string {s : String} {i : Int} (h : IsTextOf i (Text.trimChars s.toList)) :
      IsInteger (string s) i

/-- The words for truth values, in letters of either size. -/
def IsTruthWord (s : String) (b : Bool) : Prop :=
  (Text.trimChars s.toList).map Char.toLower = (if b then "true" else "false").toList

/-- What a value becomes as an argument of a type. Nil stays nil whatever the type, and a
container becomes nothing else. -/
inductive Converts : ParamType → Value H → Value H → Prop where
  | nil (t : ParamType) : Converts t nil nil
  | any (v : Value H) : Converts .any v v
  | bool (b : Bool) : Converts .bool (bool b) (bool b)
  | boolOfInt (i : Int64) : Converts .bool (int i) (bool (i != 0))
  | boolOfFloat (f : Float) : Converts .bool (float f) (bool (f != 0.0))
  | boolOfText {s : String} {b : Bool} (h : IsTruthWord s b) : Converts .bool (string s) (bool b)
  | int32 {v : Value H} {i : Int64} (h : IsInteger v i.toInt) (least : -0x80000000 ≤ i.toInt)
      (greatest : i.toInt ≤ 0x7fffffff) : Converts .int32 v (int i)
  | int64 {v : Value H} {i : Int64} (h : IsInteger v i.toInt) : Converts .int64 v (int i)
  | float (f : Float) : Converts .float (float f) (float f)
  | floatOfInt (i : Int64) : Converts .float (int i) (float (floatOfInt i))
  | floatOfBool (b : Bool) : Converts .float (bool b) (float (if b then 1.0 else 0.0))
  | floatOfText {s : String} {f : Float} (h : readFloat? (Text.trimChars s.toList) = some f) :
      Converts .float (string s) (float f)
  | char (c : Char) : Converts .char (char c) (char c)
  | charOfInt {i : Int64} {c : Char} (h : i.toInt = c.toNat) : Converts .char (int i) (char c)
  | charOfText (c : Char) : Converts .char (string c.toString) (char c)
  | string (s : String) : Converts .string (string s) (string s)
  | textOfBool (b : Bool) : Converts .string (bool b) (string (if b then "true" else "false"))
  | textOfInt (i : Int64) : Converts .string (int i) (string (toString i.toInt))
  | textOfFloat (f : Float) : Converts .string (float f) (string (floatText f))
  | textOfChar (c : Char) : Converts .string (char c) (string c.toString)
  | array (items : List (Value H)) : Converts .array (array items) (array items)
  | object (fields : List (String × Value H)) : Converts .object (object fields) (object fields)

theorem Converts.hasType (h : Converts t v w) : w = .nil ∨ HasType t w := by
  cases h with
  | nil => exact .inl rfl
  | int32 _ least greatest => exact .inr (.int32 least greatest)
  | _ => exact .inr (by constructor)

theorem charOfCode?_toNat (c : Char) : charOfCode? c.toNat = some c := by
  have hvalid : (0 ≤ (c.toNat : Int) && (c.toNat : Int).toNat.isValidChar) = true :=
    (Bool.and_eq_true ..).mpr ⟨decide_eq_true (Int.natCast_nonneg _), decide_eq_true c.valid⟩
  rw [charOfCode?, if_pos hvalid, Int.toNat_natCast, Char.ofNat_toNat]

theorem toNat_ofNat_of_isValidChar {n : Nat} (h : n.isValidChar) : (Char.ofNat n).toNat = n := by
  rw [Char.ofNat, dif_pos h]
  rfl

theorem charOfCode?_eq_some_iff {i : Int} {c : Char} : charOfCode? i = some c ↔ i = c.toNat := by
  constructor
  · intro h
    obtain ⟨hvalid, hc⟩ := Option.ite_none_right_eq_some.mp h
    cases hc
    obtain ⟨hnonneg, hvalid⟩ := (Bool.and_eq_true ..).mp hvalid
    rw [toNat_ofNat_of_isValidChar (of_decide_eq_true hvalid),
      Int.toNat_of_nonneg (of_decide_eq_true hnonneg)]
  · rintro rfl
    exact charOfCode?_toNat c

/-- The numbers of characters are far within the integers. -/
theorem toInt_ofInt_toNat (c : Char) : (Int64.ofInt c.toNat).toInt = c.toNat := by
  have hvalid : c.toNat.isValidChar := c.valid
  unfold Nat.isValidChar at hvalid
  have hnonneg := Int.natCast_nonneg c.toNat
  refine toInt_ofInt_of_bounds ?_ ?_
  · unfold leastInt64
    omega
  · unfold greatestInt64
    omega

theorem IsInteger.isNil_eq_false {i : Int} (h : IsInteger v i) : v.isNil = false := by
  cases h <;> rfl

theorem asInt64?_eq_some_iff {i : Int64} : v.asInt64? = some i ↔ IsInteger v i.toInt := by
  constructor
  · intro h
    cases v with
    | int j =>
      cases h
      exact .int i
    | float f =>
      obtain ⟨hf, h⟩ := Option.ite_none_right_eq_some.mp h
      exact .float hf (Dyadic.roundHalfEven_eq_iff.mp (int64?_eq_some_iff.mp h).symm)
    | bool b =>
      cases h
      cases b with
      | true => exact .bool true
      | false => exact .bool false
    | char c =>
      cases h
      rw [toInt_ofInt_toNat]
      exact .char c
    | string s => exact .string (readInt64?_eq_some_iff.mp h)
    | _ => cases h
  · intro h
    generalize hn : i.toInt = n at h
    cases h with
    | int j => exact congrArg some (Int64.toInt_inj.mp hn.symm)
    | float hf h =>
      rw [asInt64?, roundedInt?, if_pos hf, int64?_eq_some_iff, hn]
      exact (Dyadic.roundHalfEven_eq_iff.mpr h).symm
    | bool b =>
      cases b with
      | true => exact congrArg some (Int64.toInt_inj.mp hn.symm)
      | false => exact congrArg some (Int64.toInt_inj.mp hn.symm)
    | char c => exact congrArg some (Int64.toInt_inj.mp (by rw [toInt_ofInt_toNat, hn]))
    | string h => exact readInt64?_eq_some_iff.mpr (hn ▸ h)

theorem IsInteger.unique {i j : Int64} (hi : IsInteger v i.toInt) (hj : IsInteger v j.toInt) :
    i = j :=
  Option.some_inj.mp ((asInt64?_eq_some_iff.mpr hi).symm.trans (asInt64?_eq_some_iff.mpr hj))

theorem asInt32?_eq_some_iff {i : Int64} :
    v.asInt32? = some i ↔ IsInteger v i.toInt ∧ -0x80000000 ≤ i.toInt ∧ i.toInt ≤ 0x7fffffff := by
  rw [asInt32?, Option.filter_eq_some_iff, asInt64?_eq_some_iff, fitsInt32_iff]

theorem asBool?_string_eq_some_iff {s : String} {b : Bool} :
    (string s : Value H).asBool? = some b ↔ IsTruthWord s b := by
  have hword (word : String) : String.ofList ((trimmed s).map Char.toLower) = word ↔
      (Text.trimChars s.toList).map Char.toLower = word.toList := by
    rw [← String.toList_inj, String.toList_ofList, trimmed]
  have hne : "true".toList ≠ "false".toList := by decide
  simp only [asBool?, hword, IsTruthWord]
  cases b with
  | true => simp
  | false =>
    by_cases htrue : (Text.trimChars s.toList).map Char.toLower = "true".toList
    · rw [if_pos htrue, htrue]
      exact iff_of_false nofun hne
    · rw [if_neg htrue, Option.ite_none_right_eq_some]
      exact and_iff_left rfl

theorem converts_of_convert? (h : v.convert? t = some w) : Converts t v w := by
  cases t with
  | any =>
    cases h
    exact .any v
  | bool =>
    obtain ⟨b, hb, rfl⟩ := Option.map_eq_some_iff.mp h
    cases v with
    | bool _ => cases hb; exact .bool b
    | int i => cases hb; exact .boolOfInt i
    | float f => cases hb; exact .boolOfFloat f
    | string s => exact .boolOfText (asBool?_string_eq_some_iff.mp hb)
    | _ => cases hb
  | int32 =>
    obtain ⟨i, hi, rfl⟩ := Option.map_eq_some_iff.mp h
    obtain ⟨hi, least, greatest⟩ := asInt32?_eq_some_iff.mp hi
    exact .int32 hi least greatest
  | int64 =>
    obtain ⟨i, hi, rfl⟩ := Option.map_eq_some_iff.mp h
    exact .int64 (asInt64?_eq_some_iff.mp hi)
  | float =>
    obtain ⟨f, hf, rfl⟩ := Option.map_eq_some_iff.mp h
    cases v with
    | int i => cases hf; exact .floatOfInt i
    | float _ => cases hf; exact .float f
    | bool b => cases hf; exact .floatOfBool b
    | string s => exact .floatOfText hf
    | _ => cases hf
  | char =>
    obtain ⟨c, hc, rfl⟩ := Option.map_eq_some_iff.mp h
    cases v with
    | char _ => cases hc; exact .char c
    | int i => exact .charOfInt (charOfCode?_eq_some_iff.mp hc)
    | string s =>
      obtain rfl := onlyChar?_eq_some_iff.mp hc
      exact .charOfText c
    | _ => cases hc
  | string =>
    obtain ⟨s, hs, rfl⟩ := Option.map_eq_some_iff.mp h
    cases v with
    | bool b => cases hs; exact .textOfBool b
    | int i => cases hs; exact .textOfInt i
    | float f => cases hs; exact .textOfFloat f
    | char c => cases hs; exact .textOfChar c
    | string _ => cases hs; exact .string s
    | _ => cases hs
  | array =>
    cases v with
    | array items => cases h; exact .array items
    | _ => cases h
  | object =>
    cases v with
    | object fields => cases h; exact .object fields
    | _ => cases h

theorem Converts.coerce_eq (h : Converts t v w) : v.coerce t = .ok w := by
  have hconvert (hnil : v.isNil = false) (h : v.convert? t = some w) : v.coerce t = .ok w := by
    rw [coerce, hnil, if_neg Bool.false_ne_true, h]
  cases h with
  | any v =>
    cases v with
    | nil => rfl
    | _ => rfl
  | boolOfText h =>
    refine hconvert rfl ?_
    rw [convert?, asBool?_string_eq_some_iff.mpr h]
    rfl
  | int32 h least greatest =>
    refine hconvert h.isNil_eq_false ?_
    rw [convert?, asInt32?_eq_some_iff.mpr ⟨h, least, greatest⟩]
    rfl
  | int64 h =>
    refine hconvert h.isNil_eq_false ?_
    rw [convert?, asInt64?_eq_some_iff.mpr h]
    rfl
  | floatOfText h =>
    refine hconvert rfl ?_
    rw [convert?, asFloat?, trimmed, h]
    rfl
  | charOfInt h =>
    refine hconvert rfl ?_
    rw [convert?, asChar?, charOfCode?_eq_some_iff.mpr h]
    rfl
  | charOfText c =>
    refine hconvert rfl ?_
    rw [convert?, asChar?, onlyChar?_eq_some_iff.mpr rfl]
    rfl
  | _ => rfl

theorem coerce_eq_ok_iff : v.coerce t = .ok w ↔ Converts t v w := by
  refine ⟨fun h => ?_, Converts.coerce_eq⟩
  unfold coerce at h
  split at h
  next hnil =>
    cases h
    cases v with
    | nil => exact .nil t
    | _ => cases hnil
  next =>
    split at h
    next u hu =>
      cases h
      exact converts_of_convert? hu
    next => cases h

theorem Converts.unique (hu : Converts t v u) (hw : Converts t v w) : u = w :=
  Except.ok.inj (hu.coerce_eq.symm.trans hw.coerce_eq)

theorem eq_of_coerce_eq_error (h : v.coerce t = .error u) : u = v := by
  unfold coerce at h
  split at h
  next => cases h
  next =>
    split at h
    next => cases h
    next =>
      cases h
      rfl

/-- What does not convert is handed back. -/
theorem coerce_eq_error_iff : v.coerce t = .error u ↔ u = v ∧ ∀ w, ¬Converts t v w := by
  constructor
  · intro h
    exact ⟨eq_of_coerce_eq_error h, fun w hw => nomatch h.symm.trans hw.coerce_eq⟩
  · rintro ⟨rfl, hnone⟩
    cases h : u.coerce t with
    | ok w => exact absurd (coerce_eq_ok_iff.mp h) (hnone w)
    | error w => rw [eq_of_coerce_eq_error h]

end LiquidEval.Value
