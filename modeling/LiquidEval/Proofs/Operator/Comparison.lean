import LiquidEval.Context.Lookup
import LiquidEval.Operator
import LiquidEval.Proofs.Value.Ordering
import LiquidEval.Sample.Objects

/-! What the operators answer that every process starts with, and how those that compare go
together. Of values that have an order, one is less than, equal to or greater than the other; of
values that have none, nothing of the kind holds. Besides numbers and strings, characters are
ordered too. -/
namespace LiquidEval.Operators
open Value
variable {H : Type} [Host H]

/-- The operator that stands under a name from the start holds of two values. -/
def Holds (w : View H) (token : String) (l r : Value H) : Prop :=
  (builtin : Operators H).apply token l r w = .ok true

/-- It answers, and it does not hold. -/
def Fails (w : View H) (token : String) (l r : Value H) : Prop :=
  (builtin : Operators H).apply token l r w = .ok false

/-- The names of the operators that ask for the order of two values. -/
def comparisons : List String := ["<", ">", "<=", ">="]

section
variable {w : View H} {token : String} {p : Predicate H} {l r : Value H}

/-- The exact name is found under every naming convention. -/
theorem apply_builtin (h : Table.get? (builtin : Operators H) token = some p) (w : View H)
    (l r : Value H) : (builtin : Operators H).apply token l r w = .ok (p l r w) := by
  unfold apply find?
  rw [h]

theorem holds_iff (h : Table.get? (builtin : Operators H) token = some p) :
    Holds w token l r ↔ p l r w = true := by
  rw [Holds, apply_builtin h, Except.ok.injEq]

theorem fails_iff (h : Table.get? (builtin : Operators H) token = some p) :
    Fails w token l r ↔ p l r w = false := by
  rw [Fails, apply_builtin h, Except.ok.injEq]

theorem fails_iff_not_holds (h : Table.get? (builtin : Operators H) token = some p) :
    Fails w token l r ↔ ¬Holds w token l r := by
  rw [holds_iff h, fails_iff h, Bool.not_eq_true]

/-- Each of them accepts some orders. -/
theorem exists_isOrdered_of_mem (h : token ∈ comparisons) :
    ∃ accept, Table.get? (builtin : Operators H) token =
      some fun l r _ => isOrdered accept l r := by
  simp only [comparisons, List.mem_cons, List.not_mem_nil, or_false] at h
  rcases h with rfl | rfl | rfl | rfl
  · exact ⟨Ordering.isLT, rfl⟩
  · exact ⟨Ordering.isGT, rfl⟩
  · exact ⟨Ordering.isLE, rfl⟩
  · exact ⟨Ordering.isGE, rfl⟩

/-- Without an order none of them holds, whichever of the two values is on the left. -/
theorem fails_of_compare?_eq_none (w : View H) (h : token ∈ comparisons)
    (hnone : compare? l r = none) : Fails w token l r ∧ Fails w token r l := by
  obtain ⟨accept, htoken⟩ := exists_isOrdered_of_mem (H := H) h
  have hnone' : compare? r l = none := by rw [compare?_swap l r, hnone, Option.map_none]
  rw [fails_iff htoken, fails_iff htoken, isOrdered, isOrdered, hnone, hnone']
  exact ⟨rfl, rfl⟩

/-- Where there is an order, five operators look at nothing else. -/
theorem apply_of_compare? {o : Ordering} (h : compare? l r = some o) (w : View H) :
    builtin.apply "<" l r w = .ok o.isLT ∧ builtin.apply ">" l r w = .ok o.isGT ∧
      builtin.apply "<=" l r w = .ok o.isLE ∧ builtin.apply ">=" l r w = .ok o.isGE ∧
      builtin.apply "==" l r w = .ok o.isEq := by
  have hordered (accept : Ordering → Bool) : isOrdered accept l r = accept o := by
    rw [isOrdered, h, Option.any_some]
  refine ⟨?_, ?_, ?_, ?_, ?_⟩
  · rw [apply_builtin rfl, hordered]
  · rw [apply_builtin rfl, hordered]
  · rw [apply_builtin rfl, hordered]
  · rw [apply_builtin rfl, hordered]
  · rw [apply_builtin rfl, equals_eq_isEq h]

end

/-- The operators that compare two values agree with one another, with equality, and with the same
operators on the two values taken the other way round. -/
theorem order_coherent_with_equality (w : View H) (l r : Value H) :
    compare? r l = (compare? l r).map Ordering.swap ∧
    (Holds w "<" l r ↔ Holds w ">" r l) ∧
    (∀ token ∈ comparisons, Fails w token l r ↔ ¬Holds w token l r) ∧
    ((compare? l r).isSome = true →
      (Holds w "<" l r ∧ Fails w "==" l r ∧ Fails w ">" l r ∨
        Fails w "<" l r ∧ Holds w "==" l r ∧ Fails w ">" l r ∨
        Fails w "<" l r ∧ Fails w "==" l r ∧ Holds w ">" l r) ∧
      (Holds w "<=" l r ↔ Holds w "<" l r ∨ Holds w "==" l r) ∧
      (Holds w ">=" l r ↔ Holds w ">" l r ∨ Holds w "==" l r)) ∧
    (compare? l r = none →
      ∀ token ∈ comparisons, Fails w token l r ∧ Fails w token r l) := by
  have hswap := compare?_swap l r
  refine ⟨hswap, ?_, ?_, ?_, ?_⟩
  · rw [holds_iff rfl, holds_iff rfl, isOrdered, isOrdered, hswap]
    cases compare? l r with
    | none => rfl
    | some o => cases o <;> rfl
  · intro token htoken
    obtain ⟨accept, h⟩ := exists_isOrdered_of_mem (H := H) htoken
    exact fails_iff_not_holds h
  · intro hsome
    obtain ⟨o, ho⟩ := Option.isSome_iff_exists.mp hsome
    obtain ⟨hlt, hgt, hle, hge, heq⟩ := apply_of_compare? ho w
    simp only [Holds, Fails, hlt, hgt, hle, hge, heq, Except.ok.injEq]
    cases o <;> decide
  · exact fun hnone token htoken => fails_of_compare?_eq_none w htoken hnone

/-- An integer and a float have an order, not-a-number and a float have none. -/
theorem order_coherent_with_equality_of_mixed :
    let w : View Sample.Object := .flat ⟨.ruby, []⟩
    let one : Value Sample.Object := .int 1
    let half : Value Sample.Object := .float 0.5
    let nan : Value Sample.Object := .float (.ofBits 0x7ff8000000000000)
    Holds w ">=" one half ∧ Holds w "<" half one ∧ Fails w "<=" nan half ∧
      Fails w "<=" half nan := by
  intro w one half nan
  have horder : compare? one half = some .gt := by decide +kernel
  have hnone : compare? nan half = none := by decide +kernel
  obtain ⟨-, -, -, hsome, -⟩ := order_coherent_with_equality w one half
  obtain ⟨-, -, hge⟩ := hsome (by rw [horder]; rfl)
  obtain ⟨-, hflip, -⟩ := order_coherent_with_equality w half one
  obtain ⟨-, -, -, -, hfails⟩ := order_coherent_with_equality w nan half
  have hgreater : Holds w ">" one half := (holds_iff rfl).mpr (by decide +kernel)
  obtain ⟨hnan, hnan'⟩ := hfails hnone "<=" (by decide)
  exact ⟨hge.mpr (.inl hgreater), hflip.mpr hgreater, hnan, hnan'⟩

/-- Characters are ordered as their code points are, so of two characters one of the operators
always holds. -/
theorem holds_of_chars (w : View H) (c d : Char) :
    (Holds w "<" (char c) (char d) ↔ c < d) ∧ (Holds w ">" (char c) (char d) ↔ d < c) ∧
      (Holds w "<=" (char c) (char d) ↔ c ≤ d) ∧ (Holds w ">=" (char c) (char d) ↔ d ≤ c) := by
  have horder : compare? (char c : Value H) (char d) = some (compare c d) := rfl
  obtain ⟨hlt, hgt, hle, hge, -⟩ := apply_of_compare? horder w
  simp only [Holds, hlt, hgt, hle, hge, Except.ok.injEq]
  refine ⟨?_, ?_, Std.LawfulBCmp.isLE_iff_le, Std.LawfulLECmp.isGE_iff_ge⟩
  · rw [Ordering.isLT_iff_eq_lt, compare_lt_iff_lt]
  · rw [Ordering.isGT_iff_eq_gt, compare_gt_iff_gt]

/-- Of two values that are neither both numbers nor both strings no comparison holds, unless both
are characters; those are ordered as their code points are. -/
theorem unordered_iff_not_characters (w : View H) {l r : Value H}
    (hnumbers : ¬(l.isNumber = true ∧ r.isNumber = true))
    (hstrings : ∀ s t, l = string s → r ≠ string t) :
    ((∀ token ∈ comparisons, Fails w token l r ∧ Fails w token r l) ↔
      ¬∃ c d, l = char c ∧ r = char d) ∧
    ∀ c d, l = char c → r = char d →
      (Holds w "<" l r ↔ c < d) ∧ (Holds w ">" l r ↔ d < c) ∧
        (Holds w "<=" l r ↔ c ≤ d) ∧ (Holds w ">=" l r ↔ d ≤ c) := by
  refine ⟨⟨?_, ?_⟩, ?_⟩
  · rintro hfails ⟨c, d, rfl, rfl⟩
    obtain ⟨-, -, hle, hge⟩ := holds_of_chars w c d
    have hfalse (token : String) (h : token ∈ comparisons) : ¬Holds w token (char c) (char d) := by
      intro hholds
      cases Except.ok.inj (hholds.symm.trans (hfails token h).1)
    rcases le_total c d with h | h
    · exact hfalse "<=" (by decide) (hle.mpr h)
    · exact hfalse ">=" (by decide) (hge.mpr h)
  · intro hchars token htoken
    refine fails_of_compare?_eq_none w htoken (compare?_eq_none fun hcomparable => ?_)
    cases hcomparable with
    | strings s t => exact hstrings s t rfl rfl
    | chars c d => exact hchars ⟨c, d, rfl, rfl⟩
    | _ => exact hnumbers ⟨rfl, rfl⟩
  · rintro c d rfl rfl
    exact holds_of_chars w c d

theorem unordered_iff_not_characters_of_text_and_number :
    let w : View Sample.Object := .flat ⟨.ruby, []⟩
    let two : Value Sample.Object := .string "2"
    let one : Value Sample.Object := .int 1
    let letter : Value Sample.Object := .char 'b'
    (∀ token ∈ comparisons, Fails w token two one ∧ Fails w token one two) ∧
      Holds w ">=" letter letter := by
  intro w two one letter
  constructor
  · obtain ⟨hunordered, -⟩ := unordered_iff_not_characters w (l := two) (r := one) (by decide) nofun
    exact hunordered.mpr nofun
  · obtain ⟨-, horder⟩ :=
      unordered_iff_not_characters w (l := letter) (r := letter) (by decide) nofun
    obtain ⟨-, -, -, hge⟩ := horder 'b' 'b' rfl rfl
    exact hge.mpr (le_refl 'b')

/-- The first letters of two words are characters, not strings, and still one is less than the
other. -/
theorem first_letters_ordered :
    let w : View Sample.Object := .flat ⟨.ruby, []⟩
    let a : Value Sample.Object := lookup w (.string "apple") (.string "first")
    let b : Value Sample.Object := lookup w (.string "banana") (.string "first")
    ¬(a.isNumber = true ∧ b.isNumber = true) ∧ (∀ s t, a = string s → b ≠ string t) ∧
      Holds w "<" a b := by
  intro w a b
  have ha : a = char 'a' := rfl
  have hb : b = char 'b' := rfl
  rw [ha, hb]
  exact ⟨by decide, nofun, (holds_iff rfl).mpr (by decide +kernel)⟩

end LiquidEval.Operators
