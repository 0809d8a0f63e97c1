import LiquidEval.Proofs.Operator.Comparison
import LiquidEval.Proofs.Value.Equality

/-! What the operators mean that ask whether a value is in another, or at its start or end. A text
has texts in it, and an array has items, of which the first and the last are compared more loosely
where the ends are asked for. -/
namespace LiquidEval

namespace Text

theorem hasInfix_iff {part s : List Char} : hasInfix part s = true ↔ part <:+: s := by
  induction s with
  | nil => rw [hasInfix, List.isEmpty_iff, List.infix_nil]
  | cons c s ih =>
    rw [hasInfix, Bool.or_eq_true, List.isPrefixOf_iff_prefix, ih, List.infix_cons_iff]

theorem contains_iff {s part : String} : contains s part = true ↔ ∃ p q, s = p ++ part ++ q := by
  rw [contains, hasInfix_iff]
  constructor
  · rintro ⟨p, q, h⟩
    refine ⟨.ofList p, .ofList q, ?_⟩
    rw [← String.toList_inj, String.toList_append, String.toList_append, String.toList_ofList,
      String.toList_ofList, h]
  · rintro ⟨p, q, rfl⟩
    exact ⟨p.toList, q.toList, by rw [String.toList_append, String.toList_append]⟩

theorem startsWith_iff {s part : String} : startsWith s part = true ↔ ∃ q, s = part ++ q := by
  rw [startsWith, List.isPrefixOf_iff_prefix]
  constructor
  · rintro ⟨q, h⟩
    refine ⟨.ofList q, ?_⟩
    rw [← String.toList_inj, String.toList_append, String.toList_ofList, h]
  · rintro ⟨q, rfl⟩
    exact ⟨q.toList, by rw [String.toList_append]⟩

theorem endsWith_iff {s part : String} : endsWith s part = true ↔ ∃ p, s = p ++ part := by
  rw [endsWith, List.isSuffixOf_iff_suffix]
  constructor
  · rintro ⟨p, h⟩
    refine ⟨.ofList p, ?_⟩
    rw [← String.toList_inj, String.toList_append, String.toList_ofList, h]
  · rintro ⟨p, rfl⟩
    exact ⟨p.toList, by rw [String.toList_append]⟩

end Text

namespace Value
variable {H : Type} [Host H]

/-- The text that is sought for a value: that of a scalar, or what a drop says of itself. -/
def HasText (v : Value H) (t : String) : Prop := v.scalarText? = some t ∨ v.dropText? = some t

theorem operandText?_eq_some_iff {v : Value H} {t : String} :
    v.operandText? = some t ↔ v.HasText t := by
  unfold HasText
  cases v with
  | entry id key value => exact (or_iff_right nofun).symm
  | host id h => exact (or_iff_right nofun).symm
  | nil | array | object => exact (or_self_iff).symm
  | _ => exact (or_iff_left nofun).symm

theorem any_operandText? {v : Value H} {p : String → Bool} :
    v.operandText?.any p = true ↔ ∃ t, v.HasText t ∧ p t = true := by
  simp only [Option.any_eq_true, operandText?_eq_some_iff]

/-- The item at an end of an array is what is sought, or is a scalar of that text. -/
def LooselyIs (element operand : Value H) : Prop :=
  element.equals operand = true ∨ ∃ s, operand = string s ∧ element.scalarText? = some s

theorem looselyEquals_iff {element operand : Value H} :
    element.looselyEquals operand = true ↔ element.LooselyIs operand := by
  unfold looselyEquals LooselyIs
  rw [Bool.or_eq_true]
  refine or_congr_right ?_
  cases operand with
  | string s => simp [beq_iff_eq]
  | _ => exact iff_of_false Bool.false_ne_true nofun

omit [Host H] in
theorem isNil_eq_false {v : Value H} (h : v ≠ nil) : v.isNil = false := by
  cases v with
  | nil => exact absurd rfl h
  | _ => rfl

end Value

namespace Operators
open Value
variable {H : Type} [Host H] {token : String} {w : View H} {l r : Value H}

/-- The names of the operators that look at an end of a value; both of them go by two names. -/
def ends : List String := ["startsWith", "endsWith", "startswith", "endswith"]

def memberships : List String := "contains" :: ends

theorem get?_builtin_of_mem_ends (h : token ∈ ends) :
    Table.get? (builtin : Operators H) token = some (fun l r _ => startsWith l r) ∨
      Table.get? (builtin : Operators H) token = some (fun l r _ => endsWith l r) := by
  simp only [ends, List.mem_cons, List.not_mem_nil, or_false] at h
  rcases h with rfl | rfl | rfl | rfl
  · exact .inl rfl
  · exact .inr rfl
  · exact .inl rfl
  · exact .inr rfl

theorem get?_builtin_of_mem_memberships (h : token ∈ memberships) :
    Table.get? (builtin : Operators H) token = some (fun l r w => containsValue w l r) ∨
      Table.get? (builtin : Operators H) token = some (fun l r _ => startsWith l r) ∨
      Table.get? (builtin : Operators H) token = some (fun l r _ => endsWith l r) := by
  rcases List.mem_cons.mp h with rfl | h
  · exact .inl rfl
  · exact .inr (get?_builtin_of_mem_ends h)

theorem membership_fails_iff_not_holds (h : token ∈ memberships) :
    Fails w token l r ↔ ¬Holds w token l r := by
  rcases get?_builtin_of_mem_memberships (H := H) h with h | h | h
  · exact fails_iff_not_holds h
  · exact fails_iff_not_holds h
  · exact fails_iff_not_holds h

/-- Nil is in nothing, and in nil is nothing. -/
theorem membership_fails_of_nil (h : token ∈ memberships) (hnil : l = nil ∨ r = nil) :
    Fails w token l r := by
  rcases get?_builtin_of_mem_memberships (H := H) h with h | h | h
  · rw [fails_iff h]
    unfold containsValue
    rcases hnil with rfl | rfl
    · exact ite_self false
    · rfl
  · rw [fails_iff h]
    unfold startsWith
    rcases hnil with rfl | rfl
    · exact ite_self false
    · rfl
  · rw [fails_iff h]
    unfold endsWith
    rcases hnil with rfl | rfl
    · exact ite_self false
    · rfl

section Text
variable (hr : r ≠ nil) (s : String)
include hr

theorem holds_contains_string :
    Holds w "contains" (string s) r ↔ ∃ t, r.HasText t ∧ ∃ p q, s = p ++ t ++ q := by
  rw [holds_iff rfl]
  unfold containsValue
  rw [isNil_eq_false hr, if_neg Bool.false_ne_true, any_operandText?]
  simp only [Text.contains_iff]

theorem holds_startsWith_string :
    Holds w "startsWith" (string s) r ↔ ∃ t, r.HasText t ∧ ∃ q, s = t ++ q := by
  rw [holds_iff rfl]
  unfold startsWith
  rw [isNil_eq_false hr, if_neg Bool.false_ne_true, any_operandText?]
  simp only [Text.startsWith_iff]

theorem holds_endsWith_string :
    Holds w "endsWith" (string s) r ↔ ∃ t, r.HasText t ∧ ∃ p, s = p ++ t := by
  rw [holds_iff rfl]
  unfold endsWith
  rw [isNil_eq_false hr, if_neg Bool.false_ne_true, any_operandText?]
  simp only [Text.endsWith_iff]

/-- What stands at an end of a text is in it. -/
theorem holds_contains_string_of_ends
    (h : Holds w "startsWith" (string s) r ∨ Holds w "endsWith" (string s) r) :
    Holds w "contains" (string s) r := by
  rw [holds_contains_string hr]
  rcases h with h | h
  · obtain ⟨t, ht, q, hq⟩ := (holds_startsWith_string hr s).mp h
    exact ⟨t, ht, "", q, by rw [hq, String.empty_append]⟩
  · obtain ⟨t, ht, p, hp⟩ := (holds_endsWith_string hr s).mp h
    exact ⟨t, ht, p, "", by rw [hp, String.append_empty]⟩

end Text

section Items
variable (hr : r ≠ nil) (items : List (Value H))
include hr

theorem holds_contains_array :
    Holds w "contains" (array items) r ↔
      ∃ (i : Nat) (x : Value H), items[i]? = some x ∧ x.equals r = true := by
  rw [holds_iff rfl]
  unfold containsValue
  rw [isNil_eq_false hr, if_neg Bool.false_ne_true, List.any_eq_true]
  simp only [List.mem_iff_getElem?, ← exists_and_right]
  exact exists_comm

theorem holds_startsWith_array :
    Holds w "startsWith" (array items) r ↔ ∃ x, items.head? = some x ∧ x.LooselyIs r := by
  rw [holds_iff rfl]
  unfold startsWith
  rw [isNil_eq_false hr, if_neg Bool.false_ne_true, Option.any_eq_true]
  simp only [looselyEquals_iff]

theorem holds_endsWith_array :
    Holds w "endsWith" (array items) r ↔ ∃ x, items.getLast? = some x ∧ x.LooselyIs r := by
  rw [holds_iff rfl]
  unfold endsWith
  rw [isNil_eq_false hr, if_neg Bool.false_ne_true, Option.any_eq_true]
  simp only [looselyEquals_iff]

/-- Only a string may stand at an end of an array and be none of its items. -/
theorem holds_contains_array_of_ends (hstring : ∀ s, r ≠ string s)
    (h : Holds w "startsWith" (array items) r ∨ Holds w "endsWith" (array items) r) :
    Holds w "contains" (array items) r := by
  have hitem (x : Value H) (hx : x ∈ items) (hloose : x.LooselyIs r) :
      Holds w "contains" (array items) r := by
    obtain ⟨i, hi⟩ := List.mem_iff_getElem?.mp hx
    refine (holds_contains_array hr items).mpr ⟨i, x, hi, ?_⟩
    exact hloose.resolve_right fun ⟨s, hs, _⟩ => hstring s hs
  rcases h with h | h
  · obtain ⟨x, hx, hloose⟩ := (holds_startsWith_array hr items).mp h
    exact hitem x (List.mem_of_head? hx) hloose
  · obtain ⟨x, hx, hloose⟩ := (holds_endsWith_array hr items).mp h
    exact hitem x (List.mem_of_getLast? hx) hloose

end Items

/-- Only strings and arrays have a start and an end. -/
theorem ends_fail_of_other (hstring : ∀ s, l ≠ string s) (harray : ∀ items, l ≠ array items)
    (h : token ∈ ends) : Fails w token l r := by
  rcases get?_builtin_of_mem_ends (H := H) h with h | h
  · rw [fails_iff h]
    cases l with
    | string s => exact absurd rfl (hstring s)
    | array items => exact absurd rfl (harray items)
    | _ => exact ite_self false
  · rw [fails_iff h]
    cases l with
    | string s => exact absurd rfl (hstring s)
    | array items => exact absurd rfl (harray items)
    | _ => exact ite_self false

theorem contains_fails_of_scalar (hstring : ∀ s, l ≠ string s) (hl : l.isScalar = true) :
    Fails w "contains" l r := by
  refine (fails_iff rfl).mpr ?_
  cases l with
  | array | object | entry | host => cases hl
  | string s => exact absurd rfl (hstring s)
  | _ => exact ite_self false

/-- What the membership operators answer. Of a text they are about the text of the other value, of
an array about equal items, and of anything else but maps and drops they are false. Nil is a member
of nothing. -/
theorem membership_by_definition (w : View H) (r : Value H) :
    (∀ l, ∀ token ∈ memberships, Fails w token l r ↔ ¬Holds w token l r) ∧
    (∀ l, (Holds w "startswith" l r ↔ Holds w "startsWith" l r) ∧
      (Holds w "endswith" l r ↔ Holds w "endsWith" l r)) ∧
    (∀ l, l = nil ∨ r = nil → ∀ token ∈ memberships, Fails w token l r) ∧
    (r ≠ nil → ∀ s,
      (Holds w "contains" (string s) r ↔ ∃ t, r.HasText t ∧ ∃ p q, s = p ++ t ++ q) ∧
      (Holds w "startsWith" (string s) r ↔ ∃ t, r.HasText t ∧ ∃ q, s = t ++ q) ∧
      (Holds w "endsWith" (string s) r ↔ ∃ t, r.HasText t ∧ ∃ p, s = p ++ t) ∧
      (Holds w "startsWith" (string s) r ∨ Holds w "endsWith" (string s) r →
        Holds w "contains" (string s) r)) ∧
    (r ≠ nil → ∀ items : List (Value H),
      (Holds w "contains" (array items) r ↔
        ∃ (i : Nat) (x : Value H), items[i]? = some x ∧ x.equals r = true) ∧
      (Holds w "startsWith" (array items) r ↔ ∃ x, items.head? = some x ∧ x.LooselyIs r) ∧
      (Holds w "endsWith" (array items) r ↔ ∃ x, items.getLast? = some x ∧ x.LooselyIs r) ∧
      ((∀ s, r ≠ string s) →
        Holds w "startsWith" (array items) r ∨ Holds w "endsWith" (array items) r →
        Holds w "contains" (array items) r)) ∧
    ∀ l, (∀ s, l ≠ string s) →
      (l.isScalar = true → Fails w "contains" l r) ∧
      ((∀ items, l ≠ array items) → ∀ token ∈ ends, Fails w token l r) := by
  refine ⟨fun l token h => membership_fails_iff_not_holds h, ?_,
    fun l hnil token h => membership_fails_of_nil h hnil, ?_, ?_, ?_⟩
  · intro l
    exact ⟨(holds_iff rfl).trans (holds_iff rfl).symm, (holds_iff rfl).trans (holds_iff rfl).symm⟩
  · intro hr s
    exact ⟨holds_contains_string hr s, holds_startsWith_string hr s, holds_endsWith_string hr s,
      holds_contains_string_of_ends hr s⟩
  · intro hr items
    exact ⟨holds_contains_array hr items, holds_startsWith_array hr items,
      holds_endsWith_array hr items, holds_contains_array_of_ends hr items⟩
  · intro l hstring
    exact ⟨contains_fails_of_scalar hstring, fun harray token => ends_fail_of_other hstring harray⟩

/-- A drop is sought by its text, and a string is taken for a scalar of that text at the ends of an
array only. -/
theorem membership_by_definition_of_loose_end :
    let w : View Sample.Object := .flat ⟨.ruby, []⟩
    let car : Value Sample.Object := .host .unnamed (.car "Saab" "900")
    let items : List (Value Sample.Object) := [.bool true, .int 3]
    Holds w "contains" (.string "my Saab 900!") car ∧
      Holds w "startsWith" (.array items) (.string "true") ∧
      Fails w "contains" (.array items) (.string "true") ∧ Fails w "startswith" (.int 3) car := by
  intro w car items
  obtain ⟨-, -, -, hstring, -, hother⟩ := membership_by_definition w car
  obtain ⟨hfails, -, -, -, harray, -⟩ := membership_by_definition w (.string "true")
  obtain ⟨hcontains, -⟩ := hstring nofun "my Saab 900!"
  obtain ⟨hitems, hstarts, -, -⟩ := harray nofun items
  refine ⟨hcontains.mpr ⟨"Saab 900", .inr rfl, "my ", "!", rfl⟩,
    hstarts.mpr ⟨.bool true, rfl, .inr ⟨"true", rfl, rfl⟩⟩, ?_, ?_⟩
  · rw [hfails _ "contains" (by decide), hitems]
    rintro ⟨i, x, hx, hequal⟩
    have hall : ∀ x ∈ items, x.equals (.string "true") = false := by
      intro x hx
      rcases List.mem_pair.mp hx with rfl | rfl <;> rfl
    rw [hall x (List.mem_of_getElem? hx)] at hequal
    cases hequal
  · exact (hother (.int 3) nofun).2 nofun "startswith" (by decide)

end Operators
end LiquidEval
