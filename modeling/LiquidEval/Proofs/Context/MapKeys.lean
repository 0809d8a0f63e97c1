import LiquidEval.Proofs.Context.Undefined
import LiquidEval.Proofs.Decimal.LeadingZeros
import LiquidEval.Proofs.Expr.Tree
import LiquidEval.Proofs.Value.Members

/-! Two ways to a field of a map: its name behind a dot, and its name as a string between brackets.
Digits behind a dot are a number, and a map is asked for a number by the digits that it is printed
with, so the zeros in front of it are lost. -/
namespace LiquidEval

namespace Expr.Segment
open Decimal

/-- The name that a segment spells. -/
def name (s : Segment) : String := String.ofList s.text

/-- The segment is a number, and it has zeros in front. -/
def Padded (s : Segment) : Prop := s.IsIndex ∧ s.word.head? = some '0' ∧ s.word ≠ ['0']

instance (s : Segment) : Decidable s.Padded := inferInstanceAs (Decidable (_ ∧ _ ∧ _))

/-- The name that a map is asked for. -/
def asked (s : Segment) : String :=
  if s.IsIndex then String.ofList (Nat.toDigits 10 (naturalOf s.word)) else s.name

theorem text_of_isIndex {s : Segment} (h : s.IsIndex) : s.text = s.word := by
  rw [text, mark, h.1, if_neg Bool.false_ne_true, List.append_nil]

theorem asked_eq_name_iff (s : Segment) : s.asked = s.name ↔ ¬s.Padded := by
  unfold asked
  split
  next h =>
    have hdigits : Digits s.word := ⟨s.word_ne_nil, h.2.1⟩
    rw [name, text_of_isIndex h, String.ofList_inj, toDigits_naturalOf_eq_iff hdigits, Padded]
    tauto
  next h =>
    exact iff_of_true rfl fun hpadded => h hpadded.1

theorem quote_not_mem_text (s : Segment) : '\'' ∉ s.text := by
  have hquote : isWord '\'' = false := by decide
  intro h
  rcases List.mem_append.mp h with hword | hmark
  · rw [s.words _ hword] at hquote
    cases hquote
  · rcases s.isMark with hnone | hquestion
    · rw [hnone] at hmark
      cases hmark
    · rw [hquestion] at hmark
      exact absurd (List.mem_singleton.mp hmark) (by decide)

end Expr.Segment

theorem Expr.ofText_of_derives {e : Expr} {text : String} (h : Derives (.expr e) text.toList) :
    ofText text = .ok e := by
  obtain ⟨d, htext, rfl⟩ := derives_iff_exists_tree.mp h
  exact ofText_of_tree d htext

namespace Value
variable {H : Type} [Host H]

theorem intText_ofInt {n : Nat} (h : Decimal.fitsInt64 n = true) :
    intText (Int64.ofInt n) = String.ofList (Nat.toDigits 10 n) := by
  rw [intText, Decimal.toInt_ofInt_of_fitsInt64 h]
  rfl

end Value

namespace Context
variable {H : Type} [Host H] (c : Context H)

theorem follow_singleton {l : Lookup} {key : Value H} (h : c.keyOf l = .ok key)
    (current : Value H) :
    c.follow current [l] = .ok (current.lookup c.view key) := by
  rw [follow_cons_of_ok c h]
  split
  next hnil => rw [Value.eq_nil_of_isNil hnil]
  next => rw [follow]

theorem exists_keyOf_segment (s : Expr.Segment) :
    ∃ key, c.keyOf s.lookup = .ok key ∧ key.scalarText? = some s.asked := by
  unfold Expr.Segment.lookup Expr.Segment.asked
  split
  next h =>
    exact ⟨_, rfl, congrArg some (Value.intText_ofInt h.2.2)⟩
  next => exact ⟨_, rfl, rfl⟩

variable {root : String} {t : List Char} {fields : List (String × Value H)}

theorem resolve_dot (hroot : Expr.IsRoot root t) (hmap : c.get? root = some (.object fields))
    (s : Expr.Segment) :
    c.resolve (String.ofList t ++ "." ++ s.name) =
      .ok ((Value.mapField? fields s.asked).getD .nil) := by
  have hread : Expr.ofText (String.ofList t ++ "." ++ s.name) = .ok (.path root [s.lookup]) := by
    apply Expr.ofText_of_derives
    have hderives := Expr.Derives.path hroot (s.derives .done)
    simpa [Expr.Segment.name] using hderives
  obtain ⟨key, hkey, htext⟩ := exists_keyOf_segment c s
  rw [resolve, hread]
  dsimp only
  rw [evaluate, hmap, Option.getD_some, follow_singleton c hkey, Value.lookup_object, htext]
  rfl

theorem resolve_bracket (hroot : Expr.IsRoot root t) (hmap : c.get? root = some (.object fields))
    {name : List Char} (hname : '\'' ∉ name) :
    c.resolve (String.ofList t ++ "['" ++ String.ofList name ++ "']") =
      .ok ((Value.mapField? fields (String.ofList name)).getD .nil) := by
  have hread : Expr.ofText (String.ofList t ++ "['" ++ String.ofList name ++ "']") =
      .ok (.path root [.key (String.ofList name)]) := by
    apply Expr.ofText_of_derives
    have hstring := Expr.IsString.mk (.inr rfl) hname
    have hblanks : Expr.Blanks [] := by simp [Expr.Blanks]
    have hderives := Expr.Derives.path hroot
      (.bracket hblanks (.literal (.string hstring)) (.key _) hblanks .done)
    simpa [Expr.bracketLookup] using hderives
  rw [resolve, hread]
  dsimp only
  rw [evaluate, hmap, Option.getD_some, follow_singleton c rfl, Value.lookup_object]
  rfl

/-- A field is reached by a dot as by a bracket, under its own name or, behind a dot, under its
number without the zeros in front. -/
theorem dot_agrees_with_bracket (hroot : Expr.IsRoot root t)
    (hmap : c.get? root = some (.object fields)) (s : Expr.Segment) :
    (¬s.Padded → ∃ v, c.resolve (String.ofList t ++ "." ++ s.name) = .ok v ∧
      c.resolve (String.ofList t ++ "['" ++ s.name ++ "']") = .ok v) ∧
    (¬s.Padded → ∀ v, Table.get? fields s.name = some v →
      c.resolve (String.ofList t ++ "." ++ s.name) = .ok v) ∧
    (s.Padded → ∃ v, c.resolve (String.ofList t ++ "." ++ s.name) = .ok v ∧
      c.resolve (String.ofList t ++ "['" ++
        String.ofList (Nat.toDigits 10 (Decimal.naturalOf s.word)) ++ "']") = .ok v) := by
  have hdot := resolve_dot c hroot hmap s
  refine ⟨fun h => ⟨_, hdot, ?_⟩, fun h v hv => ?_, fun h => ⟨_, hdot, ?_⟩⟩
  · rw [s.asked_eq_name_iff.mpr h]
    exact resolve_bracket c hroot hmap s.quote_not_mem_text
  · rw [hdot, s.asked_eq_name_iff.mpr h, Value.mapField?, hv]
    rfl
  · have hquote : '\'' ∉ Nat.toDigits 10 (Decimal.naturalOf s.word) := fun hmem =>
      absurd ((Expr.Numeral.digits_toDigits _).2 _ hmem) (by decide)
    rw [Expr.Segment.asked, if_pos h.1]
    exact resolve_bracket c hroot hmap hquote

/-- A single zero is no zero in front, and digits behind a minus are a name. -/
theorem dot_agrees_with_bracket_at_digits :
    ∃ c : Context Sample.Object,
      c.get? "m" = some (.object [("0", .bool true), ("-05?", .int 5), ("7", .string "seven")]) ∧
      c.resolve "m.0" = .ok (.bool true) ∧
      (∃ v, c.resolve "m.-05?" = .ok v ∧ c.resolve "m['-05?']" = .ok v) ∧
      ∃ v, c.resolve "m.007" = .ok v ∧ c.resolve "m['7']" = .ok v := by
  let c : Context Sample.Object :=
    { naming := .ruby
      scopes :=
        ⟨[("m", .object [("0", .bool true), ("-05?", .int 5), ("7", .string "seven")])], []⟩ }
  let m : Expr.Name :=
    ⟨⟨['m'], false, by decide, List.all_eq_true.mp (by decide)⟩, by decide, by decide⟩
  let zero : Expr.Segment := ⟨['0'], false, by decide, List.all_eq_true.mp (by decide)⟩
  let minus : Expr.Segment := ⟨['-', '0', '5'], true, by decide, List.all_eq_true.mp (by decide)⟩
  let padded : Expr.Segment := ⟨['0', '0', '7'], false, by decide, List.all_eq_true.mp (by decide)⟩
  have hm : c.get? m.value = some (.object _) := rfl
  obtain ⟨-, hzero, -⟩ := dot_agrees_with_bracket c m.isRoot hm zero
  obtain ⟨hminus, -, -⟩ := dot_agrees_with_bracket c m.isRoot hm minus
  obtain ⟨-, -, hpadded⟩ := dot_agrees_with_bracket c m.isRoot hm padded
  have hzero := hzero (fun h => h.2.2 rfl) (.bool true) rfl
  have hminus := hminus fun h => Bool.noConfusion h.1.1
  have hindex : padded.IsIndex := ⟨rfl, List.all_eq_true.mp (by decide), by decide⟩
  have hpadded := hpadded ⟨hindex, rfl, by decide⟩
  have hdots : String.ofList m.text ++ "." ++ zero.name = "m.0" ∧
      String.ofList m.text ++ "." ++ minus.name = "m.-05?" ∧
      String.ofList m.text ++ "." ++ padded.name = "m.007" := by decide
  have hbrackets : String.ofList m.text ++ "['" ++ minus.name ++ "']" = "m['-05?']" ∧
      String.ofList m.text ++ "['" ++
        String.ofList (Nat.toDigits 10 (Decimal.naturalOf padded.word)) ++ "']" = "m['7']" := by
    decide
  rw [hdots.1] at hzero
  rw [hdots.2.1, hbrackets.1] at hminus
  rw [hdots.2.2, hbrackets.2] at hpadded
  exact ⟨c, rfl, hzero, hminus, hpadded⟩

/-- The number behind the dot is 7, and the map has no field of that name. -/
theorem padded_key_not_reached_by_dot :
    ∃ c : Context Sample.Object, c.get? "m" = some (.object [("007", .int 1)]) ∧
      c.resolve "m.007" = .ok .nil ∧ c.resolve "m['007']" = .ok (.int 1) := by
  let c : Context Sample.Object :=
    { naming := .ruby, scopes := ⟨[("m", .object [("007", .int 1)])], []⟩ }
  let m : Expr.Name :=
    ⟨⟨['m'], false, by decide, List.all_eq_true.mp (by decide)⟩, by decide, by decide⟩
  let padded : Expr.Segment := ⟨['0', '0', '7'], false, by decide, List.all_eq_true.mp (by decide)⟩
  have hm : c.get? m.value = some (.object [("007", .int 1)]) := rfl
  have hindex : padded.IsIndex := ⟨rfl, List.all_eq_true.mp (by decide), by decide⟩
  have hdot := resolve_dot c m.isRoot hm padded
  have hbracket := resolve_bracket c m.isRoot hm padded.quote_not_mem_text
  have htexts : String.ofList m.text ++ "." ++ padded.name = "m.007" ∧
      String.ofList m.text ++ "['" ++ String.ofList padded.text ++ "']" = "m['007']" ∧
      String.ofList (Nat.toDigits 10 (Decimal.naturalOf padded.word)) = "7" := by decide
  rw [Expr.Segment.asked, if_pos hindex, htexts.1, htexts.2.2] at hdot
  rw [htexts.2.1] at hbracket
  exact ⟨c, rfl, hdot, hbracket⟩

end Context
end LiquidEval
