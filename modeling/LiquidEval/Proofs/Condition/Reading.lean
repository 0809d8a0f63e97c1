import LiquidEval.Condition.Evaluation
import LiquidEval.Proofs.Expr.Reading

/-! Reading the comparisons of a condition. What is read are expressions and operators, and these
are read again from any text in which blanks separate them. -/
namespace LiquidEval
open LiquidEval.Expr (Derives stops skipBlanks)

/-- The text of an expression, from its first character to its last. -/
def IsOperand (text : String) : Prop := ∃ e, Derives (.expr e) text.toList

theorem IsOperand.startsSolid {text : String} (h : IsOperand text) :
    Expr.StartsSolid text.toList := by
  obtain ⟨e, he⟩ := h
  exact he.solidIn.1

/-- A symbol, or a word that does not join comparisons. -/
inductive IsOperator : List Char → Prop where
  | symbol {t : List Char} (h : t ∈ Markup.symbols) : IsOperator t
  | word {c : Char} {w : List Char} (hc : Expr.startsName c = true)
      (hw : ∀ d ∈ w, Markup.isOperatorWord d = true) (hand : c :: w ≠ "and".toList)
      (hor : c :: w ≠ "or".toList) : IsOperator (c :: w)

/-- Operator and right operand are both there or both missing. -/
inductive Comparison.Readable : Comparison → Prop where
  | bare {left : String} (hleft : IsOperand left) : Readable ⟨left, none, none⟩
  | tested {left operator right : String} (hleft : IsOperand left)
      (hoperator : IsOperator operator.toList) (hright : IsOperand right) :
      Readable ⟨left, some operator, some right⟩

/-- A printed comparison starts with its left operand. -/
theorem Comparison.Readable.exists_operand {x : Comparison} (h : x.Readable) :
    ∃ rest, IsOperand x.left ∧ x.print.toList = x.left.toList ++ rest := by
  cases h with
  | bare hleft => exact ⟨[], hleft, by simp [Comparison.print]⟩
  | @tested left operator right hleft _ _ =>
    refine ⟨(" " ++ operator ++ " " ++ right).toList, hleft, ?_⟩
    simp [Comparison.print, String.toList_append]

structure Markup.Readable (m : Markup) : Prop where
  head : m.head.Readable
  tail : ∀ link ∈ m.tail, link.2.Readable

namespace Markup

theorem operand?_sound {s rest : List Char} {text : String}
    (h : operand? s = some (text, rest)) : IsOperand text := by
  obtain ⟨⟨e, r⟩, hread, h⟩ := Option.map_eq_some_iff.mp h
  cases h
  obtain ⟨t, rfl, he⟩ := Expr.read?_sound hread
  have ht : (t ++ r).take ((t ++ r).length - r.length) = t := by simp
  dsimp only
  rw [ht, IsOperand, String.toList_ofList]
  exact ⟨e, he⟩

theorem operand?_complete {text : String} (h : IsOperand text) {rest : List Char}
    (hrest : stops rest = true) : operand? (text.toList ++ rest) = some (text, rest) := by
  obtain ⟨e, he⟩ := h
  simp [operand?, Expr.read?_complete he hrest]

theorem wordOperator?_sound {s operator rest : List Char}
    (h : wordOperator? s = some (operator, rest)) : IsOperator operator := by
  cases s with
  | nil => cases h
  | cons c s =>
    simp only [wordOperator?] at h
    split at h
    next hc =>
      split at h
      next => cases h
      next hword =>
        cases h
        simp only [Bool.or_eq_true, beq_iff_eq, not_or] at hword
        exact .word hc (Expr.forall_mem_takeWhile _ s) hword.1 hword.2
    next => cases h

theorem operator?_sound {s operator rest : List Char}
    (h : operator? s = some (operator, rest)) : IsOperator operator := by
  unfold operator? at h
  split at h
  next r hread =>
    cases h
    obtain ⟨before, symbol, after, hsplit, hsymbol, -⟩ := List.findSome?_eq_some_iff.mp hread
    obtain ⟨r, -, hr⟩ := Option.map_eq_some_iff.mp hsymbol
    cases hr
    exact .symbol (by rw [hsplit]; simp)
  next => exact wordOperator?_sound h

/-- No symbol starts like a name. -/
theorem symbols_startsName :
    ∀ symbol ∈ symbols, ∃ c w, symbol = c :: w ∧ Expr.startsName c = false := by
  have hall : ∀ symbol ∈ symbols, symbol.head?.any (fun c => !Expr.startsName c) = true := by
    decide +kernel
  intro symbol hsymbol
  obtain ⟨c, hc, hstart⟩ := (Option.any_eq_true _ _).mp (hall symbol hsymbol)
  obtain ⟨w, hw⟩ := List.head?_eq_some_iff.mp hc
  exact ⟨c, w, hw, by simpa using hstart⟩

theorem operator?_of_startsName {c : Char} (hc : Expr.startsName c = true) (s : List Char) :
    operator? (c :: s) = wordOperator? (c :: s) := by
  have hnone : (symbols.findSome? fun symbol =>
      (Expr.after? symbol (c :: s)).map (symbol, ·)) = none := by
    refine List.findSome?_eq_none_iff.mpr ?_
    intro symbol hsymbol
    obtain ⟨d, w, rfl, hd⟩ := symbols_startsName symbol hsymbol
    have hne : d ≠ c := by rintro rfl; rw [hc] at hd; cases hd
    simp [Expr.after?, hne]
  rw [operator?, hnone]

/-- Behind a word and a blank the word ends. -/
theorem word_takeWhile {w : List Char} (hw : ∀ d ∈ w, isOperatorWord d = true)
    (s : List Char) :
    (w ++ ' ' :: s).takeWhile isOperatorWord = w ∧
      (w ++ ' ' :: s).dropWhile isOperatorWord = ' ' :: s :=
  ⟨Expr.takeWhile_append_of_head hw rfl, Expr.dropWhile_append_of_head hw rfl⟩

theorem operator?_complete {operator : List Char} (h : IsOperator operator) (rest : List Char) :
    operator? (operator ++ ' ' :: rest) = some (operator, ' ' :: rest) := by
  cases h with
  | symbol h =>
    simp only [symbols, List.map_cons, List.map_nil, List.mem_cons, List.not_mem_nil,
      or_false] at h
    rcases h with rfl | rfl | rfl | rfl | rfl | rfl | rfl <;> rfl
  | @word c w hc hw hand hor =>
    obtain ⟨htake, hdrop⟩ := word_takeWhile hw rest
    have hjoins : (c :: w == "and".toList || c :: w == "or".toList) = false := by
      rw [Bool.or_eq_false_iff]
      exact ⟨beq_eq_false_iff_ne.mpr hand, beq_eq_false_iff_ne.mpr hor⟩
    rw [List.cons_append, operator?_of_startsName hc]
    simp only [wordOperator?, if_pos hc, htake, hdrop, hjoins]
    rfl

theorem test?_sound {s rest : List Char} {operator right : String}
    (h : test? s = some ((operator, right), rest)) :
    IsOperator operator.toList ∧ IsOperand right := by
  unfold test? at h
  split at h
  next op s' hoperator =>
    split at h
    next right' rest' hright =>
      cases h
      rw [String.toList_ofList]
      exact ⟨operator?_sound hoperator, operand?_sound hright⟩
    next => cases h
  next => cases h

theorem comparison?_sound {s rest : List Char} {x : Comparison}
    (h : comparison? s = some (x, rest)) : x.Readable := by
  unfold comparison? at h
  split at h
  next left s' hleft =>
    have hoperand := operand?_sound hleft
    split at h
    next operator right r htest =>
      cases h
      obtain ⟨hoperator, hright⟩ := test?_sound htest
      exact .tested hoperand hoperator hright
    next =>
      cases h
      exact .bare hoperand
  next => cases h

theorem link?_sound {s rest : List Char} {link : Logical × Comparison}
    (h : link? s = some (link, rest)) : link.2.Readable := by
  unfold link? at h
  repeat' split at h
  all_goals try cases h
  obtain ⟨⟨x, r⟩, hread, h⟩ := Option.map_eq_some_iff.mp h
  cases h
  exact comparison?_sound hread

theorem links_sound (fuel : Nat) (s : List Char) : ∀ link ∈ (links fuel s).1, link.2.Readable := by
  induction fuel generalizing s with
  | zero => simp [links]
  | succ fuel ih =>
    rw [links]
    split
    next link r h =>
      intro other hother
      rcases List.mem_cons.mp hother with rfl | hother
      · exact link?_sound h
      · exact ih r other hother
    next => simp

theorem read?_sound {s rest : List Char} {m : Markup} (h : read? s = some (m, rest)) :
    m.Readable := by
  unfold read? at h
  split at h
  next head s' hhead =>
    cases h
    exact ⟨comparison?_sound hhead, links_sound _ _⟩
  next => cases h

theorem ofChars_sound {s : List Char} {m : Markup} (h : ofChars s = .ok m) : m.Readable := by
  simp only [ofChars] at h
  split at h
  next => cases h
  next =>
    split at h
    next => cases h
    next m' rest hread =>
      split at h
      next =>
        cases h
        exact read?_sound hread
      next => cases h

/-- Reading an operand from its first character on does not skip any of it. -/
theorem skipBlanks_operand {text : String} (h : IsOperand text) (rest : List Char) :
    skipBlanks (' ' :: (text.toList ++ rest)) = text.toList ++ rest := by
  obtain ⟨e, he⟩ := h
  exact Expr.skipBlanks_derives (w := [' ']) (by simp [Expr.Blanks, Text.isBlank]) he rest

theorem isBlank_eq_false_of_isOperator {operator : List Char} (h : IsOperator operator)
    (rest : List Char) : (operator ++ rest).head?.any Text.isBlank = false := by
  cases h with
  | symbol h =>
    have hall : ∀ symbol ∈ symbols, symbol.head?.any (fun c => !Text.isBlank c) = true := by
      decide +kernel
    obtain ⟨c, hc, hblank⟩ := (Option.any_eq_true _ _).mp (hall _ h)
    obtain ⟨w, rfl⟩ := List.head?_eq_some_iff.mp hc
    simpa using hblank
  | @word c w hc _ _ _ =>
    have hword := Expr.isWord_of_startsName hc
    cases hblank : Text.isBlank c with
    | false => simpa using hblank
    | true => rw [Expr.isWord_eq_false_of_isBlank hblank] at hword; cases hword

theorem skipBlanks_operator {operator : List Char} (h : IsOperator operator)
    (rest : List Char) : skipBlanks (' ' :: (operator ++ rest)) = operator ++ rest :=
  Expr.skipBlanks_append (w := [' ']) (by simp [Expr.Blanks, Text.isBlank])
    (isBlank_eq_false_of_isOperator h rest)

theorem test?_complete {operator right : String} (hoperator : IsOperator operator.toList)
    (hright : IsOperand right) {rest : List Char} (hrest : stops rest = true) :
    test? (' ' :: (operator.toList ++ ' ' :: (right.toList ++ rest))) =
      some ((operator, right), rest) := by
  rw [test?, skipBlanks_operator hoperator, operator?_complete hoperator]
  dsimp only
  rw [skipBlanks_operand hright, operand?_complete hright hrest, String.ofList_toList]

theorem comparison?_complete {x : Comparison} (h : x.Readable) {rest : List Char}
    (hrest : stops rest = true) (htest : test? rest = none) :
    comparison? (x.print.toList ++ rest) = some (x, rest) := by
  cases h with
  | bare hleft =>
    rw [comparison?, Comparison.print, operand?_complete hleft hrest]
    dsimp only
    rw [htest]
  | @tested left operator right hleft hoperator hright =>
    have hprint : (Comparison.print ⟨left, some operator, some right⟩).toList ++ rest =
        left.toList ++ ' ' :: (operator.toList ++ ' ' :: (right.toList ++ rest)) := by
      simp [Comparison.print, String.toList_append]
    rw [hprint, comparison?, operand?_complete hleft (Expr.stops_blank rfl _)]
    dsimp only
    rw [test?_complete hoperator hright hrest]

theorem toList_printTail_cons (l : Logical) (x : Comparison) (tail : List (Logical × Comparison)) :
    (printTail ((l, x) :: tail)).toList =
      ' ' :: (l.text.toList ++ ' ' :: (x.print.toList ++ (printTail tail).toList)) := by
  simp [printTail, String.toList_append]

/-- Nothing that stands here is read on as part of a condition in front of it. -/
structure EndsMarkup (s : List Char) : Prop where
  stops : stops s = true
  test : test? s = none
  link : link? s = none

theorem endsMarkup_nil : EndsMarkup [] := ⟨rfl, rfl, rfl⟩

theorem stops_printTail (tail : List (Logical × Comparison)) {rest : List Char}
    (h : EndsMarkup rest) :
    stops ((printTail tail).toList ++ rest) = true := by
  cases tail with
  | nil => exact h.stops
  | cons link tail =>
    rw [toList_printTail_cons]
    exact Expr.stops_blank rfl _

theorem skipBlanks_joiner (l : Logical) (s : List Char) :
    skipBlanks (' ' :: (l.text.toList ++ s)) = l.text.toList ++ s := by
  cases l <;> rfl

theorem isBlank_eq_false_of_joiner (l : Logical) (s : List Char) :
    (l.text.toList ++ s).head?.any Text.isBlank = false := by
  cases l <;> rfl

/-- A joining word is not taken for an operator, so a comparison without one ends in front of it. -/
theorem operator?_joiner (l : Logical) {s : List Char} (hs : s.head?.any isOperatorWord = false) :
    operator? (l.text.toList ++ s) = none := by
  have hword {c : Char} {w : List Char} (hc : Expr.startsName c = true)
      (hw : ∀ d ∈ w, isOperatorWord d = true)
      (hjoins : (c :: w == "and".toList || c :: w == "or".toList) = true) :
      operator? (c :: (w ++ s)) = none := by
    rw [operator?_of_startsName hc]
    simp only [wordOperator?, if_pos hc, Expr.takeWhile_append_of_head hw hs, hjoins, if_true]
  cases l with
  | and => exact hword (c := 'a') (w := ['n', 'd']) rfl (List.all_eq_true.mp rfl) rfl
  | or => exact hword (c := 'o') (w := ['r']) rfl (List.all_eq_true.mp rfl) rfl

theorem test?_joiner (l : Logical) {w s : List Char} (hw : Expr.Blanks w)
    (hs : s.head?.any isOperatorWord = false) : test? (w ++ (l.text.toList ++ s)) = none := by
  rw [test?, Expr.skipBlanks_append hw (isBlank_eq_false_of_joiner l s), operator?_joiner l hs]

theorem test?_printTail (tail : List (Logical × Comparison)) {rest : List Char}
    (h : EndsMarkup rest) :
    test? ((printTail tail).toList ++ rest) = none := by
  cases tail with
  | nil => exact h.test
  | cons link tail =>
    rw [toList_printTail_cons, List.cons_append, List.append_assoc]
    exact test?_joiner link.1 (w := [' ']) (by simp [Expr.Blanks, Text.isBlank]) rfl

theorem joiner?_complete (l : Logical) {s : List Char} (hs : s.head?.any Expr.isWord = false) :
    joiner? (l.text.toList ++ s) = some (l, s) := by
  cases l with
  | and =>
    have hread : Expr.keyword? "and".toList ("and".toList ++ s) = some s :=
      Expr.keyword?_eq_some_iff.mpr ⟨rfl, hs⟩
    simp only [joiner?, Logical.text, hread]
  | or =>
    have hand : Expr.keyword? "and".toList ("or".toList ++ s) = none := rfl
    have hread : Expr.keyword? "or".toList ("or".toList ++ s) = some s :=
      Expr.keyword?_eq_some_iff.mpr ⟨rfl, hs⟩
    simp only [joiner?, Logical.text, hand, hread, Option.map_some]

theorem blanks?_space (s : List Char) : blanks? (' ' :: s) = some (skipBlanks (' ' :: s)) := rfl

theorem skipBlanks_print {x : Comparison} (h : x.Readable) (rest : List Char) :
    skipBlanks (' ' :: (x.print.toList ++ rest)) = x.print.toList ++ rest := by
  obtain ⟨u, hleft, hprint⟩ := h.exists_operand
  rw [hprint, List.append_assoc]
  exact skipBlanks_operand hleft (u ++ rest)

theorem link?_complete (l : Logical) {x : Comparison} (h : x.Readable) {rest : List Char}
    (hrest : stops rest = true) (htest : test? rest = none) :
    link? (' ' :: (l.text.toList ++ ' ' :: (x.print.toList ++ rest))) = some ((l, x), rest) := by
  rw [link?, blanks?_space, skipBlanks_joiner]
  dsimp only
  rw [joiner?_complete l rfl]
  dsimp only
  rw [blanks?_space, skipBlanks_print h]
  dsimp only
  rw [comparison?_complete h hrest htest]
  rfl

theorem links_complete {tail : List (Logical × Comparison)}
    (h : ∀ link ∈ tail, link.2.Readable) {rest : List Char} (hrest : EndsMarkup rest) {fuel : Nat}
    (hfuel : tail.length ≤ fuel) : links fuel ((printTail tail).toList ++ rest) = (tail, rest) := by
  induction tail generalizing fuel with
  | nil =>
    cases fuel with
    | zero => rfl
    | succ fuel =>
      change links (fuel + 1) rest = _
      rw [links, hrest.link]
  | cons link tail ih =>
    obtain ⟨l, x⟩ := link
    obtain ⟨fuel, rfl⟩ : ∃ n, fuel = n + 1 := ⟨fuel - 1, by simp at hfuel; omega⟩
    rw [List.forall_mem_cons] at h
    have htext : (printTail ((l, x) :: tail)).toList ++ rest =
        ' ' :: (l.text.toList ++ ' ' :: (x.print.toList ++ ((printTail tail).toList ++ rest))) := by
      simp [toList_printTail_cons]
    rw [htext, links, link?_complete l h.1 (stops_printTail tail hrest)
      (test?_printTail tail hrest)]
    dsimp only
    rw [ih h.2 (by simpa using hfuel)]

theorem length_le_printTail (tail : List (Logical × Comparison)) :
    tail.length ≤ (printTail tail).toList.length := by
  induction tail with
  | nil => simp
  | cons link tail ih =>
    rw [toList_printTail_cons]
    simp only [List.length_cons, List.length_append]
    omega

theorem read?_complete {m : Markup} (h : m.Readable) {rest : List Char} (hrest : EndsMarkup rest) :
    read? (m.print.toList ++ rest) = some (m, rest) := by
  have hfuel : m.tail.length ≤ ((printTail m.tail).toList ++ rest).length := by
    rw [List.length_append]
    exact Nat.le_add_right_of_le (length_le_printTail m.tail)
  rw [read?, print, String.toList_append, List.append_assoc,
    comparison?_complete h.head (stops_printTail m.tail hrest) (test?_printTail m.tail hrest)]
  dsimp only
  rw [links_complete h.tail hrest hfuel]

theorem startsSolid_print {m : Markup} (h : m.Readable) : Expr.StartsSolid m.print.toList := by
  obtain ⟨u, hleft, hprint⟩ := h.head.exists_operand
  rw [print, String.toList_append, hprint, List.append_assoc]
  exact hleft.startsSolid.append _

theorem skipBlanks_print_append {m : Markup} (h : m.Readable) (rest : List Char) :
    skipBlanks (m.print.toList ++ rest) = m.print.toList ++ rest :=
  Expr.skipBlanks_append (w := []) (by simp [Expr.Blanks])
    (Expr.isBlank_eq_false_of_startsSolid (startsSolid_print h) rest)

/-- A markup whose parts can be read is read again from its own text. -/
theorem ofText_print {m : Markup} (h : m.Readable) : ofText m.print = .ok m := by
  obtain ⟨c, hc, hsolid⟩ := startsSolid_print h
  have hfull : (Text.trimChars m.print.toList).isEmpty = false :=
    List.isEmpty_eq_false_iff.mpr (Expr.trimChars_ne_nil (List.mem_of_mem_head? hc) hsolid)
  have hskip := skipBlanks_print_append h []
  have hread := read?_complete h endsMarkup_nil
  rw [List.append_nil] at hskip hread
  simp only [ofText, ofChars, hfull, hskip, hread]
  rfl

theorem readable_of_ofText {text : String} {m : Markup} (h : ofText text = .ok m) : m.Readable :=
  ofChars_sound h

end Markup
end LiquidEval
