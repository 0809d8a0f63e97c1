import LiquidEval.Proofs.Condition.Chain
import LiquidEval.Proofs.Condition.Reading

/-! Conditions survive printing. Joining keeps every comparison readable, a readable condition
prints as its list of comparisons does, and that list is read again from what it prints. -/
namespace LiquidEval
namespace Condition

/-- Conditions that were read from texts, and what is joined from them. -/
inductive Written : Condition → Prop where
  | read {text : String} {c : Condition} (h : ofText text = .ok c) : Written c
  | and {a b : Condition} (ha : Written a) (hb : Written b) : Written (a.and b)
  | or {a b : Condition} (ha : Written a) (hb : Written b) : Written (a.or b)

theorem ofText_eq_ok_iff {text : String} {c : Condition} :
    ofText text = .ok c ↔ ∃ m, Markup.ofText text = .ok m ∧ c = ofMarkup m := by
  rw [ofText, Markup.ofSource]
  cases Markup.ofText text with
  | error e => simp
  | ok m => simp [eq_comm]

theorem readable_append {a b : Condition} (ha : a.markup.Readable) (hb : b.markup.Readable)
    (l : Logical) : (a.append l b).markup.Readable := by
  rw [markup_append]
  refine ⟨ha.head, ?_⟩
  intro link hlink
  rcases List.mem_append.mp hlink with hlink | hlink
  · exact ha.tail link hlink
  · rcases List.mem_cons.mp hlink with rfl | hlink
    · exact hb.head
    · exact hb.tail link hlink

theorem Written.readable {c : Condition} (h : Written c) : c.markup.Readable := by
  induction h with
  | read h =>
    obtain ⟨m, hm, rfl⟩ := ofText_eq_ok_iff.mp h
    rw [markup_ofMarkup]
    exact Markup.readable_of_ofText hm
  | and _ _ iha ihb => exact readable_append iha ihb .and
  | or _ _ iha ihb => exact readable_append iha ihb .or

theorem printLink_eq_print {x : Comparison} (h : x.Readable) : x.printLink = x.print := by
  cases h with
  | bare => simp [Comparison.printLink, Comparison.print, optionalWord]
  | tested => simp [Comparison.printLink, Comparison.print, optionalWord, String.append_assoc]

/-- Both printers agree on comparisons that have both parts of a test or neither. -/
theorem print_eq_print_markup {c : Condition} (h : c.markup.Readable) :
    c.print = c.markup.print := by
  induction c with
  | last x =>
    have hx : x.printLink = x.print := printLink_eq_print h.head
    rw [print, hx]
    simp [Markup.print, Markup.printTail, markup]
  | joined x l rest ih =>
    have hrest : rest.markup.Readable :=
      ⟨h.tail (l, rest.head) (by simp [markup]),
        fun link hlink => h.tail link (List.mem_cons_of_mem _ hlink)⟩
    have hx : x.printLink = x.print := printLink_eq_print h.head
    rw [print, hx, ih hrest]
    simp [Markup.print, Markup.printTail, markup, String.append_assoc]

theorem ofText_print {c : Condition} (h : c.markup.Readable) : ofText c.print = .ok c := by
  refine ofText_eq_ok_iff.mpr ⟨c.markup, ?_, (ofMarkup_markup c).symm⟩
  rw [print_eq_print_markup h]
  exact Markup.ofText_print h

/-- Printing normalizes the blanks of a text and loses nothing else: the markup is read again from
its print, and so is every condition that was joined from conditions that were read. There is a text
for every markup whose parts can be read, and for no other. -/
theorem read_back_from_print :
    (∀ text m, Markup.ofText text = .ok m →
      Markup.ofText m.print = .ok m ∧ (ofMarkup m).print = m.print) ∧
    (∀ c, Written c → ofText c.print = .ok c) ∧
    (∀ m, (∃ text, Markup.ofText text = .ok m) ↔ m.Readable) := by
  refine ⟨?_, fun c h => ofText_print h.readable, ?_⟩
  · intro text m h
    have hm := Markup.readable_of_ofText h
    refine ⟨Markup.ofText_print hm, ?_⟩
    rw [print_eq_print_markup (by rwa [markup_ofMarkup]), markup_ofMarkup]
  · intro m
    constructor
    · rintro ⟨text, h⟩
      exact Markup.readable_of_ofText h
    · exact fun h => ⟨m.print, Markup.ofText_print h⟩

theorem read_back_from_print_without_blanks :
    ∃ m, Markup.ofText "a==1 and\t(1..n) contains'x'" = .ok m ∧
      m.print = "a == 1 and (1..n) contains 'x'" ∧ Markup.ofText m.print = .ok m ∧
      ofText ((ofMarkup m).or (truthy "b")).print = .ok ((ofMarkup m).or (truthy "b")) := by
  let m : Markup :=
    ⟨⟨"a", some "==", some "1"⟩, [(.and, ⟨"(1..n)", some "contains", some "'x'"⟩)]⟩
  have hm : Markup.ofText "a==1 and\t(1..n) contains'x'" = .ok m := by decide +kernel
  have hb : ofText "b" = .ok (truthy "b") := by decide +kernel
  have ha : ofText "a==1 and\t(1..n) contains'x'" = .ok (ofMarkup m) :=
    ofText_eq_ok_iff.mpr ⟨m, hm, rfl⟩
  obtain ⟨hread, hwritten, -⟩ := read_back_from_print
  exact ⟨m, hm, by decide +kernel, (hread _ m hm).1, hwritten _ (.or (.read ha) (.read hb))⟩

end Condition
end LiquidEval
