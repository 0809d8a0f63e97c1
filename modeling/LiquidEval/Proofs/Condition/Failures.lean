import LiquidEval.Proofs.Condition.RoundTrip
import LiquidEval.Proofs.Context.RangeFailures
import LiquidEval.Sample.Objects

/-! A condition that was read cannot turn out to be unreadable later. Its operands were cut out of
the text by the reader that reads them again, so all that is left to fail is a range or an operator
that is not there. -/
namespace LiquidEval

theorem IsOperand.exists_ofText {text : String} (h : IsOperand text) :
    ∃ e, Expr.ofText text = .ok e := by
  obtain ⟨e, he⟩ := h
  obtain ⟨hstart, hend⟩ := he.solidIn
  refine ⟨e, Expr.ofChars_eq_ok_iff.mpr ?_⟩
  rwa [Expr.trimChars_eq_self hstart hend]

namespace Comparison

/-- The texts that are read as expressions. -/
def operands (x : Comparison) : List String := x.left :: x.right.toList

theorem Readable.isOperand {x : Comparison} (h : x.Readable) :
    ∀ operand ∈ x.operands, IsOperand operand := by
  cases h with
  | bare hleft => simpa [operands] using hleft
  | tested hleft _ hright => simpa [operands] using ⟨hleft, hright⟩

theorem Readable.isSome_operator {x : Comparison} (h : x.Readable) :
    x.operator.isSome = x.right.isSome := by
  cases h <;> rfl

end Comparison

def Markup.comparisons (m : Markup) : List Comparison := m.head :: m.tail.map Prod.snd

theorem Markup.Readable.comparisons {m : Markup} (h : m.Readable) :
    ∀ x ∈ m.comparisons, x.Readable := by
  intro x hx
  rcases List.mem_cons.mp hx with rfl | hx
  · exact h.head
  · obtain ⟨link, hlink, rfl⟩ := List.mem_map.mp hx
    exact h.tail link hlink

def Condition.comparisons (x : Condition) : List Comparison := x.markup.comparisons

variable {H : Type} [Host H] (ops : Operators H) (c : Context H)

/-- The operator of a comparison that no operator of the table is meant by. -/
def Comparison.OperatorFailure (x : Comparison) (err : EvalError) : Prop :=
  ∃ token, x.operator = some token ∧ ops.find? c.naming token = none ∧
    err = .unknownOperator token

/-- A range in an operand that fails. -/
def Comparison.OperandFailure (x : Comparison) (err : EvalError) : Prop :=
  ∃ operand ∈ x.operands, ∃ e, Expr.ofText operand = .ok e ∧
    ∃ r ∈ e.ranges, c.RangeFailure r err

theorem Context.exists_rangeFailure_of_resolve {text : String} (h : IsOperand text)
    {err : EvalError} (herr : c.resolve text = .error err) :
    ∃ e, Expr.ofText text = .ok e ∧ ∃ r ∈ e.ranges, c.RangeFailure r err := by
  obtain ⟨e, he⟩ := h.exists_ofText
  rw [resolve, he] at herr
  exact ⟨e, he, exists_rangeFailure_of_evaluate c e herr⟩

namespace Comparison

theorem failure_of_evaluate {x : Comparison} (h : x.Readable) {err : EvalError}
    (herr : x.evaluate ops c = .error err) :
    x.OperatorFailure ops c err ∨ x.OperandFailure c err := by
  have hoperand : ∀ operand ∈ x.operands, c.resolve operand = .error err →
      x.OperandFailure c err := by
    intro operand hmem hresolve
    exact ⟨operand, hmem, c.exists_rangeFailure_of_resolve (h.isOperand operand hmem) hresolve⟩
  cases evaluate_eq_iff.mp herr with
  | leftFails h => exact .inr (hoperand x.left (by simp [operands]) h)
  | rightFails _ _ htext h => exact .inr (hoperand _ (by simp [operands, htext]) h)
  | unknownOperator _ hoperator _ h => exact .inl ⟨_, hoperator, h, rfl⟩

end Comparison

namespace Condition

/-- A chain fails where one of its comparisons does. -/
theorem exists_comparison_of_evaluate {x : Condition} {err : EvalError}
    (h : x.evaluate ops c = .error err) :
    ∃ y ∈ x.comparisons, y.evaluate ops c = .error err := by
  rcases (evaluate_eq_error_iff ops c x err).mp h
    with hhead | ⟨before, l, y, after, _, htail, _, _, hy⟩
  · exact ⟨x.head, List.mem_cons_self, hhead⟩
  · refine ⟨y, List.mem_cons_of_mem _ (List.mem_map.mpr ⟨(l, y), ?_, rfl⟩), hy⟩
    change (l, y) ∈ x.tail
    rw [htail]
    simp

theorem failure_of_evaluate {x : Condition} (hx : Written x) {err : EvalError}
    (herr : x.evaluate ops c = .error err) :
    ∃ y ∈ x.comparisons, y.OperatorFailure ops c err ∨ y.OperandFailure c err := by
  obtain ⟨y, hy, hfail⟩ := exists_comparison_of_evaluate ops c herr
  exact ⟨y, hy, Comparison.failure_of_evaluate ops c (hx.readable.comparisons y hy) hfail⟩

/-- No operand holds a range, and every operator is in the table. -/
def Total (x : Condition) : Prop :=
  ∀ y ∈ x.comparisons,
    (∀ operand ∈ y.operands, ∀ e, Expr.ofText operand = .ok e → e.ranges = []) ∧
      ∀ token, y.operator = some token → (ops.find? c.naming token).isSome = true

theorem exists_evaluate_of_total {x : Condition} (hx : Written x) (htotal : x.Total ops c) :
    ∃ result, x.evaluate ops c = .ok result := by
  cases h : x.evaluate ops c with
  | ok result => exact ⟨result, rfl⟩
  | error err =>
    obtain ⟨y, hy, hfail⟩ := failure_of_evaluate ops c hx h
    obtain ⟨hranges, hoperator⟩ := htotal y hy
    rcases hfail with ⟨token, htoken, hfind, -⟩ | ⟨operand, hoperand, e, he, r, hr, -⟩
    · have hsome := hoperator token htoken
      rw [hfind] at hsome
      cases hsome
    · rw [hranges operand hoperand e he] at hr
      cases hr

/-- What was read as a condition is made of expressions, with an operator between two of them. It
fails only at a range or at an operator, and where there is no such failure it has a result. -/
theorem fails_only_at_ranges_and_operators :
    (∀ text m, Markup.ofText text = .ok m → ∀ y ∈ m.comparisons,
      y.operator.isSome = y.right.isSome ∧
        ∀ operand ∈ y.operands, ∃ e, Expr.ofText operand = .ok e) ∧
    ∀ x, Written x →
      (∀ err, x.evaluate ops c = .error err →
        ∃ y ∈ x.comparisons, y.OperatorFailure ops c err ∨ y.OperandFailure c err) ∧
      (x.Total ops c → ∃ result, x.evaluate ops c = .ok result) := by
  constructor
  · intro text m h y hy
    have hreadable := (Markup.readable_of_ofText h).comparisons y hy
    exact ⟨hreadable.isSome_operator, fun operand hoperand =>
      (hreadable.isOperand operand hoperand).exists_ofText⟩
  · exact fun x hx =>
      ⟨fun err => failure_of_evaluate ops c hx, exists_evaluate_of_total ops c hx⟩

theorem fails_only_at_ranges_and_operators_unknown :
    ∃ c : Context Sample.Object, ∃ x, ofText "a like (1..2)" = .ok x ∧
      (∃ y ∈ x.comparisons, y.OperatorFailure .builtin c (.unknownOperator "like") ∨
        y.OperandFailure c (.unknownOperator "like")) ∧
      ∃ result, (truthy "a").evaluate .builtin c = .ok result := by
  let c : Context Sample.Object := { naming := .ruby }
  have hread : ofText "a like (1..2)" = .ok (comparing "a" "like" "(1..2)") := by
    decide +kernel
  have htruthy : ofText "a" = .ok (truthy "a") := by decide +kernel
  have herr : (comparing "a" "like" "(1..2)").evaluate .builtin c =
      .error (.unknownOperator "like") := by decide +kernel
  have hranges : ((Expr.ofText "a").toOption.all fun e => e.ranges.isEmpty) = true := by
    decide +kernel
  have htotal : (truthy "a").Total .builtin c := by
    intro y hy
    obtain rfl : y = ⟨"a", none, none⟩ := List.mem_singleton.mp hy
    refine ⟨?_, fun token htoken => by cases htoken⟩
    intro operand hoperand e he
    obtain rfl : operand = "a" := List.mem_singleton.mp hoperand
    rw [he] at hranges
    exact List.isEmpty_iff.mp hranges
  obtain ⟨-, hwritten⟩ := fails_only_at_ranges_and_operators Operators.builtin c
  exact ⟨c, _, hread, (hwritten _ (.read hread)).1 _ herr, (hwritten _ (.read htruthy)).2 htotal⟩

end Condition
end LiquidEval
