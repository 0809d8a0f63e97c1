import Mathlib.Control.Monad.Basic
import LiquidEval.Condition.Evaluation
import LiquidEval.Sample.Objects

/-! A condition is a flat list of comparisons, however it was put together, and evaluating it folds
that list from the left. A skipped comparison might as well not be there. -/
namespace LiquidEval

/-- The result of two comparisons that are joined, if both count. -/
def Logical.combine : Logical → Bool → Bool → Bool
  | .and, result, next => result && next
  | .or, result, next => result || next

theorem Logical.combine_of_skips {l : Logical} {result : Bool} (h : l.skips result = true)
    (next : Bool) : l.combine result next = result := by
  cases l <;> cases result <;> simp_all [skips, combine]

theorem Logical.combine_of_not_skips {l : Logical} {result : Bool} (h : l.skips result = false)
    (next : Bool) : l.combine result next = next := by
  cases l <;> cases result <;> simp_all [skips, combine]

namespace Condition

/-- The comparisons of a chain as one flat list. -/
def markup (c : Condition) : Markup := ⟨c.head, c.tail⟩

@[simp] theorem head_last (x : Comparison) : (last x).head = x := rfl

@[simp] theorem head_joined (x : Comparison) (l : Logical) (rest : Condition) :
    (joined x l rest).head = x := rfl

@[simp] theorem tail_last (x : Comparison) : (last x).tail = [] := rfl

@[simp] theorem tail_joined (x : Comparison) (l : Logical) (rest : Condition) :
    (joined x l rest).tail = (l, rest.head) :: rest.tail := rfl

@[simp] theorem head_append (a : Condition) (l : Logical) (b : Condition) :
    (a.append l b).head = a.head := by
  cases a <;> rfl

@[simp] theorem tail_append (a : Condition) (l : Logical) (b : Condition) :
    (a.append l b).tail = a.tail ++ (l, b.head) :: b.tail := by
  induction a with
  | last x => rfl
  | joined x k rest ih => simp [append, ih]

theorem markup_append (a : Condition) (l : Logical) (b : Condition) :
    (a.append l b).markup = ⟨a.head, a.tail ++ (l, b.head) :: b.tail⟩ := by
  rw [markup, head_append, tail_append]

theorem append_assoc (a : Condition) (k : Logical) (b : Condition) (l : Logical) (d : Condition) :
    (a.append k b).append l d = a.append k (b.append l d) := by
  induction a with
  | last x => rfl
  | joined x j rest ih => simp [append, ih]

/-- The markup may be joined to a chain that has some comparisons already. -/
theorem markup_foldl_append (links : List (Logical × Comparison)) (c : Condition) :
    (links.foldl (fun c e => c.append e.1 (.last e.2)) c).markup = ⟨c.head, c.tail ++ links⟩ := by
  induction links generalizing c with
  | nil => simp [markup]
  | cons e links ih =>
    rw [List.foldl_cons, ih]
    simp

@[simp] theorem markup_ofMarkup (m : Markup) : (ofMarkup m).markup = m := by
  rw [ofMarkup, markup_foldl_append]
  rfl

@[simp] theorem head_ofMarkup (m : Markup) : (ofMarkup m).head = m.head :=
  congrArg Markup.head (markup_ofMarkup m)

@[simp] theorem tail_ofMarkup (m : Markup) : (ofMarkup m).tail = m.tail :=
  congrArg Markup.tail (markup_ofMarkup m)

/-- Nothing but the list of its comparisons tells two conditions apart. -/
theorem ext_markup {a b : Condition} (h : a.markup = b.markup) : a = b := by
  induction a generalizing b with
  | last x =>
    cases b with
    | last y => simpa [markup] using h
    | joined y l rest => simp [markup] at h
  | joined x k rest ih =>
    cases b with
    | last y => simp [markup] at h
    | joined y l other =>
      simp only [markup, head_joined, tail_joined, Markup.mk.injEq, List.cons.injEq,
        Prod.mk.injEq] at h
      obtain ⟨hx, ⟨hl, hhead⟩, htail⟩ := h
      have hrest : rest = other := ih (by rw [markup, markup, hhead, htail])
      rw [hx, hl, hrest]

@[simp] theorem ofMarkup_markup (c : Condition) : ofMarkup c.markup = c :=
  ext_markup (markup_ofMarkup c.markup)

variable {H : Type} [Host H] (ops : Operators H) (c : Context H)

/-- One step of the fold: `and` skips when the result is false, and `or` when it is true. -/
def evaluateLink (result : Bool) : Logical × Comparison → Except EvalError Bool
  | (.and, x) => if result = false then .ok result else x.evaluate ops c
  | (.or, x) => if result = true then .ok result else x.evaluate ops c

theorem evaluateLink_of_skips {l : Logical} {result : Bool} (h : l.skips result = true)
    (x : Comparison) : evaluateLink ops c result (l, x) = .ok result := by
  cases l <;> cases result <;> simp_all [Logical.skips, evaluateLink]

theorem evaluateLink_of_not_skips {l : Logical} {result : Bool} (h : l.skips result = false)
    (x : Comparison) : evaluateLink ops c result (l, x) = x.evaluate ops c := by
  cases l <;> cases result <;> simp_all [Logical.skips, evaluateLink]

theorem evaluateFrom_eq_foldlM (result : Bool) (x : Condition) :
    evaluateFrom ops c result x = x.tail.foldlM (evaluateLink ops c) result := by
  induction x generalizing result with
  | last x => rfl
  | joined x l rest ih =>
    rw [evaluateFrom, tail, List.foldlM_cons]
    cases hskip : l.skips result with
    | true => rw [evaluateLink_of_skips ops c hskip, if_pos rfl, ih]; rfl
    | false =>
      rw [evaluateLink_of_not_skips ops c hskip, if_neg (by decide)]
      cases rest.head.evaluate ops c with
      | error e => rfl
      | ok next => exact ih next

theorem evaluate_eq_foldlM (x : Condition) :
    x.evaluate ops c =
      (x.head.evaluate ops c >>= fun first => x.tail.foldlM (evaluateLink ops c) first) := by
  rw [evaluate]
  cases x.head.evaluate ops c with
  | error e => rfl
  | ok first => exact evaluateFrom_eq_foldlM ops c first x

/-- A chain may be evaluated in two parts. -/
theorem evaluate_ofMarkup_append (x : Comparison) (before after : List (Logical × Comparison)) :
    (ofMarkup ⟨x, before ++ after⟩).evaluate ops c =
      ((ofMarkup ⟨x, before⟩).evaluate ops c >>= fun result =>
        after.foldlM (evaluateLink ops c) result) := by
  simp only [evaluate_eq_foldlM, head_ofMarkup, tail_ofMarkup, List.foldlM_append, bind_assoc]

theorem evaluate_ofMarkup_skipped {x : Comparison} {before : List (Logical × Comparison)}
    {l : Logical} {result : Bool} (hbefore : (ofMarkup ⟨x, before⟩).evaluate ops c = .ok result)
    (hskip : l.skips result = true) (y : Comparison) (after : List (Logical × Comparison)) :
    (ofMarkup ⟨x, before ++ (l, y) :: after⟩).evaluate ops c =
      (ofMarkup ⟨x, before ++ after⟩).evaluate ops c := by
  rw [evaluate_ofMarkup_append, evaluate_ofMarkup_append, hbefore]
  change (evaluateLink ops c result (l, y) >>= _) = _
  rw [evaluateLink_of_skips ops c hskip]

theorem evaluate_ofMarkup_fails {x : Comparison} {before : List (Logical × Comparison)}
    {l : Logical} {result : Bool} (hbefore : (ofMarkup ⟨x, before⟩).evaluate ops c = .ok result)
    (hskip : l.skips result = false) {y : Comparison} {e : EvalError}
    (hy : y.evaluate ops c = .error e) (after : List (Logical × Comparison)) :
    (ofMarkup ⟨x, before ++ (l, y) :: after⟩).evaluate ops c = .error e := by
  rw [evaluate_ofMarkup_append, hbefore]
  change (evaluateLink ops c result (l, y) >>= _) = _
  rw [evaluateLink_of_not_skips ops c hskip, hy]
  rfl

/-- A failing fold fails at one link, which it reaches with a result. -/
theorem foldlM_evaluateLink_error {links : List (Logical × Comparison)} {start : Bool}
    {e : EvalError} (h : links.foldlM (evaluateLink ops c) start = .error e) :
    ∃ before l y after result, links = before ++ (l, y) :: after ∧
      before.foldlM (evaluateLink ops c) start = .ok result ∧
      l.skips result = false ∧ y.evaluate ops c = .error e := by
  induction links generalizing start with
  | nil => cases h
  | cons link links ih =>
    obtain ⟨l, y⟩ := link
    rw [List.foldlM_cons] at h
    cases hlink : evaluateLink ops c start (l, y) with
    | error e' =>
      rw [hlink] at h
      cases h
      cases hskip : l.skips start with
      | true => rw [evaluateLink_of_skips ops c hskip] at hlink; cases hlink
      | false =>
        rw [evaluateLink_of_not_skips ops c hskip] at hlink
        exact ⟨[], l, y, links, start, rfl, rfl, hskip, hlink⟩
    | ok next =>
      rw [hlink] at h
      obtain ⟨before, k, z, after, result, hsplit, hrun, hskip, hz⟩ := ih h
      refine ⟨(l, y) :: before, k, z, after, result, by rw [hsplit]; rfl, ?_, hskip, hz⟩
      rw [List.foldlM_cons, hlink]
      exact hrun

theorem evaluate_eq_error_iff (x : Condition) (e : EvalError) :
    x.evaluate ops c = .error e ↔
      x.head.evaluate ops c = .error e ∨
        ∃ before l y after result, x.tail = before ++ (l, y) :: after ∧
          (ofMarkup ⟨x.head, before⟩).evaluate ops c = .ok result ∧
          l.skips result = false ∧ y.evaluate ops c = .error e := by
  constructor
  · intro h
    rw [evaluate_eq_foldlM] at h
    cases hhead : x.head.evaluate ops c with
    | error e' =>
      rw [hhead] at h
      exact .inl h
    | ok first =>
      rw [hhead] at h
      obtain ⟨before, l, y, after, result, hsplit, hrun, hskip, hy⟩ :=
        foldlM_evaluateLink_error ops c h
      refine .inr ⟨before, l, y, after, result, hsplit, ?_, hskip, hy⟩
      rw [evaluate_eq_foldlM, head_ofMarkup, tail_ofMarkup, hhead]
      exact hrun
  · rintro (h | ⟨before, l, y, after, result, hsplit, hrun, hskip, hy⟩)
    · rw [evaluate_eq_foldlM, h]
      rfl
    · have hx : x = ofMarkup ⟨x.head, before ++ (l, y) :: after⟩ := by
        rw [← hsplit]
        exact (ofMarkup_markup x).symm
      rw [hx]
      exact evaluate_ofMarkup_fails ops c hrun hskip hy after

/-- The value of a comparison. What stands for a failure does not matter. -/
def linkValue (x : Comparison) : Bool :=
  match x.evaluate ops c with
  | .ok b => b
  | .error _ => false

theorem linkValue_of_ok {x : Comparison} {b : Bool} (h : x.evaluate ops c = .ok b) :
    linkValue ops c x = b := by
  rw [linkValue, h]

theorem foldlM_evaluateLink_ok {links : List (Logical × Comparison)} {start result : Bool}
    (h : links.foldlM (evaluateLink ops c) start = .ok result) :
    result = links.foldl (fun r e => e.1.combine r (linkValue ops c e.2)) start := by
  induction links generalizing start with
  | nil => cases h; rfl
  | cons link links ih =>
    obtain ⟨l, y⟩ := link
    rw [List.foldlM_cons] at h
    rw [List.foldl_cons]
    cases hskip : l.skips start with
    | true =>
      rw [evaluateLink_of_skips ops c hskip] at h
      rw [Logical.combine_of_skips hskip]
      exact ih h
    | false =>
      rw [evaluateLink_of_not_skips ops c hskip] at h
      rw [Logical.combine_of_not_skips hskip]
      cases hy : y.evaluate ops c with
      | error e => rw [hy] at h; cases h
      | ok next =>
        rw [hy] at h
        rw [linkValue_of_ok ops c hy]
        exact ih h

theorem evaluate_eq_ok {x : Condition} {result : Bool} (h : x.evaluate ops c = .ok result) :
    result = x.tail.foldl (fun r e => e.1.combine r (linkValue ops c e.2))
      (linkValue ops c x.head) := by
  rw [evaluate_eq_foldlM] at h
  cases hhead : x.head.evaluate ops c with
  | error e => rw [hhead] at h; cases h
  | ok first =>
    rw [hhead] at h
    rw [linkValue_of_ok ops c hhead]
    exact foldlM_evaluateLink_ok ops c h

end Condition

theorem Value.isTruthy_eq_true_iff {H : Type} {v : Value H} :
    v.isTruthy = true ↔ v ≠ nil ∧ v ≠ bool false := by
  cases v with
  | bool b => cases b <;> simp [isTruthy]
  | _ => simp [isTruthy]

variable {H : Type} [Host H] (ops : Operators H) (c : Context H)

namespace Comparison

/-- The right operand of a comparison: what its text stands for, or nil where there is none. -/
inductive RightIs (x : Comparison) : Value H → Prop where
  | resolved {text : String} {v : Value H} (htext : x.right = some text)
      (h : c.resolve text = .ok v) : RightIs x v
  | missing (htext : x.right = none) : RightIs x .nil

/-- What a comparison comes to. Its left operand is resolved before its right one, and the operator
is looked up last. Without an operator it tells whether the left operand is neither nil nor
false. -/
inductive ComesTo (x : Comparison) : Except EvalError Bool → Prop where
  | leftFails {e : EvalError} (h : c.resolve x.left = .error e) : ComesTo x (.error e)
  | truth {left : Value H} {result : Bool} (hleft : c.resolve x.left = .ok left)
      (hoperator : x.operator = none) (h : result = true ↔ left ≠ .nil ∧ left ≠ .bool false) :
      ComesTo x (.ok result)
  | rightFails {left : Value H} {token text : String} {e : EvalError}
      (hleft : c.resolve x.left = .ok left) (hoperator : x.operator = some token)
      (htext : x.right = some text) (h : c.resolve text = .error e) : ComesTo x (.error e)
  | unknownOperator {left right : Value H} {token : String} (hleft : c.resolve x.left = .ok left)
      (hoperator : x.operator = some token) (hright : x.RightIs c right)
      (h : ops.find? c.naming token = none) : ComesTo x (.error (.unknownOperator token))
  | applied {left right : Value H} {token : String} {p : Predicate H}
      (hleft : c.resolve x.left = .ok left) (hoperator : x.operator = some token)
      (hright : x.RightIs c right) (h : ops.find? c.naming token = some p) :
      ComesTo x (.ok (p left right c.view))

variable {ops c} {x : Comparison}

theorem rightValue_eq_ok_iff {v : Value H} : x.rightValue c = .ok v ↔ x.RightIs c v := by
  unfold rightValue
  constructor
  · intro h
    split at h
    next text htext => exact .resolved htext h
    next htext =>
      cases h
      exact .missing htext
  · rintro (⟨htext, h⟩ | htext)
    · rw [htext]
      exact h
    · rw [htext]

theorem rightValue_eq_error_iff {e : EvalError} :
    x.rightValue c = .error e ↔ ∃ text, x.right = some text ∧ c.resolve text = .error e := by
  unfold rightValue
  cases x.right with
  | none => simp
  | some text => simp

theorem comesTo_evaluate (x : Comparison) : x.ComesTo ops c (x.evaluate ops c) := by
  unfold evaluate
  cases hleft : c.resolve x.left with
  | error e => exact .leftFails hleft
  | ok left =>
    cases hoperator : x.operator with
    | none => exact .truth hleft hoperator Value.isTruthy_eq_true_iff
    | some token =>
      cases hright : x.rightValue c with
      | error e =>
        obtain ⟨text, htext, h⟩ := rightValue_eq_error_iff.mp hright
        exact .rightFails hleft hoperator htext h
      | ok right =>
        have hright := rightValue_eq_ok_iff.mp hright
        have hnaming : c.view.naming = c.naming := rfl
        dsimp only
        rw [Operators.apply, hnaming]
        cases h : ops.find? c.naming token with
        | none => exact .unknownOperator hleft hoperator hright h
        | some p => exact .applied hleft hoperator hright h

theorem ComesTo.evaluate_eq {r : Except EvalError Bool} (h : x.ComesTo ops c r) :
    x.evaluate ops c = r := by
  have hnaming : c.view.naming = c.naming := rfl
  unfold evaluate
  cases h with
  | leftFails h => rw [h]
  | truth hleft hoperator h =>
    rw [hleft, hoperator]
    exact congrArg Except.ok (Bool.eq_iff_iff.mpr (Value.isTruthy_eq_true_iff.trans h.symm))
  | rightFails hleft hoperator htext h =>
    have hright := rightValue_eq_error_iff.mpr ⟨_, htext, h⟩
    simp only [hleft, hoperator, hright]
  | unknownOperator hleft hoperator hright h =>
    simp only [hleft, hoperator, rightValue_eq_ok_iff.mpr hright, Operators.apply, hnaming, h]
  | applied hleft hoperator hright h =>
    simp only [hleft, hoperator, rightValue_eq_ok_iff.mpr hright, Operators.apply, hnaming, h]

/-- Of the ways in which a comparison can end, it takes exactly one. -/
theorem evaluate_eq_iff {r : Except EvalError Bool} : x.evaluate ops c = r ↔ x.ComesTo ops c r := by
  constructor
  · rintro rfl
    exact comesTo_evaluate x
  · exact ComesTo.evaluate_eq

end Comparison

/-- Chains are flat: joining concatenates lists, in whatever order chains were joined. Evaluation
folds the list, fails where the first comparison that is not skipped fails, and does not see what is
skipped. A comparison that is evaluated fails at its left operand, at its right one or at its
operator, or else the operator answers. -/
theorem Condition.evaluates_flat_list (a b d : Condition) (k l : Logical) (m : Markup) :
    (a.and b).markup = ⟨a.head, a.tail ++ (.and, b.head) :: b.tail⟩ ∧
    (a.or b).markup = ⟨a.head, a.tail ++ (.or, b.head) :: b.tail⟩ ∧
    ((a.append k b).append l d).markup = (a.append k (b.append l d)).markup ∧
    (ofMarkup m).markup = m ∧
    a.evaluate ops c =
      (a.head.evaluate ops c >>= fun first => a.tail.foldlM (evaluateLink ops c) first) ∧
    (∀ result, a.evaluate ops c = .ok result →
      result = a.tail.foldl (fun r e => e.1.combine r (linkValue ops c e.2))
        (linkValue ops c a.head)) ∧
    (∀ e, a.evaluate ops c = .error e ↔
      a.head.evaluate ops c = .error e ∨
        ∃ before l y after result, a.tail = before ++ (l, y) :: after ∧
          (ofMarkup ⟨a.head, before⟩).evaluate ops c = .ok result ∧
          l.skips result = false ∧ y.evaluate ops c = .error e) ∧
    (∀ (x : Comparison) r, x.evaluate ops c = r ↔ x.ComesTo ops c r) ∧
    (∀ x before l result, (ofMarkup ⟨x, before⟩).evaluate ops c = .ok result →
      l.skips result = true → ∀ y after,
        (ofMarkup ⟨x, before ++ (l, y) :: after⟩).evaluate ops c =
          (ofMarkup ⟨x, before ++ after⟩).evaluate ops c) := by
  refine ⟨markup_append a .and b, markup_append a .or b, ?_, markup_ofMarkup m,
    evaluate_eq_foldlM ops c a, ?_, Condition.evaluate_eq_error_iff ops c a,
    fun x r => Comparison.evaluate_eq_iff, ?_⟩
  · rw [append_assoc]
  · exact fun result h => evaluate_eq_ok ops c h
  · exact fun x before l result hbefore hskip => evaluate_ofMarkup_skipped ops c hbefore hskip

/-- Where it is skipped, a comparison whose right operand and operator both fail does no harm. Where
it is not, its right operand is what fails. -/
theorem Condition.evaluates_flat_list_past_failures :
    ∃ (c : Context Sample.Object) (e : EvalError), c.resolve "(1..'x')" = .error e ∧
      let failing : Comparison := ⟨"1", some "like", some "(1..'x')"⟩
      let unknown : Comparison := ⟨"1", some "like", none⟩
      let links :=
        [(.and, failing), (.or, ⟨"1", some "==", some "1"⟩), (.and, ⟨"nil", some "==", none⟩)]
      (ofMarkup ⟨⟨"nil", none, none⟩, links⟩).evaluate .builtin c = .ok true ∧
      (ofMarkup ⟨⟨"nil", none, none⟩, links ++ [(.and, failing)]⟩).evaluate .builtin c = .error e ∧
      (ofMarkup ⟨⟨"nil", none, none⟩, links ++ [(.and, unknown)]⟩).evaluate .builtin c =
        .error (.unknownOperator "like") := by
  let c : Context Sample.Object := { naming := .ruby }
  let ops : Operators Sample.Object := .builtin
  let first : Comparison := ⟨"nil", none, none⟩
  let failing : Comparison := ⟨"1", some "like", some "(1..'x')"⟩
  let unknown : Comparison := ⟨"1", some "like", none⟩
  let same : Comparison := ⟨"1", some "==", some "1"⟩
  let missing : Comparison := ⟨"nil", some "==", none⟩
  let rest : List (Logical × Comparison) := [(.or, same), (.and, missing)]
  have hnil : c.resolve "nil" = .ok .nil := rfl
  have hone : c.resolve "1" = .ok (.int 1) := rfl
  obtain ⟨e, hrange⟩ : ∃ e, c.resolve "(1..'x')" = .error e := by
    have hfails : (c.resolve "(1..'x')").isOk = false := by decide +kernel
    cases h : c.resolve "(1..'x')" with
    | error e => exact ⟨e, rfl⟩
    | ok v =>
      rw [h] at hfails
      cases hfails
  have hequals : ops.find? c.naming "==" = some fun l r _ => l.equals r := rfl
  have hlike : ops.find? c.naming "like" = none := by decide +kernel
  have hchain (links : List (Logical × Comparison)) :=
    evaluates_flat_list ops c (ofMarkup ⟨first, links⟩) (.last first) (.last first) .and .or
      ⟨first, links⟩
  obtain ⟨-, -, -, -, -, -, -, hends, hskip⟩ := hchain []
  have hfirst : first.evaluate ops c = .ok false := (hends _ _).mpr (.truth hnil rfl (by simp))
  have hsame : same.evaluate ops c = .ok true :=
    (hends same (.ok (Value.equals (.int 1) (.int 1)))).mpr
      (.applied hone rfl (.resolved rfl hone) hequals)
  have hmissing : missing.evaluate ops c = .ok true :=
    (hends missing (.ok (Value.equals .nil .nil))).mpr (.applied hnil rfl (.missing rfl) hequals)
  have hfailing := (hends failing _).mpr (.rightFails hone rfl rfl hrange)
  have hunknown := (hends unknown _).mpr (.unknownOperator hone rfl (.missing rfl) hlike)
  have hbefore : (ofMarkup ⟨first, []⟩).evaluate ops c = .ok false := by
    obtain ⟨-, -, -, -, hfold, -⟩ := hchain []
    rw [hfold, head_ofMarkup, tail_ofMarkup, hfirst]
    rfl
  have hrest : (ofMarkup ⟨first, rest⟩).evaluate ops c = .ok true := by
    obtain ⟨-, -, -, -, hfold, -⟩ := hchain rest
    rw [hfold, head_ofMarkup, tail_ofMarkup, hfirst]
    simp only [rest, List.foldlM_cons, List.foldlM_nil, evaluateLink, hsame, hmissing]
    rfl
  have hfails (x : Comparison) (e : EvalError) (hx : x.evaluate ops c = .error e) :
      (ofMarkup ⟨first, rest ++ [(.and, x)]⟩).evaluate ops c = .error e := by
    obtain ⟨-, -, -, -, -, -, hfail, -⟩ := hchain (rest ++ [(.and, x)])
    refine (hfail e).mpr (.inr ⟨rest, .and, x, [], true, tail_ofMarkup _, ?_, rfl, hx⟩)
    rw [head_ofMarkup, hrest]
  have hpast := hskip first [] .and false hbefore rfl failing
  exact ⟨c, _, hrange, (hpast rest).trans hrest, (hpast _).trans (hfails failing _ hfailing),
    (hpast _).trans (hfails unknown _ hunknown)⟩

end LiquidEval
