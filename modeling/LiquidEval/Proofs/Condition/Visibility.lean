import LiquidEval.Proofs.Condition.Failures
import LiquidEval.Proofs.Context.Scopes
import LiquidEval.Proofs.Context.Visibility

/-! A condition sees the variables that its operands name, if its operators ask a context for its
naming convention at most. -/
namespace LiquidEval
variable {H : Type} [Host H]

namespace Value
variable {l : Value H} {w w' : View H}

theorem Typed.hasKey_congr (h : l.Typed) (hw : w.naming = w'.naming) (r : Value H) :
    hasKey w l r = hasKey w' l r := by
  unfold hasKey
  cases r.scalarText? with
  | none => rfl
  | some name =>
    cases l with
    | object fields => rfl
    | _ => exact h.hasMember_congr hw name

theorem Typed.containsValue_congr (h : l.Typed) (hw : w.naming = w'.naming) (r : Value H) :
    containsValue w l r = containsValue w' l r := by
  unfold containsValue
  cases l <;> simp only [h.hasKey_congr hw r]

end Value

namespace Operators

/-- On values without objects that look at a render, the operators of a table are told apart by its
naming convention alone. -/
def AskNaming (ops : Operators H) : Prop :=
  ∀ e ∈ ops, ∀ l r : Value H, l.Typed → r.Typed → ∀ w w' : View H, w.naming = w'.naming →
    e.2 l r w = e.2 l r w'

theorem askNaming_builtin : AskNaming (builtin (H := H)) := by
  intro e he l r hl hr w w' hw
  simp only [builtin, List.mem_cons, List.not_mem_nil, or_false] at he
  rcases he with rfl | rfl | rfl | rfl | rfl | rfl | rfl | rfl | rfl | rfl | rfl | rfl | rfl |
    rfl | rfl | rfl
  all_goals simp only [hl.hasKey_congr hw r, hl.containsValue_congr hw r]

omit [Host H] in
theorem exists_mem_of_find? {ops : Operators H} {n : Naming} {token : String}
    {p : Predicate H} (h : ops.find? n token = some p) : ∃ e ∈ ops, e.2 = p := by
  unfold find? at h
  split at h
  next q hq =>
    cases h
    exact ⟨_, Table.mem_of_get? hq, rfl⟩
  next =>
    obtain ⟨e, he, rfl⟩ := Option.map_eq_some_iff.mp h
    exact ⟨e, List.mem_of_find?_eq_some he, rfl⟩

theorem AskNaming.apply_congr {ops : Operators H} (hops : ops.AskNaming) {l r : Value H}
    (hl : l.Typed) (hr : r.Typed) {w w' : View H} (hw : w.naming = w'.naming) (token : String) :
    ops.apply token l r w = ops.apply token l r w' := by
  unfold apply
  rw [← hw]
  cases hfind : ops.find? w.naming token with
  | none => rfl
  | some p =>
    obtain ⟨e, he, rfl⟩ := exists_mem_of_find? hfind
    exact congrArg Except.ok (hops e he l r hl hr w w' hw)

end Operators

variable {ops : Operators H} {c d : Context H}

namespace Comparison

/-- Two contexts cannot be told apart by what the operands of a comparison name. -/
def Agree (x : Comparison) (c d : Context H) : Prop :=
  ∀ operand ∈ x.operands, ∀ e, Expr.ofText operand = .ok e → c.Agree d e.leaves

theorem alike_rightValue {x : Comparison} (h : x.Agree c d) :
    Context.Alike (x.rightValue c) (x.rightValue d) := by
  unfold rightValue
  cases hright : x.right with
  | none => exact Context.alike_ok Value.typed_nil
  | some right =>
    have hmem : right ∈ x.operands := by simp [operands, hright]
    exact Context.alike_resolve (h right hmem)

theorem evaluate_congr (hops : ops.AskNaming) {x : Comparison} (h : x.Agree c d) :
    x.evaluate ops c = x.evaluate ops d := by
  have hleft := Context.alike_resolve (h x.left List.mem_cons_self)
  have hright := alike_rightValue h
  unfold evaluate
  rw [← hleft.same, ← hright.same]
  cases hl : c.resolve x.left with
  | error err => rfl
  | ok l =>
    cases x.operator with
    | none => rfl
    | some token =>
      cases hr : x.rightValue c with
      | error err => rfl
      | ok r =>
        obtain ⟨e, he⟩ := Context.exists_ofText_of_resolve hl
        have hnaming : c.view.naming = d.view.naming := (h x.left List.mem_cons_self e he).naming
        exact hops.apply_congr (hleft.typed l hl) (hright.typed r hr) hnaming token

end Comparison

namespace Condition

theorem evaluate_congr (hops : ops.AskNaming) {x : Condition}
    (h : ∀ y ∈ x.comparisons, y.Agree c d) : x.evaluate ops c = x.evaluate ops d := by
  have hfrom : ∀ result, evaluateFrom ops c result x = evaluateFrom ops d result x := by
    induction x with
    | last y => exact fun _ => rfl
    | joined y l rest ih =>
      have hrest : ∀ z ∈ rest.comparisons, z.Agree c d :=
        fun z hz => h z (List.mem_cons_of_mem y hz)
      have hhead := Comparison.evaluate_congr hops (hrest rest.head List.mem_cons_self)
      intro result
      simp only [evaluateFrom, hhead, ih hrest]
  unfold evaluate
  rw [Comparison.evaluate_congr hops (h x.head List.mem_cons_self)]
  simp only [hfrom]

end Condition

/-- Neither other variables nor the scopes that the named ones are in nor the syntax level have a
part in the outcome. -/
theorem only_named_variables_seen :
    (∀ (text : String) (c d : Context H),
      (∀ e, Expr.ofText text = .ok e → c.Agree d e.leaves) → c.resolve text = d.resolve text) ∧
    ∀ (ops : Operators H), ops.AskNaming → ∀ (x : Condition) (c d : Context H),
      (∀ y ∈ x.comparisons, y.Agree c d) → x.evaluate ops c = x.evaluate ops d :=
  ⟨fun _ _ _ h => (Context.alike_resolve h).same,
    fun _ hops _ _ _ h => Condition.evaluate_congr hops h⟩

theorem only_named_variables_seen_of_moved :
    ∃ c d : Context Sample.Object, c.scopes.stack.length ≠ d.scopes.stack.length ∧
      c.get? "secret" = some (.int 1) ∧ d.get? "secret" = none ∧
      c.resolve "car[k]" = d.resolve "car[k]" ∧
        (Condition.comparing "car[k]" "contains" "k").evaluate .builtin c =
          (Condition.comparing "car[k]" "contains" "k").evaluate .builtin d := by
  let car : Value Sample.Object := .host (.given 0) (.car "Ford" "Focus")
  let c : Context Sample.Object :=
    { naming := .ruby, scopes := ⟨[("car", car), ("k", .string "make"), ("secret", .int 1)], []⟩ }
  let d : Context Sample.Object :=
    { naming := .ruby, level := .liquid22
      scopes := ⟨[("k", .nil)], [[("k", .string "make")], [("car", car)]]⟩ }
  let word (name : String) (hname : name.toList ≠ []) (h : name.toList.all Expr.isWord = true)
      (hstart : name.toList.head?.any Expr.startsName = true)
      (hkey : ∀ v, ¬Expr.IsKeyword v name.toList) : Expr.Name :=
    ⟨⟨name.toList, false, hname, List.all_eq_true.mp h⟩, hstart, hkey⟩
  let k : Expr.Name := word "k" (by decide) (by decide) (by decide) (by decide)
  let root : Expr.Name := word "car" (by decide) (by decide) (by decide) (by decide)
  let tight : Expr.Gap := ⟨[], by simp [Expr.Blanks]⟩
  let path : Expr.Tree := .named root (.bracket tight (.named k .done) tight .done)
  have hpath : Expr.ofText "car[k]" = .ok path.expr := Expr.ofText_of_tree path (by decide)
  have hk : Expr.ofText "k" = .ok (Expr.Tree.named k .done).expr :=
    Expr.ofText_of_tree (.named k .done) (by decide)
  have hcar : car.Typed := by
    refine Value.typed_host rfl ?_ (by rintro _ _ ⟨⟩)
    intro m hm
    simp only [Sample.Object.makeAndModel, List.mem_cons, List.not_mem_nil, or_false] at hm
    rcases hm with rfl | rfl <;> exact Value.typed_string _
  have hroots : ∀ root, Leaf.root root ∈ [Leaf.root "car", Leaf.root "k"] →
      root = "car" ∨ root = "k" := by simp
  have hagree : c.Agree d [.root "car", .root "k"] := by
    refine ⟨rfl, ?_, ?_⟩
    · intro root hroot
      rcases hroots root hroot with rfl | rfl <;> rfl
    · intro root hroot v hv
      rcases hroots root hroot with rfl | rfl
      · cases hv
        exact hcar
      · cases hv
        exact Value.typed_string "make"
  have hpathagree : ∀ e, Expr.ofText "car[k]" = .ok e → c.Agree d e.leaves := by
    intro e he
    obtain rfl : path.expr = e := Except.ok.inj (hpath.symm.trans he)
    exact hagree
  have hkagree : ∀ e, Expr.ofText "k" = .ok e → c.Agree d e.leaves := by
    intro e he
    obtain rfl : (Expr.Tree.named k .done).expr = e := Except.ok.inj (hk.symm.trans he)
    exact hagree.mono (List.subset_cons_self _ _)
  have hcondition : ∀ y ∈ (Condition.comparing "car[k]" "contains" "k").comparisons,
      y.Agree c d := by
    intro y hy operand hoperand
    obtain rfl := List.mem_singleton.mp hy
    rcases List.mem_cons.mp hoperand with rfl | hoperand
    · exact hpathagree
    · obtain rfl := List.mem_singleton.mp hoperand
      exact hkagree
  obtain ⟨hresolve, hevaluate⟩ := only_named_variables_seen (H := Sample.Object)
  exact ⟨c, d, by decide, rfl, rfl, hresolve "car[k]" c d hpathagree,
    hevaluate .builtin Operators.askNaming_builtin _ c d hcondition⟩

end LiquidEval
