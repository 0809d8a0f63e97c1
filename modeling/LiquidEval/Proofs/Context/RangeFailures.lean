import LiquidEval.Context

/-! An expression that was read fails at its ranges or not at all: everything else that it can ask
for and not find is nil. -/
namespace LiquidEval

mutual
/-- Every range in an expression, the outermost first. -/
def Expr.ranges : Expr → List Expr
  | .literal _ => []
  | .range first last => .range first last :: (first.ranges ++ last.ranges)
  | .path _ lookups => lookupRanges lookups
def Lookup.ranges : Lookup → List Expr
  | .key _ => []
  | .index _ => []
  | .dynamic e => e.ranges
def lookupRanges : List Lookup → List Expr
  | [] => []
  | l :: rest => l.ranges ++ lookupRanges rest
end

namespace Context
variable {H : Type} [Host H] (c : Context H)

/-- A range fails when a bound stands for no integer, or when it has too many items. -/
inductive RangeFailure : Expr → EvalError → Prop where
  | first {first last : Expr} {v : Value H} (hv : c.evaluate first = .ok v)
      (hbound : v.rangeBound? = none) :
      RangeFailure (.range first last)
        (.badSyntax (Expr.range first last).print (.rangeBound v.display))
  | last {first last : Expr} {v : Value H} (hv : c.evaluate last = .ok v)
      (hbound : v.rangeBound? = none) :
      RangeFailure (.range first last)
        (.badSyntax (Expr.range first last).print (.rangeBound v.display))
  | length {first last : Expr} {v w : Value H} {a b : Int} (hv : c.evaluate first = .ok v)
      (hw : c.evaluate last = .ok w) (ha : v.rangeBound? = some a)
      (hb : w.rangeBound? = some b) (hlength : maxRangeLength < b - a + 1) :
      RangeFailure (.range first last)
        (.badSyntax (Expr.range first last).print (.rangeLength (b - a + 1) maxRangeLength))

theorem rangeFailure_of_rangeItems {first last : Expr} {v w : Value H} {err : EvalError}
    (hv : c.evaluate first = .ok v) (hw : c.evaluate last = .ok w)
    (h : rangeItems (.range first last) v w = .error err) :
    RangeFailure c (.range first last) err := by
  unfold rangeItems at h
  split at h
  next hbound =>
    cases h
    exact .first hv hbound
  next a ha =>
    split at h
    next hbound =>
      cases h
      exact .last hw hbound
    next b hb =>
      split at h
      next hlength =>
        cases h
        exact .length hv hw ha hb hlength
      next => cases h

mutual
theorem exists_rangeFailure_of_evaluate (e : Expr) {err : EvalError}
    (h : c.evaluate e = .error err) : ∃ r ∈ e.ranges, RangeFailure c r err := by
  match e with
  | .literal _ => rw [evaluate] at h; cases h
  | .range first last =>
    rw [evaluate] at h
    cases hv : c.evaluate first with
    | error err' =>
      rw [hv] at h
      cases h
      obtain ⟨r, hr, hfail⟩ := exists_rangeFailure_of_evaluate first hv
      exact ⟨r, by simp [Expr.ranges, hr], hfail⟩
    | ok v =>
      cases hw : c.evaluate last with
      | error err' =>
        rw [hv, hw] at h
        cases h
        obtain ⟨r, hr, hfail⟩ := exists_rangeFailure_of_evaluate last hw
        exact ⟨r, by simp [Expr.ranges, hr], hfail⟩
      | ok w =>
        rw [hv, hw] at h
        exact ⟨_, by simp [Expr.ranges], rangeFailure_of_rangeItems c hv hw h⟩
  | .path root lookups =>
    rw [evaluate] at h
    exact exists_rangeFailure_of_follow lookups h

theorem exists_rangeFailure_of_keyOf (l : Lookup) {err : EvalError}
    (h : c.keyOf l = .error err) : ∃ r ∈ l.ranges, RangeFailure c r err := by
  match l with
  | .key _ => rw [keyOf] at h; cases h
  | .index _ => rw [keyOf] at h; cases h
  | .dynamic e =>
    rw [keyOf] at h
    exact exists_rangeFailure_of_evaluate e h

theorem exists_rangeFailure_of_follow (lookups : List Lookup) {current : Value H}
    {err : EvalError} (h : c.follow current lookups = .error err) :
    ∃ r ∈ lookupRanges lookups, RangeFailure c r err := by
  match lookups with
  | [] => rw [follow] at h; cases h
  | l :: rest =>
    rw [follow] at h
    cases hkey : c.keyOf l with
    | error err' =>
      rw [hkey] at h
      cases h
      obtain ⟨r, hr, hfail⟩ := exists_rangeFailure_of_keyOf l hkey
      exact ⟨r, by simp [lookupRanges, hr], hfail⟩
    | ok key =>
      rw [hkey] at h
      dsimp only at h
      split at h
      next => cases h
      next =>
        obtain ⟨r, hr, hfail⟩ := exists_rangeFailure_of_follow rest h
        exact ⟨r, by simp [lookupRanges, hr], hfail⟩
end

end Context
end LiquidEval
