import LiquidEval.Context
import LiquidEval.Sample.Objects

/-! Undefined values along a path. A step that comes to nil is the last one taken, so nothing behind
it can fail. An undefined root takes its first step all the same, and that step may fail. -/
namespace LiquidEval

namespace Value
variable {H : Type} [Host H]

omit [Host H] in
theorem eq_nil_of_isNil {v : Value H} (h : v.isNil = true) : v = nil := by
  cases v with
  | nil => rfl
  | _ => cases h

theorem lookup_nil (w : View H) (key : Value H) : lookup w nil key = nil := by
  have hmember : memberLookup? w nil key = none := by
    unfold memberLookup?
    split
    next => rfl
    next => rfl
  rw [lookup, hmember]
  rfl

end Value

namespace Context
variable {H : Type} [Host H] (c : Context H)

theorem keyOf_eq_error_iff {l : Lookup} {err : EvalError} :
    c.keyOf l = .error err ↔ ∃ e, l = .dynamic e ∧ c.evaluate e = .error err := by
  cases l <;> simp [keyOf]

theorem follow_cons_of_error {l : Lookup} {err : EvalError} (h : c.keyOf l = .error err)
    (current : Value H) (rest : List Lookup) : c.follow current (l :: rest) = .error err := by
  rw [follow, h]

theorem follow_cons_of_ok {l : Lookup} {key : Value H} (h : c.keyOf l = .ok key)
    (current : Value H) (rest : List Lookup) :
    c.follow current (l :: rest) =
      if (current.lookup c.view key).isNil then .ok .nil
      else c.follow (current.lookup c.view key) rest := by
  rw [follow, h]

theorem follow_nil_cons_of_ok {l : Lookup} {key : Value H} (h : c.keyOf l = .ok key)
    (rest : List Lookup) : c.follow .nil (l :: rest) = .ok .nil := by
  rw [follow_cons_of_ok c h, Value.lookup_nil]
  rfl

/-- Steps that have come to nil leave nothing for later steps to do. -/
theorem follow_append_of_nil {l : Lookup} {before : List Lookup} {current : Value H}
    (h : c.follow current (l :: before) = .ok .nil) (after : List Lookup) :
    c.follow current (l :: (before ++ after)) = .ok .nil := by
  induction before generalizing l current with
  | nil =>
    cases hkey : c.keyOf l with
    | error err =>
      rw [follow_cons_of_error c hkey] at h
      cases h
    | ok key =>
      rw [follow_cons_of_ok c hkey] at h ⊢
      split
      next => rfl
      next hnil =>
        rw [if_neg hnil, follow, Except.ok.injEq] at h
        rw [h] at hnil
        exact absurd rfl hnil
  | cons m before ih =>
    cases hkey : c.keyOf l with
    | error err =>
      rw [follow_cons_of_error c hkey] at h
      cases h
    | ok key =>
      rw [follow_cons_of_ok c hkey] at h ⊢
      split
      next => rfl
      next hnil =>
        rw [if_neg hnil] at h
        exact ih h

/-- The first of some steps is an expression, and it fails. -/
def FailsFirst (steps : List Lookup) (err : EvalError) : Prop :=
  ∃ e rest, steps = .dynamic e :: rest ∧ c.evaluate e = .error err

theorem follow_nil_eq_error_iff {steps : List Lookup} {err : EvalError} :
    c.follow .nil steps = .error err ↔ c.FailsFirst steps err := by
  constructor
  · intro h
    cases steps with
    | nil =>
      rw [follow] at h
      cases h
    | cons l rest =>
      cases hkey : c.keyOf l with
      | error err' =>
        rw [follow_cons_of_error c hkey] at h
        cases h
        obtain ⟨e, rfl, he⟩ := (keyOf_eq_error_iff c).mp hkey
        exact ⟨e, rest, rfl, he⟩
      | ok key =>
        rw [follow_nil_cons_of_ok c hkey] at h
        cases h
  · rintro ⟨e, rest, rfl, he⟩
    exact follow_cons_of_error c ((keyOf_eq_error_iff c).mpr ⟨e, rfl, he⟩) .nil rest

theorem eq_nil_of_follow_nil {steps : List Lookup} {v : Value H}
    (h : c.follow .nil steps = .ok v) : v = .nil := by
  cases steps with
  | nil =>
    rw [follow] at h
    exact (Except.ok.inj h).symm
  | cons l rest =>
    cases hkey : c.keyOf l with
    | error err =>
      rw [follow_cons_of_error c hkey] at h
      cases h
    | ok key =>
      rw [follow_nil_cons_of_ok c hkey] at h
      exact (Except.ok.inj h).symm

/-- From where a path has come to nil it is nil to its end. Only a root without a step is not yet
the end: the first step is taken then, and it fails the path if it is an expression that fails. -/
theorem nil_absorbs_steps {root : String} {before : List Lookup}
    (h : c.evaluate (.path root before) = .ok .nil) (after : List Lookup) :
    (c.evaluate (.path root (before ++ after)) = .ok .nil ↔
      (before = [] → ∀ err, ¬c.FailsFirst after err)) ∧
    ∀ err, c.evaluate (.path root (before ++ after)) = .error err ↔
      before = [] ∧ c.FailsFirst after err := by
  rw [evaluate] at h
  rw [evaluate]
  cases before with
  | nil =>
    rw [follow, Except.ok.injEq] at h
    simp only [h, List.nil_append, true_and, forall_const, ← follow_nil_eq_error_iff, implies_true,
      and_true]
    cases hwhole : c.follow .nil after with
    | error err => simp
    | ok v => simp [eq_nil_of_follow_nil c hwhole]
  | cons l before =>
    rw [List.cons_append, follow_append_of_nil c h after]
    simp

/-- A range that is too long does no harm behind an undefined member. -/
theorem nil_absorbs_steps_past_long_range :
    ∃ (c : Context Sample.Object) (range : Expr),
      c.evaluate range = .error (.badSyntax range.print (.rangeLength 5000000 100000)) ∧
      c.evaluate (.path "car" [.key "Owner"]) = .ok .nil ∧
      c.evaluate (.path "car" ([.key "Owner"] ++ [.dynamic range, .key "name"])) = .ok .nil := by
  let c : Context Sample.Object :=
    { naming := .ruby, scopes := ⟨[("car", .host (.given 0) (.car "VW" "Golf"))], []⟩ }
  let range : Expr := .range (.literal (.int 1)) (.literal (.int 5000000))
  have hnil : c.evaluate (.path "car" [.key "Owner"]) = .ok .nil := by rfl
  obtain ⟨hwhole, -⟩ := c.nil_absorbs_steps hnil [.dynamic range, .key "name"]
  exact ⟨c, range, rfl, hnil, hwhole.mpr fun h => absurd h (List.cons_ne_nil _ _)⟩

/-- The same range behind an undefined root fails the path. -/
theorem long_range_fails_undefined_root :
    ∃ (c : Context Sample.Object) (range : Expr),
      c.evaluate (.path "missing" []) = .ok .nil ∧
      c.evaluate (.path "missing" ([] ++ [.dynamic range])) =
        .error (.badSyntax range.print (.rangeLength 5000000 100000)) :=
  ⟨{ naming := .ruby }, .range (.literal (.int 1)) (.literal (.int 5000000)), rfl, rfl⟩

end Context
end LiquidEval
