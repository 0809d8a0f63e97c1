import LiquidEval.Proofs.Value.RangeBounds
import LiquidEval.Sample.Objects

/-! Ranges. Their items are the integers from one bound to the other, and there are never more of
them than the limit: neither in the value of a range nor in an array that is built on the way to the
value of another expression. -/
namespace LiquidEval

namespace Value
variable {H : Type}

theorem length_integersFrom (first : Int) (length : Nat) :
    (integersFrom first length : List (Value H)).length = length := by
  rw [integersFrom, List.length_map, List.length_range]

/-- No item leaves the 64 bits if the first and the last do not. -/
theorem getElem?_integersFrom {first : Int} {length i : Nat} (hlow : Decimal.leastInt64 ≤ first)
    (hhigh : first + length - 1 ≤ Decimal.greatestInt64) (hi : i < length) :
    ∃ n : Int64, (integersFrom first length : List (Value H))[i]? = some (int n) ∧
      n.toInt = first + i := by
  refine ⟨Int64.ofInt (first + i), ?_, ?_⟩
  · rw [integersFrom, List.getElem?_map, List.getElem?_range hi]
    rfl
  · exact Decimal.toInt_ofInt_of_bounds (by omega) (by omega)

/-- The items of a range, one after another from its first bound on. -/
def IsRangeFrom (a b : Int) (items : List (Value H)) : Prop :=
  (items.length : Int) = max 0 (b - a + 1) ∧
    ∀ i < items.length, ∃ n : Int64, items[i]? = some (int n) ∧ n.toInt = a + i

theorem isRangeFrom_integersFrom {v w : Value H} {a b : Int} (ha : StandsFor v a)
    (hb : StandsFor w b) :
    IsRangeFrom a b (integersFrom a (b - a + 1).toNat : List (Value H)) := by
  unfold IsRangeFrom
  rw [length_integersFrom]
  refine ⟨by omega, fun i hi => getElem?_integersFrom ha.bounds.1 ?_ hi⟩
  have := hb.bounds.2
  omega

end Value

/-- What an evaluation comes to, and the arrays that were built for ranges on the way. -/
structure Recorded (H α : Type) where
  built : List (List (Value H))
  result : Except EvalError α

namespace Recorded
variable {H α β : Type}

def done (a : α) : Recorded H α := ⟨[], .ok a⟩

def andThen (r : Recorded H α) (f : α → Recorded H β) : Recorded H β :=
  match r.result with
  | .error e => ⟨r.built, .error e⟩
  | .ok a => ⟨r.built ++ (f a).built, (f a).result⟩

def ofRange : Except EvalError (Value H) → Recorded H (Value H)
  | .ok (.array items) => ⟨[items], .ok (.array items)⟩
  | r => ⟨[], r⟩

/-- No array is longer than the limit. -/
def Bounded (r : Recorded H α) : Prop := ∀ items ∈ r.built, (items.length : Int) ≤ maxRangeLength

theorem result_andThen (r : Recorded H α) (f : α → Recorded H β) :
    (r.andThen f).result =
      match r.result with
      | .error e => .error e
      | .ok a => (f a).result := by
  unfold andThen
  cases r.result with
  | error e => rfl
  | ok a => rfl

theorem built_andThen_of_ok {r : Recorded H α} {a : α} (h : r.result = .ok a)
    (f : α → Recorded H β) :
    (r.andThen f).built = r.built ++ (f a).built := by
  rw [andThen, h]

theorem result_ofRange (r : Except EvalError (Value H)) : (ofRange r).result = r := by
  unfold ofRange
  split
  next => rfl
  next => rfl

theorem bounded_done (a : α) : (done a : Recorded H α).Bounded := by
  rintro items ⟨⟩

theorem Bounded.andThen {r : Recorded H α} {f : α → Recorded H β} (hr : r.Bounded)
    (hf : ∀ a, (f a).Bounded) : (r.andThen f).Bounded := by
  unfold Recorded.andThen
  cases r.result with
  | error e => exact hr
  | ok a =>
    intro items hitems
    rcases List.mem_append.mp hitems with h | h
    · exact hr items h
    · exact hf a items h

end Recorded

namespace Context
variable {H : Type} [Host H]

section
variable {v w : Value H} {a b : Int}

theorem rangeItems_of_unbounded (e : Expr) (h : v.rangeBound? = none ∨ w.rangeBound? = none) :
    ∃ cause, rangeItems e v w = .error (.badSyntax e.print cause) := by
  unfold rangeItems
  cases hv : v.rangeBound? with
  | none => exact ⟨_, rfl⟩
  | some a =>
    rw [h.resolve_left (hv ▸ Option.some_ne_none a)]
    exact ⟨_, rfl⟩

theorem rangeItems_of_bounds (e : Expr) (ha : v.rangeBound? = some a)
    (hb : w.rangeBound? = some b) :
    rangeItems e v w =
      if maxRangeLength < b - a + 1 then
        .error (.badSyntax e.print (.rangeLength (b - a + 1) maxRangeLength))
      else .ok (.array (Value.integersFrom a (b - a + 1).toNat)) := by
  rw [rangeItems, ha]
  dsimp only
  rw [hb]

/-- Whatever the bounds of a range are, no array longer than the limit is built for it. -/
theorem bounded_rangeItems (e : Expr) (v w : Value H) :
    (Recorded.ofRange (rangeItems e v w)).Bounded := by
  cases ha : v.rangeBound? with
  | none =>
    obtain ⟨cause, h⟩ := rangeItems_of_unbounded e (.inl ha : _ ∨ w.rangeBound? = none)
    rw [h]
    rintro items ⟨⟩
  | some a =>
    cases hb : w.rangeBound? with
    | none =>
      obtain ⟨cause, h⟩ := rangeItems_of_unbounded e (.inr hb : v.rangeBound? = none ∨ _)
      rw [h]
      rintro items ⟨⟩
    | some b =>
      rw [rangeItems_of_bounds e ha hb]
      split
      next =>
        rintro items ⟨⟩
      next hlength =>
        intro items hitems
        rw [List.mem_singleton.mp hitems, Value.length_integersFrom]
        unfold maxRangeLength at *
        omega

end

mutual
/-- Evaluation with a record of what is built for ranges. -/
def record (c : Context H) : Expr → Recorded H (Value H)
  | .literal l => .done l.value
  | .range first last =>
    (record c first).andThen fun v =>
      (record c last).andThen fun w => .ofRange (rangeItems (.range first last) v w)
  | .path root lookups => recordSteps c ((c.get? root).getD .nil) lookups
def recordKey (c : Context H) : Lookup → Recorded H (Value H)
  | .key name => .done (.string name)
  | .index i => .done (.int i)
  | .dynamic e => record c e
def recordSteps (c : Context H) (current : Value H) : List Lookup → Recorded H (Value H)
  | [] => .done current
  | l :: rest =>
    (recordKey c l).andThen fun key =>
      if (current.lookup c.view key).isNil then .done .nil
      else recordSteps c (current.lookup c.view key) rest
end

variable (c : Context H)

mutual
/-- The record changes nothing. -/
theorem result_record (e : Expr) : (c.record e).result = c.evaluate e := by
  match e with
  | .literal _ => rfl
  | .range first last =>
    rw [record, evaluate, Recorded.result_andThen, result_record first]
    cases c.evaluate first with
    | error err => rfl
    | ok v =>
      dsimp only
      rw [Recorded.result_andThen, result_record last]
      cases c.evaluate last with
      | error err => rfl
      | ok w => exact Recorded.result_ofRange _
  | .path root lookups =>
    rw [record, evaluate]
    exact result_recordSteps lookups _

theorem result_recordKey (l : Lookup) : (c.recordKey l).result = c.keyOf l := by
  match l with
  | .key _ => rfl
  | .index _ => rfl
  | .dynamic e =>
    rw [recordKey, keyOf]
    exact result_record e

theorem result_recordSteps (lookups : List Lookup) (current : Value H) :
    (c.recordSteps current lookups).result = c.follow current lookups := by
  match lookups with
  | [] => rfl
  | l :: rest =>
    rw [recordSteps, follow, Recorded.result_andThen, result_recordKey l]
    cases c.keyOf l with
    | error err => rfl
    | ok key =>
      dsimp only
      split
      next => rfl
      next => exact result_recordSteps rest _
end

mutual
theorem bounded_record (e : Expr) : (c.record e).Bounded := by
  match e with
  | .literal l =>
    rw [record]
    exact Recorded.bounded_done _
  | .range first last =>
    rw [record]
    exact (bounded_record first).andThen fun v => (bounded_record last).andThen fun w =>
      bounded_rangeItems _ v w
  | .path root lookups =>
    rw [record]
    exact bounded_recordSteps lookups _

theorem bounded_recordKey (l : Lookup) : (c.recordKey l).Bounded := by
  match l with
  | .key name =>
    rw [recordKey]
    exact Recorded.bounded_done _
  | .index i =>
    rw [recordKey]
    exact Recorded.bounded_done _
  | .dynamic e =>
    rw [recordKey]
    exact bounded_record e

theorem bounded_recordSteps (lookups : List Lookup) (current : Value H) :
    (c.recordSteps current lookups).Bounded := by
  match lookups with
  | [] =>
    rw [recordSteps]
    exact Recorded.bounded_done _
  | l :: rest =>
    rw [recordSteps]
    refine (bounded_recordKey l).andThen fun key => ?_
    split
    next => exact Recorded.bounded_done _
    next => exact bounded_recordSteps rest _
end

/-- The range is rejected with a syntax error that names it. -/
def Rejects (range : Expr) : Prop :=
  ∃ cause, c.evaluate range = .error (.badSyntax range.print cause)

theorem evaluate_range {first last : Expr} {v w : Value H} (hv : c.evaluate first = .ok v)
    (hw : c.evaluate last = .ok w) :
    c.evaluate (.range first last) = rangeItems (.range first last) v w := by
  rw [evaluate, hv]
  dsimp only
  rw [hw]

/-- The items of a range are recorded behind what is built for its bounds. -/
theorem built_record_range {first last : Expr} {v w : Value H} {items : List (Value H)}
    (hv : c.evaluate first = .ok v) (hw : c.evaluate last = .ok w)
    (h : c.evaluate (.range first last) = .ok (.array items)) :
    (c.record (.range first last)).built =
      (c.record first).built ++ ((c.record last).built ++ [items]) := by
  rw [c.evaluate_range hv hw] at h
  rw [record, Recorded.built_andThen_of_ok ((c.result_record first).trans hv),
    Recorded.built_andThen_of_ok ((c.result_record last).trans hw), h]
  rfl

/-- A range is rejected if a bound stands for no integer or if there are too many integers between
the bounds, and is the array of these integers otherwise, which is recorded. No longer array is
built for a range while any expression is evaluated. -/
theorem ranges_exact_and_bounded :
    (∀ first last v w, c.evaluate first = .ok v → c.evaluate last = .ok w →
      ((∀ a, ¬Value.StandsFor v a) ∨ (∀ b, ¬Value.StandsFor w b) → c.Rejects (.range first last)) ∧
      ∀ a b, Value.StandsFor v a → Value.StandsFor w b →
        (c.Rejects (.range first last) ↔ maxRangeLength < b - a + 1) ∧
        (b - a + 1 ≤ maxRangeLength →
          ∃ items, c.evaluate (.range first last) = .ok (.array items) ∧
          Value.IsRangeFrom a b items ∧
            (c.record (.range first last)).built =
              (c.record first).built ++ ((c.record last).built ++ [items]))) ∧
    ∀ e, (c.record e).result = c.evaluate e ∧ (c.record e).Bounded := by
  refine ⟨fun first last v w hv hw => ⟨fun h => ?_, fun a b ha hb => ?_⟩,
    fun e => ⟨c.result_record e, c.bounded_record e⟩⟩
  · rw [← Value.rangeBound?_eq_none_iff, ← Value.rangeBound?_eq_none_iff] at h
    rw [Rejects, c.evaluate_range hv hw]
    exact rangeItems_of_unbounded _ h
  · have hitems := rangeItems_of_bounds (.range first last) (Value.rangeBound?_eq_some_iff.mpr ha)
      (Value.rangeBound?_eq_some_iff.mpr hb)
    rw [← c.evaluate_range hv hw] at hitems
    constructor
    · rw [Rejects, hitems]
      split
      next hlong => exact iff_of_true ⟨_, rfl⟩ hlong
      next hfits => exact iff_of_false (by rintro ⟨cause, ⟨⟩⟩) hfits
    · intro hfits
      rw [if_neg (not_lt.mpr hfits)] at hitems
      exact ⟨_, hitems, Value.isRangeFrom_integersFrom ha hb, c.built_record_range hv hw hitems⟩

/-- At the ends of the 64 bits: everything between them is too much, and what lies beyond counts as
the end. -/
theorem ranges_exact_and_bounded_at_ends :
    let c : Context Sample.Object :=
      { naming := .ruby, scopes := ⟨[("top", .string " +9223372036854775807 ")], []⟩ }
    let top : Expr := .path "top" []
    let below : Expr := .literal (.int 9223372036854775806)
    c.Rejects (.range (.literal (.int Int64.minValue)) top) ∧
      c.Rejects (.range top (.literal (.bool true))) ∧
      (∃ items, c.evaluate (.range below top) = .ok (.array items) ∧
        Value.IsRangeFrom 9223372036854775806 9223372036854775807 items) ∧
      ∃ items, c.evaluate (.range below (.literal (.float 1e300))) = .ok (.array items) ∧
        Value.IsRangeFrom 9223372036854775806 9223372036854775807 items := by
  intro c top below
  obtain ⟨hranges, -⟩ := c.ranges_exact_and_bounded
  have htop : Value.StandsFor (.string " +9223372036854775807 " : Value Sample.Object)
      9223372036854775807 :=
    Value.rangeBound?_eq_some_iff.mp (by decide)
  have hbelow : Value.StandsFor (.int 9223372036854775806 : Value Sample.Object)
      9223372036854775806 :=
    Value.rangeBound?_eq_some_iff.mp (by decide)
  have hhuge : Value.StandsFor (.float 1e300 : Value Sample.Object) 9223372036854775807 :=
    Value.rangeBound?_eq_some_iff.mp (by decide +kernel)
  obtain ⟨-, hall⟩ := hranges (.literal (.int Int64.minValue)) top _ _ rfl rfl
  obtain ⟨hbool, -⟩ := hranges top (.literal (.bool true)) _ _ rfl rfl
  obtain ⟨-, htwo⟩ := hranges below top _ _ rfl rfl
  obtain ⟨-, hcut⟩ := hranges below (.literal (.float 1e300)) _ _ rfl rfl
  refine ⟨(hall _ _ (.int _) htop).1.mpr (by decide), hbool (.inr fun b h => by cases h), ?_, ?_⟩
  · obtain ⟨items, hitems, hrange, -⟩ := (htwo _ _ hbelow htop).2 (by decide)
    exact ⟨items, hitems, hrange⟩
  · obtain ⟨items, hitems, hrange, -⟩ := (hcut _ _ hbelow hhuge).2 (by decide)
    exact ⟨items, hitems, hrange⟩

end Context
end LiquidEval
