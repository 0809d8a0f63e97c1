import LiquidEval.Proofs.Filter.Coercion
import LiquidEval.Proofs.Filter.Slots

/-! Binding the parameters of an overload. Either every parameter gets a value that it can hold, or
the first that gets none is reported. -/
namespace LiquidEval.Strainer
variable {H : Type} [Host H]

theorem bindValue_eq_ok_iff {filter : String} {p : Parameter H} {slot : Option (Value H)}
    {w : Value H} :
    bindValue filter p slot = .ok w ↔
      ∃ v, slot.or p.default = some v ∧ Value.Converts p.type v w := by
  simp only [← Value.coerce_eq_ok_iff]
  unfold bindValue
  split
  next hnone => simp [hnone]
  next v hv =>
    simp only [hv, Option.some_inj, exists_eq_left']
    cases v.coerce p.type <;> simp

theorem bindValue_eq_error {filter : String} {p : Parameter H} {slot : Option (Value H)}
    {e : EvalError} (h : bindValue filter p slot = .error e) :
    slot.or p.default = none ∧ e = .missingDefault filter p.name ∨
      ∃ v, slot.or p.default = some v ∧ (∀ w, ¬Value.Converts p.type v w) ∧
        e = .argumentConversion filter p.name v.display p.type.text := by
  unfold bindValue at h
  split at h
  next hnone =>
    cases h
    exact .inl ⟨hnone, rfl⟩
  next v hv =>
    split at h
    next => cases h
    next w hw =>
      cases h
      obtain ⟨rfl, hnone⟩ := Value.coerce_eq_error_iff.mp hw
      exact .inr ⟨w, hv, hnone, rfl⟩

/-- Binding goes through the parameters in order and stops at the first that fails. -/
theorem bindValues_cases (filter : String) (ps : List (Parameter H))
    (slots : List (Option (Value H))) (h : slots.length = ps.length) :
    (∃ values, bindValues filter ps slots = .ok values ∧ values.length = ps.length ∧
      ∀ (i : Nat) p slot, ps[i]? = some p → slots[i]? = some slot →
        ∃ w, values[i]? = some w ∧ bindValue filter p slot = .ok w) ∨
    ∃ (i : Nat) (p : Parameter H) (slot : Option (Value H)) (e : EvalError),
      ps[i]? = some p ∧ slots[i]? = some slot ∧ bindValue filter p slot = .error e ∧
      bindValues filter ps slots = .error e ∧
      ∀ j < i, ∀ q slot', ps[j]? = some q → slots[j]? = some slot' →
        ∃ w, bindValue filter q slot' = .ok w := by
  induction ps generalizing slots with
  | nil => exact .inl ⟨[], by unfold bindValues; rfl, rfl, by simp⟩
  | cons p ps ih =>
    cases slots with
    | nil => simp at h
    | cons slot slots =>
      cases hslot : bindValue filter p slot with
      | error e =>
        refine .inr ⟨0, p, slot, e, rfl, rfl, hslot, by simp [bindValues, hslot], ?_⟩
        intro j hj
        omega
      | ok w =>
        rcases ih slots (by simpa using h) with
          ⟨values, hvalues, hlength, hall⟩ | ⟨i, q, slot', e, hq, hslot', he, herror, hbefore⟩
        · refine .inl ⟨w :: values, by simp [bindValues, hslot, hvalues], by simp [hlength], ?_⟩
          intro i q slot' hq hslot'
          cases i with
          | zero =>
            cases hq
            cases hslot'
            exact ⟨w, rfl, hslot⟩
          | succ i => exact hall i q slot' hq hslot'
        · refine .inr ⟨i + 1, q, slot', e, hq, hslot', he,
            by simp [bindValues, hslot, herror], ?_⟩
          intro j hj q' slot'' hq' hslot''
          cases j with
          | zero =>
            cases hq'
            cases hslot''
            exact ⟨w, hslot⟩
          | succ j => exact hbefore j (by omega) q' slot'' hq' hslot''

section Binding
variable {filter : String} {n : Naming} {d : Descriptor H} {args : List (Value H)}
  {named : List (String × Value H)}

/-- The parameter `p` at `i` gets the value `w`. -/
def Bound (n : Naming) (d : Descriptor H) (args : List (Value H)) (named : List (String × Value H))
    (i : Nat) (p : Parameter H) (w : Value H) : Prop :=
  ∃ v, Filled n d args named i p v ∧ Value.Converts p.type v w

/-- Why the parameter `p` at `i` gets no value. -/
inductive Unbound (filter : String) (n : Naming) (d : Descriptor H) (args : List (Value H))
    (named : List (String × Value H)) (i : Nat) (p : Parameter H) : EvalError → Prop where
  | missing (unfilled : ∀ v, ¬Filled n d args named i p v) :
      Unbound filter n d args named i p (.missingDefault filter p.name)
  | unconvertible {v : Value H} (filled : Filled n d args named i p v)
      (rejected : ∀ w, ¬Value.Converts p.type v w) :
      Unbound filter n d args named i p
        (.argumentConversion filter p.name v.display p.type.text)

/-- Every parameter gets the value that stands at its place. -/
def AllBound (n : Naming) (d : Descriptor H) (args : List (Value H))
    (named : List (String × Value H)) (values : List (Value H)) : Prop :=
  values.length = d.parameters.length ∧
    ∀ (i : Nat) p, d.parameters[i]? = some p →
      ∃ w, values[i]? = some w ∧ Bound n d args named i p w

/-- The first parameter that gets no value gets none for the reason `e`. -/
def FirstUnbound (filter : String) (n : Naming) (d : Descriptor H) (args : List (Value H))
    (named : List (String × Value H)) (e : EvalError) : Prop :=
  ∃ (i : Nat) (p : Parameter H), d.parameters[i]? = some p ∧
    (∀ j < i, ∀ q, d.parameters[j]? = some q → ∃ w, Bound n d args named j q w) ∧
    Unbound filter n d args named i p e

omit [Host H] in
theorem Bound.unique {i : Nat} {p : Parameter H} {w w' : Value H}
    (h : Bound n d args named i p w) (h' : Bound n d args named i p w') : w = w' := by
  obtain ⟨v, hv, hw⟩ := h
  obtain ⟨v', hv', hw'⟩ := h'
  obtain rfl := hv.unique hv'
  exact hw.unique hw'

theorem Bound.not_unbound {i : Nat} {p : Parameter H} {w : Value H} {e : EvalError}
    (h : Bound n d args named i p w) : ¬Unbound filter n d args named i p e := by
  obtain ⟨v, hv, hw⟩ := h
  rintro (hnone | ⟨hv', hrejected⟩)
  · exact hnone v hv
  · obtain rfl := hv.unique hv'
    exact hrejected w hw

theorem Unbound.unique {i : Nat} {p : Parameter H} {e e' : EvalError}
    (h : Unbound filter n d args named i p e) (h' : Unbound filter n d args named i p e') :
    e = e' := by
  cases h with
  | missing hnone =>
    cases h' with
    | missing => rfl
    | unconvertible hv => exact absurd hv (hnone _)
  | unconvertible hv =>
    cases h' with
    | missing hnone => exact absurd hv (hnone _)
    | unconvertible hv' =>
      obtain rfl := hv.unique hv'
      rfl

omit [Host H] in
theorem AllBound.unique {values values' : List (Value H)} (h : AllBound n d args named values)
    (h' : AllBound n d args named values') : values = values' := by
  apply List.ext_getElem (h.1.trans h'.1.symm)
  intro i hi hi'
  have hp := List.getElem?_eq_getElem (h.1 ▸ hi)
  obtain ⟨w, hw, hbound⟩ := h.2 i _ hp
  obtain ⟨w', hw', hbound'⟩ := h'.2 i _ hp
  obtain rfl := hbound.unique hbound'
  exact Option.some_inj.mp (by
    rw [← List.getElem?_eq_getElem hi, ← List.getElem?_eq_getElem hi', hw, hw'])

theorem AllBound.not_firstUnbound {values : List (Value H)} {e : EvalError}
    (h : AllBound n d args named values) : ¬FirstUnbound filter n d args named e := by
  rintro ⟨i, p, hp, -, hunbound⟩
  obtain ⟨w, -, hbound⟩ := h.2 i p hp
  exact hbound.not_unbound hunbound

theorem FirstUnbound.unique {e e' : EvalError} (h : FirstUnbound filter n d args named e)
    (h' : FirstUnbound filter n d args named e') : e = e' := by
  obtain ⟨i, p, hp, hbefore, hunbound⟩ := h
  obtain ⟨j, q, hq, hbefore', hunbound'⟩ := h'
  rcases Nat.lt_trichotomy i j with hlt | rfl | hlt
  · obtain ⟨w, hbound⟩ := hbefore' i hlt p hp
    exact absurd hunbound hbound.not_unbound
  · obtain rfl := Option.some_inj.mp (hp.symm.trans hq)
    exact hunbound.unique hunbound'
  · obtain ⟨w, hbound⟩ := hbefore j hlt q hq
    exact absurd hunbound' hbound.not_unbound

theorem bindValues_slots_cases (filter : String) (n : Naming) (d : Descriptor H)
    (args : List (Value H)) (named : List (String × Value H)) :
    (∃ values, bindValues filter d.parameters (slots n d args named) = .ok values ∧
      AllBound n d args named values) ∨
    ∃ e, bindValues filter d.parameters (slots n d args named) = .error e ∧
      FirstUnbound filter n d args named e := by
  have hslot : ∀ (i : Nat) p, d.parameters[i]? = some p →
      (slots n d args named)[i]? =
        some ((lastNamed n d named i).or (args.take d.orderedCount)[i]?) :=
    fun i p hp => getElem?_slots args named (List.getElem?_eq_some_iff.mp hp).1
  have hbound : ∀ (i : Nat) (p : Parameter H) w,
      bindValue filter p ((lastNamed n d named i).or (args.take d.orderedCount)[i]?) = .ok w →
        Bound n d args named i p w := by
    intro i p w hw
    obtain ⟨v, hv, hconverts⟩ := bindValue_eq_ok_iff.mp hw
    exact ⟨v, filled_iff.mpr hv, hconverts⟩
  rcases bindValues_cases filter d.parameters (slots n d args named) (length_slots args named) with
    ⟨values, hvalues, hlength, hall⟩ | ⟨i, p, slot, e, hp, hs, he, herror, hbefore⟩
  · refine .inl ⟨values, hvalues, hlength, ?_⟩
    intro i p hp
    obtain ⟨w, hw, hbind⟩ := hall i p _ hp (hslot i p hp)
    exact ⟨w, hw, hbound i p w hbind⟩
  · refine .inr ⟨e, herror, i, p, hp, ?_, ?_⟩
    · intro j hj q hq
      obtain ⟨w, hbind⟩ := hbefore j hj q _ hq (hslot j q hq)
      exact ⟨w, hbound j q w hbind⟩
    · obtain rfl := Option.some_inj.mp ((hslot i p hp).symm.trans hs)
      rcases bindValue_eq_error he with ⟨hnone, rfl⟩ | ⟨v, hv, hrejected, rfl⟩
      · refine .missing fun v hv => ?_
        rw [filled_iff, hnone] at hv
        cases hv
      · exact .unconvertible (filled_iff.mpr hv) hrejected

theorem bindValues_slots_eq_ok_iff {values : List (Value H)} :
    bindValues filter d.parameters (slots n d args named) = .ok values ↔
      AllBound n d args named values := by
  rcases bindValues_slots_cases filter n d args named with ⟨us, hok, hus⟩ | ⟨e, herror, he⟩
  · rw [hok, Except.ok.injEq]
    exact ⟨fun h => h ▸ hus, fun h => hus.unique h⟩
  · rw [herror]
    exact ⟨fun h => (nomatch h), fun h => absurd he h.not_firstUnbound⟩

theorem bindValues_slots_eq_error_iff {e : EvalError} :
    bindValues filter d.parameters (slots n d args named) = .error e ↔
      FirstUnbound filter n d args named e := by
  rcases bindValues_slots_cases filter n d args named with ⟨us, hok, hus⟩ | ⟨e', herror, he⟩
  · rw [hok]
    exact ⟨fun h => (nomatch h), fun h => absurd h hus.not_firstUnbound⟩
  · rw [herror, Except.error.injEq]
    exact ⟨fun h => h ▸ he, fun h => he.unique h⟩

end Binding

end LiquidEval.Strainer
