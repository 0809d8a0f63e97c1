import Mathlib.Data.List.Perm.Subperm
import LiquidEval.Table

/-! Containers compared by what stands in them: two tables by the values under each name, two lists
by the values at each place. That one table has all names of the other is seen on one side only; as
no name is entered twice, their lengths tell the rest. -/
namespace LiquidEval

namespace Table
variable {α β : Type} {t u : Table α}

/-- Tables of one length, of which the second has every name of the first with a value that `r`
relates to it. -/
def matched (r : α → α → Bool) (t u : Table α) : Bool :=
  t.length == u.length && t.all fun e => (u.get? e.1).any (r e.2)

theorem length_eq_iff (ht : Distinct t) (hu : Distinct u) (hsub : names t ⊆ names u) :
    t.length = u.length ↔ names u ⊆ names t := by
  have hlength (t : Table α) : t.length = (names t).length := (List.length_map ..).symm
  have hpart := List.subperm_of_subset ht hsub
  rw [hlength t, hlength u]
  constructor
  · intro h
    exact (hpart.perm_of_length_le (Nat.le_of_eq h.symm)).symm.subset
  · intro h
    exact (hpart.antisymm (List.subperm_of_subset hu h)).length_eq

theorem matched_iff (ht : Distinct t) (hu : Distinct u) (r : α → α → Bool) :
    matched r t u = true ↔ (∀ name, name ∈ names t ↔ name ∈ names u) ∧
      ∀ name v w, t.get? name = some v → u.get? name = some w → r v w = true := by
  rw [matched, Bool.and_eq_true, beq_iff_eq, List.all_eq_true]
  constructor
  · rintro ⟨hlength, hall⟩
    have hfound {name : String} {v : α} (h : t.get? name = some v) :
        (u.get? name).any (r v) = true := hall _ (ht.get?_eq_some_iff.mp h)
    have hsub : names t ⊆ names u := by
      intro name hname
      obtain ⟨v, hv⟩ := Option.isSome_iff_exists.mp (isSome_get?_iff.mpr hname)
      obtain ⟨w, hw, -⟩ := (Option.any_eq_true ..).mp (hfound hv)
      exact isSome_get?_iff.mp (Option.isSome_iff_exists.mpr ⟨w, hw⟩)
    have hsup := (length_eq_iff ht hu hsub).mp hlength
    refine ⟨fun name => ⟨fun h => hsub h, fun h => hsup h⟩, ?_⟩
    intro name v w hv hw
    have hr := hfound hv
    rwa [hw] at hr
  · rintro ⟨hnames, hvalues⟩
    have hsub : names t ⊆ names u := fun name => (hnames name).mp
    refine ⟨(length_eq_iff ht hu hsub).mpr fun name => (hnames name).mpr, ?_⟩
    rintro ⟨name, v⟩ he
    have hv := ht.get?_eq_some_iff.mpr he
    have hname := hsub (isSome_get?_iff.mp (Option.isSome_iff_exists.mpr ⟨v, hv⟩))
    obtain ⟨w, hw⟩ := Option.isSome_iff_exists.mp (isSome_get?_iff.mpr hname)
    rw [hw]
    exact hvalues name v w hv hw

theorem matched_comm (ht : Distinct t) (hu : Distinct u) {r : α → α → Bool}
    (h : ∀ e ∈ t, ∀ e' ∈ u, r e.2 e'.2 = r e'.2 e.2) : matched r t u = matched r u t := by
  have hvalues (name : String) (v w : α) (hv : t.get? name = some v) (hw : u.get? name = some w) :
      r v w = r w v := h _ (mem_of_get? hv) _ (mem_of_get? hw)
  rw [Bool.eq_iff_iff, matched_iff ht hu, matched_iff hu ht]
  refine and_congr (forall_congr' fun name => Iff.comm) ⟨fun hr => ?_, fun hr => ?_⟩
  · intro name w v hw hv
    rw [← hvalues name v w hv hw]
    exact hr name v w hv hw
  · intro name v w hv hw
    rw [hvalues name v w hv hw]
    exact hr name w v hw hv

theorem Distinct.perm (ht : Distinct t) (h : t.Perm u) : Distinct u := (h.map Prod.fst).nodup ht

theorem Distinct.get?_perm (ht : Distinct t) (h : t.Perm u) (name : String) :
    t.get? name = u.get? name := by
  apply Option.ext
  intro v
  rw [ht.get?_eq_some_iff, (ht.perm h).get?_eq_some_iff, h.mem_iff]

/-- The order in which names were entered makes no difference. -/
theorem matched_perm {t' u' : Table α} (ht : Distinct t) (hu : Distinct u) (h : t.Perm t')
    (h' : u.Perm u') (r : α → α → Bool) : matched r t u = matched r t' u' := by
  have hnames (name : String) : name ∈ names t ↔ name ∈ names t' := (h.map Prod.fst).mem_iff
  have hnames' (name : String) : name ∈ names u ↔ name ∈ names u' := (h'.map Prod.fst).mem_iff
  rw [Bool.eq_iff_iff, matched_iff ht hu, matched_iff (ht.perm h) (hu.perm h')]
  simp only [hnames, hnames', ht.get?_perm h, hu.get?_perm h']

theorem get?_map (f : α → β) (t : Table α) (name : String) :
    get? (t.map fun e => (e.1, f e.2)) name = (t.get? name).map f := by
  induction t with
  | nil => rfl
  | cons e t ih =>
    obtain ⟨n, v⟩ := e
    rw [List.map_cons, get?_cons, get?_cons, ih]
    split <;> rfl

theorem names_map (f : α → β) (t : Table α) : names (t.map fun e => (e.1, f e.2)) = names t := by
  rw [names, List.map_map]
  rfl

theorem Distinct.map (ht : Distinct t) (f : α → β) : Distinct (t.map fun e => (e.1, f e.2)) := by
  rwa [Distinct, names_map]

/-- Values that are put in the place of others are compared with those. -/
theorem matched_map_self (ht : Distinct t) {r : α → α → Bool} {f : α → α}
    (h : ∀ e ∈ t, r (f e.2) e.2 = true) : matched r (t.map fun e => (e.1, f e.2)) t = true := by
  rw [matched_iff (ht.map f) ht, names_map]
  refine ⟨fun name => Iff.rfl, fun name v w hv hw => ?_⟩
  rw [get?_map, hw] at hv
  cases hv
  exact h _ (mem_of_get? hw)

theorem matched_map {r : α → α → Bool} {s : β → β → Bool} {f : α → β}
    (h : ∀ e ∈ t, ∀ e' ∈ u, r e.2 e'.2 = s (f e.2) (f e'.2)) :
    matched s (t.map fun e => (e.1, f e.2)) (u.map fun e => (e.1, f e.2)) = matched r t u := by
  have hvalues : ∀ e ∈ t, (get? (u.map fun e => (e.1, f e.2)) e.1).any (s (f e.2)) =
      (u.get? e.1).any (r e.2) := by
    intro e he
    rw [get?_map]
    cases hw : u.get? e.1 with
    | none => rfl
    | some w => exact (h e he _ (mem_of_get? hw)).symm
  unfold matched
  rw [List.length_map, List.length_map, List.all_map]
  congr 1
  rw [Bool.eq_iff_iff, List.all_eq_true, List.all_eq_true]
  refine forall₂_congr fun e he => ?_
  rw [Function.comp_apply, hvalues e he]

end Table

section
variable {α β : Type} {r : α → α → Bool} {items others : List α}

theorem isEqv_iff : items.isEqv others r = true ↔ items.length = others.length ∧
    ∀ (i : Nat) v w, items[i]? = some v → others[i]? = some w → r v w = true := by
  rw [List.isEqv_eq_decide]
  split
  next h =>
    rw [decide_eq_true_iff, and_iff_right h]
    constructor
    · intro hr i v w hv hw
      obtain ⟨hi, rfl⟩ := List.getElem?_eq_some_iff.mp hv
      obtain ⟨hi', rfl⟩ := List.getElem?_eq_some_iff.mp hw
      exact hr i hi
    · intro hr i hi
      exact hr i _ _ (List.getElem?_eq_getElem hi) (List.getElem?_eq_getElem (h ▸ hi))
  next h => exact iff_of_false Bool.false_ne_true fun hr => h hr.1

theorem isEqv_comm (h : ∀ v ∈ items, ∀ w ∈ others, r v w = r w v) :
    items.isEqv others r = others.isEqv items r := by
  induction items generalizing others with
  | nil => cases others <;> rfl
  | cons v items ih =>
    cases others with
    | nil => rfl
    | cons w others =>
      obtain ⟨hhead, hrest⟩ := List.forall_mem_cons.mp h
      have htail := ih fun v hv w hw => hrest v hv w (List.mem_cons_of_mem _ hw)
      rw [List.isEqv, List.isEqv, hhead w List.mem_cons_self, htail]

theorem isEqv_map_self {f : α → α} (h : ∀ v ∈ items, r (f v) v = true) :
    (items.map f).isEqv items r = true := by
  induction items with
  | nil => rfl
  | cons v items ih =>
    obtain ⟨hhead, hrest⟩ := List.forall_mem_cons.mp h
    rw [List.map_cons, List.isEqv, hhead, ih hrest]
    rfl

theorem isEqv_map {s : β → β → Bool} {f : α → β}
    (h : ∀ v ∈ items, ∀ w ∈ others, r v w = s (f v) (f w)) :
    (items.map f).isEqv (others.map f) s = items.isEqv others r := by
  induction items generalizing others with
  | nil => cases others <;> rfl
  | cons v items ih =>
    cases others with
    | nil => rfl
    | cons w others =>
      obtain ⟨hhead, hrest⟩ := List.forall_mem_cons.mp h
      have htail := ih fun v hv w hw => hrest v hv w (List.mem_cons_of_mem _ hw)
      rw [List.map_cons, List.map_cons, List.isEqv, List.isEqv, hhead w List.mem_cons_self, htail]

end
end LiquidEval
