import LiquidEval.Context
import LiquidEval.Proofs.Expr.Printing

/-! An expression sees the variables that it names and nothing else of a context but its naming
convention, as long as no object in them looks at the context on its own. -/
namespace LiquidEval

namespace Value
variable {H : Type} [Host H]

/-- A value is held by one that it stands in, at any depth, and by an object that answers it. -/
inductive Holds : Value H → Value H → Prop where
  | self (v : Value H) : Holds v v
  | item {items : List (Value H)} {v w : Value H} (hv : v ∈ items) (h : Holds v w) :
      Holds (array items) w
  | field {fields : List (String × Value H)} {e : String × Value H} {w : Value H}
      (he : e ∈ fields) (h : Holds e.2 w) : Holds (object fields) w
  | entry {id : Identity} {key : String} {value w : Value H} (h : Holds value w) :
      Holds (entry id key value) w
  | member {id : Identity} {x : H} {members : List (String × Value H)}
      {fallback : String → Option (Value H)} {m : String × Value H} {w : Value H}
      (hx : Host.interface x = .typed members fallback) (hm : m ∈ members) (h : Holds m.2 w) :
      Holds (host id x) w
  | answer {id : Identity} {x : H} {members : List (String × Value H)}
      {fallback : String → Option (Value H)} {name : String} {v w : Value H}
      (hx : Host.interface x = .typed members fallback) (hv : fallback name = some v)
      (h : Holds v w) : Holds (host id x) w

/-- Every object that a value holds declares its members. -/
def Typed (v : Value H) : Prop :=
  ∀ id x, Holds v (host id x) → ∃ members fallback, Host.interface x = .typed members fallback

theorem typed_nil : (nil : Value H).Typed := by rintro _ _ ⟨⟩

theorem typed_int (i : Int64) : (int i : Value H).Typed := by rintro _ _ ⟨⟩

theorem typed_char (c : Char) : (char c : Value H).Typed := by rintro _ _ ⟨⟩

theorem typed_string (s : String) : (string s : Value H).Typed := by rintro _ _ ⟨⟩

theorem typed_literal (l : Literal) : (l.value : Value H).Typed := by
  cases l <;> rintro _ _ ⟨⟩

theorem typed_array {items : List (Value H)} (h : ∀ v ∈ items, v.Typed) :
    (array items).Typed := by
  intro id x hx
  cases hx with
  | item hv hx => exact h _ hv id x hx

theorem typed_host {id : Identity} {x : H} {members : List (String × Value H)}
    {fallback : String → Option (Value H)} (hx : Host.interface x = .typed members fallback)
    (hmembers : ∀ m ∈ members, m.2.Typed)
    (hfallback : ∀ name v, fallback name = some v → v.Typed) : (host id x).Typed := by
  intro id' y hy
  cases hy with
  | self => exact ⟨members, fallback, hx⟩
  | member hx' hm hy =>
    cases hx.symm.trans hx'
    exact hmembers _ hm id' y hy
  | answer hx' hv hy =>
    cases hx.symm.trans hx'
    exact hfallback _ _ hv id' y hy

theorem typed_getD {o : Option (Value H)} (h : ∀ v, o = some v → v.Typed) :
    (o.getD nil).Typed := by
  cases o with
  | none => exact typed_nil
  | some v => exact h v rfl

namespace Typed

theorem item {items : List (Value H)} (h : (array items).Typed) :
    ∀ v ∈ items, v.Typed := fun _ hv id x hx => h id x (.item hv hx)

theorem field {fields : List (String × Value H)} (h : (object fields).Typed) {name : String}
    {v : Value H} (hv : Table.get? fields name = some v) : v.Typed :=
  fun id x hx => h id x (.field (Table.mem_of_get? hv) hx)

theorem entry {id : Identity} {key : String} {value : Value H}
    (h : (entry id key value).Typed) : value.Typed := fun _ _ hx => h _ _ (.entry hx)

theorem interface {id : Identity} {x : H} (h : (host id x).Typed) :
    ∃ members fallback, Host.interface x = .typed members fallback := h id x (.self _)

theorem resolve {id : Identity} {x : H} (h : (host id x).Typed) {w : View H} {name : String}
    {v : Value H} (hv : (Host.interface x).resolve w name = some v) : v.Typed := by
  obtain ⟨members, fallback, hx⟩ := h.interface
  rw [hx, Interface.resolve, Option.or_eq_some_iff] at hv
  rcases hv with hmember | ⟨-, hanswer⟩
  · rcases Table.mem_of_mem_insertAll (Table.mem_of_get? hmember) with hnil | hmem
    · cases hnil
    · obtain ⟨m, hm, heq⟩ := List.mem_map.mp hmem
      obtain rfl : m.2 = v := congrArg Prod.snd heq
      exact fun id y hy => h id y (.member hx hm hy)
  · exact fun id y hy => h id y (.answer hx hanswer hy)

theorem entryMember? {id : Identity} {key : String} {value : Value H}
    (h : (Value.entry id key value).Typed) {name : String} {v : Value H}
    (hv : Value.entryMember? key value name = some v) : v.Typed := by
  unfold Value.entryMember? at hv
  split at hv
  next =>
    cases hv
    exact typed_string key
  next =>
    split at hv
    next =>
      cases hv
      exact h.entry
    next =>
      cases value with
      | object fields => exact h.entry.field hv
      | _ => cases hv

theorem member? {v : Value H} (h : v.Typed) {w : View H} {name : String} {u : Value H}
    (hu : v.member? w name = some u) : u.Typed := by
  cases v with
  | entry id key value => exact h.entryMember? hu
  | host id x => exact h.resolve hu
  | _ => cases hu

theorem itemAt {items : List (Value H)} (h : (array items).Typed) (i : Int) :
    (Value.itemAt items i).Typed := by
  have hat : ∀ k : Nat, ((items[k]?).getD nil).Typed :=
    fun k => typed_getD fun v hv => h.item v (List.mem_of_getElem? hv)
  unfold Value.itemAt
  split
  next => exact hat _
  next =>
    split
    next => exact hat _
    next => exact typed_nil

end Typed

theorem typed_sequenceWord? {size : Nat} {first last : Option (Value H)} {word : String}
    {v : Value H} (hfirst : ∀ v, first = some v → v.Typed) (hlast : ∀ v, last = some v → v.Typed)
    (hv : sequenceWord? size first last word = some v) : v.Typed := by
  unfold sequenceWord? at hv
  split at hv
  next =>
    cases hv
    exact typed_int _
  next =>
    split at hv
    next =>
      cases hv
      exact typed_getD hfirst
    next =>
      split at hv
      next =>
        cases hv
        exact typed_getD hlast
      next => cases hv

theorem typed_of_map_char {o : Option Char} (v : Value H) (h : o.map char = some v) :
    v.Typed := by
  obtain ⟨c, -, rfl⟩ := Option.map_eq_some_iff.mp h
  exact typed_char c

namespace Typed

theorem mapField? {fields : List (String × Value H)} (h : (object fields).Typed)
    {name : String} {v : Value H} (hv : Value.mapField? fields name = some v) : v.Typed := by
  unfold Value.mapField? at hv
  split at hv
  next found hfound =>
    cases hv
    exact h.field hfound
  next =>
    split at hv
    next =>
      cases hv
      exact typed_int _
    next => cases hv

theorem containerLookup? {v : Value H} (h : v.Typed) {key u : Value H}
    (hu : Value.containerLookup? v key = some u) : u.Typed := by
  unfold Value.containerLookup? at hu
  split at hu
  next items i =>
    cases hu
    exact h.itemAt _
  next items word =>
    refine typed_sequenceWord? (fun v hv => ?_) (fun v hv => ?_) hu
    · exact h.item v (List.mem_of_head? hv)
    · exact h.item v (List.mem_of_getLast? hv)
  next s word => exact typed_sequenceWord? typed_of_map_char typed_of_map_char hu
  next fields key =>
    obtain ⟨name, -, hfield⟩ := Option.bind_eq_some_iff.mp hu
    exact h.mapField? hfield
  next => cases hu

theorem memberLookup? {v : Value H} (h : v.Typed) {w : View H} {key u : Value H}
    (hu : Value.memberLookup? w v key = some u) : u.Typed := by
  unfold Value.memberLookup? at hu
  split at hu
  next name hname =>
    split at hu
    next => exact h.member? hu
    next => cases hu
  next => cases hu

theorem lookup {v : Value H} (h : v.Typed) (w : View H) (key : Value H) :
    (v.lookup w key).Typed := by
  refine typed_getD fun u hu => ?_
  rcases Option.or_eq_some_iff.mp hu with hfound | ⟨-, hfound⟩
  · exact h.containerLookup? hfound
  · exact h.memberLookup? hfound

variable {v : Value H} {w w' : View H}

theorem hasMember_congr (h : v.Typed) (hw : w.naming = w'.naming) (name : String) :
    v.hasMember w name = v.hasMember w' name := by
  cases v with
  | host id x =>
    obtain ⟨members, fallback, hx⟩ := h.interface
    simp only [hasMember, Interface.contains, hx, hw]
  | _ => rfl

theorem member?_congr (h : v.Typed) (hw : w.naming = w'.naming) (name : String) :
    v.member? w name = v.member? w' name := by
  cases v with
  | host id x =>
    obtain ⟨members, fallback, hx⟩ := h.interface
    simp only [Value.member?, Interface.resolve, hx, hw]
  | _ => rfl

theorem lookup_congr (h : v.Typed) (hw : w.naming = w'.naming) (key : Value H) :
    v.lookup w key = v.lookup w' key := by
  have hmember : Value.memberLookup? w v key = Value.memberLookup? w' v key := by
    unfold Value.memberLookup?
    cases key.scalarText? with
    | none => rfl
    | some name => simp only [h.hasMember_congr hw, h.member?_congr hw]
  rw [Value.lookup, Value.lookup, hmember]

end Typed
end Value

namespace Context
variable {H : Type} [Host H]

/-- Two contexts cannot be told apart by the roots of some paths. -/
structure Agree (c d : Context H) (leaves : List Leaf) : Prop where
  naming : c.naming = d.naming
  same : ∀ root, .root root ∈ leaves → c.get? root = d.get? root
  typed : ∀ root, .root root ∈ leaves → ∀ v, c.get? root = some v → v.Typed

variable {c d : Context H}

theorem Agree.mono {leaves part : List Leaf} (h : c.Agree d leaves) (hpart : part ⊆ leaves) :
    c.Agree d part where
  naming := h.naming
  same := fun root hroot => h.same root (hpart hroot)
  typed := fun root hroot => h.typed root (hpart hroot)

/-- Both runs end alike, and in a value that both may look into. -/
structure Alike (x y : Except EvalError (Value H)) : Prop where
  same : x = y
  typed : ∀ v, x = .ok v → v.Typed

theorem alike_ok {v : Value H} (h : v.Typed) : Alike (.ok v) (.ok v) where
  same := rfl
  typed := by
    rintro _ ⟨⟩
    exact h

theorem alike_error (e : EvalError) : Alike (H := H) (.error e) (.error e) where
  same := rfl
  typed := by rintro _ ⟨⟩

theorem alike_rangeItems (e : Expr) (first last : Value H) :
    Alike (rangeItems e first last) (rangeItems e first last) where
  same := rfl
  typed := by
    intro v hv
    unfold rangeItems at hv
    split at hv
    next => cases hv
    next =>
      split at hv
      next => cases hv
      next =>
        split at hv
        next => cases hv
        next =>
          cases hv
          refine Value.typed_array fun v hv => ?_
          obtain ⟨k, -, rfl⟩ := List.mem_map.mp hv
          exact Value.typed_int _

mutual
theorem alike_evaluate (e : Expr) (h : c.Agree d e.leaves) :
    Alike (c.evaluate e) (d.evaluate e) := by
  match e with
  | .literal l =>
    rw [evaluate, evaluate]
    exact alike_ok (Value.typed_literal l)
  | .range first last =>
    rw [Expr.leaves] at h
    have hfirst := alike_evaluate first (h.mono (List.subset_append_left _ _))
    have hlast := alike_evaluate last (h.mono (List.subset_append_right _ _))
    rw [evaluate, evaluate, ← hfirst.same, ← hlast.same]
    cases c.evaluate first with
    | error err => exact alike_error err
    | ok v =>
      cases c.evaluate last with
      | error err => exact alike_error err
      | ok w => exact alike_rangeItems (.range first last) v w
  | .path root lookups =>
    rw [Expr.leaves] at h
    have hroot : Leaf.root root ∈ Leaf.root root :: leavesOf lookups := List.mem_cons_self
    rw [evaluate, evaluate, ← h.same root hroot]
    exact alike_follow lookups (h.mono (List.subset_cons_self _ _))
      (Value.typed_getD (h.typed root hroot))

theorem alike_keyOf (l : Lookup) (h : c.Agree d l.leaves) :
    Alike (c.keyOf l) (d.keyOf l) := by
  match l with
  | .key name =>
    rw [keyOf, keyOf]
    exact alike_ok (Value.typed_string name)
  | .index i =>
    rw [keyOf, keyOf]
    exact alike_ok (Value.typed_int i)
  | .dynamic e =>
    rw [Lookup.leaves] at h
    rw [keyOf, keyOf]
    exact alike_evaluate e h

/-- What the first step leads to is seen alike because no object on the way looks at the context
itself. -/
theorem alike_follow (lookups : List Lookup) (h : c.Agree d (leavesOf lookups))
    {current : Value H} (hcurrent : current.Typed) :
    Alike (c.follow current lookups) (d.follow current lookups) := by
  match lookups with
  | [] =>
    rw [follow, follow]
    exact alike_ok hcurrent
  | l :: rest =>
    rw [leavesOf] at h
    have hkey := alike_keyOf l (h.mono (List.subset_append_left _ _))
    rw [follow, follow, ← hkey.same]
    cases c.keyOf l with
    | error err => exact alike_error err
    | ok key =>
      have hnaming : c.view.naming = d.view.naming := h.naming
      have hnext := hcurrent.lookup_congr hnaming key
      dsimp only
      rw [← hnext]
      split
      next => exact alike_ok Value.typed_nil
      next =>
        exact alike_follow rest (h.mono (List.subset_append_right _ _))
          (hcurrent.lookup c.view key)
end

theorem exists_ofText_of_resolve {text : String} {v : Value H} (h : c.resolve text = .ok v) :
    ∃ e, Expr.ofText text = .ok e := by
  rw [resolve] at h
  cases hread : Expr.ofText text with
  | error err => rw [hread] at h; cases h
  | ok e => exact ⟨e, rfl⟩

theorem alike_resolve {text : String}
    (h : ∀ e, Expr.ofText text = .ok e → c.Agree d e.leaves) :
    Alike (c.resolve text) (d.resolve text) := by
  rw [resolve, resolve]
  cases hread : Expr.ofText text with
  | error err => exact alike_error _
  | ok e => exact alike_evaluate e (h e hread)

end Context
end LiquidEval
