import Mathlib.Data.List.ModifyLast
import LiquidEval.Context
import LiquidEval.Sample.Objects

/-! Scopes along whole programs. The scopes of a context are a stack that keeps its bottom, and a
block that closes what it opened leaves nothing behind but what it assigned globally. -/
namespace LiquidEval

namespace Scopes
variable {H : Type} (s : Scopes H)

/-- All scopes, the global one first. -/
def stack : List (Table (Value H)) := s.globals :: s.inner.reverse

/-- Whether an inner scope binds a name. -/
def shadows (name : String) : Bool := s.inner.any fun scope => scope.contains name

/-- What a name is bound to by the innermost scope that binds it. -/
def Innermost (stack : List (Table (Value H))) (name : String) (v : Value H) : Prop :=
  ∃ outer scope inner, stack = outer ++ scope :: inner ∧ Table.get? scope name = some v ∧
    ∀ t ∈ inner, Table.get? t name = none

theorem stack_push : s.push.stack = s.stack ++ [[]] := by simp [stack, push]

theorem stack_set (name : String) (v : Value H) :
    (s.set name v).stack = s.stack.modifyLast fun scope => scope.insert name v := by
  obtain ⟨globals, inner⟩ := s
  cases inner with
  | nil => exact (List.modifyLast_concat (fun scope => scope.insert name v) globals []).symm
  | cons scope rest =>
    have hstack : stack ⟨globals, scope :: rest⟩ = (globals :: rest.reverse) ++ [scope] := by
      simp [stack]
    rw [hstack, List.modifyLast_concat]
    simp [stack, set]

theorem stack_setGlobal (name : String) (v : Value H) :
    (s.setGlobal name v).stack = s.stack.modifyHead fun scope => scope.insert name v := rfl

theorem pop?_eq_none_iff : s.pop? = none ↔ s.stack.length = 1 := by
  obtain ⟨globals, inner⟩ := s
  cases inner with
  | nil => simp [pop?, stack]
  | cons scope rest => simp [pop?, stack]

theorem stack_of_pop? {scope : Table (Value H)} {t : Scopes H} (h : s.pop? = some (scope, t)) :
    s.stack = t.stack ++ [scope] := by
  obtain ⟨globals, inner⟩ := s
  cases inner with
  | nil => cases h
  | cons scope rest =>
    cases h
    simp [stack]

theorem get?_eq_findSome? (name : String) :
    s.get? name = s.stack.reverse.findSome? fun scope => scope.get? name := by
  simp [get?, stack, List.findSome?_append]

theorem get?_eq_some_iff {name : String} {v : Value H} :
    s.get? name = some v ↔ Innermost s.stack name v := by
  rw [get?_eq_findSome?, List.findSome?_eq_some_iff]
  constructor
  · rintro ⟨inner, scope, outer, hstack, hscope, hinner⟩
    refine ⟨outer.reverse, scope, inner.reverse, ?_, hscope,
      fun t ht => hinner t (by simpa using ht)⟩
    simpa using congrArg List.reverse hstack
  · rintro ⟨outer, scope, inner, hstack, hscope, hinner⟩
    refine ⟨inner.reverse, scope, outer.reverse, ?_, hscope,
      fun t ht => hinner t (by simpa using ht)⟩
    simp [hstack]

theorem get?_set (name a : String) (v : Value H) :
    (s.set name v).get? a = if a = name then some v else s.get? a := by
  obtain ⟨globals, inner⟩ := s
  cases inner with
  | nil => exact Table.get?_insert globals name a v
  | cons scope rest =>
    by_cases h : a = name <;> simp [get?, set, List.findSome?_cons, Table.get?_insert, h]

theorem findSome?_eq_none_of_not_shadows {name : String} (h : s.shadows name = false) :
    (s.inner.findSome? fun scope => scope.get? name) = none := by
  simpa [shadows, Table.contains] using h

theorem get?_setGlobal (name a : String) (v : Value H) :
    (s.setGlobal name v).get? a =
      if a = name ∧ s.shadows name = false then some v else s.get? a := by
  by_cases ha : a = name
  · subst ha
    cases hshadows : s.shadows a with
    | false =>
      simp [get?, setGlobal, findSome?_eq_none_of_not_shadows s hshadows, Table.get?_insert]
    | true =>
      obtain ⟨scope, hmem, hscope⟩ := List.any_eq_true.mp hshadows
      have hfound : (s.inner.findSome? fun scope => scope.get? a).isSome = true :=
        List.findSome?_isSome_iff.mpr ⟨scope, hmem, hscope⟩
      obtain ⟨w, hw⟩ := Option.isSome_iff_exists.mp hfound
      simp [get?, setGlobal, hw]
  · simp [get?, setGlobal, Table.get?_insert, ha]

end Scopes

variable {H : Type}

/-- One call on the scopes of a context. -/
inductive ScopeCall (H : Type) where
  | push
  | pop
  | set (name : String) (v : Value H)
  | setGlobal (name : String) (v : Value H)

namespace ScopeCall

/-- What a call does to the stack of scopes. It never takes the last one. -/
def onStack (scopes : List (Table (Value H))) : ScopeCall H → List (Table (Value H))
  | push => scopes ++ [[]]
  | pop => if 1 < scopes.length then scopes.dropLast else scopes
  | set name v => scopes.modifyLast fun scope => scope.insert name v
  | setGlobal name v => scopes.modifyHead fun scope => scope.insert name v

def isPush : ScopeCall H → Bool
  | push => true
  | _ => false

def isPop : ScopeCall H → Bool
  | pop => true
  | _ => false

def globalEntry? : ScopeCall H → Option (String × Value H)
  | setGlobal name v => some (name, v)
  | _ => none

end ScopeCall

/-- Calls and blocks that run in a scope of their own, one after the other. -/
inductive ScopeProgram (H : Type) where
  | done
  | call (x : ScopeCall H) (rest : ScopeProgram H)
  | block (body rest : ScopeProgram H)

/-- The calls of a program in the order in which they are made. -/
def ScopeProgram.calls : ScopeProgram H → List (ScopeCall H)
  | done => []
  | call x rest => x :: rest.calls
  | block body rest => .push :: (body.calls ++ .pop :: rest.calls)

/-- At no point more scopes were closed than opened, and at the end as many. -/
structure Balanced (calls : List (ScopeCall H)) : Prop where
  covered : ∀ before, before <+: calls →
    before.countP ScopeCall.isPop ≤ before.countP ScopeCall.isPush
  closed : calls.countP ScopeCall.isPop = calls.countP ScopeCall.isPush

instance (calls : List (ScopeCall H)) : Decidable (Balanced calls) :=
  decidable_of_iff
    ((∀ k < calls.length + 1, (calls.take k).countP ScopeCall.isPop ≤
      (calls.take k).countP ScopeCall.isPush) ∧
      calls.countP ScopeCall.isPop = calls.countP ScopeCall.isPush)
    ⟨fun h => ⟨fun before hbefore => by
        have hlength := hbefore.length_le
        rw [List.prefix_iff_eq_take.mp hbefore]
        exact h.1 before.length (by omega), h.2⟩,
      fun h => ⟨fun k _ => h.covered _ (List.take_prefix k calls), h.closed⟩⟩

def globalEntries (calls : List (ScopeCall H)) : List (String × Value H) :=
  calls.filterMap ScopeCall.globalEntry?

namespace Context

def apply (c : Context H) : ScopeCall H → Context H
  | .push => c.push
  | .pop => c.pop
  | .set name v => c.set name v
  | .setGlobal name v => c.setGlobal name v

def applyAll (c : Context H) (calls : List (ScopeCall H)) : Context H := calls.foldl apply c

def run (c : Context H) : ScopeProgram H → Context H
  | .done => c
  | .call x rest => (c.apply x).run rest
  | .block body rest => (c.inScope fun d => ((), d.run body)).2.run rest

/-- What the scopes of a context are to its reader, and what one call changes of that. -/
structure ScopeLaws (c : Context H) : Prop where
  nonempty : c.scopes.stack ≠ []
  pop_none : c.pop? = none ↔ c.scopes.stack.length = 1
  pop_some : ∀ scope d, c.pop? = some (scope, d) → c.scopes.stack = d.scopes.stack ++ [scope]
  get : ∀ name v, c.get? name = some v ↔ Scopes.Innermost c.scopes.stack name v
  set : ∀ name v a, (c.set name v).get? a = if a = name then some v else c.get? a
  setGlobal : ∀ name v a, (c.setGlobal name v).get? a =
    if a = name ∧ c.scopes.shadows name = false then some v else c.get? a

theorem scopeLaws (c : Context H) : c.ScopeLaws where
  nonempty := List.cons_ne_nil _ _
  pop_none := by
    rw [← c.scopes.pop?_eq_none_iff, pop?, Option.map_eq_none_iff]
  pop_some := by
    intro scope d h
    obtain ⟨r, hr, heq⟩ := Option.map_eq_some_iff.mp h
    cases heq
    exact c.scopes.stack_of_pop? hr
  get := fun _ _ => c.scopes.get?_eq_some_iff
  set := fun name v a => c.scopes.get?_set name a v
  setGlobal := fun name v a => c.scopes.get?_setGlobal name a v

theorem stack_pop (c : Context H) :
    c.pop.scopes.stack = ScopeCall.pop.onStack c.scopes.stack := by
  rw [ScopeCall.onStack]
  cases hpop : c.scopes.pop? with
  | none =>
    have hlength := c.scopes.pop?_eq_none_iff.mp hpop
    rw [if_neg (by omega)]
    simp [pop, pop?, hpop]
  | some r =>
    obtain ⟨scope, t⟩ := r
    have hstack := c.scopes.stack_of_pop? hpop
    rw [hstack, if_pos (by simp [Scopes.stack]), List.dropLast_concat]
    simp [pop, pop?, hpop]

theorem stack_apply (c : Context H) (x : ScopeCall H) :
    (c.apply x).scopes.stack = x.onStack c.scopes.stack := by
  cases x with
  | push => exact c.scopes.stack_push
  | pop => exact c.stack_pop
  | set name v => exact c.scopes.stack_set name v
  | setGlobal name v => exact c.scopes.stack_setGlobal name v

theorem stack_applyAll (c : Context H) (calls : List (ScopeCall H)) :
    (c.applyAll calls).scopes.stack = calls.foldl ScopeCall.onStack c.scopes.stack := by
  induction calls generalizing c with
  | nil => rfl
  | cons x rest ih =>
    rw [applyAll, List.foldl_cons, List.foldl_cons, ← stack_apply]
    exact ih (c.apply x)

theorem applyAll_append (c : Context H) (xs ys : List (ScopeCall H)) :
    c.applyAll (xs ++ ys) = (c.applyAll xs).applyAll ys := List.foldl_append

theorem run_eq_applyAll (c : Context H) (p : ScopeProgram H) :
    c.run p = c.applyAll p.calls := by
  induction p generalizing c with
  | done => rfl
  | call x rest ih => exact ih (c.apply x)
  | block body rest ihbody ihrest =>
    have hblock : c.applyAll (.push :: (body.calls ++ .pop :: rest.calls)) =
        ((c.push.applyAll body.calls).pop).applyAll rest.calls :=
      c.push.applyAll_append body.calls (.pop :: rest.calls)
    rw [run, ihrest, ScopeProgram.calls, hblock, ← ihbody]
    rfl

/-- The state of a block that has opened some scopes more above its own, and has assigned some names
globally. -/
structure Above (c : Context H) (opened : Nat) (entries : List (String × Value H))
    (d : Context H) : Prop where
  rest : d = { c with scopes := d.scopes }
  globals : d.scopes.globals = c.scopes.globals.insertAll entries
  inner : ∃ own, own.length = opened + 1 ∧ d.scopes.inner = own ++ c.scopes.inner

theorem above_push (c : Context H) : c.Above 0 [] c.push := ⟨rfl, rfl, [[]], rfl, rfl⟩

variable {c d : Context H} {opened : Nat} {entries : List (String × Value H)}

theorem Above.push (h : c.Above opened entries d) : c.Above (opened + 1) entries d.push := by
  obtain ⟨own, hlength, hinner⟩ := h.inner
  refine ⟨?_, h.globals, [] :: own, by simp [hlength], by simp [Context.push, Scopes.push, hinner]⟩
  rw [Context.push, h.rest]

theorem Above.pop (h : c.Above (opened + 1) entries d) : c.Above opened entries d.pop := by
  obtain ⟨own, hlength, hinner⟩ := h.inner
  cases own with
  | nil => cases hlength
  | cons scope own =>
    have hpop : d.pop = { d with scopes := ⟨d.scopes.globals, own ++ c.scopes.inner⟩ } := by
      simp [Context.pop, pop?, Scopes.pop?, hinner]
    rw [hpop]
    refine ⟨?_, h.globals, own, by simpa using hlength, rfl⟩
    rw [h.rest]

theorem Above.set (h : c.Above opened entries d) (name : String) (v : Value H) :
    c.Above opened entries (d.set name v) := by
  obtain ⟨own, hlength, hinner⟩ := h.inner
  cases own with
  | nil => cases hlength
  | cons scope own =>
    have hset : d.scopes.set name v =
        ⟨d.scopes.globals, scope.insert name v :: own ++ c.scopes.inner⟩ := by
      simp [Scopes.set, hinner]
    refine ⟨?_, ?_, scope.insert name v :: own, hlength, by rw [Context.set, hset]⟩
    · rw [Context.set, h.rest]
    · rw [Context.set, hset]
      exact h.globals

theorem Above.setGlobal (h : c.Above opened entries d) (name : String) (v : Value H) :
    c.Above opened (entries ++ [(name, v)]) (d.setGlobal name v) := by
  obtain ⟨own, hlength, hinner⟩ := h.inner
  refine ⟨?_, ?_, own, hlength, hinner⟩
  · rw [Context.setGlobal, h.rest]
  · rw [Table.insertAll, List.foldl_append]
    exact congrArg (Table.insert · name v) h.globals

theorem Above.apply (h : c.Above opened entries d) (x : ScopeCall H) {next : Nat}
    (hnext : next + (if x.isPop then 1 else 0) = opened + if x.isPush then 1 else 0) :
    c.Above next (entries ++ x.globalEntry?.toList) (d.apply x) := by
  cases x with
  | push =>
    obtain rfl : next = opened + 1 := hnext
    change c.Above _ (entries ++ []) d.push
    rw [List.append_nil]
    exact h.push
  | pop =>
    obtain rfl : next + 1 = opened := hnext
    change c.Above _ (entries ++ []) d.pop
    rw [List.append_nil]
    exact h.pop
  | set name v =>
    obtain rfl : next = opened := hnext
    change c.Above _ (entries ++ []) (d.set name v)
    rw [List.append_nil]
    exact h.set name v
  | setGlobal name v =>
    obtain rfl : next = opened := hnext
    exact h.setGlobal name v

/-- The scope of a block stays open as long as the block closes no more scopes than it has
opened. -/
theorem Above.applyAll (h : c.Above opened entries d) {calls : List (ScopeCall H)}
    (hcovered : ∀ before, before <+: calls →
      before.countP ScopeCall.isPop ≤ opened + before.countP ScopeCall.isPush) {left : Nat}
    (hleft : left + calls.countP ScopeCall.isPop = opened + calls.countP ScopeCall.isPush) :
    c.Above left (entries ++ globalEntries calls) (d.applyAll calls) := by
  induction calls generalizing d opened entries with
  | nil =>
    obtain rfl : left = opened := hleft
    rwa [globalEntries, List.filterMap_nil, List.append_nil]
  | cons x rest ih =>
    have hcount : ∀ before, before <+: rest →
        before.countP ScopeCall.isPop + (if x.isPop then 1 else 0) ≤
          opened + (before.countP ScopeCall.isPush + if x.isPush then 1 else 0) := by
      intro before hbefore
      rw [← List.countP_cons, ← List.countP_cons]
      exact hcovered (x :: before) (List.cons_prefix_cons.mpr ⟨rfl, hbefore⟩)
    obtain ⟨next, hnext⟩ : ∃ next, next + (if x.isPop then 1 else 0) =
        opened + if x.isPush then 1 else 0 := by
      have hle := hcount [] List.nil_prefix
      simp only [List.countP_nil, Nat.zero_add] at hle
      exact ⟨_, Nat.sub_add_cancel hle⟩
    have hentries : globalEntries (x :: rest) = x.globalEntry?.toList ++ globalEntries rest := by
      cases x <;> rfl
    rw [hentries, ← List.append_assoc]
    refine ih (h.apply x hnext) (fun before hbefore => ?_) ?_
    · have := hcount before hbefore
      omega
    · rw [List.countP_cons, List.countP_cons] at hleft
      omega

theorem setGlobals_eq (c : Context H) (entries : List (String × Value H)) :
    c.setGlobals entries =
      { c with scopes := ⟨c.scopes.globals.insertAll entries, c.scopes.inner⟩ } := by
  induction entries generalizing c with
  | nil => rfl
  | cons e rest ih => exact ih (c.setGlobal e.1 e.2)

theorem get?_setGlobals_of_not_mem (c : Context H) {entries : List (String × Value H)}
    {name : String} (h : name ∉ Table.names entries) :
    (c.setGlobals entries).get? name = c.get? name := by
  induction entries generalizing c with
  | nil => rfl
  | cons e rest ih =>
    obtain ⟨hne, hrest⟩ : name ≠ e.1 ∧ name ∉ Table.names rest := by
      simpa [Table.names] using h
    rw [setGlobals, List.foldl_cons]
    refine (ih (c.setGlobal e.1 e.2) hrest).trans ?_
    rw [c.scopeLaws.setGlobal, if_neg fun heq => hne heq.1]

theorem inScope_of_balanced {α : Type} (c : Context H) (f : Context H → α × Context H)
    {calls : List (ScopeCall H)} (hf : (f c.push).2 = c.push.applyAll calls)
    (hcalls : Balanced calls) : (c.inScope f).2 = c.setGlobals (globalEntries calls) := by
  have hcovered : ∀ before, before <+: calls →
      before.countP ScopeCall.isPop ≤ 0 + before.countP ScopeCall.isPush := by
    simpa using hcalls.covered
  have h : c.Above 0 (globalEntries calls) (f c.push).2 := by
    rw [hf]
    exact c.above_push.applyAll hcovered (by rw [hcalls.closed])
  obtain ⟨own, hlength, hinner⟩ := h.inner
  obtain ⟨scope, rfl⟩ : ∃ scope, own = [scope] := List.length_eq_one_iff.mp hlength
  have hpop : (f c.push).2.pop = { c with
      scopes := ⟨(f c.push).2.scopes.globals, c.scopes.inner⟩ } := by
    rw [h.rest]
    simp [pop, pop?, Scopes.pop?, hinner]
  rw [inScope, hpop, h.globals, setGlobals_eq]

variable {α : Type}

/-- At every point of a program the scopes are a stack that was never without its global scope, and
a name means its innermost binding. A block that closes what it opened leaves the other scopes as
they were. -/
theorem scopes_along_programs :
    (∀ (c : Context H) (p : ScopeProgram H), c.run p = c.applyAll p.calls ∧
      ∀ before, before <+: p.calls →
        (c.applyAll before).scopes.stack = before.foldl ScopeCall.onStack c.scopes.stack ∧
          (c.applyAll before).ScopeLaws) ∧
    ∀ (c : Context H) (f : Context H → α × Context H) (body : ScopeProgram H),
      (f c.push).2 = c.push.run body → Balanced body.calls →
        (c.inScope f).2.scopes.stack.length = c.scopes.stack.length ∧
        (c.inScope f).2.scopes.stack.tail = c.scopes.stack.tail ∧
        (c.inScope f).2 = c.setGlobals (globalEntries body.calls) ∧
        ∀ name, name ∉ Table.names (globalEntries body.calls) →
          (c.inScope f).2.get? name = c.get? name := by
  constructor
  · intro c p
    exact ⟨c.run_eq_applyAll p, fun before _ => ⟨c.stack_applyAll before, scopeLaws _⟩⟩
  · intro c f body hf hbody
    rw [run_eq_applyAll] at hf
    have hblock := c.inScope_of_balanced f hf hbody
    have hinner : (c.setGlobals (globalEntries body.calls)).scopes.inner = c.scopes.inner := by
      rw [setGlobals_eq]
    refine ⟨?_, ?_, hblock, ?_⟩
    · simp [hblock, Scopes.stack, hinner]
    · simp [hblock, Scopes.stack, hinner]
    · intro name hname
      rw [hblock, c.get?_setGlobals_of_not_mem hname]

theorem scopes_along_programs_past_nil :
    ∃ (c : Context Sample.Object) (f : Context Sample.Object → Bool × Context Sample.Object)
      (body : ScopeProgram Sample.Object),
      (f c.push).2 = c.push.run body ∧ Balanced body.calls ∧
        ((c.applyAll [.push, .setGlobal "x" (.int 2)]).get? "x" = some .nil) ∧
        (c.inScope f).2.scopes.stack.length = 2 ∧ (c.inScope f).2.get? "x" = some .nil := by
  let c : Context Sample.Object :=
    { naming := .ruby, scopes := ⟨[("x", .int 1)], [[("x", .nil)]]⟩ }
  let body : ScopeProgram Sample.Object :=
    .call (.set "x" (.int 3)) (.block (.call (.setGlobal "y" (.int 2)) .done) .done)
  let f (d : Context Sample.Object) := ((d.get? "x").isSome, d.run body)
  have hbody : Balanced body.calls := by decide
  have hx : "x" ∉ Table.names (globalEntries body.calls) := by decide
  obtain ⟨hpoint, hblock⟩ := scopes_along_programs (H := Sample.Object) (α := Bool)
  obtain ⟨hlength, -, -, hget⟩ := hblock c f body rfl hbody
  obtain ⟨-, hpoints⟩ := hpoint c (.call .push (.call (.setGlobal "x" (.int 2)) .done))
  have hlaws := (hpoints [.push, .setGlobal "x" (.int 2)] List.prefix_rfl).2
  have hinner : Scopes.Innermost
      (c.applyAll [.push, .setGlobal "x" (.int 2)]).scopes.stack "x" .nil :=
    ⟨[[("x", .int 2)]], [("x", .nil)], [[]], rfl, rfl, by simp⟩
  exact ⟨c, f, body, rfl, hbody, (hlaws.get "x" .nil).mpr hinner, hlength, hget "x" hx⟩

end Context
end LiquidEval
