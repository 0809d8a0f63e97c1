import Mathlib.Data.List.Basic
import LiquidEval.Operator
import LiquidEval.Sample.Objects
import LiquidEval.Sample.Predicates

/-! The table of operators along the life of a process. Names are listed in the order in which they
came in, and an operator that comes in late takes no token from those that are there. -/
namespace LiquidEval.Operators

/-- One call on the table. An operator may look at its operands only, or at the render too. -/
inductive Change (H : Type) where
  | register (name : String) (p : Value H → Value H → Bool)
  | registerInContext (name : String) (p : Predicate H)
  | unregister (name : String)
  | reset

variable {H : Type} [Host H]

def Change.apply (t : Operators H) : Change H → Operators H
  | .register name p => t.register name fun l r _ => p l r
  | .registerInContext name p => t.register name p
  | .unregister name => t.unregister name
  | .reset => builtin

/-- The table after some calls, the latest first. -/
def after : List (Change H) → Operators H
  | [] => builtin
  | c :: earlier => c.apply (after earlier)

omit [Host H] in
/-- What a call registers under which name. -/
inductive Change.Registers : Change H → String → Predicate H → Prop where
  | plain (name : String) (p : Value H → Value H → Bool) :
      Registers (.register name p) name fun l r _ => p l r
  | inContext (name : String) (p : Predicate H) : Registers (.registerInContext name p) name p

omit [Host H] in
inductive Change.Removes : Change H → String → Prop where
  | unregister (name : String) : Removes (.unregister name) name
  | reset (name : String) : Removes .reset name

/-- A name came in with the call of this number, and it has stood in the table since. The operators
that every process has come in with the start, which has number zero, and with each reset. -/
inductive Entered : List (Change H) → String → Nat → Prop where
  | start {name : String} (h : name ∈ Table.names (builtin (H := H))) : Entered [] name 0
  | reset {earlier : List (Change H)} {name : String}
      (h : name ∈ Table.names (builtin (H := H))) :
      Entered (.reset :: earlier) name (earlier.length + 1)
  | registered {c : Change H} {earlier : List (Change H)} {name : String} {p : Predicate H}
      (hc : c.Registers name p) (habsent : name ∉ Table.names (after earlier)) :
      Entered (c :: earlier) name (earlier.length + 1)
  | kept {c : Change H} {earlier : List (Change H)} {name : String} {k : Nat}
      (h : Entered earlier name k) (hc : ¬c.Removes name) : Entered (c :: earlier) name k

theorem distinct_builtin : Table.Distinct (builtin (H := H)) := by
  have hnodup : ["==", "!=", "<>", "<", ">", "<=", ">=", "contains", "startsWith", "startswith",
      "endsWith", "endswith", "hasKey", "haskey", "hasValue", "hasvalue"].Nodup := by decide
  exact hnodup

theorem Change.Registers.apply_eq {c : Change H} {name : String} {p : Predicate H}
    (hc : c.Registers name p) (t : Operators H) : c.apply t = Table.insert t name p := by
  cases hc <;> rfl

theorem distinct_after (history : List (Change H)) : Table.Distinct (after history) := by
  induction history with
  | nil => exact distinct_builtin
  | cons c earlier ih =>
    cases c with
    | register name p => exact ih.insert _ _
    | registerInContext name p => exact ih.insert _ _
    | unregister name => exact ih.erase _
    | reset => exact distinct_builtin

omit [Host H] in
theorem Change.Registers.not_removes {c : Change H} {name : String} {p : Predicate H}
    (hc : c.Registers name p) (a : String) : ¬c.Removes a := by
  cases hc <;> rintro ⟨⟩

omit [Host H] in
theorem Change.Registers.name_eq {c : Change H} {a b : String} {p q : Predicate H}
    (hp : c.Registers a p) (hq : c.Registers b q) : a = b := by
  cases hp <;> cases hq <;> rfl

theorem Entered.le_length {history : List (Change H)} {name : String} {k : Nat}
    (h : Entered history name k) : k ≤ history.length := by
  induction h with
  | start _ => exact Nat.le_refl 0
  | reset _ => exact Nat.le_refl _
  | registered _ _ => exact Nat.le_refl _
  | kept _ _ ih => exact Nat.le_succ_of_le ih

section
variable {earlier : List (Change H)} {a : String} {k : Nat}

theorem entered_nil_iff : Entered ([] : List (Change H)) a k ↔
    a ∈ Table.names (builtin (H := H)) ∧ k = 0 := by
  constructor
  · rintro ⟨⟩
    exact ⟨‹_›, rfl⟩
  · rintro ⟨ha, rfl⟩
    exact .start ha

theorem entered_reset_iff : Entered (.reset :: earlier) a k ↔
    a ∈ Table.names (builtin (H := H)) ∧ k = earlier.length + 1 := by
  constructor
  · intro h
    cases h with
    | reset ha => exact ⟨ha, rfl⟩
    | registered hc _ => cases hc
    | kept _ hc => exact absurd (.reset a) hc
  · rintro ⟨ha, rfl⟩
    exact .reset ha

theorem entered_unregister_iff {name : String} : Entered (.unregister name :: earlier) a k ↔
    Entered earlier a k ∧ a ≠ name := by
  constructor
  · intro h
    cases h with
    | registered hc _ => cases hc
    | kept h hc => exact ⟨h, fun heq => hc (heq ▸ .unregister a)⟩
  · rintro ⟨h, hne⟩
    apply Entered.kept h
    rintro ⟨⟩
    exact hne rfl

theorem entered_registers_iff {c : Change H} {name : String} {p : Predicate H}
    (hc : c.Registers name p) : Entered (c :: earlier) a k ↔
      Entered earlier a k ∨
        a = name ∧ name ∉ Table.names (after earlier) ∧ k = earlier.length + 1 := by
  constructor
  · intro h
    cases h with
    | reset _ => cases hc
    | registered ha habsent =>
      cases ha.name_eq hc
      exact .inr ⟨rfl, habsent, rfl⟩
    | kept h _ => exact .inl h
  · rintro (h | ⟨rfl, habsent, rfl⟩)
    · exact .kept h (hc.not_removes a)
    · exact .registered hc habsent

end

omit [Host H] in
/-- A call registers a name, takes one away, or starts all over. -/
theorem Change.cases_registers (c : Change H) :
    (∃ name p, c.Registers name p) ∨ (∃ name, c = .unregister name) ∨ c = .reset := by
  cases c with
  | register name p => exact .inl ⟨name, _, .plain name p⟩
  | registerInContext name p => exact .inl ⟨name, p, .inContext name p⟩
  | unregister name => exact .inr (.inl ⟨name, rfl⟩)
  | reset => exact .inr (.inr rfl)

theorem mem_names_after_iff (history : List (Change H)) (a : String) :
    a ∈ Table.names (after history) ↔ ∃ k, Entered history a k := by
  induction history with
  | nil => simp [entered_nil_iff, after]
  | cons c earlier ih =>
    rcases c.cases_registers with ⟨name, p, hc⟩ | ⟨name, rfl⟩ | rfl
    · rw [after, hc.apply_eq, Table.mem_names_insert, ih]
      simp only [entered_registers_iff hc, exists_or]
      by_cases ha : name ∈ Table.names (after earlier)
      · have hin : a = name → ∃ k, Entered earlier a k := fun heq => ih.mp (heq ▸ ha)
        simpa [ha] using hin
      · simp [ha, or_comm]
    · simp [entered_unregister_iff, after, Change.apply, unregister, Table.names_erase, ih]
    · simp [entered_reset_iff, after, Change.apply]

omit [Host H] in
theorem pair_sublist_concat_iff {α : Type} {a b n : α} {l : List α} :
    [a, b].Sublist (l ++ [n]) ↔ [a, b].Sublist l ∨ a ∈ l ∧ b = n := by
  constructor
  · intro h
    obtain ⟨first, last, hsplit, hfirst, hlast⟩ := List.sublist_append_iff.mp h
    rcases List.sublist_singleton.mp hlast with rfl | rfl
    · rw [List.append_nil] at hsplit
      exact .inl (hsplit ▸ hfirst)
    · obtain ⟨rfl, hb⟩ := List.append_inj' (show [a] ++ [b] = first ++ [n] from hsplit) rfl
      exact .inr ⟨List.singleton_sublist.mp hfirst, by simpa using hb⟩
  · rintro (h | ⟨ha, rfl⟩)
    · exact h.trans (List.sublist_append_left l [n])
    · exact (List.singleton_sublist.mpr ha).append (List.Sublist.refl [b])

omit [Host H] in
theorem pair_sublist_filter_iff {α : Type} {p : α → Bool} {a b : α} {l : List α} :
    [a, b].Sublist (l.filter p) ↔ [a, b].Sublist l ∧ p a = true ∧ p b = true := by
  constructor
  · intro h
    have hmem : ∀ x ∈ [a, b], p x = true := fun x hx => (List.mem_filter.mp (h.subset hx)).2
    exact ⟨h.trans List.filter_sublist, hmem a (by simp), hmem b (by simp)⟩
  · rintro ⟨h, ha, hb⟩
    simpa [ha, hb] using h.filter p

/-- The list is in the order in which names came in. What came in with one call is in the order of
the operators that every process has. -/
theorem pair_sublist_names_after_iff (history : List (Change H)) (a b : String) :
    [a, b].Sublist (Table.names (after history)) ↔
      ∃ j k, Entered history a j ∧ Entered history b k ∧
        (j < k ∨ j = k ∧ [a, b].Sublist (Table.names (builtin (H := H)))) := by
  have hboth : ∀ l : List String, [a, b].Sublist l → a ∈ l ∧ b ∈ l :=
    fun l h => ⟨h.subset (by simp), h.subset (by simp)⟩
  induction history with
  | nil =>
    simp only [entered_nil_iff, after]
    constructor
    · intro h
      exact ⟨0, 0, ⟨(hboth _ h).1, rfl⟩, ⟨(hboth _ h).2, rfl⟩, .inr ⟨rfl, h⟩⟩
    · rintro ⟨j, k, ⟨-, rfl⟩, ⟨-, rfl⟩, h | h⟩
      · omega
      · exact h.2
  | cons c earlier ih =>
    rcases c.cases_registers with ⟨name, p, hc⟩ | ⟨name, rfl⟩ | rfl
    · simp only [entered_registers_iff hc]
      rw [after, hc.apply_eq]
      by_cases hname : name ∈ Table.names (after earlier)
      · simp [Table.names_insert_of_mem p hname, hname, ih]
      · rw [Table.names_insert_of_not_mem p hname, pair_sublist_concat_iff, mem_names_after_iff]
        simp only [ih]
        constructor
        · rintro (⟨j, k, ha, hb, h⟩ | ⟨⟨j, ha⟩, rfl⟩)
          · exact ⟨j, k, .inl ha, .inl hb, h⟩
          · have hj := ha.le_length
            exact ⟨j, earlier.length + 1, .inl ha, .inr ⟨rfl, hname, rfl⟩, .inl (by omega)⟩
        · rintro ⟨j, k, ha | ⟨rfl, -, rfl⟩, hb | ⟨rfl, -, rfl⟩, h⟩
          · exact .inl ⟨j, k, ha, hb, h⟩
          · exact .inr ⟨⟨j, ha⟩, rfl⟩
          · have hk := hb.le_length
            omega
          · have hnodup := distinct_builtin (H := H)
            rcases h with h | ⟨-, h⟩
            · omega
            · exact absurd (hnodup.sublist h) (by simp)
    · simp only [entered_unregister_iff]
      rw [after, Change.apply, unregister, Table.names_erase, pair_sublist_filter_iff]
      simp only [ih]
      constructor
      · rintro ⟨⟨j, k, ha, hb, h⟩, hane, hbne⟩
        exact ⟨j, k, ⟨ha, by simpa using hane⟩, ⟨hb, by simpa using hbne⟩, h⟩
      · rintro ⟨j, k, ⟨ha, hane⟩, ⟨hb, hbne⟩, h⟩
        exact ⟨⟨j, k, ha, hb, h⟩, by simpa using hane, by simpa using hbne⟩
    · simp only [entered_reset_iff]
      rw [after, Change.apply]
      constructor
      · intro h
        exact ⟨_, _, ⟨(hboth _ h).1, rfl⟩, ⟨(hboth _ h).2, rfl⟩, .inr ⟨rfl, h⟩⟩
      · rintro ⟨j, k, ⟨-, rfl⟩, ⟨-, rfl⟩, h | h⟩
        · omega
        · exact h.2

section
omit [Host H]
variable {t : Operators H} {n : Naming} {token name : String} {p : Predicate H}

theorem find?_of_mem_names (h : token ∈ Table.names t) : t.find? n token = Table.get? t token := by
  obtain ⟨p, hp⟩ := Option.isSome_iff_exists.mp (Table.isSome_get?_iff.mpr h)
  unfold find?
  rw [hp]

theorem find?_of_not_mem_names (h : token ∉ Table.names t) :
    t.find? n token = (List.find? (fun e => n.operatorMatches token e.1) t).map Prod.snd := by
  unfold find?
  rw [Table.get?_eq_none_iff.mpr h]

theorem find?_eq_some_iff (ht : Table.Distinct t) :
    t.find? n token = some p ↔
      (token, p) ∈ t ∨ token ∉ Table.names t ∧ ∃ before r later, t = before ++ (r, p) :: later ∧
        n.operatorMatches token r = true ∧
        ∀ e ∈ before, n.operatorMatches token e.1 = false := by
  by_cases htoken : token ∈ Table.names t
  · rw [find?_of_mem_names htoken, ht.get?_eq_some_iff]
    simp [htoken]
  · have hgone : (token, p) ∉ t := fun h => htoken (List.mem_map.mpr ⟨_, h, rfl⟩)
    rw [find?_of_not_mem_names htoken, Option.map_eq_some_iff]
    simp only [List.find?_eq_some_iff_append, Bool.not_eq_true']
    constructor
    · rintro ⟨⟨r, q⟩, ⟨hr, before, later, hsplit, hbefore⟩, rfl⟩
      exact .inr ⟨htoken, before, r, later, hsplit, hr, hbefore⟩
    · rintro (h | ⟨-, before, r, later, hsplit, hr, hbefore⟩)
      · exact absurd h hgone
      · exact ⟨(r, p), ⟨hr, before, later, hsplit, hbefore⟩, rfl⟩

theorem find?_eq_none_iff :
    t.find? n token = none ↔ ∀ e ∈ t, n.operatorMatches token e.1 = false := by
  by_cases htoken : token ∈ Table.names t
  · obtain ⟨e, he, rfl⟩ := List.mem_map.mp htoken
    have hself : n.operatorMatches e.1 e.1 = true := by simp [Naming.operatorMatches]
    obtain ⟨p, hp⟩ := Option.isSome_iff_exists.mp (Table.isSome_get?_iff.mpr htoken)
    rw [find?_of_mem_names htoken, hp]
    simp only [reduceCtorEq, false_iff, not_forall]
    exact ⟨e, he, by simp [hself]⟩
  · rw [find?_of_not_mem_names htoken]
    simp

theorem find?_insert_self : Operators.find? (Table.insert t name p) n name = some p := by
  rw [find?_of_mem_names (Table.mem_names_insert.mpr (.inl rfl)), Table.get?_insert, if_pos rfl]

/-- A new name comes last, so it takes no token away. -/
theorem find?_insert_of_not_mem (hname : name ∉ Table.names t) (htoken : token ≠ name)
    {q : Predicate H} (h : t.find? n token = some q) :
    Operators.find? (Table.insert t name p) n token = some q := by
  by_cases hin : token ∈ Table.names t
  · rw [find?_of_mem_names (Table.mem_names_insert.mpr (.inr hin)), Table.get?_insert,
      if_neg htoken, ← find?_of_mem_names (n := n) hin, h]
  · have hout : token ∉ Table.names (Table.insert t name p) := by
      rw [Table.mem_names_insert]
      exact fun hor => hor.elim htoken hin
    rw [find?_of_not_mem_names hin, Option.map_eq_some_iff] at h
    obtain ⟨e, he, rfl⟩ := h
    rw [find?_of_not_mem_names hout, Table.insert_of_not_mem p hname, List.find?_append, he]
    rfl

end

/-- Whatever was called, the names are listed once each, in the order in which they came in, and a
token means the operator of exactly that name or else the first in the list that it matches. A name
that is registered is found at once. If it was there, its predicate is replaced where it stands; if
not, no other token changes its meaning, and taking the name away again leaves the table as it
was. -/
theorem listed_and_found_after (history : List (Change H)) (n : Naming) :
    (Table.names (after history)).Nodup ∧
    (∀ a, a ∈ Table.names (after history) ↔ ∃ k, Entered history a k) ∧
    (∀ a b, [a, b].Sublist (Table.names (after history)) ↔
      ∃ j k, Entered history a j ∧ Entered history b k ∧
        (j < k ∨ j = k ∧ [a, b].Sublist (Table.names (builtin (H := H))))) ∧
    (∀ token p, (after history).find? n token = some p ↔
      (token, p) ∈ after history ∨ token ∉ Table.names (after history) ∧
        ∃ before r later, after history = before ++ (r, p) :: later ∧
          n.operatorMatches token r = true ∧
          ∀ e ∈ before, n.operatorMatches token e.1 = false) ∧
    (∀ token, (after history).find? n token = none ↔
      ∀ e ∈ after history, n.operatorMatches token e.1 = false) ∧
    (∀ c name p, Change.Registers c name p →
      (after (c :: history)).find? n name = some p ∧
      (name ∈ Table.names (after history) → ∃ before q later,
        after history = before ++ (name, q) :: later ∧
        after (c :: history) = before ++ (name, p) :: later) ∧
      (name ∉ Table.names (after history) →
        (∀ token q, token ≠ name → (after history).find? n token = some q →
          (after (c :: history)).find? n token = some q) ∧
        after (.unregister name :: c :: history) = after history)) := by
  have hdistinct := distinct_after history
  refine ⟨hdistinct, mem_names_after_iff history, pair_sublist_names_after_iff history,
    fun token p => find?_eq_some_iff hdistinct, fun token => find?_eq_none_iff, ?_⟩
  intro c name p hc
  have hafter : after (c :: history) = Table.insert (after history) name p := hc.apply_eq _
  refine ⟨?_, ?_, ?_⟩
  · rw [hafter]
    exact find?_insert_self
  · intro hname
    obtain ⟨before, q, later, hsplit, hinsert⟩ := Table.exists_insert_of_mem hname
    exact ⟨before, q, later, hsplit, hafter.trans (hinsert p)⟩
  · intro hname
    refine ⟨?_, ?_⟩
    · intro token q htoken hq
      rw [hafter]
      exact find?_insert_of_not_mem hname htoken hq
    · rw [after, hafter]
      exact Table.erase_insert_of_not_mem p hname

/-- An operator that was taken away comes back at the end, and a second spelling of a name does not
take over the tokens of the first. -/
theorem listed_and_found_after_respelling :
    ∃ (history : List (Change Sample.Object)) (late : Change Sample.Object)
      (p q : Predicate Sample.Object), late.Registers "isMultipleOf" p ∧
      "isMultipleOf" ∉ Table.names (after history) ∧
      ["IsMultipleOf", "contains"].Sublist (Table.names (after history)) ∧
      Naming.ruby.operatorMatches "is_multiple_of" "isMultipleOf" = true ∧
      (after history).find? .ruby "is_multiple_of" = some q ∧
      (after (late :: history)).find? .ruby "is_multiple_of" = some q ∧
      after (.unregister "isMultipleOf" :: late :: history) = after history := by
  let back : Change Sample.Object := .register "contains" fun _ _ => true
  let history : List (Change Sample.Object) :=
    [back, .unregister "contains", .register "IsMultipleOf" Sample.multipleOf]
  let late : Change Sample.Object := .registerInContext "isMultipleOf" fun _ _ _ => false
  have hlate : late.Registers "isMultipleOf" fun _ _ _ => false := .inContext _ _
  have habsent : "isMultipleOf" ∉ Table.names (after history) := by decide +kernel
  obtain ⟨-, -, horder, hfind, -, hregister⟩ := listed_and_found_after history .ruby
  obtain ⟨-, -, hnew⟩ := hregister late "isMultipleOf" _ hlate
  obtain ⟨hkept, hback⟩ := hnew habsent
  have hq := (hfind "is_multiple_of" fun l r _ => Sample.multipleOf l r).mpr
    (.inr ⟨by decide +kernel, (after history).take 15, "IsMultipleOf", _, rfl, by decide +kernel,
      by decide +kernel⟩)
  have hentered : Entered history "IsMultipleOf" 1 :=
    .kept (entered_unregister_iff.mpr ⟨.registered (.plain _ _) (by decide +kernel), by decide⟩)
      ((Change.Registers.plain _ _).not_removes _)
  have hcontains : Entered history "contains" 3 := .registered (.plain _ _) (by decide +kernel)
  have hordered := (horder "IsMultipleOf" "contains").mpr
    ⟨1, 3, hentered, hcontains, .inl (by decide)⟩
  exact ⟨history, late, _, _, hlate, habsent, hordered, by decide +kernel, hq,
    hkept "is_multiple_of" _ (by decide) hq, hback⟩

end LiquidEval.Operators
