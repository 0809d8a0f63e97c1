import LiquidEval.Proofs.Filter.Signature

/-! The overloads that a strainer holds of a name. An overload that is merged takes the place of
those with its signature, so the latest of every signature is left; single functions follow
behind. -/
namespace LiquidEval
variable {H : Type}

theorem getLast?_filter_eq_some_iff {α : Type} {p : α → Bool} {l : List α} {a : α} :
    (l.filter p).getLast? = some a ↔
      p a = true ∧ ∃ before after, l = before ++ a :: after ∧ ∀ b ∈ after, ¬p b = true := by
  rw [List.getLast?_eq_head?_reverse, ← List.filter_reverse, List.head?_filter,
    List.find?_eq_some_iff_append]
  refine and_congr_right fun _ => ?_
  constructor
  · rintro ⟨as, bs, hsplit, has⟩
    refine ⟨bs.reverse, as.reverse, ?_, fun b hb => by simpa using has b (List.mem_reverse.mp hb)⟩
    rw [← List.reverse_reverse l, hsplit]
    simp
  · rintro ⟨before, after, rfl, hafter⟩
    exact ⟨after.reverse, before.reverse, by simp,
      fun b hb => by simpa using hafter b (List.mem_reverse.mp hb)⟩

/-- The overloads of a list that no later one replaces. -/
def latest (n : Naming) : List (Descriptor H) → List (Descriptor H)
  | [] => []
  | d :: rest => if rest.any fun e => d.sameSignature e n then latest n rest else d :: latest n rest

/-- What is in front is thinned out by what follows. -/
theorem latest_append (n : Naming) (xs ys : List (Descriptor H)) :
    latest n (xs ++ ys) =
      (latest n xs).filter (fun e => !ys.any fun d => e.sameSignature d n) ++ latest n ys := by
  induction xs with
  | nil => rfl
  | cons x xs ih =>
    rw [List.cons_append, latest, latest, List.any_append, ih]
    cases hlater : xs.any fun e => x.sameSignature e n with
    | true => simp
    | false => cases hx : ys.any fun e => x.sameSignature e n <;> simp [hx]

theorem mem_of_mem_latest {n : Naming} {d : Descriptor H} {ds : List (Descriptor H)}
    (h : d ∈ latest n ds) : d ∈ ds := by
  induction ds with
  | nil => exact h
  | cons e ds ih =>
    rw [latest] at h
    split at h
    next => exact List.mem_cons_of_mem e (ih h)
    next =>
      rcases List.mem_cons.mp h with rfl | h
      · exact List.mem_cons_self
      · exact List.mem_cons_of_mem e (ih h)

/-- What nothing later replaces is kept. -/
theorem mem_latest {n : Naming} {d : Descriptor H} {after : List (Descriptor H)}
    (h : ∀ e ∈ after, d.sameSignature e n = false) (before : List (Descriptor H)) :
    d ∈ latest n (before ++ d :: after) := by
  induction before with
  | nil =>
    have hlater : ¬(after.any fun e => d.sameSignature e n) = true := by
      rw [Bool.not_eq_true, List.any_eq_false]
      exact fun e he => Bool.eq_false_iff.mp (h e he)
    rw [List.nil_append, latest, if_neg hlater]
    exact List.mem_cons_self
  | cons e before ih =>
    rw [List.cons_append, latest]
    split
    next => exact ih
    next => exact List.mem_cons_of_mem e ih

/-- Of the overloads that have one signature, the last is the only one left. -/
theorem filter_latest {n : Naming} {p : Descriptor H → Bool}
    (hcongr : ∀ d e, d.sameSignature e n = true → p d = p e)
    (hone : ∀ d e, p d = true → p e = true → d.sameSignature e n = true)
    (ds : List (Descriptor H)) : (latest n ds).filter p = (ds.filter p).getLast?.toList := by
  induction ds with
  | nil => rfl
  | cons d ds ih =>
    rw [latest, List.filter_cons]
    split
    next hlater =>
      obtain ⟨e, he, hsame⟩ := List.any_eq_true.mp hlater
      rw [ih]
      split
      next hd =>
        have hmem : e ∈ ds.filter p := List.mem_filter.mpr ⟨he, hcongr d e hsame ▸ hd⟩
        obtain ⟨x, rest, hrest⟩ := List.exists_cons_of_ne_nil (List.ne_nil_of_mem hmem)
        rw [hrest, List.getLast?_cons_cons]
      next => rfl
    next hlater =>
      rw [List.filter_cons]
      cases hd : p d with
      | false => exact ih
      | true =>
        have hnone : ds.filter p = [] := by
          refine List.filter_eq_nil_iff.mpr ?_
          intro e he hp
          exact hlater (List.any_eq_true.mpr ⟨e, he, hone d e hd hp⟩)
        rw [if_pos rfl, if_pos rfl, ih, hnone]
        rfl

/-- Of the overloads that a call means, the last is the only one left. -/
theorem find?_latest (n : Naming) (ds : List (Descriptor H)) (positional : Nat)
    (names : List String) :
    (latest n ds).find? (fun d => d.fitsCall n positional names) =
      (ds.filter fun d => d.fitsCall n positional names).getLast? := by
  rw [← List.head?_filter, filter_latest]
  · exact Option.head?_toList
  · exact fun d e => Descriptor.fitsCall_of_sameSignature
  · exact fun d e => Descriptor.sameSignature_of_fitsCall

namespace Strainer

theorem overloads_setOverloads (s : Strainer H) (changed : String) (ds : List (Descriptor H))
    (name : String) :
    (s.setOverloads changed ds).overloads name =
      if s.naming.namesMatch name changed then ds else s.overloads name := by
  have hnaming : (s.setOverloads changed ds).naming = s.naming := rfl
  rw [overloads, hnaming, setOverloads, Table.get?_insert, Naming.namesMatch]
  by_cases h : s.naming.lookupKey name = s.naming.lookupKey changed
  · simp [h]
  · simp [h, overloads]

theorem overloads_eq_of_namesMatch {s : Strainer H} {a b : String}
    (h : s.naming.namesMatch a b = true) : s.overloads b = s.overloads a := by
  rw [Naming.namesMatch, beq_iff_eq] at h
  rw [overloads, overloads, h]

@[simp] theorem naming_merge (s : Strainer H) (d : Descriptor H) :
    (s.merge d).naming = s.naming := rfl

@[simp] theorem naming_addFunction (s : Strainer H) (name : String) (d : Descriptor H) :
    (s.addFunction name d).naming = s.naming := rfl

theorem overloads_merge (s : Strainer H) (d : Descriptor H) (name : String) :
    (s.merge d).overloads name =
      if s.naming.namesMatch name d.name then
        (s.overloads name).filter (fun e => !e.sameSignature d s.naming) ++ [d]
      else s.overloads name := by
  rw [merge, overloads_setOverloads]
  split
  next h => rw [overloads_eq_of_namesMatch h]
  next => rfl

theorem overloads_addFunction (s : Strainer H) (added : String) (d : Descriptor H)
    (name : String) :
    (s.addFunction added d).overloads name =
      if s.naming.namesMatch name added then s.overloads name ++ [d] else s.overloads name := by
  rw [addFunction, overloads_setOverloads]
  split
  next h => rw [overloads_eq_of_namesMatch h]
  next => rfl

theorem extend_cons (s : Strainer H) (d : Descriptor H) (ds : List (Descriptor H)) :
    s.extend (d :: ds) = (s.merge d).extend ds := rfl

theorem view_extend (s : Strainer H) (ds : List (Descriptor H)) :
    (s.extend ds).view = s.view := by
  induction ds generalizing s with
  | nil => rfl
  | cons d ds ih => exact ih (s.merge d)

theorem naming_extend (s : Strainer H) (ds : List (Descriptor H)) :
    (s.extend ds).naming = s.naming :=
  congrArg View.naming (view_extend s ds)

/-- The overloads of a name after a list was merged. -/
theorem overloads_extend (s : Strainer H) (ds : List (Descriptor H)) (name : String) :
    (s.extend ds).overloads name =
      (s.overloads name).filter (fun e =>
          !(ds.filter fun d => s.naming.namesMatch name d.name).any fun d =>
            e.sameSignature d s.naming) ++
        latest s.naming (ds.filter fun d => s.naming.namesMatch name d.name) := by
  induction ds generalizing s with
  | nil => simp [latest, extend]
  | cons d ds ih =>
    rw [extend_cons, ih, naming_merge, overloads_merge]
    cases hname : s.naming.namesMatch name d.name with
    | false => simp [hname]
    | true =>
      rw [if_pos rfl, List.filter_cons, if_pos hname, List.filter_append, List.filter_filter,
        latest, List.append_assoc]
      -- `d` itself stays unless the rest of the list has its signature once more
      congr 1
      · simp [Bool.and_comm]
      · generalize (ds.filter fun d => s.naming.namesMatch name d.name) = later
        cases hlater : later.any fun e => d.sameSignature e s.naming <;>
          simp [hlater]

theorem naming_foldl_extend (s : Strainer H) (lists : List (List (Descriptor H))) :
    (lists.foldl extend s).naming = s.naming := by
  induction lists generalizing s with
  | nil => rfl
  | cons ds lists ih => rw [List.foldl_cons, ih, naming_extend]

/-- Merging goes on as if all lists were one. -/
theorem overloads_foldl_extend {s : Strainer H} {name : String} {before : List (Descriptor H)}
    (h : s.overloads name = latest s.naming before) (lists : List (List (Descriptor H))) :
    (lists.foldl extend s).overloads name =
      latest s.naming
        (before ++ lists.flatten.filter fun d => s.naming.namesMatch name d.name) := by
  induction lists generalizing s before with
  | nil => simpa using h
  | cons ds lists ih =>
    have hds : (s.extend ds).overloads name = latest (s.extend ds).naming
        (before ++ ds.filter fun d => s.naming.namesMatch name d.name) := by
      rw [overloads_extend, h, naming_extend, latest_append]
    rw [List.foldl_cons, ih hds, naming_extend, List.flatten_cons, List.filter_append,
      List.append_assoc]

theorem naming_foldl_addFunction (s : Strainer H) (functions : List (String × Descriptor H)) :
    (functions.foldl (fun s f => s.addFunction f.1 f.2) s).naming = s.naming := by
  induction functions generalizing s with
  | nil => rfl
  | cons f functions ih => rw [List.foldl_cons, ih, naming_addFunction]

theorem overloads_foldl_addFunction (s : Strainer H) (functions : List (String × Descriptor H))
    (name : String) :
    (functions.foldl (fun s f => s.addFunction f.1 f.2) s).overloads name =
      s.overloads name ++
        (functions.filter fun f => s.naming.namesMatch name f.1).map Prod.snd := by
  induction functions generalizing s with
  | nil => simp
  | cons f functions ih =>
    rw [List.foldl_cons, ih, naming_addFunction, overloads_addFunction]
    cases hname : s.naming.namesMatch name f.1 with
    | true => simp [hname]
    | false => simp [hname]

theorem resolve_of_find? {s : Strainer H} {name : String} {positional : Nat}
    {names : List String} {d : Descriptor H}
    (h : (s.overloads name).find? (fun e => e.fitsCall s.naming positional names) = some d) :
    s.resolve name positional names = .ok d := by
  rw [resolve]
  split
  next hnil => rw [hnil] at h; cases h
  next e rest hcons =>
    rw [hcons] at h
    rw [h]

end Strainer
end LiquidEval
