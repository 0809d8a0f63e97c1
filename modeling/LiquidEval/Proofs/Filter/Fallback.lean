import LiquidEval.Proofs.Filter.Invocation
import LiquidEval.Proofs.Filter.Listing

/-! Which overload a call uses. The first that has exactly what the call supplies is used, however
many parameters the others have. If none has, the first of the widest is, and its body does not run
while a parameter is without a value. -/
namespace LiquidEval.Strainer
variable {H : Type}

/-- The earliest of the overloads with the most parameters. -/
def FirstWidest (ds : List (Descriptor H)) (d : Descriptor H) : Prop :=
  ∃ before after, ds = before ++ d :: after ∧
    (∀ e ∈ before, e.totalCount < d.totalCount) ∧ ∀ e ∈ after, e.totalCount ≤ d.totalCount

/-- The earliest of the overloads that have exactly what a call supplies. -/
def FirstAnswering (n : Naming) (positional : Nat) (names : List String) (ds : List (Descriptor H))
    (d : Descriptor H) : Prop :=
  ∃ before after, ds = before ++ d :: after ∧ d.Answers n positional names ∧
    ∀ e ∈ before, ¬e.Answers n positional names

section Choice
variable {d e f : Descriptor H} {ds : List (Descriptor H)}

theorem FirstWidest.totalCount_le (h : FirstWidest ds d) (he : e ∈ ds) :
    e.totalCount ≤ d.totalCount := by
  obtain ⟨before, after, rfl, hbefore, hafter⟩ := h
  rcases List.mem_append.mp he with he | he
  · exact (hbefore e he).le
  · rcases List.mem_cons.mp he with rfl | he
    · exact le_rfl
    · exact hafter e he

theorem FirstWidest.cons (h : FirstWidest ds d) (he : e.totalCount < d.totalCount) :
    FirstWidest (e :: ds) d := by
  obtain ⟨before, after, rfl, hbefore, hafter⟩ := h
  exact ⟨e :: before, after, rfl, List.forall_mem_cons.mpr ⟨he, hbefore⟩, hafter⟩

/-- What is no wider than an overload in front of it changes nothing. -/
theorem FirstWidest.insert (h : FirstWidest (f :: ds) d) (he : e.totalCount ≤ f.totalCount) :
    FirstWidest (f :: e :: ds) d := by
  obtain ⟨before, after, hsplit, hbefore, hafter⟩ := h
  cases before with
  | nil =>
    obtain ⟨rfl, rfl⟩ := List.cons.inj hsplit
    exact ⟨[], e :: ds, rfl, List.forall_mem_nil _, List.forall_mem_cons.mpr ⟨he, hafter⟩⟩
  | cons g before =>
    obtain ⟨rfl, rfl⟩ := List.cons.inj hsplit
    obtain ⟨hf, hbefore⟩ := List.forall_mem_cons.mp hbefore
    refine ⟨f :: e :: before, after, rfl, ?_, hafter⟩
    exact List.forall_mem_cons.mpr ⟨hf, List.forall_mem_cons.mpr ⟨he.trans_lt hf, hbefore⟩⟩

/-- A later overload is kept only if it is wider than all before it. -/
theorem firstWidest_widest (d : Descriptor H) (ds : List (Descriptor H)) :
    FirstWidest (d :: ds) (widest d ds) := by
  induction ds generalizing d with
  | nil => exact ⟨[], [], rfl, List.forall_mem_nil _, List.forall_mem_nil _⟩
  | cons e ds ih =>
    rw [widest]
    split
    next hlt => exact (ih e).cons (hlt.trans_le ((ih e).totalCount_le List.mem_cons_self))
    next hle => exact (ih d).insert (not_lt.mp hle)

variable {n : Naming} {positional : Nat} {names : List String}

theorem firstAnswering_iff :
    FirstAnswering n positional names ds d ↔
      ds.find? (fun e => e.fitsCall n positional names) = some d := by
  simp only [FirstAnswering, List.find?_eq_some_iff_append, Bool.not_eq_true',
    ← Bool.not_eq_true, Descriptor.fitsCall_iff_answers]
  constructor
  · rintro ⟨before, after, hsplit, hd, hbefore⟩
    exact ⟨hd, before, after, hsplit, hbefore⟩
  · rintro ⟨hd, before, after, hsplit, hbefore⟩
    exact ⟨before, after, hsplit, hd, hbefore⟩

/-- A known name always has an overload for a call. -/
theorem exists_resolve {s : Strainer H} {name : String} (hne : s.overloads name ≠ [])
    (positional : Nat) (names : List String) :
    ∃ d, s.resolve name positional names = .ok d ∧
      ((∃ e ∈ s.overloads name, e.Answers s.naming positional names) →
        FirstAnswering s.naming positional names (s.overloads name) d) ∧
      ((∀ e ∈ s.overloads name, ¬e.Answers s.naming positional names) →
        FirstWidest (s.overloads name) d) := by
  cases hfind : (s.overloads name).find? fun e => e.fitsCall s.naming positional names with
  | some d =>
    have hfirst := firstAnswering_iff.mpr hfind
    refine ⟨d, resolve_of_find? hfind, fun _ => hfirst, fun hnone => ?_⟩
    obtain ⟨before, after, hsplit, hd, -⟩ := hfirst
    exact absurd hd (hnone d (by simp [hsplit]))
  | none =>
    have hnone : ∀ e ∈ s.overloads name, ¬e.Answers s.naming positional names := by
      intro e he
      rw [← Descriptor.fitsCall_iff_answers]
      exact List.find?_eq_none.mp hfind e he
    obtain ⟨d, rest, hcons⟩ := List.exists_cons_of_ne_nil hne
    refine ⟨widest d rest, ?_, ?_, fun _ => hcons ▸ firstWidest_widest d rest⟩
    · rw [hcons] at hfind
      rw [resolve, hcons]
      dsimp only
      rw [hfind]
    · rintro ⟨e, he, hanswers⟩
      exact absurd hanswers (hnone e he)

end Choice

variable [Host H]

/-- What a call does that means the overload `d`: the body of `d` runs once on the values of its
parameters, or, where a parameter has none, nothing runs. -/
structure Uses (s : Strainer H) (name : String) (args : List (Value H))
    (named : List (String × Value H)) (d : Descriptor H) : Prop where
  resolved : s.resolve name args.length (named.map Prod.fst) = .ok d
  runs : ∀ values, AllBound s.naming d args named values →
    s.trace name args named =
      (answer (d.body (s.arguments d values)), [(d, s.arguments d values)])
  fails : ∀ e, FirstUnbound name s.naming d args named e →
    s.trace name args named = (.error e, [])

section Call
variable {s : Strainer H} {name : String} {args : List (Value H)}
  {named : List (String × Value H)} {d : Descriptor H} {n : Naming}

theorem uses_of_resolve (hd : s.resolve name args.length (named.map Prod.fst) = .ok d) :
    s.Uses name args named d where
  resolved := hd
  runs values hvalues := by
    rw [trace, invokeBy_of_allBound hd hvalues]
    rfl
  fails e he := by
    rw [trace, invokeBy_of_firstUnbound hd he]
    rfl

omit [Host H] in
/-- An ordered parameter that no argument reaches and that has no default. -/
theorem not_filled_of_unreached {i : Nat} {p : Parameter H}
    (hp : args.length ≤ i) (hnamed : ∀ e ∈ named, ¬Means n d e.1 i)
    (hdefault : p.default = none) (v : Value H) : ¬Filled n d args named i p v := by
  intro h
  cases h with
  | byName split means last =>
    rw [split] at hnamed
    exact hnamed _ (List.mem_append_right _ List.mem_cons_self) means
  | byPosition unnamed ordered given => omega
  | byDefault unnamed absent default =>
    rw [hdefault] at default
    cases default

/-- A parameter that stays empty is reported, unless one before it is. -/
theorem exists_firstUnbound {i : Nat} {p : Parameter H} (filter : String)
    (hp : d.parameters[i]? = some p) (hempty : ∀ v, ¬Filled n d args named i p v) :
    ∃ e, FirstUnbound filter n d args named e := by
  rcases bindValues_slots_cases filter n d args named with
    ⟨values, -, hvalues⟩ | ⟨e, -, he⟩
  · obtain ⟨w, -, v, hv, -⟩ := hvalues.2 i p hp
    exact absurd hv (hempty v)
  · exact ⟨e, he⟩

end Call

/-- A call of a known name uses the earliest overload that has exactly what it supplies, and if
there is none the earliest of the widest. It fails, and no body runs, if no argument and no default
reaches an ordered parameter. -/
theorem falls_back_to_first_widest {s : Strainer H} (hs : s.Built) {name : String}
    (hname : s.respondsTo name = true) (args : List (Value H)) (named : List (String × Value H)) :
    ∃ d, s.Uses name args named d ∧
      ((∃ e ∈ s.overloads name, e.Answers s.naming args.length (named.map Prod.fst)) →
        FirstAnswering s.naming args.length (named.map Prod.fst) (s.overloads name) d) ∧
      ((∀ e ∈ s.overloads name, ¬e.Answers s.naming args.length (named.map Prod.fst)) →
        FirstWidest (s.overloads name) d) ∧
      ∀ (i : Nat) p, d.ordered[i]? = some p → args.length ≤ i →
        (∀ e ∈ named, ¬Means s.naming d e.1 i) → p.default = none →
        ∃ e, FirstUnbound name s.naming d args named e ∧
          s.trace name args named = (.error e, []) ∧ s.invoke name args named = .error e := by
  have hne : s.overloads name ≠ [] := by
    rw [ne_eq, hs.sound.overloads_eq_nil_iff, hname]
    exact Bool.noConfusion
  obtain ⟨d, hd, hanswering, hwidest⟩ := exists_resolve hne args.length (named.map Prod.fst)
  refine ⟨d, uses_of_resolve hd, hanswering, hwidest, ?_⟩
  intro i p hp hargs hnamed hdefault
  have hparameter : d.parameters[i]? = some p := by
    rw [Descriptor.parameters, List.getElem?_append_left (List.getElem?_eq_some_iff.mp hp).1, hp]
  obtain ⟨e, he⟩ :=
    exists_firstUnbound name hparameter (not_filled_of_unreached hargs hnamed hdefault)
  exact ⟨e, he, (uses_of_resolve hd).fails e he, invoke_of_firstUnbound hd he⟩

/-- Of two overloads of three parameters the earlier is used by a call that fits none, and without
any argument it does not run; a call that fits the first overload uses that one. -/
theorem falls_back_to_first_widest_without_arguments :
    ∃ s : Strainer Sample.Object, ((s.overloads "pick").map fun e => e.totalCount) = [1, 2, 3, 3] ∧
      (∃ d, s.Uses "pick" [.int 7] [] d ∧ FirstAnswering s.naming 1 [] (s.overloads "pick") d) ∧
      ∃ d e, FirstWidest (s.overloads "pick") d ∧ s.trace "pick" [] [] = (.error e, []) := by
  let late : Descriptor Sample.Object :=
    Sample.pick [Sample.anything "x", Sample.anything "y", Sample.anything "z"] "late"
  let s : Strainer Sample.Object :=
    (Strainer.extend { view := FlatContext.view { naming := .ruby } }
      Sample.overloads.filters).addFunction "Pick" late
  have hs : s.Built := ((Built.empty _).extend _).addFunction _ _
  have hname : s.respondsTo "pick" = true := by decide +kernel
  have hone : (s.overloads "pick").any (fun e => e.fitsCall s.naming 1 []) = true := by
    decide +kernel
  have hnone : (s.overloads "pick").all (fun e => !e.fitsCall s.naming 0 []) = true := by
    decide +kernel
  have hrequired : (s.overloads "pick").all
      (fun e => e.ordered.head?.any fun p => p.default.isNone) = true := by decide +kernel
  refine ⟨s, by decide +kernel, ?_, ?_⟩
  · obtain ⟨d, huses, hanswering, -⟩ := falls_back_to_first_widest hs hname [.int 7] []
    obtain ⟨e, he, hfits⟩ := List.any_eq_true.mp hone
    exact ⟨d, huses, hanswering ⟨e, he, Descriptor.fitsCall_iff_answers.mp hfits⟩⟩
  · obtain ⟨d, huses, -, hwidest, hfails⟩ := falls_back_to_first_widest hs hname [] []
    have hempty : ∀ e ∈ s.overloads "pick", ¬e.Answers s.naming 0 [] := by
      intro e he hanswers
      have hfits := List.all_eq_true.mp hnone e he
      rw [Descriptor.fitsCall_iff_answers.mpr hanswers] at hfits
      cases hfits
    have hhead := List.all_eq_true.mp hrequired d (mem_overloads_of_resolve huses.resolved)
    obtain ⟨p, hp, hdefault⟩ := (Option.any_eq_true _ _).mp hhead
    obtain ⟨e, -, htrace, -⟩ := hfails 0 p (by rw [← List.head?_eq_getElem?, hp]) le_rfl
      (List.forall_mem_nil _) (Option.isNone_iff_eq_none.mp hdefault)
    exact ⟨d, e, hwidest hempty, htrace⟩

end LiquidEval.Strainer
