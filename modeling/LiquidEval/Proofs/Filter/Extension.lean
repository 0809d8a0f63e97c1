import LiquidEval.Proofs.Filter.Merge
import LiquidEval.Sample.Filters
import LiquidEval.Sample.Objects

/-! Merging a list of overloads into a strainer. Of every signature in the list the last overload is
left, in the place of all that had it before; everything else stays. Merging the list once more
changes nothing. -/
namespace LiquidEval.Strainer
variable {H : Type}

/-- The strainers that come of an empty one by merging lists and adding single filters. -/
inductive Built : Strainer H → Prop where
  | empty (view : View H) : Built { view }
  | extend {s : Strainer H} (h : Built s) (ds : List (Descriptor H)) : Built (s.extend ds)
  | addFunction {s : Strainer H} (h : Built s) (name : String) (d : Descriptor H) :
      Built (s.addFunction name d)

/-- No name stands twice in the table, and none stands there without an overload. -/
structure Sound (s : Strainer H) : Prop where
  distinct : Table.Distinct s.methods
  inhabited : ∀ e ∈ s.methods, e.2 ≠ []

theorem Sound.setOverloads {s : Strainer H} (h : Sound s) (name : String)
    {ds : List (Descriptor H)} (hds : ds ≠ []) : Sound (s.setOverloads name ds) := by
  refine ⟨h.distinct.insert _ _, ?_⟩
  intro e he
  rcases Table.mem_of_mem_insert he with rfl | he
  · exact hds
  · exact h.inhabited e he

theorem Sound.merge {s : Strainer H} (h : Sound s) (d : Descriptor H) : Sound (s.merge d) :=
  h.setOverloads d.name (List.append_ne_nil_of_right_ne_nil _ (List.cons_ne_nil d []))

theorem Sound.extend {s : Strainer H} (h : Sound s) (ds : List (Descriptor H)) :
    Sound (s.extend ds) := by
  induction ds generalizing s with
  | nil => exact h
  | cons d ds ih => exact ih (h.merge d)

theorem Built.sound {s : Strainer H} (h : Built s) : Sound s := by
  induction h with
  | empty view => exact ⟨List.nodup_nil, List.forall_mem_nil _⟩
  | extend h ds ih => exact ih.extend ds
  | addFunction h name d ih =>
    exact ih.setOverloads name (List.append_ne_nil_of_right_ne_nil _ (List.cons_ne_nil d []))

theorem get?_extend_of_forall_ne {s : Strainer H} {ds : List (Descriptor H)} {key : String}
    (h : ∀ d ∈ ds, s.naming.lookupKey d.name ≠ key) :
    (s.extend ds).methods.get? key = s.methods.get? key := by
  induction ds generalizing s with
  | nil => rfl
  | cons d ds ih =>
    rw [List.forall_mem_cons] at h
    have hmerge : (s.merge d).methods.get? key = s.methods.get? key := by
      rw [merge, setOverloads, Table.get?_insert, if_neg h.1.symm]
    rw [extend_cons, ih (s := s.merge d) h.2, hmerge]

theorem mem_names_extend {s : Strainer H} {ds : List (Descriptor H)} {key : String} :
    key ∈ Table.names (s.extend ds).methods ↔
      key ∈ Table.names s.methods ∨ ∃ d ∈ ds, s.naming.lookupKey d.name = key := by
  induction ds generalizing s with
  | nil => simp [extend]
  | cons d ds ih =>
    have hmerge : key ∈ Table.names (s.merge d).methods ↔
        key = s.naming.lookupKey d.name ∨ key ∈ Table.names s.methods :=
      Table.mem_names_insert
    rw [extend_cons, ih, hmerge, naming_merge, List.exists_mem_cons_iff, or_assoc, or_left_comm,
      eq_comm]

theorem names_prefix_extend (s : Strainer H) (ds : List (Descriptor H)) :
    Table.names s.methods <+: Table.names (s.extend ds).methods := by
  induction ds generalizing s with
  | nil => exact List.prefix_rfl
  | cons d ds ih => exact (Table.names_prefix_insert _ _ _).trans (ih (s.merge d))

theorem names_extend_of_forall_mem {s : Strainer H} {ds : List (Descriptor H)}
    (h : ∀ d ∈ ds, s.naming.lookupKey d.name ∈ Table.names s.methods) :
    Table.names (s.extend ds).methods = Table.names s.methods := by
  induction ds generalizing s with
  | nil => rfl
  | cons d ds ih =>
    rw [List.forall_mem_cons] at h
    have hmerge : Table.names (s.merge d).methods = Table.names s.methods :=
      Table.names_insert_of_mem _ h.1
    rw [extend_cons, ih (by rw [hmerge, naming_merge]; exact h.2), hmerge]

theorem get?_extend_of_mem {s : Strainer H} {ds : List (Descriptor H)} {d : Descriptor H}
    (hd : d ∈ ds) :
    (s.extend ds).methods.get? (s.naming.lookupKey d.name) =
      some ((s.extend ds).overloads d.name) := by
  obtain ⟨es, hes⟩ := Option.isSome_iff_exists.mp
    (Table.isSome_get?_iff.mpr (mem_names_extend.mpr (.inr ⟨d, hd, rfl⟩)))
  rw [overloads, naming_extend, hes, Option.getD_some]

/-- What was merged last is thinned out by itself only. -/
theorem overloads_extend_extend (s : Strainer H) (ds : List (Descriptor H)) (name : String) :
    ((s.extend ds).extend ds).overloads name = (s.extend ds).overloads name := by
  rw [overloads_extend, overloads_extend, naming_extend]
  generalize (ds.filter fun d => s.naming.namesMatch name d.name) = named
  have hgone : (latest s.naming named).filter
      (fun e => !named.any fun d => e.sameSignature d s.naming) = [] := by
    refine List.filter_eq_nil_iff.mpr ?_
    intro e he
    have hself : named.any (fun d => e.sameSignature d s.naming) = true :=
      List.any_eq_true.mpr ⟨e, mem_of_mem_latest he, Descriptor.sameSignature_refl e s.naming⟩
    rw [hself]
    exact Bool.false_ne_true
  rw [List.filter_append, List.filter_filter, hgone, List.append_nil]
  simp only [Bool.and_self]

theorem Sound.extend_extend {s : Strainer H} (h : Sound s) (ds : List (Descriptor H)) :
    (s.extend ds).extend ds = s.extend ds := by
  -- one step of the second pass moves an overload to the end, so only whole passes can be compared
  have hnames : Table.names ((s.extend ds).extend ds).methods =
      Table.names (s.extend ds).methods := by
    refine names_extend_of_forall_mem ?_
    rw [naming_extend]
    exact fun d hd => mem_names_extend.mpr (.inr ⟨d, hd, rfl⟩)
  have hmethods : ((s.extend ds).extend ds).methods = (s.extend ds).methods := by
    refine ((h.extend ds).extend ds).distinct.ext hnames ?_
    intro key _
    by_cases hin : ∃ d ∈ ds, s.naming.lookupKey d.name = key
    · obtain ⟨d, hd, rfl⟩ := hin
      have hagain := get?_extend_of_mem (s := s.extend ds) hd
      rw [naming_extend, overloads_extend_extend] at hagain
      rw [hagain, get?_extend_of_mem hd]
    · refine get?_extend_of_forall_ne ?_
      rw [naming_extend]
      exact fun d hd heq => hin ⟨d, hd, heq⟩
  calc (s.extend ds).extend ds
      = ⟨((s.extend ds).extend ds).view, ((s.extend ds).extend ds).methods⟩ := rfl
    _ = s.extend ds := by rw [view_extend, hmethods]

/-- Two overloads that are looked up under one key and have one signature. -/
def Rivals (n : Naming) (d e : Descriptor H) : Prop :=
  n.namesMatch d.name e.name = true ∧ d.sameSignature e n = true

theorem exists_last_rival (n : Naming) {ds : List (Descriptor H)} {d : Descriptor H}
    (hd : d ∈ ds) :
    ∃ before last after, ds = before ++ last :: after ∧ Rivals n d last ∧
      (∀ e ∈ after, ¬Rivals n d e) ∧
      ((ds.filter fun e => n.namesMatch d.name e.name).filter
        fun e => e.sameSignature d n).getLast? = some last := by
  have hmem : d ∈ ds.filter fun e => e.sameSignature d n && n.namesMatch d.name e.name :=
    List.mem_filter.mpr ⟨hd, by simp [Naming.namesMatch, Descriptor.sameSignature_refl]⟩
  obtain ⟨last, hlast⟩ := Option.isSome_iff_exists.mp (List.getLast?_isSome.mpr
    (List.ne_nil_of_mem hmem))
  have hrival : ∀ e : Descriptor H,
      (e.sameSignature d n && n.namesMatch d.name e.name) = true ↔ Rivals n d e := by
    intro e
    rw [Rivals, Bool.and_eq_true, and_comm, Descriptor.sameSignature_comm]
  obtain ⟨hrivals, before, after, hsplit, hafter⟩ := getLast?_filter_eq_some_iff.mp hlast
  refine ⟨before, last, after, hsplit, (hrival last).mp hrivals, ?_, ?_⟩
  · exact fun e he => mt (hrival e).mpr (hafter e he)
  · rw [List.filter_filter]
    exact hlast

/-- What is left with the signature of a merged overload is the last of the list that has it. -/
theorem filter_overloads_extend (s : Strainer H) {ds : List (Descriptor H)} {d : Descriptor H}
    (hd : d ∈ ds) :
    ((s.extend ds).overloads d.name).filter (fun e => e.sameSignature d s.naming) =
      ((ds.filter fun e => s.naming.namesMatch d.name e.name).filter
        fun e => e.sameSignature d s.naming).getLast?.toList := by
  have hnamed : d ∈ ds.filter fun e => s.naming.namesMatch d.name e.name :=
    List.mem_filter.mpr ⟨hd, by simp [Naming.namesMatch]⟩
  rw [overloads_extend, List.filter_append, filter_latest]
  · have hgone : ((s.overloads d.name).filter fun e =>
        !(ds.filter fun e => s.naming.namesMatch d.name e.name).any fun d =>
          e.sameSignature d s.naming).filter (fun e => e.sameSignature d s.naming) = [] := by
      refine List.filter_eq_nil_iff.mpr ?_
      intro e he hsame
      have hkept := (List.mem_filter.mp he).2
      rw [List.any_eq_true.mpr ⟨d, hnamed, hsame⟩] at hkept
      exact Bool.false_ne_true hkept
    rw [hgone, List.nil_append]
  · exact fun e f h => Descriptor.sameSignature_congr h d
  · intro e f he hf
    rw [Descriptor.sameSignature_congr he, Descriptor.sameSignature_comm]
    exact hf

/-- After a list is merged, the last overload of the list is the only one that has its name and its
signature. What has another name or signature stays in its order, in front of what was added, and
merging the list again changes nothing. -/
theorem extend_replaces_signatures {s : Strainer H} (hs : Built s) (ds : List (Descriptor H)) :
    (∀ d ∈ ds, ∃ before last after, ds = before ++ last :: after ∧ Rivals s.naming d last ∧
      (∀ e ∈ after, ¬Rivals s.naming d e) ∧
      ((s.extend ds).overloads d.name).filter (fun e => e.sameSignature d s.naming) = [last]) ∧
    (∀ name, (s.extend ds).overloads name =
      (s.overloads name).filter (fun e =>
          !ds.any fun d => s.naming.namesMatch name d.name && e.sameSignature d s.naming) ++
        latest s.naming (ds.filter fun d => s.naming.namesMatch name d.name)) ∧
    (∀ key, (∀ d ∈ ds, s.naming.lookupKey d.name ≠ key) →
      (s.extend ds).methods.get? key = s.methods.get? key) ∧
    Table.names s.methods <+: Table.names (s.extend ds).methods ∧
    (∀ e ∈ s.methods, e.2 ≠ []) ∧ (∀ e ∈ (s.extend ds).methods, e.2 ≠ []) ∧
    (s.extend ds).extend ds = s.extend ds := by
  refine ⟨?_, ?_, fun key => get?_extend_of_forall_ne, names_prefix_extend s ds,
    hs.sound.inhabited, (hs.sound.extend ds).inhabited, hs.sound.extend_extend ds⟩
  · intro d hd
    obtain ⟨before, last, after, hsplit, hrivals, hafter, hlast⟩ := exists_last_rival s.naming hd
    refine ⟨before, last, after, hsplit, hrivals, hafter, ?_⟩
    rw [filter_overloads_extend s hd, hlast]
    rfl
  · intro name
    rw [overloads_extend]
    simp only [List.any_filter]

/-- A function that was added beside an overload of its signature goes with it, and of two
replacements the second is left. -/
theorem extend_replaces_signatures_of_added :
    ∃ (s : Strainer Sample.Object) (first second : Descriptor Sample.Object), Built s ∧
      ((s.overloads "pick").filter fun e => e.sameSignature second s.naming).length = 2 ∧
      ((s.extend [first, second]).overloads "pick").filter
        (fun e => e.sameSignature second s.naming) = [second] := by
  let s : Strainer Sample.Object :=
    (Strainer.extend { view := FlatContext.view { naming := .ruby } }
      Sample.overloads.filters).addFunction "Pick" (Sample.pick [Sample.anything "x"] "added")
  let first : Descriptor Sample.Object := Sample.pick [Sample.anything "x"] "first"
  let second : Descriptor Sample.Object := Sample.pick [Sample.anything "y"] "second"
  have hs : Built s := ((Built.empty _).extend _).addFunction _ _
  obtain ⟨hlast, -⟩ := extend_replaces_signatures hs [first, second]
  obtain ⟨before, last, after, hsplit, -, hafter, honly⟩ :=
    hlast second (List.mem_cons_of_mem first List.mem_cons_self)
  have hsecond : last = second := by
    rcases before with _ | ⟨e, _ | ⟨f, before⟩⟩
    · obtain ⟨-, rfl⟩ : first = last ∧ [second] = after := by simpa using hsplit
      exact absurd ⟨by decide +kernel, by decide +kernel⟩ (hafter second List.mem_cons_self)
    · obtain ⟨-, h, -⟩ : first = e ∧ second = last ∧ [] = after := by simpa using hsplit
      exact h.symm
    · simp at hsplit
  rw [hsecond] at honly
  exact ⟨s, first, second, hs, by decide +kernel, honly⟩

end LiquidEval.Strainer
