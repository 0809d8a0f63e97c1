import LiquidEval.Proofs.Registry.Functions

/-! Single functions when the naming convention is changed. A function keeps the key that its name
had when it was registered, so a name reaches what was registered under it only as long as it has
that key. -/
namespace LiquidEval.Registry
variable {H : Type}

/-- The convention under which a registry makes its next call. -/
def conventions (r : Registry H) (earlier : List (FunctionCall H)) : Naming :=
  (r.after earlier).naming

/-- A function was registered under exactly this spelling. Since then only conventions changed, and
the spelling was registered again. -/
def Undisturbed (name : String) (history : List (FunctionCall H)) : Prop :=
  Since (fun c _ => ∃ d, c = .register name d)
    (fun c _ => (∃ n, c = .setNaming n) ∨ ∃ d, c = .register name d) history

/-- Every registration of this spelling that still stands was made under a convention that gave it
the key that it has now. -/
def Settled (r : Registry H) (name : String) (history : List (FunctionCall H)) : Prop :=
  ∀ key d, Latest r.conventions key name d history → key = (r.after history).naming.lookupKey name

section
variable {r : Registry H} {name key : String} {d : Descriptor H}
  {history earlier : List (FunctionCall H)}

theorem governs_conventions (r : Registry H) (history : List (FunctionCall H)) :
    Governs r.conventions r history := fun _ _ _ => rfl

theorem mem_functions_after_iff (hr : r.functions = []) :
    (key, name, d) ∈ (r.after history).functions ↔ Latest r.conventions key name d history :=
  mem_functions_iff hr (governs_conventions r history)

theorem Latest.setNaming (h : Latest r.conventions key name d earlier) (n : Naming) :
    Latest r.conventions key name d (.setNaming n :: earlier) :=
  .still h ⟨by simp [Removes], by simp [Registers]⟩

theorem Undisturbed.exists_latest (r : Registry H) (h : Undisturbed name history) :
    ∃ key d, Latest r.conventions key name d history := by
  induction h with
  | now h =>
    obtain ⟨d, rfl⟩ := h
    exact ⟨_, d, .now ⟨rfl, rfl⟩⟩
  | still _ hc ih =>
    rcases hc with ⟨n, rfl⟩ | ⟨d, rfl⟩
    · obtain ⟨key, d, hlatest⟩ := ih
      exact ⟨key, d, hlatest.setNaming n⟩
    · exact ⟨_, d, .now ⟨rfl, rfl⟩⟩

theorem latest_of_forall_setNaming {later : List (FunctionCall H)}
    (h : ∀ c ∈ later, ∃ n, c = .setNaming n) :
    Latest r.conventions ((r.after earlier).naming.lookupKey name) name d
      (later ++ .register name d :: earlier) := by
  induction later with
  | nil => exact .now ⟨rfl, rfl⟩
  | cons c later ih =>
    rw [List.forall_mem_cons] at h
    obtain ⟨⟨n, rfl⟩, hlater⟩ := h
    exact (ih hlater).setNaming n

/-- What is not settled is not reached by its own name. -/
theorem settled_iff_forall_ne (hr : r.functions = []) :
    Settled r name history ↔
      ∀ f ∈ ((r.after history).unregisterFunction name).functionDescriptors, f.1 ≠ name := by
  rw [functionDescriptors, Table.values, unregisterFunction, Table.erase]
  constructor
  · rintro hsettled f hf rfl
    obtain ⟨⟨key, f⟩, he, rfl⟩ := List.mem_map.mp hf
    obtain ⟨he, hne⟩ := List.mem_filter.mp he
    exact bne_iff_ne.mp hne (hsettled key f.2 ((mem_functions_after_iff hr).mp he))
  · intro hnone key d hlatest
    by_contra hne
    have hmem := (mem_functions_after_iff hr).mpr hlatest
    have hkept : (key, name, d) ∈ (r.after history).functions.filter
        fun e => e.1 != (r.after history).naming.lookupKey name :=
      List.mem_filter.mpr ⟨hmem, bne_iff_ne.mpr hne⟩
    exact hnone (name, d) (List.mem_map.mpr ⟨_, hkept, rfl⟩) rfl

theorem Settled.hasFunction (hr : r.functions = []) (hname : Undisturbed name history)
    (h : Settled r name history) : (r.after history).hasFunction name = true := by
  obtain ⟨key, d, hlatest⟩ := hname.exists_latest r
  have hmem := (mem_functions_after_iff hr).mpr hlatest
  rw [h key d hlatest] at hmem
  exact Table.isSome_get?_iff.mpr (List.mem_map.mpr ⟨_, hmem, rfl⟩)

/-- Where a spelling stands under one key only, key and spelling pick out the same entries. -/
theorem spelling_beq_eq_key_beq {t : Table (String × Descriptor H)} (hdistinct : Table.Distinct t)
    (hmem : (key, name, d) ∈ t) (honly : ∀ key' d', (key', name, d') ∈ t → key' = key) :
    ∀ e ∈ t, (e.2.1 == name) = (e.1 == key) := by
  rintro ⟨key', spelling, d'⟩ he
  rw [Bool.eq_iff_iff, beq_iff_eq, beq_iff_eq]
  constructor
  · intro hspelling
    dsimp only at hspelling
    subst hspelling
    exact honly key' d' he
  · intro hkey
    dsimp only at hkey
    subst hkey
    have hsame := (hdistinct.get?_eq_some_iff.mpr he).symm.trans
      (hdistinct.get?_eq_some_iff.mpr hmem)
    exact (Prod.ext_iff.mp (Option.some.inj hsame)).1

/-- A registration of the spelling leaves one function of it exactly if it is settled. -/
theorem settled_iff_filter_registerFunction (hr : r.functions = []) (d : Descriptor H) :
    Settled r name history ↔
      ((r.after history).registerFunction name d).functionDescriptors.filter
        (fun f => f.1 == name) = [(name, d)] := by
  have hfilter : ((r.after history).registerFunction name d).functionDescriptors.filter
        (fun f => f.1 == name) =
      (((r.after history).functions.insert ((r.after history).naming.lookupKey name)
        (name, d)).filter fun e => e.2.1 == name).map Prod.snd := by
    rw [functionDescriptors, Table.values, List.filter_map]
    rfl
  rw [hfilter]
  generalize hnow : (r.after history).naming.lookupKey name = now
  have hdistinct : Table.Distinct ((r.after history).functions.insert now (name, d)) :=
    (distinct_functions hr history).insert _ _
  have hget : Table.get? ((r.after history).functions.insert now (name, d)) now =
      some (name, d) := by
    rw [Table.get?_insert, if_pos rfl]
  have hnew := hdistinct.get?_eq_some_iff.mp hget
  constructor
  -- What is settled stands under the key that is entered now, so nothing else has the spelling.
  · intro hsettled
    have honly : ∀ key d', (key, name, d') ∈ (r.after history).functions.insert now (name, d) →
        key = now := by
      intro key d' he
      rcases Table.mem_of_mem_insert he with heq | hold
      · exact (Prod.ext_iff.mp heq).1
      · exact (hsettled key d' ((mem_functions_after_iff hr).mp hold)).trans hnow
    rw [List.filter_congr (spelling_beq_eq_key_beq hdistinct hnew honly), hdistinct.filter_name,
      hget]
    rfl
  -- What stands under another key stays there beside the new function.
  · intro hone key d' hlatest
    rw [hnow]
    by_contra hne
    have hold := (mem_functions_after_iff hr).mpr hlatest
    have hkept : (key, name, d') ∈ (r.after history).functions.insert now (name, d) := by
      rw [← hdistinct.get?_eq_some_iff, Table.get?_insert, if_neg hne]
      exact (distinct_functions hr history).get?_eq_some_iff.mpr hold
    obtain ⟨e, hfiltered, -⟩ := List.map_eq_singleton_iff.mp hone
    have honly : ∀ f ∈ (r.after history).functions.insert now (name, d), f.2.1 = name → f = e := by
      intro f hf hspelling
      rw [← List.mem_singleton, ← hfiltered]
      exact List.mem_filter.mpr ⟨hf, beq_iff_eq.mpr hspelling⟩
    have hsame := (honly _ hkept rfl).trans (honly _ hnew rfl).symm
    exact hne (Prod.ext_iff.mp hsame).1

/-- Taking a settled name away takes all that is registered under it, and nothing else. -/
theorem Settled.functionDescriptors_unregisterFunction (hr : r.functions = [])
    (hname : Undisturbed name history) (h : Settled r name history) :
    ((r.after history).unregisterFunction name).functionDescriptors =
      (r.after history).functionDescriptors.filter fun f => f.1 != name := by
  obtain ⟨key, d, hlatest⟩ := hname.exists_latest r
  have hmem := (mem_functions_after_iff hr).mpr hlatest
  rw [h key d hlatest] at hmem
  have hsame := spelling_beq_eq_key_beq (distinct_functions hr history) hmem
    fun key' d' he => h key' d' ((mem_functions_after_iff hr).mp he)
  have hkeys : ∀ e ∈ (r.after history).functions,
      (e.1 != (r.after history).naming.lookupKey name) = (e.2.1 != name) :=
    fun e he => congrArg not (hsame e he).symm
  rw [functionDescriptors, Table.values, unregisterFunction, Table.erase, List.filter_congr hkeys,
    functionDescriptors, Table.values, List.filter_map]
  rfl

theorem settled_of_lookupKey_eq (hkeys : ∀ n m : Naming, n.lookupKey name = m.lookupKey name) :
    Settled r name history := by
  intro key d hlatest
  obtain ⟨-, earlier, -, hkey⟩ := hlatest.exists_call
  rw [← hkey]
  exact hkeys _ _

/-- The latest registration of a settled name was made under the key that the name has now. -/
theorem Settled.lookupKey_eq {later : List (FunctionCall H)}
    (h : Settled r name (later ++ .register name d :: earlier))
    (hlater : ∀ c ∈ later, ∃ n, c = .setNaming n) :
    (r.after earlier).naming.lookupKey name =
      (r.after (later ++ .register name d :: earlier)).naming.lookupKey name :=
  h _ d (latest_of_forall_setNaming hlater)

/-- Only a name that has one key under all conventions is settled after all calls. -/
theorem forall_settled_iff (r : Registry H) (name : String) :
    (∀ history, Undisturbed name history → Settled r name history) ↔
      ∀ n m : Naming, n.lookupKey name = m.lookupKey name := by
  constructor
  · intro h n m
    let d : Descriptor H := { name, body := fun _ => .ok .nil }
    have hname : Undisturbed name [.setNaming m, .register name d, .setNaming n] :=
      .still (.now ⟨d, rfl⟩) (.inl ⟨m, rfl⟩)
    have hsettled : Settled r name ([.setNaming m] ++ .register name d :: [.setNaming n]) :=
      h _ hname
    exact hsettled.lookupKey_eq (by simp)
  · exact fun hkeys _ _ => settled_of_lookupKey_eq hkeys

end
/-- A registered name addresses its function exactly if it is settled. Then no render finds the
function once it is taken away, and another registration replaces it. Names that have one key are
always settled, and no others. -/
theorem addressable_iff_settled {r : Registry H} (hr : r.functions = []) (name : String) :
    (∀ history, Undisturbed name history →
      (Settled r name history ↔ (r.after history).hasFunction name = true ∧
        ∀ f ∈ ((r.after history).unregisterFunction name).functionDescriptors, f.1 ≠ name) ∧
      (∀ d, Settled r name history ↔
        ((r.after history).registerFunction name d).functionDescriptors.filter
          (fun f => f.1 == name) = [(name, d)]) ∧
      (Settled r name history → ∀ view s,
        (((r.after history).unregisterFunction name).strainer view).overloads s =
          ((r.after history).withoutFunctions.strainer view).overloads s ++
            answering view.naming s
              ((r.after history).functionDescriptors.filter fun f => f.1 != name))) ∧
    ((∀ history, Undisturbed name history → Settled r name history) ↔
      ∀ n m : Naming, n.lookupKey name = m.lookupKey name) := by
  refine ⟨fun history hname => ⟨?_, settled_iff_filter_registerFunction hr, ?_⟩,
    forall_settled_iff r name⟩
  · rw [settled_iff_forall_ne hr]
    constructor
    · exact fun h => ⟨((settled_iff_forall_ne hr).mpr h).hasFunction hr hname, h⟩
    · exact And.right
  · intro h view s
    rw [overloads_strainer_eq_append, h.functionDescriptors_unregisterFunction hr hname]
    rfl

/-- Convention and function are changed and come back to the key of the first registration. -/
theorem addressable_iff_settled_of_return :
    ∃ (r : Registry Sample.Object) (history : List (FunctionCall Sample.Object))
      (d : Descriptor Sample.Object),
      r.functions = [] ∧ Undisturbed "DivisibleBy" history ∧ Settled r "DivisibleBy" history ∧
      ((r.after history).registerFunction "DivisibleBy" d).functionDescriptors.filter
        (fun f => f.1 == "DivisibleBy") = [("DivisibleBy", d)] := by
  let d : Descriptor Sample.Object := Sample.pick [Sample.anything "a"] "text"
  let history : List (FunctionCall Sample.Object) :=
    [.register "DivisibleBy" d, .setNaming .ruby, .setNaming .csharp, .register "DivisibleBy" d]
  have hname : Undisturbed "DivisibleBy" history := .now ⟨d, rfl⟩
  obtain ⟨hsettled, hreplaced, -⟩ :=
    (addressable_iff_settled (r := Registry.initial) rfl "DivisibleBy").1 history hname
  have h : Settled Registry.initial "DivisibleBy" history :=
    hsettled.mpr ⟨by decide +kernel, by decide +kernel⟩
  exact ⟨Registry.initial, history, d, rfl, hname, h, (hreplaced d).mp h⟩

/-- A function registered before the convention changed cannot be taken away under its name. Renders
of both conventions keep it, and another registration of the name adds a second one. -/
theorem function_stays_after_setNaming :
    ∃ (r : Registry Sample.Object) (history : List (FunctionCall Sample.Object))
      (d : Descriptor Sample.Object),
      r.functions = [] ∧ Undisturbed "DivisibleBy" history ∧
      (r.after history).hasFunction "DivisibleBy" = false ∧
      (∀ n, (((r.after history).unregisterFunction "DivisibleBy").strainer
        (FlatContext.view { naming := n })).respondsTo "DivisibleBy" = true) ∧
      ((r.after history).registerFunction "DivisibleBy" d).functionDescriptors.map Prod.fst =
        ["DivisibleBy", "DivisibleBy"] := by
  let d : Descriptor Sample.Object := Sample.pick [Sample.anything "a"] "text"
  refine ⟨Registry.initial, [.setNaming .csharp, .register "DivisibleBy" d], d, rfl,
    .still (.now ⟨d, rfl⟩) (.inl ⟨.csharp, rfl⟩), by decide +kernel, ?_, by decide +kernel⟩
  intro n
  cases n <;> decide +kernel

end LiquidEval.Registry
