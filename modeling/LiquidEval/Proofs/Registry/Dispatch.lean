import LiquidEval.Proofs.Filter.Merge
import LiquidEval.Proofs.Registry.Reach
import LiquidEval.Sample.Filters
import LiquidEval.Sample.Objects

/-! Which filter a call means among all that are registered. Providers are merged first, so the last
provider that has the signature decides; single functions are asked only where no provider has
it. -/
namespace LiquidEval.Registry
variable {H : Type}

/-- The lists of all providers, one after another in the order in which they are merged. -/
def providerDescriptors (r : Registry H) : List (Descriptor H) :=
  r.allProviders.flatMap Provider.filters

/-- Single filters with their names, in the order in which they are added. -/
def functionDescriptors (r : Registry H) : List (String × Descriptor H) :=
  Table.values r.functions

theorem naming_strainer (r : Registry H) (view : View H) :
    (r.strainer view).naming = view.naming := by
  rw [strainer, Strainer.naming_foldl_addFunction, Strainer.naming_foldl_extend]
  rfl

/-- The table of a strainer in closed form. -/
theorem overloads_strainer {program : List (Provider H)}
    (hnames : (program.map Provider.name).Nodup) {r : Registry H} (hr : Coherent program r)
    (view : View H) (name : String) :
    (r.strainer view).overloads name =
      latest view.naming
          (r.providerDescriptors.filter fun d => view.naming.namesMatch name d.name) ++
        (r.functionDescriptors.filter fun f => view.naming.namesMatch name f.1).map Prod.snd := by
  have hempty : ({ view } : Strainer H).overloads name = latest view.naming [] := rfl
  have hmerged := Strainer.overloads_foldl_extend hempty r.providerFilters
  have hnaming := Strainer.naming_foldl_extend { view } r.providerFilters
  rw [strainer, Strainer.overloads_foldl_addFunction, hmerged, hnaming,
    providerFilters_eq hnames hr]
  rfl

section
variable (n : Naming) (name : String) (positional : Nat) (names : List String)

/-- A call of `name` with so many positional arguments and with these named ones supplies exactly
the signature of an overload that is known as `known`. -/
def Meant (known : String) (d : Descriptor H) : Prop :=
  n.namesMatch name known = true ∧ d.Answers n positional names

/-- The last overload of the providers that is meant. -/
def LastProvided (r : Registry H) (d : Descriptor H) : Prop :=
  Meant n name positional names d.name d ∧
    ∃ before after, r.providerDescriptors = before ++ d :: after ∧
      ∀ e ∈ after, ¬Meant n name positional names e.name e

/-- The first function that is meant where no overload of a provider is. -/
def FirstFunction (r : Registry H) (d : Descriptor H) : Prop :=
  (∀ e ∈ r.providerDescriptors, ¬Meant n name positional names e.name e) ∧
    ∃ known before after, r.functionDescriptors = before ++ (known, d) :: after ∧
      Meant n name positional names known d ∧
      ∀ f ∈ before, ¬Meant n name positional names f.1 f.2

variable {n name positional names}

theorem meant_iff {known : String} {d : Descriptor H} :
    Meant n name positional names known d ↔
      (n.namesMatch name known && d.fitsCall n positional names) = true := by
  rw [Meant, Bool.and_eq_true, Descriptor.fitsCall_iff_answers]

theorem lastProvided_iff {r : Registry H} {d : Descriptor H} :
    LastProvided n name positional names r d ↔
      ((r.providerDescriptors.filter fun d => n.namesMatch name d.name).filter
        fun d => d.fitsCall n positional names).getLast? = some d := by
  have hcomm : (fun d : Descriptor H => d.fitsCall n positional names && n.namesMatch name d.name) =
      fun d => n.namesMatch name d.name && d.fitsCall n positional names := by
    funext d
    exact Bool.and_comm _ _
  rw [List.filter_filter, hcomm, getLast?_filter_eq_some_iff, LastProvided]
  simp only [meant_iff]

theorem none_provided_iff {r : Registry H} :
    (∀ e ∈ r.providerDescriptors, ¬Meant n name positional names e.name e) ↔
      ((r.providerDescriptors.filter fun d => n.namesMatch name d.name).filter
        fun d => d.fitsCall n positional names).getLast? = none := by
  rw [List.getLast?_eq_none_iff, List.filter_filter, List.filter_eq_nil_iff]
  simp only [meant_iff, Bool.and_comm]

theorem find?_functions (functions : List (String × Descriptor H)) :
    ((functions.filter fun f => n.namesMatch name f.1).map Prod.snd).find?
        (fun d => d.fitsCall n positional names) =
      (functions.find? fun f =>
        n.namesMatch name f.1 && f.2.fitsCall n positional names).map Prod.snd := by
  rw [List.find?_map, List.find?_filter]
  simp [Bool.decide_and]

theorem firstFunction_iff {r : Registry H} {d : Descriptor H} :
    FirstFunction n name positional names r d ↔
      ((r.providerDescriptors.filter fun d => n.namesMatch name d.name).filter
          fun d => d.fitsCall n positional names).getLast? = none ∧
        (((r.functionDescriptors.filter fun f => n.namesMatch name f.1).map Prod.snd).find?
          fun d => d.fitsCall n positional names) = some d := by
  rw [FirstFunction, none_provided_iff, find?_functions, Option.map_eq_some_iff]
  refine and_congr_right fun _ => ?_
  constructor
  · rintro ⟨known, before, after, hsplit, hd, hbefore⟩
    refine ⟨(known, d), ?_, rfl⟩
    refine List.find?_eq_some_iff_append.mpr ⟨meant_iff.mp hd, before, after, hsplit, ?_⟩
    intro f hf
    simpa only [meant_iff, Bool.not_eq_true, Bool.not_eq_true'] using hbefore f hf
  · rintro ⟨⟨known, e⟩, hfind, rfl⟩
    obtain ⟨he, before, after, hsplit, hbefore⟩ := List.find?_eq_some_iff_append.mp hfind
    refine ⟨known, before, after, hsplit, meant_iff.mpr he, ?_⟩
    intro f hf
    simpa only [meant_iff, Bool.not_eq_true, Bool.not_eq_true'] using hbefore f hf

theorem find?_overloads_eq_some_iff {program : List (Provider H)}
    (hnames : (program.map Provider.name).Nodup) {r : Registry H} (hr : Coherent program r)
    (view : View H) (d : Descriptor H) :
    ((r.strainer view).overloads name).find?
        (fun d => d.fitsCall view.naming positional names) = some d ↔
      LastProvided view.naming name positional names r d ∨
        FirstFunction view.naming name positional names r d := by
  rw [overloads_strainer hnames hr, List.find?_append, find?_latest, Option.or_eq_some_iff,
    lastProvided_iff, firstFunction_iff]

end

/-- A call that supplies the signature of an overload gets the last such overload of all providers,
and only where there is none the first such function. What has another signature stays callable. -/
theorem dispatches_by_signature {program : List (Provider H)}
    (hnames : (program.map Provider.name).Nodup) {r : Registry H} (hr : Reachable program r)
    (view : View H) (name : String) (positional : Nat) (names : List String) :
    (r.strainer view).overloads name =
      latest view.naming
          (r.providerDescriptors.filter fun d => view.naming.namesMatch name d.name) ++
        (r.functionDescriptors.filter fun f => view.naming.namesMatch name f.1).map Prod.snd ∧
    ((∃ e ∈ (r.strainer view).overloads name, e.Answers view.naming positional names) →
      ∃ d, (r.strainer view).resolve name positional names = .ok d ∧
        (LastProvided view.naming name positional names r d ∨
          FirstFunction view.naming name positional names r d)) ∧
    (∀ d, LastProvided view.naming name positional names r d ∨
        FirstFunction view.naming name positional names r d →
      (r.strainer view).resolve name positional names = .ok d) ∧
    (∀ before d after, r.providerDescriptors = before ++ d :: after →
      view.naming.namesMatch name d.name = true →
      (∀ e ∈ after, view.naming.namesMatch name e.name = true →
        d.sameSignature e view.naming = false) →
      d ∈ (r.strainer view).overloads name) ∧
    (∀ f ∈ r.functionDescriptors, view.naming.namesMatch name f.1 = true →
      f.2 ∈ (r.strainer view).overloads name) := by
  have hcoherent := hr.coherent
  have hnaming := naming_strainer r view
  have hresolve : ∀ d, LastProvided view.naming name positional names r d ∨
        FirstFunction view.naming name positional names r d →
      (r.strainer view).resolve name positional names = .ok d := by
    intro d hd
    refine Strainer.resolve_of_find? ?_
    rw [hnaming]
    exact (find?_overloads_eq_some_iff hnames hcoherent view d).mpr hd
  have htable := overloads_strainer hnames hcoherent view name
  refine ⟨htable, ?_, hresolve, ?_, ?_⟩
  · rintro ⟨e, he, hanswers⟩
    have hsome : (((r.strainer view).overloads name).find?
        fun d => d.fitsCall view.naming positional names).isSome = true :=
      List.find?_isSome.mpr ⟨e, he, Descriptor.fitsCall_iff_answers.mpr hanswers⟩
    obtain ⟨d, hd⟩ := Option.isSome_iff_exists.mp hsome
    have hchosen := (find?_overloads_eq_some_iff hnames hcoherent view d).mp hd
    exact ⟨d, hresolve d hchosen, hchosen⟩
  · intro before d after hsplit hname hafter
    rw [htable, hsplit, List.filter_append, List.filter_cons, if_pos hname]
    refine List.mem_append_left _ (mem_latest ?_ _)
    intro e he
    obtain ⟨he, hmatch⟩ := List.mem_filter.mp he
    exact hafter e he hmatch
  · intro f hf hname
    rw [htable]
    refine List.mem_append_right _ (List.mem_map.mpr ⟨f, ?_, rfl⟩)
    exact List.mem_filter.mpr ⟨hf, hname⟩

/-- A function of the same name and signature does not hide what a provider replaced. -/
theorem dispatches_by_signature_to_replacement :
    ∃ r : Registry Sample.Object,
      Reachable [Sample.overloads, Sample.replacementPick] r ∧
      ("Pick", Sample.pick [Sample.anything "input"] "function") ∈ r.functionDescriptors ∧
      (r.strainer (FlatContext.view { naming := .ruby })).resolve "pick" 1 [] =
        .ok (Sample.pick [Sample.anything "input"] "replaced") := by
  let program : List (Provider Sample.Object) := [Sample.overloads, Sample.replacementPick]
  let function : Descriptor Sample.Object := Sample.pick [Sample.anything "input"] "function"
  let start : Registry Sample.Object := { operators := .builtin, naming := .ruby }
  let r := ((start.registerProvider Sample.overloads).registerProvider
    Sample.replacementPick).registerFunction "Pick" function
  have hnames : (program.map Provider.name).Nodup := by decide
  have hstart : Reachable program start := .start _ _ (by simp)
  have hr : Reachable program r :=
    ((hstart.registerProvider (by simp [program])).registerProvider
      (by simp [program])).registerFunction _ _
  have hlast : LastProvided .ruby "pick" 1 [] r
      (Sample.pick [Sample.anything "input"] "replaced") := by
    refine ⟨⟨by decide +kernel, rfl, fun key => Iff.rfl⟩, Sample.overloads.filters, [], rfl, ?_⟩
    intro e he
    cases he
  obtain ⟨-, -, hresolve, -⟩ :=
    dispatches_by_signature hnames hr (FlatContext.view { naming := .ruby }) "pick" 1 []
  exact ⟨r, hr, List.mem_singleton.mpr rfl, hresolve _ (.inl hlast)⟩

end LiquidEval.Registry
