import Mathlib.Data.List.Nodup
import LiquidEval.Registry

/-! The states that a registry can be in. As long as no two providers of a program share a name, the
list that is kept under a name is the list of the provider that has the name. -/
namespace LiquidEval.Registry
variable {H : Type}

/-- The states of the registry of a program that has the given providers. -/
inductive Reachable (program : List (Provider H)) : Registry H → Prop where
  | start (operators : Operators H) (naming : Naming) {linked : List (Provider H)}
      (hlinked : ∀ p ∈ linked, p ∈ program) : Reachable program { operators, naming, linked }
  | configure {r : Registry H} (h : Reachable program r) (operators : Operators H)
      (naming : Naming) : Reachable program { r with operators, naming }
  | registerProvider {r : Registry H} (h : Reachable program r) {p : Provider H}
      (hp : p ∈ program) : Reachable program (r.registerProvider p)
  | unregisterProvider {r : Registry H} (h : Reachable program r) (name : String) :
      Reachable program (r.unregisterProvider name)
  | registerFunction {r : Registry H} (h : Reachable program r) (name : String)
      (d : Descriptor H) : Reachable program (r.registerFunction name d)
  | unregisterFunction {r : Registry H} (h : Reachable program r) (name : String) :
      Reachable program (r.unregisterFunction name)
  | resetFilters {r : Registry H} (h : Reachable program r) : Reachable program r.resetFilters
  | makeStrainer {r : Registry H} (h : Reachable program r) : Reachable program r.afterStrainer
  | extendProvider {r : Registry H} (h : Reachable program r) {p : Provider H}
      (hp : p ∈ program) (s : Strainer H) : Reachable program (r.extendProvider s p).2

/-- Under every name stands the list of a provider that has the name. -/
def KeptFrom (program : List (Provider H)) (built : FilterLists H) : Prop :=
  ∀ name ds, built.get? name = some ds → (⟨name, ds⟩ : Provider H) ∈ program

structure Coherent (program : List (Provider H)) (r : Registry H) : Prop where
  linked : ∀ p ∈ r.linked, p ∈ program
  registered : ∀ e ∈ r.providers, (⟨e.1, e.2⟩ : Provider H) ∈ program
  built : KeptFrom program r.built

variable {program : List (Provider H)}

theorem Coherent.all {r : Registry H} (h : Coherent program r) :
    ∀ p ∈ r.allProviders, p ∈ program := by
  intro p hp
  rcases List.mem_append.mp hp with hp | hp
  · exact h.linked p hp
  · obtain ⟨e, he, rfl⟩ := List.mem_map.mp hp
    exact h.registered e he

theorem filters_eq_of_mem (hnames : (program.map Provider.name).Nodup) {name : String}
    {ds es : List (Descriptor H)}
    (hds : (⟨name, ds⟩ : Provider H) ∈ program) (hes : (⟨name, es⟩ : Provider H) ∈ program) :
    ds = es := by
  have hp : (⟨name, ds⟩ : Provider H) = ⟨name, es⟩ :=
    List.inj_on_of_nodup_map hnames hds hes rfl
  exact congrArg Provider.filters hp

theorem fst_build (hnames : (program.map Provider.name).Nodup) {built : FilterLists H}
    (hbuilt : KeptFrom program built) {p : Provider H} (hp : p ∈ program) :
    (build built p).1 = p.filters := by
  rw [build]
  split
  next ds hget => exact filters_eq_of_mem hnames (hbuilt p.name ds hget) hp
  next => rfl

theorem KeptFrom.insert {built : FilterLists H}
    (hbuilt : KeptFrom program built) {p : Provider H} (hp : p ∈ program) :
    KeptFrom program (Table.insert built p.name p.filters) := by
  intro name ds h
  rw [Table.get?_insert] at h
  split at h
  next hname =>
    cases h
    rw [hname]
    exact hp
  next => exact hbuilt name ds h

theorem KeptFrom.build {built : FilterLists H}
    (hbuilt : KeptFrom program built) {p : Provider H} (hp : p ∈ program) :
    KeptFrom program (build built p).2 := by
  rw [Registry.build]
  split
  next => exact hbuilt
  next => exact hbuilt.insert hp

theorem KeptFrom.buildAll {built : FilterLists H}
    (hbuilt : KeptFrom program built) {ps : List (Provider H)} (hps : ∀ p ∈ ps, p ∈ program) :
    KeptFrom program (buildAll built ps).2 := by
  induction ps generalizing built with
  | nil => exact hbuilt
  | cons p ps ih =>
    rw [List.forall_mem_cons] at hps
    exact ih (hbuilt.build hps.1) hps.2

/-- Every provider gets its own list, whichever were asked before. -/
theorem fst_buildAll (hnames : (program.map Provider.name).Nodup)
    {built : FilterLists H} (hbuilt : KeptFrom program built) {ps : List (Provider H)}
    (hps : ∀ p ∈ ps, p ∈ program) : (buildAll built ps).1 = ps.map Provider.filters := by
  induction ps generalizing built with
  | nil => rfl
  | cons p ps ih =>
    rw [List.forall_mem_cons] at hps
    rw [buildAll, List.map_cons, fst_build hnames hbuilt hps.1,
      ih (hbuilt.build hps.1) hps.2]

theorem Reachable.coherent {r : Registry H} (h : Reachable program r) : Coherent program r := by
  induction h with
  | start _ _ hlinked =>
    exact ⟨hlinked, List.forall_mem_nil _, fun _ _ hget => by cases hget⟩
  | configure _ _ _ ih => exact ⟨ih.linked, ih.registered, ih.built⟩
  | @registerProvider r _ p hp ih =>
    refine ⟨ih.linked, ?_, ih.built⟩
    intro e he
    rcases Table.mem_of_mem_insert he with rfl | he
    · exact hp
    · exact ih.registered e he
  | unregisterProvider _ _ ih =>
    exact ⟨ih.linked, fun e he => ih.registered e (List.mem_of_mem_filter he), ih.built⟩
  | registerFunction _ _ _ ih => exact ⟨ih.linked, ih.registered, ih.built⟩
  | unregisterFunction _ _ ih => exact ⟨ih.linked, ih.registered, ih.built⟩
  | resetFilters _ ih => exact ⟨ih.linked, List.forall_mem_nil _, ih.built⟩
  | makeStrainer _ ih => exact ⟨ih.linked, ih.registered, ih.built.buildAll ih.all⟩
  | extendProvider _ hp _ ih => exact ⟨ih.linked, ih.registered, ih.built.build hp⟩

theorem providerFilters_eq (hnames : (program.map Provider.name).Nodup) {r : Registry H}
    (h : Coherent program r) :
    r.providerFilters = r.allProviders.map Provider.filters :=
  fst_buildAll hnames h.built h.all

end LiquidEval.Registry
