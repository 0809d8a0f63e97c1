import LiquidEval.Proofs.Filter.Extension
import LiquidEval.Proofs.Naming.Keys
import LiquidEval.Registry

/-! What a strainer lists and what it answers to. The names that it lists are lookup keys, each with
an overload, and a call is of an unknown filter exactly if the key of its name is not listed. -/
namespace LiquidEval

namespace Strainer
variable {H : Type}

/-- Every name in the table is a lookup key. -/
def Keyed (s : Strainer H) : Prop := ∀ key ∈ s.filterNames, s.naming.lookupKey key = key

theorem Keyed.setOverloads {s : Strainer H} (h : s.Keyed) (name : String)
    (ds : List (Descriptor H)) : (s.setOverloads name ds).Keyed := by
  intro key hkey
  rcases Table.mem_names_insert.mp hkey with rfl | hkey
  · exact s.naming.lookupKey_lookupKey name
  · exact h key hkey

theorem Keyed.extend {s : Strainer H} (h : s.Keyed) (ds : List (Descriptor H)) :
    (s.extend ds).Keyed := by
  induction ds generalizing s with
  | nil => exact h
  | cons d ds ih => exact ih (h.setOverloads d.name _)

theorem Built.keyed {s : Strainer H} (h : Built s) : s.Keyed := by
  induction h with
  | empty view => exact List.forall_mem_nil _
  | extend _ ds ih => exact ih.extend ds
  | addFunction _ name d ih => exact ih.setOverloads name _

theorem respondsTo_iff {s : Strainer H} {name : String} :
    s.respondsTo name = true ↔ s.naming.lookupKey name ∈ s.filterNames :=
  Table.isSome_get?_iff

theorem Keyed.respondsTo {s : Strainer H} (h : s.Keyed) {key : String}
    (hkey : key ∈ s.filterNames) : s.respondsTo key = true := by
  rw [respondsTo_iff, h key hkey]
  exact hkey

theorem Sound.overloads_eq_nil_iff {s : Strainer H} (h : Sound s) {name : String} :
    s.overloads name = [] ↔ s.respondsTo name = false := by
  unfold overloads Strainer.respondsTo Table.contains
  cases hget : s.methods.get? (s.naming.lookupKey name) with
  | none => simp
  | some ds => simpa using h.inhabited _ (Table.mem_of_get? hget)

theorem resolve_eq_error_iff {s : Strainer H} {name : String} {positional : Nat}
    {names : List String} {e : EvalError} :
    s.resolve name positional names = .error e ↔
      s.overloads name = [] ∧ e = .unknownFilter name := by
  unfold resolve
  cases s.overloads name with
  | nil => simp [eq_comm]
  | cons d rest =>
    dsimp only
    split <;> simp

theorem run_ne_unknownFilter (s : Strainer H) (d : Descriptor H) (values : List (Value H))
    (name : String) : s.run d values ≠ .error (.unknownFilter name) := by
  intro h
  unfold run at h
  split at h
  next => cases h
  next => cases h

variable [Host H]

theorem bindValue_ne_unknownFilter (filter name : String) (p : Parameter H)
    (slot : Option (Value H)) : bindValue filter p slot ≠ .error (.unknownFilter name) := by
  intro h
  unfold bindValue at h
  split at h
  next => cases h
  next =>
    split at h
    next => cases h
    next => cases h

/-- What is wrong with an argument is reported as such. -/
theorem bindValues_ne_unknownFilter (filter name : String) (ps : List (Parameter H))
    (slots : List (Option (Value H))) :
    bindValues filter ps slots ≠ .error (.unknownFilter name) := by
  induction ps generalizing slots with
  | nil =>
    intro h
    cases h
  | cons p ps ih =>
    cases slots with
    | nil =>
      intro h
      cases h
    | cons slot slots =>
      intro h
      rw [bindValues] at h
      cases hvalue : bindValue filter p slot with
      | error e =>
        rw [hvalue] at h
        cases h
        exact bindValue_ne_unknownFilter filter name p slot hvalue
      | ok v =>
        rw [hvalue] at h
        cases hrest : bindValues filter ps slots with
        | error e =>
          rw [hrest] at h
          cases h
          exact ih slots hrest
        | ok vs =>
          rw [hrest] at h
          cases h

theorem Sound.invoke_eq_unknownFilter_iff {s : Strainer H} (h : Sound s) {name : String}
    {args : List (Value H)} {named : List (String × Value H)} :
    s.invoke name args named = .error (.unknownFilter name) ↔ s.respondsTo name = false := by
  rw [← h.overloads_eq_nil_iff]
  unfold invoke
  cases hd : s.resolve name args.length (named.map Prod.fst) with
  | error e =>
    obtain ⟨hnil, rfl⟩ := resolve_eq_error_iff.mp hd
    exact iff_of_true rfl hnil
  | ok d =>
    have hne : s.overloads name ≠ [] := by
      intro hnil
      rw [resolve_eq_error_iff.mpr ⟨hnil, rfl⟩] at hd
      cases hd
    refine iff_of_false ?_ hne
    dsimp only
    cases hvalues : bindValues name d.parameters (slots s.naming d args named) with
    | error e =>
      rintro ⟨⟩
      exact bindValues_ne_unknownFilter name name _ _ hvalues
    | ok values => exact s.run_ne_unknownFilter d values name

end Strainer

variable {H : Type}

/-- One call that adds filters to a strainer. -/
inductive Growth (H : Type) where
  | extend (ds : List (Descriptor H))
  | extendProvider (p : Provider H)
  | addFunction (name : String) (d : Descriptor H)

/-- A provider is asked for its list by way of what all renders share. -/
def Growth.apply (x : Strainer H × Registry H) : Growth H → Strainer H × Registry H
  | .extend ds => (x.1.extend ds, x.2)
  | .extendProvider p => x.2.extendProvider x.1 p
  | .addFunction name d => (x.1.addFunction name d, x.2)

/-- The strainer that some calls make of an empty one. -/
def Registry.grown (r : Registry H) (view : View H) (calls : List (Growth H)) : Strainer H :=
  (calls.foldl Growth.apply ({ view }, r)).1

theorem Registry.built_grown (r : Registry H) (view : View H) (calls : List (Growth H)) :
    (r.grown view calls).Built := by
  suffices h : ∀ x : Strainer H × Registry H, x.1.Built → (calls.foldl Growth.apply x).1.Built from
    h ({ view }, r) (.empty view)
  induction calls with
  | nil => exact fun _ hx => hx
  | cons call calls ih =>
    intro x hx
    refine ih (Growth.apply x call) ?_
    cases call with
    | extend ds => exact hx.extend ds
    | extendProvider p => exact hx.extend _
    | addFunction name d => exact hx.addFunction name d

variable [Host H]

/-- A strainer answers to the names whose keys it lists, to the keys themselves among them, and it
calls no other filter unknown. -/
theorem listing_agrees_with_dispatch (r : Registry H) (view : View H) (calls : List (Growth H)) :
    (∀ name, (r.grown view calls).respondsTo name = true ↔
      (r.grown view calls).naming.lookupKey name ∈ (r.grown view calls).filterNames) ∧
    (∀ key ∈ (r.grown view calls).filterNames,
      (r.grown view calls).naming.lookupKey key = key ∧
        (r.grown view calls).respondsTo key = true) ∧
    ∀ name args named,
      (r.grown view calls).invoke name args named = .error (.unknownFilter name) ↔
        (r.grown view calls).respondsTo name = false := by
  have hbuilt := r.built_grown view calls
  exact ⟨fun _ => Strainer.respondsTo_iff,
    fun key hkey => ⟨hbuilt.keyed key hkey, hbuilt.keyed.respondsTo hkey⟩,
    fun _ _ _ => hbuilt.sound.invoke_eq_unknownFilter_iff⟩

theorem listing_agrees_with_dispatch_of_acronym :
    ∃ calls : List (Growth Sample.Object), ∃ s : Strainer Sample.Object,
      s = Registry.grown { operators := .builtin } (FlatContext.view { naming := .ruby }) calls ∧
        s.filterNames = ["pick", "html_pick"] ∧ s.respondsTo "HTMLPick" = true ∧
        s.naming.lookupKey "html_pick" = "html_pick" ∧ s.respondsTo "html_pick" = true ∧
        s.invoke "html__pick" [] [] = .error (.unknownFilter "html__pick") := by
  let r : Registry Sample.Object := { operators := .builtin }
  let calls : List (Growth Sample.Object) :=
    [.extendProvider Sample.overloads, .addFunction "HTMLPick" (Sample.pick [] "html")]
  let s := r.grown (FlatContext.view { naming := .ruby }) calls
  have hnames : s.filterNames = ["pick", "html_pick"] := by decide +kernel
  have hkey : s.naming.lookupKey "HTMLPick" = "html_pick" := by decide +kernel
  have hlisted : "html_pick" ∈ s.filterNames := by rw [hnames]; decide
  have habsent : s.respondsTo "html__pick" = false := by decide +kernel
  obtain ⟨hresponds, hkeys, hinvoke⟩ :=
    listing_agrees_with_dispatch r (FlatContext.view { naming := .ruby }) calls
  obtain ⟨hfixed, hself⟩ := hkeys "html_pick" hlisted
  exact ⟨calls, s, rfl, hnames, (hresponds "HTMLPick").mpr (by rw [hkey]; exact hlisted), hfixed,
    hself, (hinvoke "html__pick" [] []).mpr habsent⟩

end LiquidEval
