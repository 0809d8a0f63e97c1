import LiquidEval.Proofs.Filter.Invocation

/-! A call does not depend on how its names are spelled, nor on the order of its named arguments.
Names count by their lookup keys only, and the name of the filter shows again in errors only. -/
namespace LiquidEval

/-- The error of a call that spells the name of the filter in another way. -/
def EvalError.respelled (name : String) : EvalError → EvalError
  | unknownFilter _ => unknownFilter name
  | missingDefault _ parameter => missingDefault name parameter
  | argumentConversion _ parameter value target => argumentConversion name parameter value target
  | e => e

namespace Strainer
variable {H : Type} {n : Naming} {d : Descriptor H}

/-- Named arguments under the lookup keys of their names. -/
def keyed (n : Naming) (named : List (String × Value H)) : Table (Value H) :=
  named.map fun e => (n.lookupKey e.1, e.2)

theorem names_keyed (named : List (String × Value H)) :
    Table.names (keyed n named) = named.map fun e => n.lookupKey e.1 := by
  simp [Table.names, keyed]

theorem means_congr {a b : String} {i : Nat} (h : n.lookupKey a = n.lookupKey b) :
    Means n d a i ↔ Means n d b i := by
  simp only [Means, Naming.namesMatch, h]

theorem lookupKey_eq_of_means {a b : String} {i : Nat} (ha : Means n d a i) (hb : Means n d b i) :
    n.lookupKey a = n.lookupKey b := by
  obtain ⟨_, ha, -⟩ := ha
  obtain ⟨_, hb, -⟩ := hb
  exact (beq_iff_eq.mp ha).symm.trans (beq_iff_eq.mp hb)

/-- With distinct keys there is no later argument for the same parameter. -/
theorem lastNamed_eq_some_iff_of_distinct {named : List (String × Value H)}
    (h : Table.Distinct (keyed n named)) {i : Nat} {v : Value H} :
    lastNamed n d named i = some v ↔ ∃ name, (name, v) ∈ named ∧ Means n d name i := by
  rw [lastNamed_eq_some_iff]
  constructor
  · rintro ⟨before, name, after, rfl, hmeans, -⟩
    exact ⟨name, by simp, hmeans⟩
  · rintro ⟨name, hmem, hmeans⟩
    obtain ⟨before, after, rfl⟩ := List.append_of_mem hmem
    refine ⟨before, name, after, rfl, hmeans, ?_⟩
    -- a later argument for the same parameter would have the same key
    intro e he hmeans'
    rw [Table.Distinct, names_keyed, List.map_append, List.map_cons, List.nodup_append] at h
    have hkeys : n.lookupKey name ∉ after.map fun e => n.lookupKey e.1 :=
      (List.nodup_cons.mp h.2.1).1
    exact hkeys (List.mem_map.mpr ⟨e, he, lookupKey_eq_of_means hmeans' hmeans⟩)

theorem lastNamed_congr {named named' : List (String × Value H)}
    (h : Table.Distinct (keyed n named)) (h' : Table.Distinct (keyed n named'))
    (hsame : ∀ e, e ∈ keyed n named ↔ e ∈ keyed n named') (i : Nat) :
    lastNamed n d named i = lastNamed n d named' i := by
  have hsub : ∀ xs ys : List (String × Value H), (∀ e, e ∈ keyed n xs → e ∈ keyed n ys) →
      ∀ v, (∃ name, (name, v) ∈ xs ∧ Means n d name i) →
        ∃ name, (name, v) ∈ ys ∧ Means n d name i := by
    rintro xs ys hxs v ⟨name, hmem, hmeans⟩
    obtain ⟨⟨name', w⟩, hmem', heq⟩ := List.mem_map.mp (hxs _ (List.mem_map_of_mem hmem))
    obtain ⟨hkey, rfl⟩ := Prod.mk.inj heq
    exact ⟨name', hmem', (means_congr hkey).mpr hmeans⟩
  ext v
  rw [lastNamed_eq_some_iff_of_distinct h, lastNamed_eq_some_iff_of_distinct h']
  exact ⟨hsub named named' (fun e => (hsame e).mp) v, hsub named' named (fun e => (hsame e).mpr) v⟩

/-- Which overload is meant depends on the keys of the named arguments only. -/
theorem resolve_congr {s : Strainer H} (name : String) (positional : Nat)
    {names names' : List String}
    (h : ∀ key, key ∈ names.map s.naming.lookupKey ↔ key ∈ names'.map s.naming.lookupKey) :
    s.resolve name positional names = s.resolve name positional names' := by
  have hfits : ∀ e : Descriptor H,
      e.fitsCall s.naming positional names = e.fitsCall s.naming positional names' := by
    intro e
    rw [Descriptor.fitsCall, Descriptor.fitsCall, Naming.keySet_eq_iff.mpr h]
  simp only [resolve, hfits]

theorem resolve_congr_keyed {s : Strainer H} {named named' : List (String × Value H)}
    (hsame : ∀ e, e ∈ keyed s.naming named ↔ e ∈ keyed s.naming named') (name : String)
    (positional : Nat) :
    s.resolve name positional (named'.map Prod.fst) =
      s.resolve name positional (named.map Prod.fst) := by
  refine resolve_congr name positional ?_
  intro key
  have hmap : ∀ xs : List (String × Value H),
      (xs.map Prod.fst).map s.naming.lookupKey = (keyed s.naming xs).map Prod.fst := by
    intro xs
    simp [keyed]
  rw [hmap, hmap, List.mem_map, List.mem_map]
  simp only [hsame]

theorem resolve_respelled {s : Strainer H} {name name' : String}
    (h : s.naming.lookupKey name' = s.naming.lookupKey name) (positional : Nat)
    (names : List String) :
    s.resolve name' positional names =
      (s.resolve name positional names).mapError (.respelled name') := by
  have hoverloads : s.overloads name' = s.overloads name := by
    rw [overloads, overloads, h]
  rw [resolve, resolve, hoverloads]
  split
  next => rfl
  next => split <;> rfl

variable [Host H]

theorem bindValue_respelled (name name' : String) (p : Parameter H) (slot : Option (Value H)) :
    bindValue name' p slot = (bindValue name p slot).mapError (.respelled name') := by
  unfold bindValue
  split
  next => rfl
  next => split <;> rfl

theorem bindValues_respelled (name name' : String) (ps : List (Parameter H))
    (slots : List (Option (Value H))) :
    bindValues name' ps slots = (bindValues name ps slots).mapError (.respelled name') := by
  induction ps generalizing slots with
  | nil => rfl
  | cons p ps ih =>
    cases slots with
    | nil => rfl
    | cons slot slots =>
      rw [bindValues, bindValues, bindValue_respelled name name', ih]
      cases bindValue name p slot with
      | error e => rfl
      | ok v => cases bindValues name ps slots <;> rfl

omit [Host H] in
theorem answer_respelled (name : String) (result : Except String (Value H)) :
    (answer result).mapError (.respelled name) = answer result := by
  cases result <;> rfl

section Effects
variable {m : Type → Type} [Monad m] {s : Strainer H}
  (body : Descriptor H → Arguments H → m (Except String (Value H)))

theorem invokeBy_congr (name : String) (args : List (Value H))
    {named named' : List (String × Value H)} (h : Table.Distinct (keyed s.naming named))
    (h' : Table.Distinct (keyed s.naming named'))
    (hsame : ∀ e, e ∈ keyed s.naming named ↔ e ∈ keyed s.naming named') :
    s.invokeBy body name args named' = s.invokeBy body name args named := by
  have hslots : ∀ d : Descriptor H,
      slots s.naming d args named' = slots s.naming d args named :=
    fun d => slots_congr rfl fun i => (lastNamed_congr h h' hsame i).symm
  simp only [invokeBy, resolve_congr_keyed hsame, hslots]

theorem invokeBy_respelled [LawfulMonad m] {name name' : String}
    (h : s.naming.lookupKey name' = s.naming.lookupKey name) (args : List (Value H))
    (named : List (String × Value H)) :
    s.invokeBy body name' args named =
      Except.mapError (.respelled name') <$> s.invokeBy body name args named := by
  unfold invokeBy
  rw [resolve_respelled h]
  cases s.resolve name args.length (named.map Prod.fst) with
  | error e =>
    rw [map_pure]
    rfl
  | ok d =>
    dsimp only [Except.mapError]
    rw [bindValues_respelled name name']
    cases bindValues name d.parameters (slots s.naming d args named) with
    | error e =>
      rw [map_pure]
      rfl
    | ok values =>
      dsimp only [Except.mapError]
      rw [map_bind]
      simp only [map_pure, answer_respelled]

end Effects

/-- A call with the named arguments in another order and spelling does the same, and so does a call
that spells the filter in another way, up to the name that an error shows. -/
theorem invoke_independent_of_spelling (s : Strainer H) (args : List (Value H)) :
    (∀ named named' : List (String × Value H), Table.Distinct (keyed s.naming named) →
      Table.Distinct (keyed s.naming named') →
      (∀ e, e ∈ keyed s.naming named ↔ e ∈ keyed s.naming named') →
      ∀ name, s.resolve name args.length (named'.map Prod.fst) =
          s.resolve name args.length (named.map Prod.fst) ∧
        s.trace name args named' = s.trace name args named ∧
        s.invoke name args named' = s.invoke name args named ∧
        ∀ (m : Type → Type) [Monad m]
          (body : Descriptor H → Arguments H → m (Except String (Value H))),
          s.invokeBy body name args named' = s.invokeBy body name args named) ∧
    ∀ name name', s.naming.lookupKey name' = s.naming.lookupKey name → ∀ named,
      s.resolve name' args.length (named.map Prod.fst) =
          (s.resolve name args.length (named.map Prod.fst)).mapError (.respelled name') ∧
        (s.trace name' args named).2 = (s.trace name args named).2 ∧
        s.invoke name' args named = (s.invoke name args named).mapError (.respelled name') ∧
        ∀ (m : Type → Type) [Monad m] [LawfulMonad m]
          (body : Descriptor H → Arguments H → m (Except String (Value H))),
          s.invokeBy body name' args named =
            Except.mapError (.respelled name') <$> s.invokeBy body name args named := by
  constructor
  · intro named named' h h' hsame name
    refine ⟨resolve_congr_keyed hsame name args.length, ?_, ?_,
      fun m _ body => invokeBy_congr body name args h h' hsame⟩
    · rw [trace, trace, invokeBy_congr _ name args h h' hsame]
    · rw [invoke_eq_invokeBy, invoke_eq_invokeBy, invokeBy_congr _ name args h h' hsame]
  · intro name name' h named
    refine ⟨resolve_respelled h args.length _, ?_, ?_,
      fun m _ _ body => invokeBy_respelled body h args named⟩
    · rw [trace, trace, invokeBy_respelled _ h]
      rfl
    · rw [invoke_eq_invokeBy, invoke_eq_invokeBy, invokeBy_respelled _ h]
      rfl

/-- Two named arguments change places, and every name is spelled in another way. -/
theorem invoke_independent_of_spelling_of_swap :
    echoing.invoke "Echo" [.string "a"] [("otherName", .int 1), ("Suffix", .string "b")] =
      (echoing.invoke "echo" [.string "a"]
        [("suffix", .string "b"), ("OtherName", .int 1)]).mapError (.respelled "Echo") := by
  let named : List (String × Value Sample.Object) :=
    [("suffix", .string "b"), ("OtherName", .int 1)]
  let named' : List (String × Value Sample.Object) :=
    [("otherName", .int 1), ("Suffix", .string "b")]
  have hspelled : Naming.ruby.lookupKey "OtherName" = Naming.ruby.lookupKey "otherName" ∧
      Naming.ruby.lookupKey "suffix" = Naming.ruby.lookupKey "Suffix" ∧
      Naming.ruby.lookupKey "Echo" = Naming.ruby.lookupKey "echo" := by decide +kernel
  obtain ⟨hother, hsuffix, hecho⟩ := hspelled
  have hdistinct : (Table.names (keyed .ruby named)).Nodup := by decide +kernel
  have hdistinct' : (Table.names (keyed .ruby named')).Nodup := by decide +kernel
  have hsame : ∀ e, e ∈ keyed .ruby named ↔ e ∈ keyed .ruby named' := by
    intro e
    simp only [keyed, named, named', List.map_cons, List.map_nil, hother, hsuffix, List.mem_cons,
      List.not_mem_nil, or_false]
    exact or_comm
  obtain ⟨hnamed, hname⟩ := invoke_independent_of_spelling echoing [.string "a"]
  obtain ⟨-, -, hinvoke, -⟩ := hnamed named named' hdistinct hdistinct' hsame "Echo"
  obtain ⟨-, -, hinvoke', -⟩ := hname "echo" "Echo" hecho named
  exact hinvoke.trans hinvoke'

end Strainer
end LiquidEval
