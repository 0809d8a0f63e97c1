import Mathlib.Data.List.Basic
import LiquidEval.Proofs.Filter.Listing
import LiquidEval.Proofs.Registry.Dispatch

/-! The table of single functions along the life of a process. Under each key stands the function
that was registered last, if nothing took it away since, and the functions are merged in the order
in which they came in. -/
namespace LiquidEval.Registry
variable {H : Type}

/-- One call that changes which single functions there are, or how they are named from then on. -/
inductive FunctionCall (H : Type) where
  | register (name : String) (d : Descriptor H)
  | unregister (name : String)
  | reset
  | setNaming (n : Naming)

def FunctionCall.apply (r : Registry H) : FunctionCall H → Registry H
  | .register name d => r.registerFunction name d
  | .unregister name => r.unregisterFunction name
  | .reset => r.resetFilters
  | .setNaming n => { r with naming := n }

/-- A registry after some calls, the latest first. -/
def after (r : Registry H) : List (FunctionCall H) → Registry H
  | [] => r
  | c :: earlier => c.apply (r.after earlier)

/-- At some call of a history, the latest first, `p` held, and at all calls since then `q`. Either
may depend on the calls before. -/
inductive Since {α : Type} (p q : α → List α → Prop) : List α → Prop where
  | now {c : α} {earlier : List α} (h : p c earlier) : Since p q (c :: earlier)
  | still {c : α} {earlier : List α} (h : Since p q earlier) (hc : q c earlier) :
      Since p q (c :: earlier)

theorem not_since_nil {α : Type} {p q : α → List α → Prop} : ¬Since p q [] := by
  rintro ⟨⟩

theorem since_cons_iff {α : Type} {p q : α → List α → Prop} {c : α} {earlier : List α} :
    Since p q (c :: earlier) ↔ p c earlier ∨ q c earlier ∧ Since p q earlier := by
  constructor
  · rintro (h | ⟨h, hc⟩)
    · exact .inl h
    · exact .inr ⟨hc, h⟩
  · rintro (h | ⟨hc, h⟩)
    · exact .now h
    · exact .still h hc

section
/-! The history of a key. `naming` tells from the calls made so far under which convention the next
one is made. -/
variable (naming : List (FunctionCall H) → Naming) (key : String)

def Registers (c : FunctionCall H) (earlier : List (FunctionCall H)) : Prop :=
  ∃ name d, c = .register name d ∧ (naming earlier).lookupKey name = key

def Removes (c : FunctionCall H) (earlier : List (FunctionCall H)) : Prop :=
  c = .reset ∨ ∃ name, c = .unregister name ∧ (naming earlier).lookupKey name = key

/-- A function was registered under the key, and nothing took it away since. -/
def Remains (history : List (FunctionCall H)) : Prop :=
  Since (Registers naming key) (fun c earlier => ¬Removes naming key c earlier) history

/-- The function was registered under the key, and nothing was done there since. -/
def Latest (name : String) (d : Descriptor H) (history : List (FunctionCall H)) : Prop :=
  Since (fun c earlier => c = .register name d ∧ (naming earlier).lookupKey name = key)
    (fun c earlier => ¬Removes naming key c earlier ∧ ¬Registers naming key c earlier) history

/-- What remains under the key came in when so many calls had been made, and nothing was there
then. -/
def CameIn (count : Nat) (history : List (FunctionCall H)) : Prop :=
  Since (fun c earlier =>
      Registers naming key c earlier ∧ ¬Remains naming key earlier ∧ count = earlier.length)
    (fun c earlier => ¬Removes naming key c earlier) history

/-- The conventions are those under which the calls of a history are made. -/
def Governs (r : Registry H) (history : List (FunctionCall H)) : Prop :=
  ∀ c earlier, c :: earlier <:+ history → (r.after earlier).naming = naming earlier

end

section
variable {naming : List (FunctionCall H) → Naming} {key : String} {r : Registry H}
  {c : FunctionCall H} {earlier history : List (FunctionCall H)}

theorem Governs.now (h : Governs naming r (c :: earlier)) :
    (r.after earlier).naming = naming earlier := h c earlier List.suffix_rfl

theorem Governs.before (h : Governs naming r (c :: earlier)) : Governs naming r earlier :=
  fun c' earlier' hsuffix => h c' earlier' (hsuffix.trans (List.suffix_cons c earlier))

theorem registers_register_iff {name : String} {d : Descriptor H} :
    Registers naming key (.register name d) earlier ↔ (naming earlier).lookupKey name = key := by
  simp [Registers]

theorem not_removes_register (name : String) (d : Descriptor H) :
    ¬Removes naming key (.register name d) earlier := by
  simp [Removes]

theorem removes_unregister_iff {name : String} :
    Removes naming key (.unregister name : FunctionCall H) earlier ↔
      (naming earlier).lookupKey name = key := by
  simp [Removes]

theorem mem_names_functions_iff (hr : r.functions = []) (hgoverns : Governs naming r history) :
    key ∈ Table.names (r.after history).functions ↔ Remains naming key history := by
  induction history with
  | nil => simp [after, hr, Table.names, Remains, not_since_nil]
  | cons c earlier ih =>
    have ih := ih hgoverns.before
    rw [Remains, since_cons_iff, ← Remains, ← ih]
    cases c with
    | register name d =>
      rw [after, FunctionCall.apply, registerFunction, Table.mem_names_insert, hgoverns.now,
        registers_register_iff, eq_comm]
      simp only [not_removes_register, not_false_eq_true, true_and]
    | unregister name =>
      rw [after, FunctionCall.apply, unregisterFunction, Table.names_erase, List.mem_filter,
        hgoverns.now, removes_unregister_iff, bne_iff_ne, ne_comm, and_comm]
      simp [Registers]
    | reset => simp [after, FunctionCall.apply, resetFilters, Table.names, Registers, Removes]
    | setNaming n => simp [after, FunctionCall.apply, Registers, Removes]

/-- Under a key stands what was registered there last. -/
theorem get?_functions_eq_some_iff (hr : r.functions = []) (hgoverns : Governs naming r history)
    {name : String} {d : Descriptor H} :
    (r.after history).functions.get? key = some (name, d) ↔ Latest naming key name d history := by
  induction history with
  | nil => simp [after, hr, Latest, not_since_nil]
  | cons c earlier ih =>
    have ih := ih hgoverns.before
    rw [Latest, since_cons_iff, ← Latest, ← ih]
    cases c with
    | register other e =>
      simp only [after, FunctionCall.apply, registerFunction, Table.get?_insert, hgoverns.now,
        registers_register_iff, not_removes_register, not_false_eq_true, true_and]
      by_cases hkey : (naming earlier).lookupKey other = key
      · simp only [hkey, if_true, not_true_eq_false, false_and, or_false]
        constructor
        · rintro ⟨⟩
          exact ⟨rfl, hkey⟩
        · rintro ⟨⟨⟩, -⟩
          rfl
      · rw [if_neg (Ne.symm hkey)]
        constructor
        · exact fun h => .inr ⟨hkey, h⟩
        · rintro (⟨⟨⟩, hname⟩ | ⟨-, h⟩)
          · exact absurd hname hkey
          · exact h
    | unregister other =>
      simp only [after, FunctionCall.apply, unregisterFunction, Table.get?_erase, hgoverns.now,
        Registers, removes_unregister_iff]
      by_cases hkey : (naming earlier).lookupKey other = key
      · simp [hkey]
      · simp [hkey, Ne.symm hkey]
    | reset => simp [after, FunctionCall.apply, resetFilters, Registers, Removes]
    | setNaming n => simp [after, FunctionCall.apply, Registers, Removes]

theorem distinct_functions (hr : r.functions = []) (history : List (FunctionCall H)) :
    Table.Distinct (r.after history).functions := by
  induction history with
  | nil =>
    rw [after, hr]
    exact List.nodup_nil
  | cons c earlier ih =>
    cases c with
    | register name d => exact ih.insert _ _
    | unregister name => exact ih.erase _
    | reset => exact List.nodup_nil
    | setNaming n => exact ih

theorem mem_functions_iff (hr : r.functions = []) (hgoverns : Governs naming r history)
    {name : String} {d : Descriptor H} :
    (key, name, d) ∈ (r.after history).functions ↔ Latest naming key name d history := by
  rw [← (distinct_functions hr history).get?_eq_some_iff, get?_functions_eq_some_iff hr hgoverns]

theorem CameIn.lt_length {count : Nat} (h : CameIn naming key count history) :
    count < history.length := by
  induction h with
  | now h => exact h.2.2 ▸ Nat.lt_succ_self _
  | still _ _ ih => exact Nat.lt_succ_of_lt ih

/-- What remains has come in. -/
theorem Remains.exists_cameIn (h : Remains naming key history) :
    ∃ count, CameIn naming key count history := by
  induction history with
  | nil => exact absurd h not_since_nil
  | cons c earlier ih =>
    have hkept : ¬Removes naming key c earlier → Remains naming key earlier →
        ∃ count, CameIn naming key count (c :: earlier) := by
      intro hc hearlier
      obtain ⟨count, hcame⟩ := ih hearlier
      exact ⟨count, .still hcame hc⟩
    rcases since_cons_iff.mp h with hc | ⟨hc, hearlier⟩
    -- A registration is not a coming in where another remains; the call that brought that one in
    -- still counts.
    · by_cases hearlier : Remains naming key earlier
      · obtain ⟨name, d, rfl, -⟩ := hc
        exact hkept (not_removes_register name d) hearlier
      · exact ⟨earlier.length, .now ⟨hc, hearlier, rfl⟩⟩
    · exact hkept hc hearlier

/-- The table is in the order in which its entries came in. -/
theorem pairwise_names_functions (hr : r.functions = []) (hgoverns : Governs naming r history) :
    (Table.names (r.after history).functions).Pairwise fun a b =>
      ∃ j k, CameIn naming a j history ∧ CameIn naming b k history ∧ j < k := by
  induction history with
  | nil => simp [after, hr, Table.names]
  | cons c earlier ih =>
    have ih := ih hgoverns.before
    -- Names that a call does not remove keep the calls by which they came in, and so their order.
    have hkept : ∀ {names : List String}, (∀ a ∈ names, ¬Removes naming a c earlier) →
        (names.Pairwise fun a b =>
          ∃ j k, CameIn naming a j earlier ∧ CameIn naming b k earlier ∧ j < k) →
        names.Pairwise fun a b =>
          ∃ j k, CameIn naming a j (c :: earlier) ∧ CameIn naming b k (c :: earlier) ∧ j < k := by
      intro names hnames hpairs
      refine hpairs.imp_of_mem ?_
      rintro a b ha hb ⟨j, k, hj, hk, hlt⟩
      exact ⟨j, k, .still hj (hnames a ha), .still hk (hnames b hb), hlt⟩
    cases c with
    | register name d =>
      have hold := hkept (fun a _ => not_removes_register name d) ih
      rw [after, FunctionCall.apply, registerFunction]
      by_cases hin :
          (r.after earlier).naming.lookupKey name ∈ Table.names (r.after earlier).functions
      · rwa [Table.names_insert_of_mem _ hin]
      · rw [Table.names_insert_of_not_mem _ hin, List.pairwise_append]
        refine ⟨hold, List.pairwise_singleton _ _, ?_⟩
        intro a ha b hb
        obtain rfl := List.mem_singleton.mp hb
        obtain ⟨j, hj⟩ := ((mem_names_functions_iff hr hgoverns.before).mp ha).exists_cameIn
        rw [hgoverns.now] at hin ⊢
        rw [mem_names_functions_iff hr hgoverns.before] at hin
        exact ⟨j, earlier.length, .still hj (not_removes_register name d),
          .now ⟨registers_register_iff.mpr rfl, hin, rfl⟩, hj.lt_length⟩
    | unregister name =>
      rw [after, FunctionCall.apply, unregisterFunction, Table.names_erase]
      refine hkept ?_ (ih.filter _)
      intro a ha
      rw [removes_unregister_iff, ← hgoverns.now]
      exact fun heq => by simpa [heq] using (List.mem_filter.mp ha).2
    | reset => exact List.Pairwise.nil
    | setNaming n => exact hkept (fun a _ => by simp [Removes]) ih

/-- What a key has now it got by some call. -/
theorem Latest.exists_call {name : String} {d : Descriptor H}
    (h : Latest naming key name d history) :
    ∃ later earlier, history = later ++ .register name d :: earlier ∧
      (naming earlier).lookupKey name = key := by
  induction h with
  | now h =>
    obtain ⟨rfl, hkey⟩ := h
    exact ⟨[], _, rfl, hkey⟩
  | @still c earlier _ _ ih =>
    obtain ⟨later, earlier, rfl, hkey⟩ := ih
    exact ⟨c :: later, earlier, rfl, hkey⟩

end

/-- The functions of a list that a render of the convention finds under a spelling. -/
def answering (n : Naming) (spelling : String) (functions : List (String × Descriptor H)) :
    List (Descriptor H) :=
  (functions.filter fun f => n.namesMatch spelling f.1).map Prod.snd

def withoutFunctions (r : Registry H) : Registry H := { r with functions := [] }

theorem strainer_eq_foldl (r : Registry H) (view : View H) :
    r.strainer view = r.functionDescriptors.foldl (fun s f => s.addFunction f.1 f.2)
      (r.withoutFunctions.strainer view) := rfl

/-- The functions of a name stand behind the overloads of the providers. -/
theorem overloads_strainer_eq_append (r : Registry H) (view : View H) (name : String) :
    (r.strainer view).overloads name = (r.withoutFunctions.strainer view).overloads name ++
      answering view.naming name r.functionDescriptors := by
  rw [strainer_eq_foldl, Strainer.overloads_foldl_addFunction, naming_strainer, answering]

theorem overloads_withoutFunctions_eq_nil {r : Registry H} {view : View H} {name : String}
    (h : ∀ ds ∈ r.providerFilters, ∀ d ∈ ds,
      view.naming.lookupKey d.name ≠ view.naming.lookupKey name) :
    (r.withoutFunctions.strainer view).overloads name = [] := by
  have hempty : ({ view } : Strainer H).overloads name = latest view.naming [] := rfl
  have hnone : (r.providerFilters.flatten.filter fun d => view.naming.namesMatch name d.name) =
      [] := by
    rw [List.filter_eq_nil_iff]
    intro d hd hmatch
    obtain ⟨ds, hds, hd⟩ := List.mem_flatten.mp hd
    exact h ds hds d hd (beq_iff_eq.mp hmatch).symm
  have hmerged := Strainer.overloads_foldl_extend hempty r.providerFilters
  rw [List.nil_append] at hmerged
  exact hmerged.trans (congrArg (latest view.naming) hnone)

theorem built_strainer (r : Registry H) (view : View H) : (r.strainer view).Built := by
  have hproviders : ∀ (lists : List (List (Descriptor H))) {s : Strainer H}, s.Built →
      (lists.foldl Strainer.extend s).Built := by
    intro lists
    induction lists with
    | nil => exact fun hs => hs
    | cons ds lists ih => exact fun hs => ih (hs.extend ds)
  have hfunctions : ∀ (functions : List (String × Descriptor H)) {s : Strainer H}, s.Built →
      (functions.foldl (fun s f => s.addFunction f.1 f.2) s).Built := by
    intro functions
    induction functions with
    | nil => exact fun hs => hs
    | cons f functions ih => exact fun hs => ih (hs.addFunction f.1 f.2)
  exact hfunctions _ (hproviders _ (.empty view))

section
/-! Histories under one convention. -/
variable {n : Naming} {r : Registry H} {history : List (FunctionCall H)}

theorem naming_after (hnaming : ∀ m, FunctionCall.setNaming m ∉ history) :
    (r.after history).naming = r.naming := by
  induction history with
  | nil => rfl
  | cons c earlier ih =>
    have ih := ih fun m hm => hnaming m (List.mem_cons_of_mem c hm)
    cases c with
    | setNaming m => exact absurd List.mem_cons_self (hnaming m)
    | _ => exact ih

theorem governs_of_forall_not_mem (hn : r.naming = n)
    (hnaming : ∀ m, FunctionCall.setNaming m ∉ history) : Governs (fun _ => n) r history := by
  intro c earlier hsuffix
  rw [naming_after fun m hm => hnaming m (hsuffix.subset (List.mem_cons_of_mem c hm)), hn]

theorem lookupKey_of_mem_functions (hr : r.functions = [])
    (hgoverns : Governs (fun _ => n) r history) {e : String × String × Descriptor H}
    (he : e ∈ (r.after history).functions) :
    n.lookupKey e.2.1 = e.1 := by
  obtain ⟨-, -, -, hkey⟩ := ((mem_functions_iff hr hgoverns).mp he).exists_call
  exact hkey

/-- A spelling finds what stands under its key. -/
theorem answering_functions (hr : r.functions = []) (hgoverns : Governs (fun _ => n) r history)
    (spelling : String) :
    answering n spelling (r.after history).functionDescriptors =
      (((r.after history).functions.get? (n.lookupKey spelling)).map Prod.snd).toList := by
  have hkeys : (r.after history).functions.filter (fun e => n.namesMatch spelling e.2.1) =
      (r.after history).functions.filter fun e => e.1 == n.lookupKey spelling := by
    refine List.filter_congr fun e he => ?_
    rw [Naming.namesMatch, lookupKey_of_mem_functions hr hgoverns he, BEq.comm]
  rw [answering, functionDescriptors, Table.values, List.filter_map, Function.comp_def, hkeys,
    (distinct_functions hr history).filter_name]
  cases (r.after history).functions.get? (n.lookupKey spelling) <;> rfl

end

/-- Under one convention every key has at most one function, the one that was registered last under
a spelling of the key if nothing took it away since. Functions are merged in the order in which they
came in, a function can be taken away if there is one, and then no spelling is answered unless a
provider has it. -/
theorem functions_follow_calls {n : Naming} {r : Registry H} (hn : r.naming = n)
    (hr : r.functions = []) {history : List (FunctionCall H)}
    (hnaming : ∀ m, FunctionCall.setNaming m ∉ history) {view : View H} (hview : view.naming = n) :
    ((r.after history).strainer view = (r.after history).functionDescriptors.foldl
      (fun s f => s.addFunction f.1 f.2) ((r.after history).withoutFunctions.strainer view)) ∧
    (∀ s, ((r.after history).strainer view).overloads s =
      ((r.after history).withoutFunctions.strainer view).overloads s ++
        answering n s (r.after history).functionDescriptors) ∧
    (∀ s, (answering n s (r.after history).functionDescriptors).length ≤ 1) ∧
    (∀ s, answering n s (r.after history).functionDescriptors ≠ [] ↔
      Remains (fun _ => n) (n.lookupKey s) history) ∧
    (∀ s d, answering n s (r.after history).functionDescriptors = [d] ↔
      ∃ name, Latest (fun _ => n) (n.lookupKey s) name d history) ∧
    ((r.after history).functionDescriptors.Pairwise fun f g => ∃ j k,
      CameIn (fun _ => n) (n.lookupKey f.1) j history ∧
        CameIn (fun _ => n) (n.lookupKey g.1) k history ∧ j < k) ∧
    (∀ name, (r.after history).hasFunction name = true ↔
      Remains (fun _ => n) (n.lookupKey name) history) ∧
    ∀ name, (∀ ds ∈ (r.after history).providerFilters, ∀ d ∈ ds,
        n.lookupKey d.name ≠ n.lookupKey name) →
      ∀ s, n.lookupKey s = n.lookupKey name →
        (((r.after history).unregisterFunction name).strainer view).respondsTo s = false := by
  have hgoverns := governs_of_forall_not_mem hn hnaming
  have hcurrent : (r.after history).naming = n := (naming_after hnaming).trans hn
  refine ⟨strainer_eq_foldl _ _, ?_, ?_, ?_, ?_, ?_, ?_, ?_⟩
  · intro s
    rw [overloads_strainer_eq_append, hview]
  · intro s
    rw [answering_functions hr hgoverns]
    exact Option.length_toList_le
  · intro s
    rw [answering_functions hr hgoverns, ← mem_names_functions_iff hr hgoverns,
      ← Table.isSome_get?_iff]
    cases (r.after history).functions.get? (n.lookupKey s) <;> simp
  · intro s d
    simp only [answering_functions hr hgoverns, ← get?_functions_eq_some_iff hr hgoverns]
    cases (r.after history).functions.get? (n.lookupKey s) <;> simp [Prod.ext_iff]
  · have hpairs := pairwise_names_functions hr hgoverns
    rw [Table.names, List.pairwise_map] at hpairs
    rw [functionDescriptors, Table.values, List.pairwise_map]
    refine hpairs.imp_of_mem ?_
    intro e f he hf h
    rwa [lookupKey_of_mem_functions hr hgoverns he, lookupKey_of_mem_functions hr hgoverns hf]
  · intro name
    rw [hasFunction, Table.contains, hcurrent, Table.isSome_get?_iff,
      mem_names_functions_iff hr hgoverns]
  · intro name hproviders s hs
    -- Taking a name away is one more call of a history under the same convention.
    have hcalls : ∀ m, FunctionCall.setNaming m ∉ FunctionCall.unregister name :: history := by
      simpa using hnaming
    have hgone : ((r.after history).unregisterFunction name).functions.get? (n.lookupKey s) =
        none := by
      rw [unregisterFunction, Table.get?_erase, hcurrent, if_pos hs]
    rw [← (built_strainer _ _).sound.overloads_eq_nil_iff, overloads_strainer_eq_append, hview,
      List.append_eq_nil_iff]
    refine ⟨overloads_withoutFunctions_eq_nil ?_, ?_⟩
    · rw [hview, hs]
      exact hproviders
    · have hanswer := answering_functions hr (governs_of_forall_not_mem hn hcalls) s
      rw [after, FunctionCall.apply, hgone] at hanswer
      exact hanswer

/-- The second spelling of a name replaces the first in its place, and a third one takes it away. -/
theorem functions_follow_calls_of_respelling :
    ∃ (r : Registry Sample.Object) (view : View Sample.Object)
      (history : List (FunctionCall Sample.Object)) (second : Descriptor Sample.Object),
      r.naming = .ruby ∧ r.functions = [] ∧ (∀ m, FunctionCall.setNaming m ∉ history) ∧
      view.naming = .ruby ∧
      (r.after history).functionDescriptors.map Prod.fst = ["divisible_by", "Even"] ∧
      answering .ruby "divisibleBy" (r.after history).functionDescriptors = [second] ∧
      (r.after history).hasFunction "divisibleBy" = true ∧
      (((r.after history).unregisterFunction "divisibleBy").strainer view).respondsTo
        "DivisibleBy" = false := by
  let r : Registry Sample.Object := Registry.initial
  let view : View Sample.Object := FlatContext.view { naming := .ruby }
  let first : Descriptor Sample.Object := Sample.pick [Sample.anything "a"] "first"
  let second : Descriptor Sample.Object := Sample.pick [Sample.anything "a"] "second"
  let history : List (FunctionCall Sample.Object) :=
    [.register "divisible_by" second, .register "Even" first, .register "DivisibleBy" first]
  have hnaming : ∀ m, FunctionCall.setNaming m ∉ history := by simp [history]
  obtain ⟨-, -, -, -, hlatest, -, hhas, hgone⟩ :=
    @functions_follow_calls _ .ruby r rfl rfl history hnaming view rfl
  have hkey : Naming.ruby.lookupKey "divisible_by" = Naming.ruby.lookupKey "divisibleBy" := by
    decide +kernel
  have hsecond : Latest (fun _ => .ruby) (Naming.ruby.lookupKey "divisibleBy") "divisible_by"
      second history := .now ⟨rfl, hkey⟩
  have hremains : Remains (fun _ => .ruby) (Naming.ruby.lookupKey "divisibleBy") history :=
    .now ⟨"divisible_by", second, rfl, hkey⟩
  exact ⟨r, view, history, second, rfl, rfl, hnaming, rfl, by decide +kernel,
    (hlatest _ _).mpr ⟨_, hsecond⟩, (hhas _).mpr hremains,
    hgone "divisibleBy" (by decide +kernel) "DivisibleBy" (by decide +kernel)⟩

end LiquidEval.Registry
