import LiquidEval.Proofs.Filter.Binding
import LiquidEval.Sample.Filters
import LiquidEval.Sample.Objects

/-! What a call does. The body of the overload that is meant runs once on the values of all
parameters, each nil or of the declared type, or no body runs. -/
namespace LiquidEval.Strainer
variable {H : Type} [Host H]

/-- What a call answers once a body answered. -/
def answer : Except String (Value H) → Except EvalError (Value H)
  | .ok v => .ok v
  | .error text => .error (.filterFailed text)

section Effects
variable {m : Type → Type} [Monad m] {s : Strainer H} {name : String} {args : List (Value H)}
  {named : List (String × Value H)} {d : Descriptor H}

/-- A call whose bodies are run by `body` and may have effects of their own. -/
def invokeBy (s : Strainer H) (body : Descriptor H → Arguments H → m (Except String (Value H)))
    (name : String) (args : List (Value H)) (named : List (String × Value H)) :
    m (Except EvalError (Value H)) :=
  match s.resolve name args.length (named.map Prod.fst) with
  | .error e => pure (.error e)
  | .ok d =>
    match bindValues name d.parameters (slots s.naming d args named) with
    | .error e => pure (.error e)
    | .ok values => do
      let result ← body d (s.arguments d values)
      pure (answer result)

theorem invokeBy_of_allBound {values : List (Value H)}
    (hd : s.resolve name args.length (named.map Prod.fst) = .ok d)
    (hvalues : AllBound s.naming d args named values)
    (body : Descriptor H → Arguments H → m (Except String (Value H))) :
    s.invokeBy body name args named =
      body d (s.arguments d values) >>= fun result => pure (answer result) := by
  unfold invokeBy
  rw [hd]
  dsimp only
  rw [bindValues_slots_eq_ok_iff.mpr hvalues]

theorem invokeBy_of_firstUnbound {e : EvalError}
    (hd : s.resolve name args.length (named.map Prod.fst) = .ok d)
    (he : FirstUnbound name s.naming d args named e)
    (body : Descriptor H → Arguments H → m (Except String (Value H))) :
    s.invokeBy body name args named = pure (.error e) := by
  unfold invokeBy
  rw [hd]
  dsimp only
  rw [bindValues_slots_eq_error_iff.mpr he]

theorem invokeBy_of_resolve_error {e : EvalError}
    (he : s.resolve name args.length (named.map Prod.fst) = .error e)
    (body : Descriptor H → Arguments H → m (Except String (Value H))) :
    s.invokeBy body name args named = pure (.error e) := by
  unfold invokeBy
  rw [he]

end Effects

/-- A call whose bodies have no effects. -/
theorem invoke_eq_invokeBy (s : Strainer H) (name : String) (args : List (Value H))
    (named : List (String × Value H)) :
    s.invoke name args named =
      Id.run (s.invokeBy (fun d a => pure (d.body a)) name args named) := by
  unfold invokeBy invoke
  cases s.resolve name args.length (named.map Prod.fst) with
  | error e => rfl
  | ok d =>
    dsimp only
    cases bindValues name d.parameters (slots s.naming d args named) with
    | error e => rfl
    | ok values =>
      dsimp only
      unfold run
      cases d.body (s.arguments d values) <;> rfl

section Call
variable {s : Strainer H} {name : String} {args : List (Value H)} {named : List (String × Value H)}
  {d : Descriptor H} (hd : s.resolve name args.length (named.map Prod.fst) = .ok d)
include hd

theorem invoke_of_allBound {values : List (Value H)}
    (hvalues : AllBound s.naming d args named values) :
    s.invoke name args named = answer (d.body (s.arguments d values)) := by
  rw [invoke_eq_invokeBy, invokeBy_of_allBound hd hvalues]
  rfl

theorem invoke_of_firstUnbound {e : EvalError} (he : FirstUnbound name s.naming d args named e) :
    s.invoke name args named = .error e := by
  rw [invoke_eq_invokeBy, invokeBy_of_firstUnbound hd he]
  rfl

end Call

omit [Host H] in
theorem widest_mem (d : Descriptor H) (ds : List (Descriptor H)) : widest d ds ∈ d :: ds := by
  induction ds generalizing d with
  | nil => exact List.mem_cons_self
  | cons e ds ih =>
    rw [widest]
    split
    next => exact List.mem_cons_of_mem d (ih e)
    next =>
      rcases List.mem_cons.mp (ih d) with h | h
      · rw [h]
        exact List.mem_cons_self
      · exact List.mem_cons_of_mem d (List.mem_cons_of_mem e h)

omit [Host H] in
theorem mem_overloads_of_resolve {s : Strainer H} {name : String} {positional : Nat}
    {names : List String} {d : Descriptor H} (h : s.resolve name positional names = .ok d) :
    d ∈ s.overloads name := by
  rw [resolve] at h
  split at h
  next => cases h
  next e rest hcons =>
    rw [hcons]
    split at h
    next f hf =>
      cases h
      exact List.mem_of_find?_eq_some hf
    next =>
      cases h
      exact widest_mem e rest

omit [Host H] in
/-- Where a name has one overload only, every call means that one. -/
theorem resolve_of_forall_mem_iff {s : Strainer H} {name : String} {d : Descriptor H}
    (h : ∀ e, e ∈ s.overloads name ↔ e = d) (positional : Nat) (names : List String) :
    s.resolve name positional names = .ok d := by
  cases hresolve : s.resolve name positional names with
  | ok e => rw [(h e).mp (mem_overloads_of_resolve hresolve)]
  | error e =>
    have hd := (h d).mpr rfl
    rw [resolve] at hresolve
    split at hresolve
    next hnil =>
      rw [hnil] at hd
      cases hd
    next =>
      split at hresolve
      · cases hresolve
      · cases hresolve

/-- What the parameters of the overload that a call means are filled with, and what the call comes
to: the body runs once on the converted values, or no body runs and the first parameter that gets no
value is reported. -/
theorem invoke_binds_arguments {s : Strainer H} {name : String} {args : List (Value H)}
    {named : List (String × Value H)} {d : Descriptor H}
    (hd : s.resolve name args.length (named.map Prod.fst) = .ok d) :
    (∀ (i : Nat) p, d.parameters[i]? = some p →
      ∃ slot, (slots s.naming d args named)[i]? = some slot ∧
        ∀ v, slot.or p.default = some v ↔ Filled s.naming d args named i p v) ∧
    slots s.naming d (args.take d.orderedCount) named = slots s.naming d args named ∧
    slots s.naming d args
        (named.filter fun e => d.parameters.any fun p => s.naming.namesMatch p.name e.1) =
      slots s.naming d args named ∧
    (∀ i, d.orderedCount ≤ i →
      (slots s.naming d args named)[i]? = (slots s.naming d [] named)[i]?) ∧
    (∀ values, AllBound s.naming d args named values →
      s.invoke name args named = answer (d.body (s.arguments d values)) ∧
      ∀ (m : Type → Type) [Monad m]
        (body : Descriptor H → Arguments H → m (Except String (Value H))),
        s.invokeBy body name args named =
          body d (s.arguments d values) >>= fun result => pure (answer result)) ∧
    (∀ e, FirstUnbound name s.naming d args named e →
      s.invoke name args named = .error e ∧
      ∀ (m : Type → Type) [Monad m]
        (body : Descriptor H → Arguments H → m (Except String (Value H))),
        s.invokeBy body name args named = pure (.error e)) ∧
    ((∃ values, AllBound s.naming d args named values) ∨
      ∃ e, FirstUnbound name s.naming d args named e) := by
  refine ⟨?_, slots_take args named, slots_filter_named args named,
    fun i => getElem?_slots_of_le args named, ?_, ?_, ?_⟩
  · intro i p hp
    exact ⟨_, getElem?_slots args named (List.getElem?_eq_some_iff.mp hp).1,
      fun v => filled_iff.symm⟩
  · intro values hvalues
    refine ⟨?_, fun m _ body => invokeBy_of_allBound hd hvalues body⟩
    rw [invoke_eq_invokeBy, invokeBy_of_allBound hd hvalues]
    rfl
  · intro e he
    refine ⟨?_, fun m _ body => invokeBy_of_firstUnbound hd he body⟩
    rw [invoke_eq_invokeBy, invokeBy_of_firstUnbound hd he]
    rfl
  · rcases bindValues_slots_cases name s.naming d args named with
      ⟨values, -, hvalues⟩ | ⟨e, -, he⟩
    · exact .inl ⟨values, hvalues⟩
    · exact .inr ⟨e, he⟩

/-- A filter that gives back its arguments. -/
def echo : Descriptor Sample.Object where
  name := "echo"
  ordered := [Filter.required "input" .string]
  named := [Filter.optional "suffix" .string (.string "")]
  body := Sample.showArguments

def echoing : Strainer Sample.Object where
  view := FlatContext.view { naming := .ruby }
  methods := [("echo", [echo])]

/-- A filter of four types of parameters that gives back its arguments. -/
def typedEcho : Descriptor Sample.Object where
  name := "typed_echo"
  ordered := [Filter.required "input" .string, Filter.required "count" .int32]
  named := [Filter.optional "mark" .char (.int 33), Filter.optional "loud" .bool (.string " TRUE ")]
  body := Sample.showArguments

def typedEchoing : Strainer Sample.Object where
  view := FlatContext.view { naming := .ruby }
  methods := [("typed_echo", [typedEcho])]

theorem resolve_typedEchoing (positional : Nat) (names : List String) :
    typedEchoing.resolve "typed_echo" positional names = .ok typedEcho := by
  have hnaming : typedEchoing.naming = .ruby := rfl
  have hkey : Naming.ruby.lookupKey "typed_echo" = "typed_echo" := by decide +kernel
  have hoverloads : typedEchoing.overloads "typed_echo" = [typedEcho] := by
    rw [overloads, hnaming, hkey]
    rfl
  exact resolve_of_forall_mem_iff (by simp [hoverloads]) positional names

/-- All arguments are converted, the default of a parameter too; of two spellings of a name the
later counts, and a third argument is dropped. A text that is no integer is refused, and so is a
parameter that has nothing. -/
theorem invoke_binds_arguments_converted :
    typedEchoing.invoke "typed_echo" [.int 7, .string " +12 ", .nil]
        [("mark", .string "?"), ("Mark", .int 35), ("other", .nil)] =
      .ok (.array [.string "7", .int 12, .char '#', .bool true]) ∧
    typedEchoing.invoke "typed_echo" [.int 7, .string "12.5"] [] =
      .error (.argumentConversion "typed_echo" "count" "12.5" "int32") ∧
    typedEchoing.invoke "typed_echo" [.int 7] [] =
      .error (.missingDefault "typed_echo" "count") := by
  let args : List (Value Sample.Object) := [.int 7, .string " +12 ", .nil]
  let first : List (String × Value Sample.Object) := [("mark", .string "?")]
  let named := first ++ [("Mark", .int 35), ("other", .nil)]
  have hunnamed (i : Nat) (hi : named.all (fun e => slotOf? .ruby typedEcho e.1 != some i) = true) :
      ∀ e ∈ named, ¬Means .ruby typedEcho e.1 i := by
    intro e he hmeans
    have hslot := List.all_eq_true.mp hi e he
    rw [slotOf?_eq_some_iff.mpr hmeans] at hslot
    simp at hslot
  have hmark : Means .ruby typedEcho "Mark" 2 := slotOf?_eq_some_iff.mp (by decide +kernel)
  have hother : ¬Means .ruby typedEcho "other" 2 := by
    rw [← slotOf?_eq_some_iff]
    decide +kernel
  have hcount : Value.IsInteger (.string " +12 " : Value Sample.Object) (12 : Int64).toInt :=
    .string (Decimal.readInt64?_eq_some_iff.mp (by decide +kernel))
  have hall :
      AllBound .ruby typedEcho args named [.string "7", .int 12, .char '#', .bool true] := by
    refine ⟨rfl, ?_⟩
    intro i p hp
    match i with
    | 0 =>
      cases hp
      exact ⟨_, rfl, _, .byPosition (hunnamed 0 (by decide +kernel)) (by decide) (by decide),
        .textOfInt 7⟩
    | 1 =>
      cases hp
      exact ⟨_, rfl, _, .byPosition (hunnamed 1 (by decide +kernel)) (by decide) (by decide),
        .int32 hcount (by decide) (by decide)⟩
    | 2 =>
      cases hp
      exact ⟨_, rfl, _, .byName (show named = first ++ _ from rfl) hmark
        (List.forall_mem_singleton.mpr hother), .charOfInt rfl⟩
    | 3 =>
      cases hp
      exact ⟨_, rfl, _, .byDefault (hunnamed 3 (by decide +kernel)) (by decide) rfl,
        .boolOfText (by rfl)⟩
    | i + 4 => cases hp
  have hinput (args : List (Value Sample.Object)) :
      ∀ j < 1, ∀ q, typedEcho.parameters[j]? = some q →
        ∃ w, Bound .ruby typedEcho (.int 7 :: args) [] j q w := by
    intro j hj q hq
    obtain rfl := Nat.lt_one_iff.mp hj
    cases hq
    exact ⟨.string "7", _, .byPosition (List.forall_mem_nil _) (by decide) (by simp), .textOfInt 7⟩
  have hfails : ((Value.string "12.5" : Value Sample.Object).coerce .int32).isOk = false := by
    decide +kernel
  have hrefused (w : Value Sample.Object) : ¬Value.Converts .int32 (.string "12.5") w := by
    intro h
    rw [h.coerce_eq] at hfails
    cases hfails
  obtain ⟨-, -, -, -, hok, -⟩ := invoke_binds_arguments
    (resolve_typedEchoing args.length (named.map Prod.fst))
  obtain ⟨-, -, -, -, -, hunconvertible, -⟩ :=
    @invoke_binds_arguments _ _ _ _ [.int 7, .string "12.5"] [] _ (resolve_typedEchoing 2 [])
  obtain ⟨-, -, -, -, -, hmissing, -⟩ :=
    @invoke_binds_arguments _ _ _ _ [.int 7] [] _ (resolve_typedEchoing 1 [])
  refine ⟨(hok _ hall).1, (hunconvertible _ ⟨1, _, rfl, hinput _, ?_⟩).1,
    (hmissing _ ⟨1, _, rfl, hinput _, ?_⟩).1⟩
  · exact .unconvertible (.byPosition (List.forall_mem_nil _) (by decide) (by decide)) hrefused
  · refine .missing fun v hv => ?_
    rw [filled_iff] at hv
    cases hv

/-- Runs a body and writes down what it was given. -/
def recorded (d : Descriptor H) (a : Arguments H) :
    StateM (List (Descriptor H × Arguments H)) (Except String (Value H)) :=
  modifyGet fun runs => (d.body a, runs ++ [(d, a)])

/-- The answer of a call, and the bodies that it ran with what they were given. -/
def trace (s : Strainer H) (name : String) (args : List (Value H))
    (named : List (String × Value H)) :
    Except EvalError (Value H) × List (Descriptor H × Arguments H) :=
  Id.run ((s.invokeBy recorded name args named).run [])

/-- A call runs the overload that it means once, or nothing. -/
theorem trace_cases (s : Strainer H) (name : String) (args : List (Value H))
    (named : List (String × Value H)) :
    (∃ e, s.trace name args named = (.error e, []) ∧ s.invoke name args named = .error e) ∨
    ∃ d values, s.resolve name args.length (named.map Prod.fst) = .ok d ∧
      AllBound s.naming d args named values ∧
      s.trace name args named =
        (answer (d.body (s.arguments d values)), [(d, s.arguments d values)]) ∧
      s.invoke name args named = answer (d.body (s.arguments d values)) := by
  rw [invoke_eq_invokeBy, trace]
  cases hd : s.resolve name args.length (named.map Prod.fst) with
  | error e =>
    left
    rw [invokeBy_of_resolve_error hd, invokeBy_of_resolve_error hd]
    exact ⟨e, rfl, rfl⟩
  | ok d =>
    rcases bindValues_slots_cases name s.naming d args named with
      ⟨values, -, hvalues⟩ | ⟨e, -, he⟩
    · right
      rw [invokeBy_of_allBound hd hvalues, invokeBy_of_allBound hd hvalues]
      exact ⟨d, values, rfl, hvalues, rfl, rfl⟩
    · left
      rw [invokeBy_of_firstUnbound hd he, invokeBy_of_firstUnbound hd he]
      exact ⟨e, rfl, rfl⟩

/-- A body sees one value for each parameter, nil or of the declared type, and the render if it is
declared to. -/
theorem bodies_see_typed_arguments (s : Strainer H) (name : String) (args : List (Value H))
    (named : List (String × Value H)) :
    (s.trace name args named).1 = s.invoke name args named ∧
    ∀ run ∈ (s.trace name args named).2,
      run.1 ∈ s.overloads name ∧
      run.2.values.length = run.1.parameters.length ∧
      (∀ (i : Nat) p v, run.1.parameters[i]? = some p → run.2.values[i]? = some v →
        v = .nil ∨ Value.HasType p.type v) ∧
      (run.1.takesContext = true → run.2.view = some s.view) ∧
      (run.1.takesContext = false → run.2.view = none) := by
  rcases trace_cases s name args named
    with ⟨e, htrace, hinvoke⟩ | ⟨d, values, hd, hvalues, htrace, hinvoke⟩
  · rw [htrace, hinvoke]
    exact ⟨rfl, List.forall_mem_nil _⟩
  · rw [htrace, hinvoke, List.forall_mem_singleton]
    refine ⟨rfl, mem_overloads_of_resolve hd, hvalues.1, ?_, fun h => if_pos h, fun h => ?_⟩
    · intro i p v hp hv
      obtain ⟨w, hw, u, -, hconverts⟩ := hvalues.2 i p hp
      obtain rfl := Option.some_inj.mp (hv.symm.trans hw)
      exact hconverts.hasType
    · exact if_neg (by rw [h]; exact Bool.false_ne_true)

/-- Arguments that no overload fits exactly are seen as text by the one that there is. -/
theorem bodies_see_typed_arguments_of_fallback :
    ∃ run ∈ (echoing.trace "echo" [.int 7, .int 8] [("Suffix", .bool true)]).2,
      run.2.values.length = run.1.parameters.length ∧
      ∀ (i : Nat) p v, run.1.parameters[i]? = some p → run.2.values[i]? = some v →
        v = .nil ∨ Value.HasType p.type v := by
  let args : List (Value Sample.Object) := [.int 7, .int 8]
  let named : List (String × Value Sample.Object) := [("Suffix", .bool true)]
  have hlength : (echoing.trace "echo" args named).2.length = 1 := by decide +kernel
  obtain ⟨run, hrun⟩ := List.length_pos_iff_exists_mem.mp (hlength ▸ Nat.one_pos)
  obtain ⟨-, hall⟩ := bodies_see_typed_arguments echoing "echo" args named
  obtain ⟨-, hcount, htypes, -⟩ := hall run hrun
  exact ⟨run, hrun, hcount, htypes⟩

end LiquidEval.Strainer
