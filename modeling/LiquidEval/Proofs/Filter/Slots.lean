import LiquidEval.Proofs.Filter.Merge

/-! Where the arguments of a call go. A parameter takes the last named argument that means it, or
else the argument at its position if it is an ordered one, or else its default. -/
namespace LiquidEval.Strainer
variable {H : Type} {n : Naming} {d : Descriptor H}

/-- The first parameter that a name means stands at `i`. -/
def Means (n : Naming) (d : Descriptor H) (name : String) (i : Nat) : Prop :=
  ∃ h : i < d.parameters.length, n.namesMatch d.parameters[i].name name = true ∧
    ∀ j (hj : j < i), ¬n.namesMatch d.parameters[j].name name = true

theorem slotOf?_eq_some_iff {name : String} {i : Nat} :
    slotOf? n d name = some i ↔ Means n d name i :=
  List.findIdx?_eq_some_iff_getElem

/-- The last of the named arguments that go to the parameter at `i`. -/
def lastNamed (n : Naming) (d : Descriptor H) (named : List (String × Value H)) (i : Nat) :
    Option (Value H) :=
  (named.filter fun e => slotOf? n d e.1 == some i).getLast?.map Prod.snd

theorem lastNamed_cons (e : String × Value H) (named : List (String × Value H)) (i : Nat) :
    lastNamed n d (e :: named) i =
      (lastNamed n d named i).or (if slotOf? n d e.1 = some i then some e.2 else none) := by
  unfold lastNamed
  by_cases h : slotOf? n d e.1 = some i
  · rw [List.filter_cons, if_pos (beq_iff_eq.mpr h), if_pos h, List.getLast?_cons]
    cases (named.filter fun e => slotOf? n d e.1 == some i).getLast? <;> rfl
  · rw [List.filter_cons, if_neg (by simpa using h), if_neg h, Option.or_none]

theorem lastNamed_eq_some_iff {named : List (String × Value H)} {i : Nat} {v : Value H} :
    lastNamed n d named i = some v ↔
      ∃ before name after, named = before ++ (name, v) :: after ∧ Means n d name i ∧
        ∀ e ∈ after, ¬Means n d e.1 i := by
  simp only [lastNamed, Option.map_eq_some_iff, getLast?_filter_eq_some_iff, beq_iff_eq,
    slotOf?_eq_some_iff]
  constructor
  · rintro ⟨⟨name, w⟩, ⟨hname, before, after, hsplit, hafter⟩, rfl⟩
    exact ⟨before, name, after, hsplit, hname, hafter⟩
  · rintro ⟨before, name, after, hsplit, hname, hafter⟩
    exact ⟨(name, v), ⟨hname, before, after, hsplit, hafter⟩, rfl⟩

theorem lastNamed_eq_none_iff {named : List (String × Value H)} {i : Nat} :
    lastNamed n d named i = none ↔ ∀ e ∈ named, ¬Means n d e.1 i := by
  simp only [lastNamed, Option.map_eq_none_iff, List.getLast?_eq_none_iff,
    List.filter_eq_nil_iff, beq_iff_eq, slotOf?_eq_some_iff]

theorem fillNamed_cons (slots : List (Option (Value H))) (e : String × Value H)
    (named : List (String × Value H)) :
    fillNamed n d slots (e :: named) =
      fillNamed n d (match slotOf? n d e.1 with
        | some i => slots.set i (some e.2)
        | none => slots) named := rfl

/-- A later named argument goes before an earlier one, and any before what was there. -/
theorem getElem?_fillNamed (slots : List (Option (Value H))) (named : List (String × Value H))
    (i : Nat) :
    (fillNamed n d slots named)[i]? = slots[i]?.map (lastNamed n d named i).or := by
  induction named generalizing slots with
  | nil => cases hat : slots[i]? <;> simp [fillNamed, lastNamed, hat]
  | cons e named ih =>
    rw [fillNamed_cons, ih, lastNamed_cons]
    cases hslot : slotOf? n d e.1 with
    | none => simp
    | some j =>
      by_cases hj : j = i
      · subst hj
        cases hat : slots[j]? <;> simp [List.getElem?_set', hat]
      · simp [List.getElem?_set_ne hj, hj]

theorem orderedCount_le (d : Descriptor H) : d.orderedCount ≤ d.parameters.length := by
  simp [Descriptor.orderedCount, Descriptor.parameters]

theorem length_positionalSlots (args : List (Value H)) :
    (positionalSlots d args).length = d.parameters.length := by
  have h := orderedCount_le d
  simp only [positionalSlots, List.length_append, List.length_map, List.length_take,
    List.length_replicate]
  omega

theorem getElem?_positionalSlots (args : List (Value H)) {i : Nat}
    (hi : i < d.parameters.length) :
    (positionalSlots d args)[i]? = some (args.take d.orderedCount)[i]? := by
  unfold positionalSlots
  by_cases h : i < (args.take d.orderedCount).length
  · rw [List.getElem?_append_left (by simpa using h), List.getElem?_map,
      List.getElem?_eq_getElem h, Option.map_some]
  · have hle := Nat.le_of_not_lt h
    rw [List.getElem?_append_right (by rwa [List.length_map]), List.getElem?_replicate,
      List.getElem?_eq_none hle, if_pos]
    rw [List.length_map]
    omega

theorem getElem?_slots (args : List (Value H)) (named : List (String × Value H)) {i : Nat}
    (hi : i < d.parameters.length) :
    (slots n d args named)[i]? =
      some ((lastNamed n d named i).or (args.take d.orderedCount)[i]?) := by
  rw [slots, getElem?_fillNamed, getElem?_positionalSlots args hi, Option.map_some]

theorem length_fillNamed (slots : List (Option (Value H))) (named : List (String × Value H)) :
    (fillNamed n d slots named).length = slots.length := by
  induction named generalizing slots with
  | nil => rfl
  | cons e named ih =>
    rw [fillNamed_cons, ih]
    split
    · rw [List.length_set]
    · rfl

theorem length_slots (args : List (Value H)) (named : List (String × Value H)) :
    (slots n d args named).length = d.parameters.length := by
  rw [slots, length_fillNamed, length_positionalSlots]

/-- A slot is what the arguments that reach it make of it. -/
theorem getElem?_slots_congr {args args' : List (Value H)} {named named' : List (String × Value H)}
    {i : Nat} (hargs : (args.take d.orderedCount)[i]? = (args'.take d.orderedCount)[i]?)
    (hnamed : lastNamed n d named i = lastNamed n d named' i) :
    (slots n d args named)[i]? = (slots n d args' named')[i]? := by
  by_cases hi : i < d.parameters.length
  · rw [getElem?_slots args named hi, getElem?_slots args' named' hi, hargs, hnamed]
  · rw [List.getElem?_eq_none (by rw [length_slots]; omega),
      List.getElem?_eq_none (by rw [length_slots]; omega)]

theorem slots_congr {args args' : List (Value H)} {named named' : List (String × Value H)}
    (hargs : args.take d.orderedCount = args'.take d.orderedCount)
    (hnamed : ∀ i, lastNamed n d named i = lastNamed n d named' i) :
    slots n d args named = slots n d args' named' := by
  apply List.ext_getElem?
  intro i
  exact getElem?_slots_congr (by rw [hargs]) (hnamed i)

theorem slots_take (args : List (Value H)) (named : List (String × Value H)) :
    slots n d (args.take d.orderedCount) named = slots n d args named :=
  slots_congr (by rw [List.take_take, Nat.min_self]) fun _ => rfl

/-- A parameter behind the ordered ones is filled by name only. -/
theorem getElem?_slots_of_le (args : List (Value H)) (named : List (String × Value H)) {i : Nat}
    (hi : d.orderedCount ≤ i) : (slots n d args named)[i]? = (slots n d [] named)[i]? := by
  apply getElem?_slots_congr
  · rw [List.getElem?_take_eq_none hi, List.getElem?_take_eq_none hi]
  · rfl

theorem slots_filter_named (args : List (Value H)) (named : List (String × Value H)) :
    slots n d args (named.filter fun e => d.parameters.any fun p => n.namesMatch p.name e.1) =
      slots n d args named := by
  refine slots_congr rfl ?_
  intro i
  have hknown : ∀ e : String × Value H,
      ((slotOf? n d e.1 == some i) && d.parameters.any fun p => n.namesMatch p.name e.1) =
        (slotOf? n d e.1 == some i) := by
    intro e
    cases h : slotOf? n d e.1 == some i with
    | false => rfl
    | true =>
      obtain ⟨hlt, hname, -⟩ := slotOf?_eq_some_iff.mp (beq_iff_eq.mp h)
      rw [Bool.true_and, List.any_eq_true]
      exact ⟨d.parameters[i], List.getElem_mem hlt, hname⟩
  -- the filter leaves out only what goes to no slot
  rw [lastNamed, lastNamed, List.filter_filter]
  simp only [hknown]

/-- What the parameter `p` at `i` is filled with, before it is converted. -/
inductive Filled (n : Naming) (d : Descriptor H) (args : List (Value H))
    (named : List (String × Value H)) (i : Nat) (p : Parameter H) : Value H → Prop where
  | byName {before after : List (String × Value H)} {name : String} {v : Value H}
      (split : named = before ++ (name, v) :: after) (means : Means n d name i)
      (last : ∀ e ∈ after, ¬Means n d e.1 i) : Filled n d args named i p v
  | byPosition (unnamed : ∀ e ∈ named, ¬Means n d e.1 i) (ordered : i < d.orderedCount)
      (given : i < args.length) : Filled n d args named i p args[i]
  | byDefault {v : Value H} (unnamed : ∀ e ∈ named, ¬Means n d e.1 i)
      (absent : ¬(i < d.orderedCount ∧ i < args.length)) (default : p.default = some v) :
      Filled n d args named i p v

theorem filled_iff {args : List (Value H)} {named : List (String × Value H)} {i : Nat}
    {p : Parameter H} {v : Value H} :
    Filled n d args named i p v ↔
      ((lastNamed n d named i).or (args.take d.orderedCount)[i]?).or p.default = some v := by
  constructor
  · intro h
    cases h with
    | byName split means last =>
      rw [lastNamed_eq_some_iff.mpr ⟨_, _, _, split, means, last⟩, Option.some_or, Option.some_or]
    | byPosition unnamed ordered given =>
      rw [lastNamed_eq_none_iff.mpr unnamed, List.getElem?_take, if_pos ordered,
        List.getElem?_eq_getElem given, Option.none_or, Option.some_or]
    | byDefault unnamed absent default =>
      rw [lastNamed_eq_none_iff.mpr unnamed, List.getElem?_eq_none, Option.none_or,
        Option.none_or, default]
      rw [List.length_take]
      omega
  · intro h
    -- the three ways to be filled, in the order in which they are tried
    cases hname : lastNamed n d named i with
    | some w =>
      rw [hname, Option.some_or, Option.some_or, Option.some_inj] at h
      subst h
      obtain ⟨before, name, after, hsplit, hmeans, hlast⟩ := lastNamed_eq_some_iff.mp hname
      exact .byName hsplit hmeans hlast
    | none =>
      have hunnamed := lastNamed_eq_none_iff.mp hname
      rw [hname, Option.none_or] at h
      by_cases hgiven : i < d.orderedCount ∧ i < args.length
      · rw [List.getElem?_take, if_pos hgiven.1, List.getElem?_eq_getElem hgiven.2,
          Option.some_or, Option.some_inj] at h
        subst h
        exact .byPosition hunnamed hgiven.1 hgiven.2
      · rw [List.getElem?_eq_none (by rw [List.length_take]; omega), Option.none_or] at h
        exact .byDefault hunnamed hgiven h

theorem Filled.unique {args : List (Value H)} {named : List (String × Value H)} {i : Nat}
    {p : Parameter H} {v w : Value H} (hv : Filled n d args named i p v)
    (hw : Filled n d args named i p w) : v = w :=
  Option.some_inj.mp ((filled_iff.mp hv).symm.trans (filled_iff.mp hw))

end LiquidEval.Strainer
