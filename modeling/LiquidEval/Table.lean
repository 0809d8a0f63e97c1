/-! Tables from names to values that remember the order in which names were first entered. Entering
a name again replaces its value in place. -/
namespace LiquidEval

abbrev Table (α : Type) := List (String × α)

namespace Table
variable {α β : Type}

def get? (t : Table α) (name : String) : Option α := List.lookup name t

def contains (t : Table α) (name : String) : Bool := (t.get? name).isSome

def names (t : Table α) : List String := t.map Prod.fst

def values (t : Table α) : List α := t.map Prod.snd

def insert (t : Table α) (name : String) (value : α) : Table α :=
  match t with
  | [] => [(name, value)]
  | (n, v) :: rest =>
    if n = name then (name, value) :: rest else (n, v) :: Table.insert rest name value

def insertAll (t : Table α) (entries : List (String × α)) : Table α :=
  entries.foldl (fun t e => Table.insert t e.1 e.2) t

def ofList (entries : List (String × α)) : Table α := Table.insertAll [] entries

def erase (t : Table α) (name : String) : Table α := t.filter fun e => e.1 != name

/-- No name is entered twice. -/
def Distinct (t : Table α) : Prop := (names t).Nodup

@[simp] theorem get?_nil (name : String) : get? ([] : Table α) name = none := rfl

theorem get?_cons (n name : String) (v : α) (t : Table α) :
    get? ((n, v) :: t) name = if name = n then some v else get? t name := by
  by_cases h : name = n
  · subst h; simp [get?]
  · simp [get?, List.lookup_cons, h, beq_eq_false_iff_ne.2 h]

theorem get?_insert (t : Table α) (n name : String) (v : α) :
    (t.insert n v).get? name = if name = n then some v else t.get? name := by
  induction t with
  | nil => simp [Table.insert, get?_cons]
  | cons e t ih =>
    obtain ⟨k, w⟩ := e
    by_cases hk : k = n
    · subst hk; by_cases h : name = k <;> simp [Table.insert, get?_cons, h]
    · by_cases h : name = k
      · subst h; simp [Table.insert, get?_cons, hk]
      · simp [Table.insert, get?_cons, hk, h, ih]

theorem get?_append (t u : Table α) (name : String) :
    get? (t ++ u) name = (t.get? name).or (u.get? name) := List.lookup_append

/-- The last entry of a name counts, and an entry before any that was there. -/
theorem get?_insertAll (t : Table α) (entries : List (String × α)) (name : String) :
    (t.insertAll entries).get? name = (get? entries.reverse name).or (t.get? name) := by
  induction entries generalizing t with
  | nil => rfl
  | cons e rest ih =>
    obtain ⟨n, v⟩ := e
    rw [List.reverse_cons, get?_append, Option.or_assoc, get?_cons]
    refine (ih (t.insert n v)).trans (congrArg _ ?_)
    rw [get?_insert]
    split <;> rfl

theorem mem_of_mem_insert {t : Table α} {n : String} {v : α} {e : String × α}
    (h : e ∈ t.insert n v) : e = (n, v) ∨ e ∈ t := by
  induction t with
  | nil => exact .inl (List.mem_singleton.mp h)
  | cons f t ih =>
    rw [Table.insert] at h
    split at h
    next =>
      rcases List.mem_cons.mp h with rfl | h
      · exact .inl rfl
      · exact .inr (List.mem_cons_of_mem f h)
    next =>
      rcases List.mem_cons.mp h with rfl | h
      · exact .inr List.mem_cons_self
      · rcases ih h with rfl | h
        · exact .inl rfl
        · exact .inr (List.mem_cons_of_mem f h)

theorem mem_of_mem_insertAll {t entries : Table α} {e : String × α}
    (h : e ∈ t.insertAll entries) : e ∈ t ∨ e ∈ entries := by
  induction entries generalizing t with
  | nil => exact .inl h
  | cons f entries ih =>
    rcases ih h with h | h
    · rcases mem_of_mem_insert h with rfl | h
      · exact .inr List.mem_cons_self
      · exact .inl h
    · exact .inr (List.mem_cons_of_mem f h)

theorem mem_of_get? {t : Table α} {name : String} {v : α} (h : t.get? name = some v) :
    (name, v) ∈ t := by
  induction t with
  | nil => cases h
  | cons e t ih =>
    obtain ⟨n, w⟩ := e
    rw [get?_cons] at h
    split at h
    next heq =>
      cases h
      rw [heq]
      exact List.mem_cons_self
    next => exact List.mem_cons_of_mem _ (ih h)

theorem names_insert_of_mem {t : Table α} {n : String} (v : α) (h : n ∈ names t) :
    names (t.insert n v) = names t := by
  induction t with
  | nil => simp [names] at h
  | cons e t ih =>
    obtain ⟨k, w⟩ := e
    by_cases hk : k = n
    · simp [Table.insert, names, hk]
    · have : n ∈ names t := by simpa [names, Ne.symm hk] using h
      simpa [Table.insert, names, hk] using ih this

theorem insert_of_not_mem {t : Table α} {n : String} (v : α) (h : n ∉ names t) :
    t.insert n v = t ++ [(n, v)] := by
  induction t with
  | nil => rfl
  | cons e t ih =>
    obtain ⟨k, w⟩ := e
    have hk : k ≠ n := fun hk => h (by simp [names, hk])
    have ht : n ∉ names t := fun hn => h (List.mem_cons_of_mem k hn)
    simp [Table.insert, hk, ih ht]

theorem names_insert_of_not_mem {t : Table α} {n : String} (v : α) (h : n ∉ names t) :
    names (t.insert n v) = names t ++ [n] := by
  simp [insert_of_not_mem v h, names]

/-- The value of a name is replaced where the name stands. -/
theorem exists_insert_of_mem {t : Table α} {n : String} (h : n ∈ names t) :
    ∃ before v later, t = before ++ (n, v) :: later ∧
      ∀ w, t.insert n w = before ++ (n, w) :: later := by
  induction t with
  | nil => cases h
  | cons e t ih =>
    obtain ⟨k, u⟩ := e
    by_cases hk : k = n
    · subst hk
      exact ⟨[], u, t, rfl, fun w => by simp [Table.insert]⟩
    · have ht : n ∈ names t := by simpa [names, Ne.symm hk] using h
      obtain ⟨before, v, later, rfl, hinsert⟩ := ih ht
      exact ⟨(k, u) :: before, v, later, rfl, fun w => by simp [Table.insert, hk, hinsert]⟩

theorem names_erase (t : Table α) (n : String) :
    names (t.erase n) = (names t).filter (· != n) := by
  simp [names, Table.erase, List.filter_map, Function.comp_def]

theorem get?_erase (t : Table α) (n name : String) :
    (t.erase n).get? name = if name = n then none else t.get? name := by
  induction t with
  | nil => simp [Table.erase]
  | cons e t ih =>
    obtain ⟨k, v⟩ := e
    rw [Table.erase] at ih ⊢
    by_cases hk : k = n
    · subst hk
      by_cases h : name = k
      · subst h; simpa using ih
      · simp [get?_cons, ih, h]
    · by_cases h : name = k
      · subst h; simp [get?_cons, hk]
      · simp [get?_cons, ih, hk, h]

theorem erase_insert_of_not_mem {t : Table α} {n : String} (v : α) (h : n ∉ names t) :
    (t.insert n v).erase n = t := by
  have hkept : ∀ e ∈ t, (e.1 != n) = true := by
    intro e he
    have hne : e.1 ≠ n := fun heq => h (List.mem_map.mpr ⟨e, he, heq⟩)
    simpa using hne
  rw [insert_of_not_mem v h, Table.erase, List.filter_append, List.filter_eq_self.mpr hkept]
  simp

theorem mem_names_insert {t : Table α} {n name : String} {v : α} :
    name ∈ names (t.insert n v) ↔ name = n ∨ name ∈ names t := by
  by_cases hn : n ∈ names t
  · rw [names_insert_of_mem v hn]
    exact ⟨.inr, fun h => h.elim (fun h => h ▸ hn) id⟩
  · rw [names_insert_of_not_mem v hn, List.mem_append, List.mem_singleton, or_comm]

/-- Every name stays where it was first entered. -/
theorem names_prefix_insert (t : Table α) (n : String) (v : α) :
    names t <+: names (t.insert n v) := by
  by_cases hn : n ∈ names t
  · simp only [names_insert_of_mem v hn, List.prefix_rfl]
  · rw [names_insert_of_not_mem v hn]
    exact List.prefix_append _ _

theorem isSome_get?_iff {t : Table α} {name : String} :
    (t.get? name).isSome = true ↔ name ∈ names t := by
  induction t with
  | nil => simp [names]
  | cons e t ih =>
    obtain ⟨n, v⟩ := e
    by_cases h : name = n
    · simp [get?_cons, names, h]
    · simpa [get?_cons, names, h] using ih

theorem get?_eq_none_iff {t : Table α} {name : String} : t.get? name = none ↔ name ∉ names t := by
  rw [← isSome_get?_iff, Option.not_isSome_iff_eq_none]

theorem get?_ofList (entries : List (String × α)) (name : String) :
    (ofList entries).get? name = get? entries.reverse name := by
  rw [ofList, get?_insertAll, get?_nil, Option.or_none]

/-- The last entry of a name is the one that is found. -/
theorem get?_ofList_eq_some_iff {entries : List (String × α)} {name : String} {v : α} :
    (ofList entries).get? name = some v ↔
      ∃ before after, entries = before ++ (name, v) :: after ∧ name ∉ names after := by
  rw [get?_ofList, get?, List.lookup_eq_some_iff]
  have hnames (l : List (String × α)) : (∀ e ∈ l, (name != e.1) = true) ↔ name ∉ names l := by
    simp only [names, List.mem_map, not_exists, not_and, bne_iff_ne, ne_eq]
    exact ⟨fun h e he heq => h e he heq.symm, fun h e he heq => h e he heq.symm⟩
  constructor
  · rintro ⟨after, before, hsplit, hafter⟩
    refine ⟨before.reverse, after.reverse, ?_,
      (hnames _).mp fun e he => hafter e (List.mem_reverse.mp he)⟩
    rw [← List.reverse_reverse entries, hsplit]
    simp
  · rintro ⟨before, after, rfl, hafter⟩
    refine ⟨after.reverse, before.reverse, by simp, fun e he => ?_⟩
    exact (hnames _).mpr hafter e (List.mem_reverse.mp he)

theorem get?_ofList_eq_none_iff {entries : List (String × α)} {name : String} :
    (ofList entries).get? name = none ↔ name ∉ names entries := by
  rw [get?_ofList, get?_eq_none_iff, names, List.map_reverse, List.mem_reverse, names]

/-- A table is its names in their order and what stands under each. -/
theorem Distinct.ext {t u : Table α} (h : Distinct t) (hnames : names t = names u)
    (hget : ∀ name ∈ names t, t.get? name = u.get? name) : t = u := by
  induction t generalizing u with
  | nil =>
    cases u with
    | nil => rfl
    | cons e u => simp [names] at hnames
  | cons e t ih =>
    cases u with
    | nil => simp [names] at hnames
    | cons f u =>
      obtain ⟨n, v⟩ := e
      obtain ⟨k, w⟩ := f
      obtain ⟨rfl, htail⟩ : n = k ∧ names t = names u := by simpa [names] using hnames
      obtain ⟨hn, ht⟩ : n ∉ names t ∧ Distinct t := List.nodup_cons.mp h
      have hv : v = w := by simpa [get?_cons] using hget n List.mem_cons_self
      rw [hv, ih ht htail]
      intro name hname
      have hne : name ≠ n := fun e => hn (e ▸ hname)
      simpa [get?_cons, hne] using hget name (List.mem_cons_of_mem n hname)

theorem Distinct.erase {t : Table α} (h : Distinct t) (n : String) : Distinct (t.erase n) := by
  unfold Distinct
  rw [names_erase]
  exact List.Pairwise.filter _ h

/-- In a table without repeated names the entry of a name is its only one. -/
theorem Distinct.get?_eq_some_iff {t : Table α} (h : Distinct t) {name : String} {v : α} :
    t.get? name = some v ↔ (name, v) ∈ t := by
  induction t with
  | nil => simp
  | cons e t ih =>
    obtain ⟨n, w⟩ := e
    obtain ⟨hn, ht⟩ : n ∉ names t ∧ Distinct t := List.nodup_cons.mp h
    by_cases hname : name = n
    · have hgone : (name, v) ∉ t := fun hmem => hn (hname ▸ List.mem_map.mpr ⟨_, hmem, rfl⟩)
      simp [get?_cons, hname, eq_comm] at hgone ⊢
      simp [hgone]
    · simp [get?_cons, hname, ih ht]

/-- Under a name stands one entry at most. -/
theorem Distinct.filter_name {t : Table α} (h : Distinct t) (name : String) :
    t.filter (fun e => e.1 == name) = (t.get? name).toList.map fun v => (name, v) := by
  induction t with
  | nil => rfl
  | cons e t ih =>
    obtain ⟨n, v⟩ := e
    obtain ⟨hn, ht⟩ : n ∉ names t ∧ Distinct t := List.nodup_cons.mp h
    by_cases hname : n = name
    · subst hname
      simp [get?_cons, ih ht, get?_eq_none_iff.mpr hn]
    · simp [get?_cons, ih ht, hname, Ne.symm hname]

theorem Distinct.insert {t : Table α} (h : Distinct t) (n : String) (v : α) :
    Distinct (t.insert n v) := by
  by_cases hn : n ∈ names t
  · simpa [Distinct, names_insert_of_mem v hn] using h
  · rw [Distinct, names_insert_of_not_mem v hn]
    exact List.nodup_append.2 ⟨h, by simp, by
      intro a ha b hb; simp at hb; subst hb; exact fun e => hn (e ▸ ha)⟩

end Table
end LiquidEval
