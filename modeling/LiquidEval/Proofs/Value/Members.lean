import LiquidEval.Context.Lookup
import LiquidEval.Operator
import LiquidEval.Proofs.Value.EntryMembers

/-! Members of maps, of entries and of objects that declare theirs. Whether there is one, and what
it is, are asked in different places: the operators `hasKey` and `contains` test a name, and a path
looks it up. -/
namespace LiquidEval

namespace Interface
variable {H : Type} {w : View H} {members : List (String × Value H)}
  {fallback : String → Option (Value H)} {name : String} {u : Value H}

/-- The member that was declared last under the lookup key of a name. -/
def LastDeclared (n : Naming) (members : List (String × Value H)) (name : String)
    (u : Value H) : Prop :=
  ∃ before declared after, members = before ++ (declared, u) :: after ∧
    n.lookupKey declared = n.lookupKey name ∧ ∀ m ∈ after, n.lookupKey m.1 ≠ n.lookupKey name

/-- No member was declared under the lookup key of a name. -/
def Undeclared (n : Naming) (members : List (String × Value H)) (name : String) : Prop :=
  ∀ m ∈ members, n.lookupKey m.1 ≠ n.lookupKey name

theorem not_mem_names_iff (n : Naming) (members : List (String × Value H)) (name : String) :
    n.lookupKey name ∉ Table.names (members.map fun m => (n.lookupKey m.1, m.2)) ↔
      Undeclared n members name := by
  simp [Table.names, Undeclared]

theorem get?_memberTable_eq_some_iff {n : Naming} :
    (memberTable n members).get? (n.lookupKey name) = some u ↔ LastDeclared n members name u := by
  rw [memberTable, Table.get?_ofList_eq_some_iff]
  constructor
  · rintro ⟨before, after, hsplit, hafter⟩
    obtain ⟨front, back, rfl, rfl, hback⟩ := List.map_eq_append_iff.mp hsplit
    obtain ⟨⟨declared, v⟩, rest, rfl, hm, rfl⟩ := List.map_eq_cons_iff.mp hback
    obtain ⟨hkey, rfl⟩ := Prod.mk.inj hm
    exact ⟨front, declared, rest, rfl, hkey, (not_mem_names_iff n rest name).mp hafter⟩
  · rintro ⟨before, declared, after, rfl, hkey, hafter⟩
    refine ⟨before.map fun m => (n.lookupKey m.1, m.2), _, ?_,
      (not_mem_names_iff n after name).mpr hafter⟩
    rw [List.map_append, List.map_cons, hkey]

theorem get?_memberTable_eq_none_iff {n : Naming} :
    (memberTable n members).get? (n.lookupKey name) = none ↔ Undeclared n members name := by
  rw [memberTable, Table.get?_ofList_eq_none_iff, not_mem_names_iff]

theorem contains_typed (w : View H) (members : List (String × Value H))
    (fallback : String → Option (Value H)) (name : String) :
    (typed members fallback).contains w name =
    ((typed members fallback).resolve w name).isSome := by
  rw [contains, resolve, Option.isSome_or]
  rfl

theorem resolve_typed_eq_some_iff : (typed members fallback).resolve w name = some u ↔
    LastDeclared w.naming members name u ∨
    Undeclared w.naming members name ∧ fallback name = some u := by
  rw [resolve, Option.or_eq_some_iff, get?_memberTable_eq_some_iff, get?_memberTable_eq_none_iff]

theorem LastDeclared.unique {n : Naming} {v : Value H} (hu : LastDeclared n members name u)
    (hv : LastDeclared n members name v) : u = v :=
  Option.some_inj.mp
    ((get?_memberTable_eq_some_iff.mpr hu).symm.trans (get?_memberTable_eq_some_iff.mpr hv))

/-- Under the key of a declared member something was declared last. -/
theorem exists_lastDeclared {n : Naming} {m : String × Value H} (hm : m ∈ members)
    (hkey : n.lookupKey m.1 = n.lookupKey name) : ∃ u, LastDeclared n members name u := by
  cases h : (memberTable n members).get? (n.lookupKey name) with
  | some u => exact ⟨u, get?_memberTable_eq_some_iff.mp h⟩
  | none => exact absurd hkey (get?_memberTable_eq_none_iff.mp h m hm)

end Interface

namespace Value
variable {H : Type} [Host H] (w : View H)

/-- Maps, entries of maps, and objects that declare members. -/
inductive HasMembers : Value H → Prop where
  | object (fields : List (String × Value H)) : HasMembers (object fields)
  | entry (id : Identity) (key : String) (value : Value H) : HasMembers (entry id key value)
  | declares (id : Identity) {x : H} {members : List (String × Value H)}
      {fallback : String → Option (Value H)} (hx : Host.interface x = .typed members fallback) :
      HasMembers (host id x)

/-- What stands behind a name, apart from how it is looked for. -/
inductive Member : Value H → String → Value H → Prop where
  | field {fields : List (String × Value H)} {name : String} {u : Value H}
      (h : Table.get? fields name = some u) : Member (object fields) name u
  | key (id : Identity) {key : String} {value : Value H} {name : String}
      (h : name ∈ keyNames ∨ IsPositionName 0 name) : Member (entry id key value) name (string key)
  | value (id : Identity) {key : String} {value : Value H} {name : String}
      (h : name ∈ valueNames ∨ IsPositionName 1 name) : Member (entry id key value) name value
  | wrapped (id : Identity) {key : String} {fields : List (String × Value H)} {name : String}
      {u : Value H}
      (hkey : ¬(name ∈ keyNames ∨ IsPositionName 0 name))
      (hvalue : ¬(name ∈ valueNames ∨ IsPositionName 1 name))
      (h : Table.get? fields name = some u) :
      Member (entry id key (object fields)) name u
  | declared (id : Identity) {x : H} {members : List (String × Value H)}
      {fallback : String → Option (Value H)} {name : String} {u : Value H}
      (hx : Host.interface x = .typed members fallback)
      (h : Interface.LastDeclared w.naming members name u) : Member (host id x) name u
  | computed (id : Identity) {x : H} {members : List (String × Value H)}
      {fallback : String → Option (Value H)} {name : String} {u : Value H}
      (hx : Host.interface x = .typed members fallback)
      (hnone : Interface.Undeclared w.naming members name) (h : fallback name = some u) :
      Member (host id x) name u

/-- The member of a name, in whatever kind of value it is sought. -/
def found? : Value H → String → Option (Value H)
  | object fields, name => Table.get? fields name
  | v, name => v.member? w name

/-- What a path finds under a name that is no member: a map without a field `size` tells how many
fields it has. -/
def absent : Value H → String → Value H
  | object fields, name => if name = "size" then count fields.length else nil
  | _, _ => nil

variable {w} {v k u : Value H} {name : String}

theorem found?_eq_some_iff (hv : HasMembers v) : found? w v name = some u ↔ Member w v name u := by
  cases hv with
  | object fields =>
    constructor
    · exact .field
    · rintro ⟨h⟩
      exact h
  | entry id key value =>
    change (entry id key value).member? w name = some u ↔ _
    constructor
    · intro h
      by_cases hkey : name ∈ keyNames ∨ IsPositionName 0 name
      · rw [member?_entry_of_key w id key hkey] at h
        cases h
        exact .key id hkey
      · by_cases hvalue : name ∈ valueNames ∨ IsPositionName 1 name
        · rw [member?_entry_of_value w id key hvalue] at h
          cases h
          exact .value id hvalue
        · rw [member?, entryMember?, if_neg (isKeyName_iff.not.mpr hkey),
            if_neg (isValueName_iff.not.mpr hvalue)] at h
          cases value with
          | object fields => exact .wrapped id hkey hvalue h
          | _ => cases h
    · intro h
      cases h with
      | key _ h => exact member?_entry_of_key w id key h value
      | value _ h => exact member?_entry_of_value w id key h _
      | wrapped _ hkey hvalue h => rwa [member?_entry_of_field w id key _ hkey hvalue]
  | @declares id x members fallback hx =>
    change (host id x).member? w name = some u ↔ _
    rw [member?, hx, Interface.resolve_typed_eq_some_iff]
    constructor
    · rintro (h | ⟨hnone, h⟩)
      · exact .declared id hx h
      · exact .computed id hx hnone h
    · intro h
      cases h with
      | declared _ hx' h =>
        cases hx.symm.trans hx'
        exact .inl h
      | computed _ hx' hnone h =>
        cases hx.symm.trans hx'
        exact .inr ⟨hnone, h⟩

theorem hasMember_eq_isSome (hv : HasMembers v) :
    v.hasMember w name = (v.member? w name).isSome := by
  cases hv with
  | object fields => rfl
  | entry id key value => rfl
  | declares id hx =>
    rw [hasMember, member?, hx, Interface.contains_typed]

theorem hasKey_eq_isSome (hv : HasMembers v) (hk : k.scalarText? = some name) :
    v.hasKey w k = (found? w v name).isSome := by
  have hmember := @hasMember_eq_isSome _ _ w v name hv
  rw [hasKey, hk]
  cases hv with
  | object fields => rfl
  | entry id key value => exact hmember
  | declares id hx => exact hmember

theorem containsValue_eq_hasKey (hv : HasMembers v) (hk : k.scalarText? = some name) :
    v.containsValue w k = v.hasKey w k := by
  have hnil : k.isNil = false := by
    cases k with
    | nil => cases hk
    | _ => rfl
  unfold containsValue
  rw [hnil]
  cases hv <;> rfl

omit [Host H] in
theorem getD_mapField? (fields : List (String × Value H)) (name : String) :
    (mapField? fields name).getD nil =
      (Table.get? fields name).getD ((object fields).absent name) := by
  rw [mapField?, absent]
  cases Table.get? fields name with
  | some found => rfl
  | none =>
    dsimp only
    split
    next => rfl
    next => rfl

theorem lookup_object (w : View H) (fields : List (String × Value H)) (key : Value H) :
    (object fields).lookup w key = (key.scalarText?.bind (mapField? fields)).getD nil := by
  have hmember : memberLookup? w (object fields) key = none := by
    unfold memberLookup?
    split
    next => rfl
    next => rfl
  have hcontainer : containerLookup? (object fields) key =
      key.scalarText?.bind (mapField? fields) := by
    unfold containerLookup?
    cases key <;> rfl
  rw [lookup, hmember, hcontainer, Option.or_none]

theorem lookup_of_containerLookup?_eq_none (hv : HasMembers v) (hnone : containerLookup? v k = none)
    (hk : k.scalarText? = some name) : v.lookup w k = (v.member? w name).getD nil := by
  rw [lookup, hnone, Option.none_or, memberLookup?, hk]
  dsimp only
  rw [hasMember_eq_isSome hv]
  cases v.member? w name <;> rfl

theorem lookup_eq_getD (hv : HasMembers v) (hk : k.scalarText? = some name) :
    v.lookup w k = (found? w v name).getD (v.absent name) := by
  have hdrop := @lookup_of_containerLookup?_eq_none _ _ w v k name hv
  cases hv with
  | object fields =>
    rw [lookup_object, hk, Option.bind_some]
    exact getD_mapField? fields name
  | entry id key value => exact hdrop (by cases k <;> rfl) hk
  | declares id hx => exact hdrop (by cases k <;> rfl) hk

/-- A name has a member exactly if `hasKey` and `contains` say so, and the member is what a path
finds; where there is none a path finds nil, or the number of fields of a map. A declared member
answers every spelling of its name, unless a later one has the same lookup key. -/
theorem membership_agrees_with_access (w : View H) :
    (∀ v k name, HasMembers v → k.scalarText? = some name →
      ∃ answer, Operators.builtin.apply "hasKey" v k w = .ok answer ∧
        Operators.builtin.apply "contains" v k w = .ok answer ∧
        (answer = true → ∃ u, Member w v name u ∧ v.lookup w k = u) ∧
        (answer = false → (∀ u, ¬Member w v name u) ∧ v.lookup w k = v.absent name)) ∧
    ∀ id x members fallback, Host.interface x = .typed members fallback →
      (∀ name, (host id x).hasMember w name = true ↔ ∃ u, (host id x).member? w name = some u) ∧
      ∀ m ∈ members, ∃ u, Interface.LastDeclared w.naming members m.1 u ∧
        ∀ name, w.naming.lookupKey name = w.naming.lookupKey m.1 →
          (host id x).member? w name = some u := by
  constructor
  · intro v k name hv hk
    have hlookup := @lookup_eq_getD _ _ w v k name hv hk
    refine ⟨(found? w v name).isSome, ?_, ?_, fun h => ?_, fun h => ?_⟩
    · rw [← hasKey_eq_isSome hv hk]
      rfl
    · rw [← hasKey_eq_isSome hv hk, ← containsValue_eq_hasKey hv hk]
      rfl
    · obtain ⟨u, hu⟩ := Option.isSome_iff_exists.mp h
      refine ⟨u, (found?_eq_some_iff hv).mp hu, ?_⟩
      rw [hlookup, hu, Option.getD_some]
    · have hnone := Option.isSome_eq_false_iff.mp h
      rw [Option.isNone_iff_eq_none] at hnone
      refine ⟨fun u hu => ?_, ?_⟩
      · rw [(found?_eq_some_iff hv).mpr hu] at hnone
        cases hnone
      · rw [hlookup, hnone, Option.getD_none]
  · intro id x members fallback hx
    refine ⟨fun name => ?_, fun m hm => ?_⟩
    · rw [hasMember_eq_isSome (.declares id hx), Option.isSome_iff_exists]
    · obtain ⟨u, hu⟩ := Interface.exists_lastDeclared hm rfl
      refine ⟨u, hu, fun name hname => ?_⟩
      obtain ⟨before, declared, after, hsplit, hkey, hafter⟩ := hu
      rw [← hname] at hkey hafter
      exact (found?_eq_some_iff (.declares id hx)).mpr
        (.declared id hx ⟨before, declared, after, hsplit, hkey, hafter⟩)

/-- Of two members with one lookup key the later is found, and a map that has no field `size` counts
its fields. -/
theorem membership_agrees_with_access_at_overlap :
    let w : View Sample.Object := .flat ⟨.ruby, []⟩
    let names : Value Sample.Object := .host (.given 0) .names
    let map : Value Sample.Object := .object [("1", .nil), ("1.0", .bool true)]
    ("FirstName", .int 5) ∈ Sample.Object.overlappingNames ∧
      names.member? w "first_name" = some (.int 6) ∧
      Operators.builtin.apply "contains" map (.float 1.0) w = .ok true ∧
      (∃ u, Member w map "1.0" u ∧ map.lookup w (.float 1.0) = u) ∧
      Operators.builtin.apply "hasKey" map (.string "size") w = .ok false ∧
      map.lookup w (.string "size") = .int 2 := by
  intro w names map
  obtain ⟨haccess, hdeclared⟩ := membership_agrees_with_access w
  have hmember : ("FirstName", .int 5) ∈ Sample.Object.overlappingNames := by
    simp [Sample.Object.overlappingNames]
  obtain ⟨u, hlast, hspellings⟩ := (hdeclared (.given 0) .names _ _ rfl).2 _ hmember
  have hlater : Interface.LastDeclared .ruby Sample.Object.overlappingNames "FirstName" (.int 6) :=
    ⟨Sample.Object.overlappingNames.take 5, "firstName", Sample.Object.overlappingNames.drop 6, rfl,
      by decide +kernel, by decide +kernel⟩
  have hu : u = .int 6 := hlast.unique hlater
  subst hu
  obtain ⟨answer, -, hcontains, hfound, -⟩ :=
    haccess map (.float 1.0) "1.0" (.object _) (by decide +kernel)
  have hanswer : answer = true :=
    Except.ok.inj (hcontains.symm.trans (congrArg Except.ok (by decide +kernel)))
  obtain ⟨answer', hsize, -, -, habsent⟩ := haccess map (.string "size") "size" (.object _) rfl
  cases hsize
  exact ⟨hmember, hspellings "first_name" (by decide +kernel), hanswer ▸ hcontains, hfound hanswer,
    rfl, (habsent rfl).2⟩

end Value
end LiquidEval
