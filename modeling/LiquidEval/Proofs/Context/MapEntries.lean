import LiquidEval.Proofs.Context.Undefined
import LiquidEval.Proofs.Value.Members

/-! The items of a map that is iterated over. They are drops at first and pairs from `liquid22` on.
A template that asks an item for its positions 0 and 1, or prints it, gets the key and the value of
an entry either way. -/
namespace LiquidEval

namespace Value
variable {H : Type} [Host H] (w : View H) (key : String) (value : Value H)

/-- What a template sees of an item that stands for an entry of a map. -/
structure ShowsEntry (item : Value H) : Prop where
  first : item.lookup w (int 0) = string key
  second : item.lookup w (int 1) = value
  text : item.display = key ++ value.display

theorem showsEntry_entry (id : Identity) : ShowsEntry w key value (entry id key value) where
  first := by
    rw [lookup_eq_getD (.entry id key value) rfl]
    change ((entry id key value).member? w "0").getD _ = _
    rw [member?_entry_of_key w id key (.inl (by decide)), Option.getD_some]
  second := by
    rw [lookup_eq_getD (.entry id key value) rfl]
    change ((entry id key value).member? w "1").getD _ = _
    rw [member?_entry_of_value w id key (.inl (by decide)), Option.getD_some]
  text := by rw [display]

theorem showsEntry_pair : ShowsEntry w key value (array [string key, value]) where
  first := rfl
  second := rfl
  text := by simp only [display, displayAll, String.append_empty]

end Value

namespace Context
variable {H : Type} [Host H] (c : Context H) {key : String} {value item : Value H}

/-- The item that stands for an entry. -/
def mapItem (key : String) (value : Value H) : Value H :=
  if c.level.rank < Level.liquid22.rank then .entry .unnamed key value
  else .array [.string key, value]

omit [Host H] in
theorem mapEntries_eq_map (fields : List (String × Value H)) :
    c.mapEntries fields = fields.map fun e => c.mapItem e.1 e.2 := rfl

theorem showsEntry_mapItem (w : View H) (key : String) (value : Value H) :
    Value.ShowsEntry w key value (c.mapItem key value) := by
  unfold mapItem
  split
  next => exact Value.showsEntry_entry w key value .unnamed
  next => exact Value.showsEntry_pair w key value

/-- A path that goes on from the first position of an item goes on from the key. -/
theorem follow_first (h : Value.ShowsEntry c.view key value item) (steps : List Lookup) :
    c.follow item (.index 0 :: steps) = c.follow (.string key) steps := by
  have hkey : c.keyOf (.index 0) = .ok (.int 0) := rfl
  rw [follow_cons_of_ok c hkey, h.first]
  exact if_neg Bool.false_ne_true

/-- A path that goes on from the second position of an item goes on from the value, unless that is
nil. -/
theorem follow_second (h : Value.ShowsEntry c.view key value item) (steps : List Lookup) :
    c.follow item (.index 1 :: steps) = if value.isNil then .ok .nil else c.follow value steps := by
  have hkey : c.keyOf (.index 1) = .ok (.int 1) := rfl
  rw [follow_cons_of_ok c hkey, h.second]

/-- The entries of a map are iterated over in their order, and the items of all levels are alike:
the same stands at their positions 0 and 1, paths go on from there in the same way, and they print
the same text. -/
theorem map_items_look_alike (fields : List (String × Value H)) :
    (c.mapEntries fields).length = fields.length ∧
    ∀ (i : Nat) key value, fields[i]? = some (key, value) →
      ∃ item, (c.mapEntries fields)[i]? = some item ∧
        (c.level.rank < Level.liquid22.rank → item = .entry .unnamed key value) ∧
        (Level.liquid22.rank ≤ c.level.rank → item = .array [.string key, value]) ∧
        (∀ w, Value.ShowsEntry w key value item) ∧
        ∀ (d : Context H) steps,
          d.follow item (.index 0 :: steps) = d.follow (.string key) steps ∧
          d.follow item (.index 1 :: steps) =
            if value.isNil then .ok .nil else d.follow value steps := by
  rw [mapEntries_eq_map]
  refine ⟨List.length_map .., fun i key value hi => ⟨c.mapItem key value, ?_, ?_, ?_, ?_, ?_⟩⟩
  · rw [List.getElem?_map, hi, Option.map_some]
  · exact fun h => if_pos h
  · exact fun h => if_neg (Nat.not_lt.mpr h)
  · exact fun w => c.showsEntry_mapItem w key value
  · intro d steps
    have h := c.showsEntry_mapItem d.view key value
    exact ⟨d.follow_first h steps, d.follow_second h steps⟩

/-- The value is a map with a field whose name is a position as well. -/
theorem map_items_look_alike_of_nested :
    let fields : List (String × Value Sample.Object) :=
      [("0", .nil), ("1", .object [("0", .int 7)])]
    let old : Context Sample.Object := { naming := .ruby, level := .liquid21 }
    let new : Context Sample.Object := { naming := .ruby, level := .liquid22 }
    fields[1]? = some ("1", .object [("0", .int 7)]) ∧
      ∃ entry pair, (old.mapEntries fields)[1]? = some entry ∧
        (new.mapEntries fields)[1]? = some pair ∧
        entry.lookup old.view (.int 0) = .string "1" ∧ pair.lookup new.view (.int 0) = .string "1" ∧
        entry.display = pair.display ∧
        old.follow entry [.index 1, .index 0] = .ok (.int 7) ∧
        new.follow pair [.index 1, .index 0] = .ok (.int 7) := by
  intro fields old new
  obtain ⟨entry, hentry, -, -, hold, hsteps⟩ := (old.map_items_look_alike fields).2 1 _ _ rfl
  obtain ⟨pair, hpair, -, -, hnew, hsteps'⟩ := (new.map_items_look_alike fields).2 1 _ _ rfl
  have htext := (hold old.view).text.trans (hnew new.view).text.symm
  exact ⟨rfl, entry, pair, hentry, hpair, (hold _).first, (hnew _).first, htext,
    (hsteps old [.index 0]).2, (hsteps' new [.index 0]).2⟩

end Context
end LiquidEval
