import LiquidEval.Proofs.Decimal.LeadingZeros
import LiquidEval.Sample.Objects

/-! What an entry of a map answers when its value is a map again. The key and the value are its
positions 0 and 1, and a name is a position in every way of writing that number, so an entry hides
more fields of the map than the ones whose names it was given. -/
namespace LiquidEval.Value
open Decimal

/-- A name that is this number to a reader of integers. -/
def IsPositionName (position : Int64) (name : String) : Prop :=
  IsTextOf position.toInt (Text.trimChars name.toList)

theorem isPosition_iff {name : String} {position : Int64} :
    isPosition name position = true ↔ IsPositionName position name := by
  unfold isPosition IsPositionName
  rw [beq_iff_eq, readInt64?_eq_some_iff, Text.trim, String.toList_ofList]

theorem IsPositionName.unique {name : String} {i j : Int64} (hi : IsPositionName i name)
    (hj : IsPositionName j name) : i = j := by
  have hi := readInt64?_eq_some_iff.mpr hi
  have hj := readInt64?_eq_some_iff.mpr hj
  exact Option.some_inj.mp (hi.symm.trans hj)

def keyNames : List String := ["Key", "itemName", "0"]

def valueNames : List String := ["Value", "1"]

theorem isKeyName_iff {name : String} :
    isKeyName name = true ↔ name ∈ keyNames ∨ IsPositionName 0 name := by
  have hzero : name = "0" → IsPositionName 0 name := by
    rintro rfl
    exact isPosition_iff.mp (by decide)
  simp only [isKeyName, keyNames, Bool.or_eq_true, beq_iff_eq, isPosition_iff, List.mem_cons,
    List.not_mem_nil, or_false]
  tauto

theorem isValueName_iff {name : String} :
    isValueName name = true ↔ name ∈ valueNames ∨ IsPositionName 1 name := by
  have hone : name = "1" → IsPositionName 1 name := by
    rintro rfl
    exact isPosition_iff.mp (by decide)
  simp only [isValueName, valueNames, Bool.or_eq_true, beq_iff_eq, isPosition_iff, List.mem_cons,
    List.not_mem_nil, or_false]
  tauto

/-- The value is asked for by no name that asks for the key. -/
theorem isKeyName_eq_false {name : String} (h : name ∈ valueNames ∨ IsPositionName 1 name) :
    isKeyName name = false := by
  have hdocumented : ∀ name ∈ valueNames, isKeyName name = false := by decide
  have hother : ∀ name ∈ keyNames, ¬IsPositionName 1 name := by
    simp only [← isPosition_iff]
    decide
  rcases h with h | h
  · exact hdocumented name h
  · rw [← Bool.not_eq_true, isKeyName_iff]
    rintro (hkey | hzero)
    · exact hother name hkey h
    · exact absurd (hzero.unique h) (by decide)

variable {H : Type} [Host H] (w : View H) (id : Identity) (key : String)
  (fields : List (String × Value H))

theorem hasMember_entry (value : Value H) (name : String) :
    (entry id key value).hasMember w name = ((entry id key value).member? w name).isSome := rfl

theorem member?_entry_of_key {name : String} (h : name ∈ keyNames ∨ IsPositionName 0 name)
    (value : Value H) : (entry id key value).member? w name = some (string key) := by
  rw [member?, entryMember?, if_pos (isKeyName_iff.mpr h)]

theorem member?_entry_of_value {name : String} (h : name ∈ valueNames ∨ IsPositionName 1 name)
    (value : Value H) : (entry id key value).member? w name = some value := by
  rw [member?, entryMember?, isKeyName_eq_false h, if_neg Bool.false_ne_true,
    if_pos (isValueName_iff.mpr h)]

theorem member?_entry_of_field {name : String} (hkey : ¬(name ∈ keyNames ∨ IsPositionName 0 name))
    (hvalue : ¬(name ∈ valueNames ∨ IsPositionName 1 name)) :
    (entry id key (object fields)).member? w name = Table.get? fields name := by
  rw [member?, entryMember?, if_neg (isKeyName_iff.not.mpr hkey),
    if_neg (isValueName_iff.not.mpr hvalue)]
  rfl

/-- Under a name that an entry was not given, it answers as the map that it wraps, unless the name
is a position and the map has something else there. -/
theorem entry_answers_fields (name : String) :
    (name ∈ keyNames → (entry id key (object fields)).member? w name = some (string key)) ∧
    (name ∈ valueNames → (entry id key (object fields)).member? w name = some (object fields)) ∧
    (name ∉ keyNames ++ valueNames →
      ((entry id key (object fields)).hasMember w name = Table.contains fields name ∧
          (entry id key (object fields)).member? w name = Table.get? fields name ↔
        (IsPositionName 0 name → Table.get? fields name = some (string key)) ∧
          (IsPositionName 1 name → Table.get? fields name = some (object fields)))) := by
  refine ⟨fun h => member?_entry_of_key w id key (.inl h) _,
    fun h => member?_entry_of_value w id key (.inl h) _, ?_⟩
  intro hname
  rw [List.mem_append, not_or] at hname
  obtain ⟨hkey, hvalue⟩ := hname
  have hcontains : (entry id key (object fields)).member? w name = Table.get? fields name →
      (entry id key (object fields)).hasMember w name = Table.contains fields name := by
    intro h
    rw [hasMember_entry, h]
    rfl
  rw [and_iff_right_of_imp hcontains]
  by_cases hzero : IsPositionName 0 name
  · have hone : ¬IsPositionName 1 name := fun h => absurd (hzero.unique h) (by decide)
    rw [member?_entry_of_key w id key (.inr hzero), eq_comm]
    simp [hzero, hone]
  · by_cases hone : IsPositionName 1 name
    · rw [member?_entry_of_value w id key (.inr hone), eq_comm]
      simp [hzero, hone]
    · rw [member?_entry_of_field w id key fields (not_or.mpr ⟨hkey, hzero⟩)
        (not_or.mpr ⟨hvalue, hone⟩)]
      simp [hzero, hone]

/-- The number -1 is a name like any other. -/
theorem entry_answers_fields_at_minus_one :
    let fields : List (String × Value Sample.Object) :=
      [("name", .string "Ann"), ("-1", .bool true)]
    (entry .unnamed "user" (object fields)).hasMember (.flat ⟨.ruby, []⟩) "-1" = true ∧
      (entry .unnamed "user" (object fields)).member? (.flat ⟨.ruby, []⟩) "-1" = some (.bool true) ∧
      (entry .unnamed "user" (object fields)).member? (.flat ⟨.ruby, []⟩) "itemName" =
        some (.string "user") := by
  intro fields
  have hanswers := entry_answers_fields (.flat ⟨.ruby, []⟩) .unnamed "user" fields
  have hposition : ¬IsPositionName 0 "-1" ∧ ¬IsPositionName 1 "-1" := by
    simp only [← isPosition_iff]
    decide
  obtain ⟨hcontains, hmember⟩ := ((hanswers "-1").2.2 (by decide)).mpr
    ⟨fun h => absurd h hposition.1, fun h => absurd h hposition.2⟩
  exact ⟨hcontains, hmember, (hanswers "itemName").1 (by decide)⟩

/-- A name with a zero too many answers the key, and the field of that name is not reached. -/
theorem padded_position_hides_field :
    let fields : List (String × Value Sample.Object) := [("00", .int 7)]
    "00" ∉ keyNames ++ valueNames ∧ Table.get? fields "00" = some (.int 7) ∧
      (entry .unnamed "user" (object fields)).member? (.flat ⟨.ruby, []⟩) "00" =
        some (.string "user") ∧
      Table.contains fields "+1" = false ∧
      (entry .unnamed "user" (object fields)).hasMember (.flat ⟨.ruby, []⟩) "+1" = true :=
  ⟨by decide, rfl, rfl, rfl, rfl⟩

end LiquidEval.Value
