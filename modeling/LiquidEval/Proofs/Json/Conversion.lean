import LiquidEval.Proofs.Decimal.Binary64
import LiquidEval.Proofs.Decimal.LeadingZeros
import LiquidEval.Proofs.Json.Fields
import LiquidEval.Proofs.Value.Identity
import LiquidEval.Value.Document

/-! Values and JSON documents hold the same. A value comes back from its document with its objects
in the order of their names and its characters as strings, which makes no difference to equality; a
document comes back as it was. -/
namespace LiquidEval

namespace Json

theorem insertSorted_perm {name : String} {fields : List (String × Json)} (value : Json)
    (h : name ∉ Table.names fields) :
    (insertSorted name value fields).Perm ((name, value) :: fields) := by
  induction fields with
  | nil => exact .refl _
  | cons e rest ih =>
    obtain ⟨n, v⟩ := e
    obtain ⟨hn, hrest⟩ : name ≠ n ∧ name ∉ Table.names rest := not_or.mp (mt List.mem_cons.mpr h)
    rw [insertSorted, if_neg hn.symm]
    split
    · exact .refl _
    · exact ((ih hrest).cons _).trans (.swap ..)

/-- Sorting moves fields and drops none of them. -/
theorem sortFields_perm {fields : List (String × Json)} (h : Table.Distinct fields) :
    (sortFields fields).Perm fields := by
  have hfold : ∀ (fields t : List (String × Json)), Table.Distinct (fields ++ t) →
      (fields.foldl (fun t e => insertSorted e.1 e.2 t) t).Perm (fields ++ t) := by
    intro fields
    induction fields with
    | nil => exact fun t _ => .refl t
    | cons e rest ih =>
      intro t ht
      obtain ⟨hnew, -⟩ := List.nodup_cons.mp (show (e.1 :: Table.names (rest ++ t)).Nodup from ht)
      have hentered : (insertSorted e.1 e.2 t).Perm (e :: t) := by
        refine insertSorted_perm e.2 fun hmem => hnew ?_
        rw [Table.names, List.map_append]
        exact List.mem_append_right _ hmem
      have hmoved : (rest ++ insertSorted e.1 e.2 t).Perm (e :: rest ++ t) :=
        (hentered.append_left rest).trans List.perm_middle
      exact (ih _ (Table.Distinct.perm ht hmoved.symm)).trans hmoved
  have hsorted := hfold fields [] (by rwa [List.append_nil])
  rwa [List.append_nil] at hsorted

theorem sortFields_eq_self {fields : List (String × Json)}
    (h : (Table.names fields).Pairwise (· < ·)) : sortFields fields = fields := by
  have hsorted := List.pairwise_map.mp (pairwise_names_sortFields fields)
  refine List.Perm.eq_of_pairwise ?_ hsorted (List.pairwise_map.mp h)
    (sortFields_perm (h.imp ne_of_lt))
  exact fun a b _ _ hab hba => absurd hba (lt_asymm hab)

theorem sortedAll_eq (items : List Json) : sortedAll items = items.map sorted := by
  induction items with
  | nil => rfl
  | cons j rest ih => rw [sortedAll, ih, List.map_cons]

theorem sortedFields_eq (fields : List (String × Json)) :
    sortedFields fields = fields.map fun e => (e.1, sorted e.2) := by
  induction fields with
  | nil => rfl
  | cons e rest ih => rw [sortedFields, ih, List.map_cons]

/-- The numbers of the document are ones that a value holds: integers of 64 bits and finite
floats. -/
inductive Fits : Json → Prop where
  | null : Fits null
  | bool (b : Bool) : Fits (bool b)
  | int {i : Int} (h : Decimal.leastInt64 ≤ i ∧ i ≤ Decimal.greatestInt64) : Fits (int i)
  | float {f : Float} (h : f.isFinite = true) : Fits (float f)
  | string (s : String) : Fits (string s)
  | array {items : List Json} (h : ∀ j ∈ items, Fits j) : Fits (array items)
  | object {fields : List (String × Json)} (h : ∀ e ∈ fields, Fits e.2) : Fits (object fields)

/-- Objects list their fields by name and none twice. In this form a document is told by what it
holds. -/
inductive Ordered : Json → Prop where
  | null : Ordered null
  | bool (b : Bool) : Ordered (bool b)
  | int (i : Int) : Ordered (int i)
  | float (f : Float) : Ordered (float f)
  | string (s : String) : Ordered (string s)
  | array {items : List Json} (h : ∀ j ∈ items, Ordered j) : Ordered (array items)
  | object {fields : List (String × Json)} (hnames : (Table.names fields).Pairwise (· < ·))
      (h : ∀ e ∈ fields, Ordered e.2) : Ordered (object fields)

theorem Ordered.sorted_eq {j : Json} (h : j.Ordered) : j.sorted = j := by
  induction h with
  | array h ih => rw [sorted, sortedAll_eq, List.map_congr_left ih, List.map_id']
  | @object fields hnames h ih =>
    have hfields : ∀ e ∈ fields, (e.1, sorted e.2) = e := fun e he => Prod.ext rfl (ih e he)
    rw [sorted, sortedFields_eq, List.map_congr_left hfields, List.map_id',
      sortFields_eq_self hnames]
  | _ => rfl

end Json

namespace Value
variable {H : Type}

/-- The value holds no drop and no float but finite ones, at any depth. -/
def FiniteFloats : Value H → Prop := Data fun v => ∀ f, v = float f → f.isFinite = true

theorem finiteOrNull_eq {f : Float} (h : f.isFinite = true) : finiteOrNull f = .float f := by
  have hplain : (f.isNaN || f.isInf) = false := by
    change f.toModel.unpack.isFinite = true at h
    change (f.toModel.unpack.isNaN || f.toModel.unpack.isInf) = false
    cases hparts : f.toModel.unpack with
    | notANumber | infinity => rw [hparts] at h; cases h
    | _ => rfl
  rw [finiteOrNull, hplain, if_neg Bool.false_ne_true]

theorem ofInteger_toInt (i : Int64) : (ofInteger i.toInt : Value H) = int i := by
  rw [ofInteger, Decimal.int64?_eq_some_iff.mpr rfl]

theorem charFree_ofInteger (i : Int) : (ofInteger i : Value H).CharFree := by
  unfold ofInteger
  split
  · exact .scalar rfl fun _ => nofun
  · exact .scalar rfl fun _ => nofun

mutual
/-- A document has no characters, only strings. -/
theorem charFree_ofJson : (j : Json) → (ofJson j : Value H).CharFree
  | .null | .bool _ | .float _ | .string _ => .scalar rfl fun _ => nofun
  | .int i => charFree_ofInteger i
  | .array items => .array (charFree_ofJsonAll items)
  | .object fields => .object (charFree_ofJsonFields fields)
theorem charFree_ofJsonAll :
    (items : List Json) → ∀ v ∈ (ofJsonAll items : List (Value H)), v.CharFree
  | [] => nofun
  | j :: rest => List.forall_mem_cons.mpr ⟨charFree_ofJson j, charFree_ofJsonAll rest⟩
theorem charFree_ofJsonFields : (fields : List (String × Json)) →
    ∀ e ∈ (ofJsonFields fields : List (String × Value H)), e.2.CharFree
  | [] => nofun
  | (_, j) :: rest => List.forall_mem_cons.mpr ⟨charFree_ofJson j, charFree_ofJsonFields rest⟩
end

theorem ofJson_array (items : List Json) :
    (ofJson (.array items) : Value H) = array (items.map ofJson) := by
  have hitems : ofJsonAll items = items.map (ofJson : Json → Value H) := by
    induction items with
    | nil => rfl
    | cons j rest ih => rw [ofJsonAll, ih, List.map_cons]
  rw [ofJson, hitems]

theorem ofJson_object (fields : List (String × Json)) :
    (ofJson (.object fields) : Value H) = object (fields.map fun e => (e.1, ofJson e.2)) := by
  rw [ofJson, ofJsonFields_eq_map]

variable [Host H]

theorem document_array (items : List (Value H)) :
    (array items).document = .array (items.map document) := by
  have hitems : documentAll items = items.map document := by
    induction items with
    | nil => rfl
    | cons v rest ih => rw [documentAll, ih, List.map_cons]
  rw [document, hitems]

theorem document_object (fields : List (String × Value H)) :
    (object fields).document = .object (fields.map fun e => (e.1, document e.2)) := by
  have hfields : documentFields fields = fields.map fun e => (e.1, document e.2) := by
    induction fields with
    | nil => rfl
    | cons e rest ih => rw [documentFields, ih, List.map_cons]
  rw [document, hfields]

theorem toJson_array (items : List (Value H)) :
    (array items).toJson = .array (items.map toJson) := by
  rw [toJson, document_array, Json.sorted, Json.sortedAll_eq, List.map_map]
  rfl

theorem toJson_object (fields : List (String × Value H)) :
    (object fields).toJson = .object (Json.sortFields (fields.map fun e => (e.1, toJson e.2))) := by
  rw [toJson, document_object, Json.sorted, Json.sortedFields_eq, List.map_map]
  rfl

theorem equals_ofJson_toJson_of_isScalar {v : Value H} (hv : v.isScalar = true)
    (hfinite : ∀ f, v = float f → f.isFinite = true) : (ofJson v.toJson).equals v = true := by
  cases v with
  | array | object | entry | host => cases hv
  | nil => rfl
  | bool b => exact beq_self_eq_true b
  | int i =>
    change (ofInteger i.toInt).equals (int i) = true
    rw [ofInteger_toInt]
    exact beq_self_eq_true i
  | float f =>
    have hf := hfinite f rfl
    change (ofJson (finiteOrNull f).sorted).equals (float f) = true
    rw [finiteOrNull_eq hf]
    exact (Decimal.beq_iff_floatValue_eq hf hf).mpr rfl
  | char c => exact (onlyChar?_beq c.toString c).trans (beq_self_eq_true _)
  | string s => exact beq_self_eq_true s

theorem ofJson_toJson_array (items : List (Value H)) :
    (ofJson (array items).toJson : Value H) = array (items.map fun v => ofJson v.toJson) := by
  rw [toJson_array, ofJson_array, List.map_map]
  rfl

/-- The fields of an object come back in another order, under the names that they had. -/
theorem ofJson_toJson_object {fields : List (String × Value H)} (h : Table.Distinct fields) :
    ∃ back : Table (Value H), ofJson (object fields).toJson = object back ∧
      back.Perm (fields.map fun e => (e.1, ofJson e.2.toJson)) := by
  have hmoved := (Json.sortFields_perm (h.map toJson)).map fun e => (e.1, (ofJson e.2 : Value H))
  rw [List.map_map] at hmoved
  exact ⟨_, by rw [toJson_object, ofJson_object], hmoved⟩

theorem equals_ofJson_toJson {v : Value H} (h : v.FiniteFloats) (hv : v.WellFormed) :
    (ofJson v.toJson).equals v = true := by
  induction h with
  | scalar hscalar hfinite => exact equals_ofJson_toJson_of_isScalar hscalar hfinite
  | array h ih =>
    cases hv with
    | array hitems =>
    rw [ofJson_toJson_array, equals_array]
    exact isEqv_map_self fun v hv => ih v hv (hitems v hv)
  | object h ih =>
    cases hv with
    | object hdistinct hfields =>
    obtain ⟨back, hback, hperm⟩ := ofJson_toJson_object hdistinct
    have hread := hdistinct.map fun v => (ofJson v.toJson : Value H)
    rw [hback, equals_object, ← Table.matched_perm hread hdistinct hperm.symm (.refl _)]
    exact Table.matched_map_self hdistinct (f := fun v => ofJson v.toJson)
      fun e he => ih e he (hfields e he)

theorem identical_ofJson_toJson {v : Value H} (h : v.FiniteFloats) (hv : v.WellFormed)
    (hchars : v.CharFree) :
    (ofJson v.toJson).identical v = true := by
  have hback : (ofJson v.toJson : Value H).CharFree := charFree_ofJson v.toJson
  have hsame := equals_eq_identical (hback.mono fun _ _ => trivial) (h.mono fun _ _ => trivial)
  rw [withoutChars_eq_self hback, withoutChars_eq_self hchars] at hsame
  rw [← hsame]
  exact equals_ofJson_toJson h hv

theorem document_ofInteger {i : Int} (h : Decimal.leastInt64 ≤ i ∧ i ≤ Decimal.greatestInt64) :
    (ofInteger i : Value H).document = .int i := by
  unfold ofInteger
  split
  next n hn => rw [document, Decimal.int64?_eq_some_iff.mp hn]
  next hn => exact absurd h (Decimal.int64?_eq_none_iff.mp hn)

/-- Before its fields are sorted, the document of a value that was read is the one that was read. -/
theorem document_ofJson {j : Json} (h : j.Fits) : (ofJson j : Value H).document = j := by
  induction h with
  | int h => exact document_ofInteger h
  | float h => exact finiteOrNull_eq h
  | array h ih =>
    rw [ofJson_array, document_array, List.map_map]
    exact congrArg Json.array ((List.map_congr_left ih).trans (List.map_id' _))
  | @object fields h ih =>
    have hfields : ∀ e ∈ fields, (e.1, (ofJson e.2 : Value H).document) = e :=
      fun e he => Prod.ext rfl (ih e he)
    rw [ofJson_object, document_object, List.map_map]
    exact congrArg Json.object ((List.map_congr_left hfields).trans (List.map_id' _))
  | _ => rfl

theorem toJson_ofJson {j : Json} (h : j.Fits) : (ofJson j : Value H).toJson = j.sorted := by
  rw [toJson, document_ofJson h]

/-- A value comes back from its document, a document from its value. The order of its fields is all
that a document can lose, and it loses nothing when its fields are listed in order. -/
theorem json_conversion_loses_nothing :
    (∀ v : Value H, v.FiniteFloats → v.WellFormed →
      (ofJson v.toJson).equals v = true ∧ (v.CharFree → (ofJson v.toJson).identical v = true)) ∧
    ∀ j : Json, j.Fits →
      (ofJson j : Value H).toJson = j.sorted ∧ (j.Ordered → (ofJson j : Value H).toJson = j) := by
  refine ⟨fun v h hv => ⟨equals_ofJson_toJson h hv, identical_ofJson_toJson h hv⟩, fun j h => ?_⟩
  exact ⟨toJson_ofJson h, fun ho => (toJson_ofJson h).trans ho.sorted_eq⟩

/-- Fields out of order, a character, an integral float and the least integer. -/
theorem json_conversion_loses_nothing_at_fields :
    let items : List (Value Sample.Object) := [float 2, int Int64.minValue]
    let v : Value Sample.Object := object [("z", char 'x'), ("a", array items)]
    let j : Json := .object [("a", .array [.float 2, .int Decimal.leastInt64]), ("z", .string "x")]
    (ofJson v.toJson).equals v = true ∧
      (ofJson (array items).toJson).identical (array items) = true ∧
      (ofJson j : Value Sample.Object).toJson = j := by
  intro items v j
  have htwo : (2 : Float).isFinite = true := by decide +kernel
  have hitems : (array items).FiniteFloats := by
    refine .array
      (List.forall_mem_cons.mpr ⟨.scalar rfl ?_, List.forall_mem_singleton.mpr (.scalar rfl nofun)⟩)
    rintro f ⟨⟩
    exact htwo
  have hitems' : (array items).WellFormed :=
    .array (List.forall_mem_cons.mpr ⟨.float 2, List.forall_mem_singleton.mpr (.int _)⟩)
  have hchars : (array items).CharFree :=
    .array (List.forall_mem_cons.mpr
      ⟨.scalar rfl nofun, List.forall_mem_singleton.mpr (.scalar rfl nofun)⟩)
  have hv : v.FiniteFloats :=
    .object (List.forall_mem_cons.mpr ⟨.scalar rfl nofun, List.forall_mem_singleton.mpr hitems⟩)
  have hv' : v.WellFormed :=
    .object (show ["z", "a"].Nodup by decide)
      (List.forall_mem_cons.mpr ⟨.char 'x', List.forall_mem_singleton.mpr hitems'⟩)
  have hj : j.Fits := by
    refine .object (List.forall_mem_cons.mpr ⟨.array (List.forall_mem_cons.mpr ⟨.float htwo,
      List.forall_mem_singleton.mpr (.int ?_)⟩), List.forall_mem_singleton.mpr (.string "x")⟩)
    decide
  have hordered : j.Ordered := by
    refine .object (show ["a", "z"].Pairwise (· < ·) by decide)
      (List.forall_mem_cons.mpr ⟨.array ?_,
      List.forall_mem_singleton.mpr (.string "x")⟩)
    exact List.forall_mem_cons.mpr ⟨.float 2, List.forall_mem_singleton.mpr (.int _)⟩
  obtain ⟨hvalues, hdocuments⟩ := json_conversion_loses_nothing (H := Sample.Object)
  exact ⟨(hvalues v hv hv').1, (hvalues _ hitems hitems').2 hchars, (hdocuments j hj).2 hordered⟩

end Value
end LiquidEval
