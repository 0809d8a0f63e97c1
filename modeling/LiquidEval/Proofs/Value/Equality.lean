import Mathlib
import LiquidEval.Proofs.Table.Matching
import LiquidEval.Sample.Objects
import LiquidEval.Value.Equality

/-! Equality of values that hold no drops. It is decided by what stands in the values: arrays are
compared item by item, and objects field by field, in whatever order their fields were entered. -/
namespace LiquidEval.Value
variable {H : Type}

def isScalar : Value H → Bool
  | array _ | object _ | entry .. | host .. => false
  | _ => true

/-- No drop stands in the value, at any depth, and `p` holds of its scalars. -/
inductive Data (p : Value H → Prop) : Value H → Prop where
  | scalar {v : Value H} (hv : v.isScalar = true) (hp : p v) : Data p v
  | array {items : List (Value H)} (h : ∀ v ∈ items, Data p v) : Data p (array items)
  | object {fields : List (String × Value H)} (h : ∀ e ∈ fields, Data p e.2) :
      Data p (object fields)

def DropFree : Value H → Prop := Data fun _ => True

def NaNFree : Value H → Prop := Data fun v => ∀ f, v = float f → f.isNaN = false

theorem Data.mono {p q : Value H → Prop} (hpq : ∀ v, p v → q v) {a : Value H} (h : a.Data p) :
    a.Data q := by
  induction h with
  | scalar hv hp => exact .scalar hv (hpq _ hp)
  | array _ ih => exact .array ih
  | object _ ih => exact .object ih

theorem Data.of_mem_array {p : Value H → Prop} {items : List (Value H)}
    (h : (Value.array items).Data p) :
    ∀ v ∈ items, v.Data p := by
  cases h with
  | scalar hv => cases hv
  | array h => exact h

theorem Data.of_mem_object {p : Value H → Prop} {fields : List (String × Value H)}
    (h : (Value.object fields).Data p) : ∀ e ∈ fields, e.2.Data p := by
  cases h with
  | scalar hv => cases hv
  | object h => exact h

theorem not_dropFree_host (id : Identity) (x : H) : ¬(host id x : Value H).DropFree := by
  rintro (⟨hv, -⟩)
  cases hv

variable [Host H]

theorem equalsAll_eq (items others : List (Value H)) :
    equalsAll items others = items.isEqv others equals := by
  induction items generalizing others with
  | nil => cases others <;> rfl
  | cons v rest ih =>
    cases others with
    | nil => rfl
    | cons w others => rw [equalsAll, List.isEqv, ih]

theorem equalsFields_eq (fields others : List (String × Value H)) :
    equalsFields fields others = fields.all fun e => (Table.get? others e.1).any (equals e.2) := by
  induction fields with
  | nil => rfl
  | cons e rest ih =>
    obtain ⟨name, v⟩ := e
    rw [equalsFields, List.all_cons, ih]
    cases Table.get? others name <;> rfl

theorem equals_array (items others : List (Value H)) :
    (array items).equals (array others) = items.isEqv others equals := by
  rw [← equalsAll_eq]
  rfl

theorem equals_object (fields others : List (String × Value H)) :
    (object fields).equals (object others) = Table.matched equals fields others := by
  rw [Table.matched, ← equalsFields_eq]
  rfl

theorem ownEquality?_of_dropFree {a b : Value H} (ha : a.DropFree) (hb : b.DropFree) :
    ownEquality? a b = none := by
  have hnone {a : Value H} (ha : a.DropFree) (other : Value H) : hostEquals? a other = none := by
    cases a with
    | host id x => exact absurd ha (not_dropFree_host id x)
    | _ => rfl
  rw [ownEquality?, hnone ha, hnone hb]
  rfl

/-- Two scalars are compared alike from both sides, be they numbers, a character and a string, or of
one kind. -/
theorem equals_comm_of_isScalar {a b : Value H} (ha : a.isScalar = true) (hb : b.DropFree) :
    a.equals b = b.equals a := by
  unfold equals
  rw [ownEquality?_of_dropFree (.scalar ha trivial) hb,
    ownEquality?_of_dropFree hb (.scalar ha trivial)]
  cases a with
  | array | object | entry | host => cases ha
  | nil => cases b <;> rfl
  | bool x =>
    cases b with
    | bool y => exact BEq.comm
    | _ => rfl
  | int i =>
    cases b with
    | int j => exact BEq.comm
    | float g => exact BEq.comm
    | _ => rfl
  | float f =>
    cases b with
    | int j => exact BEq.comm
    | float g => exact BEq.comm
    | _ => rfl
  | char c =>
    cases b with
    | char d => exact BEq.comm
    | _ => rfl
  | string s =>
    cases b with
    | string t => exact BEq.comm
    | _ => rfl

/-- By induction on the left value; where the right one is of another kind, neither side finds them
equal. -/
theorem equals_comm {a b : Value H} (ha : a.DropFree) (hb : b.DropFree) (ha' : a.WellFormed)
    (hb' : b.WellFormed) : a.equals b = b.equals a := by
  induction ha generalizing b with
  | scalar hv => exact equals_comm_of_isScalar hv hb
  | array h ih =>
    cases ha' with
    | array hitems =>
    cases hb' with
    | array hothers =>
      rw [equals_array, equals_array]
      exact isEqv_comm fun v hv w hw => ih v hv (hb.of_mem_array w hw) (hitems v hv) (hothers w hw)
    | host id x => exact absurd hb (not_dropFree_host id x)
    | _ => rfl
  | object h ih =>
    cases ha' with
    | object hdistinct hfields =>
    cases hb' with
    | object hdistinct' hothers =>
      rw [equals_object, equals_object]
      apply Table.matched_comm hdistinct hdistinct'
      intro e he e' he'
      exact ih e he (hb.of_mem_object e' he') (hfields e he) (hothers e' he')
    | host id x => exact absurd hb (not_dropFree_host id x)
    | _ => rfl

/-- Not-a-number is the only scalar that is not equal to itself. -/
theorem equals_self {a : Value H} (ha : a.NaNFree) (ha' : a.WellFormed) : a.equals a = true := by
  induction ha with
  | @scalar v hv hp =>
    cases v with
    | array | object | entry | host => cases hv
    | nil => rfl
    | bool b => exact beq_self_eq_true b
    | int i => exact beq_self_eq_true i
    | float f =>
      have hnan : decide (f = .nan) = false := Float.isNaN_eq_decide_eq_nan.symm.trans (hp f rfl)
      exact Float.beq_self_iff.mpr (of_decide_eq_false hnan)
    | char c => exact beq_self_eq_true c
    | string s => exact beq_self_eq_true s
  | array h ih =>
    cases ha' with
    | array hitems =>
    rw [equals_array, isEqv_iff]
    refine ⟨rfl, fun i v w hv hw => ?_⟩
    cases hv.symm.trans hw
    have hmem := List.mem_of_getElem? hv
    exact ih v hmem (hitems v hmem)
  | object h ih =>
    cases ha' with
    | object hdistinct hfields =>
    rw [equals_object, Table.matched_iff hdistinct hdistinct]
    refine ⟨fun _ => Iff.rfl, fun name v w hv hw => ?_⟩
    cases hv.symm.trans hw
    have hmem := Table.mem_of_get? hv
    exact ih _ hmem (hfields _ hmem)

/-- Values are compared by their contents, whichever of them stands on the left. -/
theorem equals_by_contents {a b : Value H} (ha : a.DropFree) (hb : b.DropFree) (ha' : a.WellFormed)
    (hb' : b.WellFormed) :
    a.equals b = b.equals a ∧
    (a.NaNFree → a.equals a = true) ∧
    (∀ fields others, a = object fields → b = object others →
      (a.equals b = true ↔
        (∀ name, name ∈ Table.names fields ↔ name ∈ Table.names others) ∧
          ∀ name v w, Table.get? fields name = some v → Table.get? others name = some w →
            v.equals w = true) ∧
      ∀ fields' others', fields.Perm fields' → others.Perm others' →
        a.equals b = (object fields').equals (object others')) ∧
    (∀ items others, a = array items → b = array others →
      (a.equals b = true ↔ items.length = others.length ∧
        ∀ (i : Nat) v w, items[i]? = some v → others[i]? = some w → v.equals w = true)) := by
  refine ⟨equals_comm ha hb ha' hb', fun h => equals_self h ha', ?_, ?_⟩
  · rintro fields others rfl rfl
    cases ha' with
    | object hdistinct _ =>
    cases hb' with
    | object hdistinct' _ =>
    rw [equals_object]
    refine ⟨Table.matched_iff hdistinct hdistinct' equals, fun fields' others' h h' => ?_⟩
    rw [equals_object, Table.matched_perm hdistinct hdistinct' h h']
  · rintro items others rfl rfl
    rw [equals_array]
    exact isEqv_iff

/-- Two objects that name the same fields in another order, with a string for a character and a
float for an integer. -/
theorem equals_by_contents_of_reordered :
    let a : Value Sample.Object := .object [("n", .int 2), ("list", .array [.char 'x', .float 0.5])]
    let b : Value Sample.Object :=
      .object [("list", .array [.string "x", .float 0.5]), ("n", .float 2)]
    a.equals b = b.equals a ∧ a.equals a = true ∧
      a.equals b = (object [("list", .array [.char 'x', .float 0.5]), ("n", .int 2)]).equals b := by
  intro a b
  have ha : a.NaNFree := by
    have hhalf : (0.5 : Float).isNaN = false := by decide +kernel
    refine .object
      (List.forall_mem_cons.mpr ⟨.scalar rfl ?_, List.forall_mem_singleton.mpr <| .array <|
      List.forall_mem_cons.mpr ⟨.scalar rfl ?_, List.forall_mem_singleton.mpr <| .scalar rfl ?_⟩⟩)
    · intro f h
      cases h
    · intro f h
      cases h
    · rintro f ⟨⟩
      exact hhalf
  have hb : b.DropFree :=
    .object (List.forall_mem_cons.mpr ⟨.array (List.forall_mem_cons.mpr ⟨.scalar rfl trivial,
      List.forall_mem_singleton.mpr (.scalar rfl trivial)⟩),
        List.forall_mem_singleton.mpr (.scalar rfl trivial)⟩)
  have ha' : a.WellFormed :=
    .object (show ["n", "list"].Nodup by decide) (List.forall_mem_cons.mpr ⟨.int 2,
      List.forall_mem_singleton.mpr <| .array <| List.forall_mem_cons.mpr
        ⟨.char 'x', List.forall_mem_singleton.mpr (.float 0.5)⟩⟩)
  have hb' : b.WellFormed :=
    .object (show ["list", "n"].Nodup by decide) (List.forall_mem_cons.mpr ⟨.array <|
      List.forall_mem_cons.mpr ⟨.string "x", List.forall_mem_singleton.mpr (.float 0.5)⟩,
        List.forall_mem_singleton.mpr (.float 2)⟩)
  obtain ⟨hcomm, hself, hobject, -⟩ := equals_by_contents (ha.mono fun _ _ => trivial) hb ha' hb'
  exact ⟨hcomm, hself ha, (hobject _ _ rfl rfl).2 _ _ (.swap ..) (.refl _)⟩

end LiquidEval.Value
