import LiquidEval.Proofs.Value.Equality

/-! The two equalities of values that hold no drops. Templates take a character for the string that
holds it, and that is all in which their equality differs from identity: it is identity of the
values with every character put as its string. -/
namespace LiquidEval.Value
variable {H : Type}

def CharFree : Value H → Prop := Data fun v => ∀ c, v ≠ char c

mutual
/-- The value with every character, at any depth, put as the string that holds it. -/
def withoutChars : Value H → Value H
  | char c => string c.toString
  | array items => array (withoutCharsAll items)
  | object fields => object (withoutCharsFields fields)
  | v => v
def withoutCharsAll : List (Value H) → List (Value H)
  | [] => []
  | v :: rest => withoutChars v :: withoutCharsAll rest
def withoutCharsFields : List (String × Value H) → List (String × Value H)
  | [] => []
  | (name, v) :: rest => (name, withoutChars v) :: withoutCharsFields rest
end

theorem withoutCharsAll_eq (items : List (Value H)) :
    withoutCharsAll items = items.map withoutChars := by
  induction items with
  | nil => rfl
  | cons v rest ih => rw [withoutCharsAll, ih, List.map_cons]

theorem withoutCharsFields_eq (fields : List (String × Value H)) :
    withoutCharsFields fields = fields.map fun e => (e.1, withoutChars e.2) := by
  induction fields with
  | nil => rfl
  | cons e rest ih => rw [withoutCharsFields, ih, List.map_cons]

@[simp] theorem withoutChars_array (items : List (Value H)) :
    (array items).withoutChars = array (items.map withoutChars) := by
  rw [withoutChars, withoutCharsAll_eq]

@[simp] theorem withoutChars_object (fields : List (String × Value H)) :
    (object fields).withoutChars = object (fields.map fun e => (e.1, withoutChars e.2)) := by
  rw [withoutChars, withoutCharsFields_eq]

theorem withoutChars_eq_self {a : Value H} (ha : a.CharFree) : a.withoutChars = a := by
  induction ha with
  | @scalar v hv hp =>
    cases v with
    | array | object => cases hv
    | char c => exact absurd rfl (hp c)
    | _ => rfl
  | @array items h ih =>
    rw [withoutChars_array, List.map_congr_left ih, List.map_id']
  | @object fields h ih =>
    have hfields : ∀ e ∈ fields, (e.1, withoutChars e.2) = e := fun e he => Prod.ext rfl (ih e he)
    rw [withoutChars_object, List.map_congr_left hfields, List.map_id']

theorem onlyChar?_beq (s : String) (c : Char) : (onlyChar? s == some c) = (s == c.toString) := by
  rw [Bool.eq_iff_iff, beq_iff_eq, beq_iff_eq, onlyChar?_eq_some_iff]

theorem toString_beq (c d : Char) : (c == d) = (c.toString == d.toString) := by
  rw [← onlyChar?_beq, onlyChar?_eq_some_iff.mpr rfl]
  rfl

variable [Host H]

theorem identicalAll_eq (items others : List (Value H)) :
    identicalAll items others = items.isEqv others identical := by
  induction items generalizing others with
  | nil => cases others <;> rfl
  | cons v rest ih =>
    cases others with
    | nil => rfl
    | cons w others => rw [identicalAll, List.isEqv, ih]

theorem identicalFields_eq (fields others : List (String × Value H)) :
    identicalFields fields others = fields.all fun e =>
      (Table.get? others e.1).any (identical e.2) := by
  induction fields with
  | nil => rfl
  | cons e rest ih =>
    obtain ⟨name, v⟩ := e
    rw [identicalFields, List.all_cons, ih]
    cases Table.get? others name <;> rfl

theorem identical_array (items others : List (Value H)) :
    (array items).identical (array others) = items.isEqv others identical := by
  rw [← identicalAll_eq, identical]

theorem identical_object (fields others : List (String × Value H)) :
    (object fields).identical (object others) = Table.matched identical fields others := by
  rw [Table.matched, ← identicalFields_eq, identical]

/-- A character against a string is where the two differ; the strings that hold it are what identity
compares. -/
theorem equals_eq_identical_of_isScalar {a b : Value H} (ha : a.isScalar = true) (hb : b.DropFree) :
    a.equals b = a.withoutChars.identical b.withoutChars := by
  cases a with
  | array | object | entry | host => cases ha
  | char c =>
    cases b with
    | char d => exact toString_beq c d
    | string s => exact (onlyChar?_beq s c).trans BEq.comm
    | host id x => exact absurd hb (not_dropFree_host id x)
    | _ => rfl
  | string s =>
    cases b with
    | char d => exact onlyChar?_beq s d
    | host id x => exact absurd hb (not_dropFree_host id x)
    | _ => rfl
  | _ =>
    cases b with
    | host id x => exact absurd hb (not_dropFree_host id x)
    | _ => rfl

/-- By induction on the left value: the containers are compared alike, so that only their scalars
matter. -/
theorem equals_eq_identical {a b : Value H} (ha : a.DropFree) (hb : b.DropFree) :
    a.equals b = a.withoutChars.identical b.withoutChars := by
  induction ha generalizing b with
  | scalar hv => exact equals_eq_identical_of_isScalar hv hb
  | array h ih =>
    cases b with
    | array others =>
      rw [equals_array, withoutChars_array, withoutChars_array, identical_array]
      exact (isEqv_map fun v hv w hw => ih v hv (hb.of_mem_array w hw)).symm
    | host id x => exact absurd hb (not_dropFree_host id x)
    | _ => rfl
  | object h ih =>
    cases b with
    | object others =>
      rw [equals_object, withoutChars_object, withoutChars_object, identical_object]
      exact (Table.matched_map fun e he e' he' => ih e he (hb.of_mem_object e' he')).symm
    | host id x => exact absurd hb (not_dropFree_host id x)
    | _ => rfl

/-- Equality is identity up to characters, and identity itself where no characters are. -/
theorem equalities_agree_up_to_chars {a b : Value H} (ha : a.DropFree) (hb : b.DropFree) :
    a.equals b = a.withoutChars.identical b.withoutChars ∧
    (a.CharFree → b.CharFree → a.equals b = a.identical b) := by
  refine ⟨equals_eq_identical ha hb, fun hchars hchars' => ?_⟩
  rw [equals_eq_identical ha hb, withoutChars_eq_self hchars, withoutChars_eq_self hchars']

theorem equalities_agree_up_to_chars_in_array :
    let a : Value Sample.Object := array [.char 'x', .int 2]
    let b : Value Sample.Object := array [.string "x", .int 2]
    a.equals b = a.withoutChars.identical b.withoutChars ∧ b.equals b = b.identical b ∧
      a.equals b = true ∧ a.identical b = false := by
  intro a b
  have ha : a.DropFree := .array (List.forall_mem_cons.mpr
    ⟨.scalar rfl trivial, List.forall_mem_singleton.mpr (.scalar rfl trivial)⟩)
  have hb : b.CharFree := by
    refine .array
      (List.forall_mem_cons.mpr ⟨.scalar rfl ?_, List.forall_mem_singleton.mpr (.scalar rfl ?_)⟩)
    · intro c h
      cases h
    · intro c h
      cases h
  have hb' : b.DropFree := hb.mono fun _ _ => trivial
  exact ⟨(equalities_agree_up_to_chars ha hb').1, (equalities_agree_up_to_chars hb' hb').2 hb hb,
    by decide +kernel, by decide +kernel⟩

end LiquidEval.Value
