import Mathlib.Data.List.Sort
import Mathlib.Data.String.Basic
import LiquidEval.Filter.Strainer

/-! The signature of a filter: the number of its ordered parameters, and the set of keys under which
its named parameters are looked up. A call that supplies a signature means an overload that has
it. -/
namespace LiquidEval

theorem mem_insertName {name key : String} {keys : List String} :
    key ∈ insertName name keys ↔ key = name ∨ key ∈ keys := by
  induction keys with
  | nil => simp [insertName]
  | cons n rest ih =>
    rw [insertName]
    split
    next h => simp [h]
    next =>
      split
      next => simp
      next => rw [List.mem_cons, ih, List.mem_cons, or_left_comm]

theorem pairwise_insertName {keys : List String} (name : String) (h : keys.Pairwise (· < ·)) :
    (insertName name keys).Pairwise (· < ·) := by
  induction keys with
  | nil => simp [insertName]
  | cons n rest ih =>
    obtain ⟨hn, hrest⟩ := List.pairwise_cons.mp h
    rw [insertName]
    split
    next => exact h
    next hne =>
      split
      next hlt =>
        refine List.pairwise_cons.mpr ⟨?_, h⟩
        intro key hkey
        rcases List.mem_cons.mp hkey with rfl | hkey
        · exact hlt
        · exact String.lt_trans hlt (hn key hkey)
      next hlt =>
        refine List.pairwise_cons.mpr ⟨?_, ih hrest⟩
        intro key hkey
        rcases mem_insertName.mp hkey with rfl | hkey
        · exact lt_of_le_of_ne (not_lt.mp hlt) hne
        · exact hn key hkey

namespace Naming

theorem mem_foldl_insertName (n : Naming) (names keys : List String) (key : String) :
    key ∈ names.foldl (fun keys name => insertName (n.lookupKey name) keys) keys ↔
      key ∈ names.map n.lookupKey ∨ key ∈ keys := by
  induction names generalizing keys with
  | nil => simp
  | cons name names ih =>
    rw [List.foldl_cons, ih, mem_insertName, List.map_cons, List.mem_cons, or_left_comm,
      or_assoc]

theorem mem_keySet {n : Naming} {names : List String} {key : String} :
    key ∈ n.keySet names ↔ key ∈ names.map n.lookupKey := by
  rw [keySet, mem_foldl_insertName]
  simp

theorem pairwise_keySet (n : Naming) (names : List String) :
    (n.keySet names).Pairwise (· < ·) := by
  rw [keySet]
  have hall : ∀ keys : List String, keys.Pairwise (· < ·) →
      (names.foldl (fun keys name => insertName (n.lookupKey name) keys) keys).Pairwise
        (· < ·) := by
    induction names with
    | nil => exact fun keys h => h
    | cons name names ih => exact fun keys h => ih _ (pairwise_insertName _ h)
  exact hall [] List.Pairwise.nil

/-- Neither order nor repetition of the names matters, nor how they are spelled. -/
theorem keySet_eq_iff {n : Naming} {xs ys : List String} :
    n.keySet xs = n.keySet ys ↔ ∀ key, key ∈ xs.map n.lookupKey ↔ key ∈ ys.map n.lookupKey := by
  constructor
  · intro h key
    rw [← mem_keySet, h, mem_keySet]
  · intro h
    refine (pairwise_keySet n xs).eq_of_mem_iff (pairwise_keySet n ys) ?_
    intro key
    rw [mem_keySet, mem_keySet]
    exact h key

end Naming

namespace Descriptor
variable {H : Type} {d e : Descriptor H} {n : Naming} {positional : Nat} {names : List String}

/-- What a call supplies is the signature of the overload. -/
def Answers (d : Descriptor H) (n : Naming) (positional : Nat) (names : List String) : Prop :=
  positional = d.orderedCount ∧
    ∀ key, key ∈ names.map n.lookupKey ↔ key ∈ d.named.map fun p => n.lookupKey p.name

theorem fitsCall_iff_answers :
    d.fitsCall n positional names = true ↔ d.Answers n positional names := by
  rw [fitsCall, Bool.and_eq_true, beq_iff_eq, beq_iff_eq, namedKeys, Naming.keySet_eq_iff,
    Answers, List.map_map]
  rfl

theorem sameSignature_iff :
    d.sameSignature e n = true ↔
      d.orderedCount = e.orderedCount ∧ d.namedKeys n = e.namedKeys n := by
  rw [sameSignature, Bool.and_eq_true, beq_iff_eq, beq_iff_eq]

theorem sameSignature_refl (d : Descriptor H) (n : Naming) : d.sameSignature d n = true :=
  sameSignature_iff.mpr ⟨rfl, rfl⟩

theorem sameSignature_comm (d e : Descriptor H) (n : Naming) :
    d.sameSignature e n = e.sameSignature d n := by
  rw [sameSignature, sameSignature, BEq.comm, BEq.comm (a := d.namedKeys n)]

/-- Two overloads of one signature have it in common with the same others. -/
theorem sameSignature_congr (h : d.sameSignature e n = true) (f : Descriptor H) :
    d.sameSignature f n = e.sameSignature f n := by
  obtain ⟨hcount, hkeys⟩ := sameSignature_iff.mp h
  rw [sameSignature, sameSignature, hcount, hkeys]

/-- Two overloads of one signature are meant by the same calls. -/
theorem fitsCall_of_sameSignature (h : d.sameSignature e n = true) :
    d.fitsCall n positional names = e.fitsCall n positional names := by
  obtain ⟨hcount, hkeys⟩ := sameSignature_iff.mp h
  rw [fitsCall, fitsCall, hcount, hkeys]

theorem sameSignature_of_fitsCall (hd : d.fitsCall n positional names = true)
    (he : e.fitsCall n positional names = true) : d.sameSignature e n = true := by
  rw [fitsCall, Bool.and_eq_true, beq_iff_eq, beq_iff_eq] at hd he
  exact sameSignature_iff.mpr ⟨hd.1.symm.trans he.1, hd.2.symm.trans he.2⟩

end Descriptor
end LiquidEval
