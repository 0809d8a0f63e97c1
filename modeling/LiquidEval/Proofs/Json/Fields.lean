import Mathlib.Data.List.Forall2
import Mathlib.Data.List.Induction
import LiquidEval.Json.Reader
import LiquidEval.Proofs.Filter.Signature
import LiquidEval.Toml
import LiquidEval.Value.Document

/-! Fields of objects. Whatever a document was read from, no object of it has a field twice. -/
namespace LiquidEval

namespace Json

theorem names_insertSorted (name : String) (value : Json) (fields : List (String × Json)) :
    Table.names (insertSorted name value fields) = insertName name (Table.names fields) := by
  induction fields with
  | nil => rfl
  | cons e rest ih =>
    obtain ⟨n, v⟩ := e
    have hnames : Table.names ((n, v) :: rest) = n :: Table.names rest := rfl
    rw [insertSorted, hnames, insertName]
    by_cases hn : n = name
    · rw [if_pos hn, if_pos hn, hn]
      rfl
    · rw [if_neg hn, if_neg hn]
      by_cases hlt : name < n
      · rw [if_pos hlt, if_pos hlt]
        rfl
      · rw [if_neg hlt, if_neg hlt, ← ih]
        rfl

theorem pairwise_names_sortFields (fields : List (String × Json)) :
    (Table.names (sortFields fields)).Pairwise (· < ·) := by
  have hfold : ∀ (fields t : List (String × Json)), (Table.names t).Pairwise (· < ·) →
      (Table.names (fields.foldl (fun t e => insertSorted e.1 e.2 t) t)).Pairwise (· < ·) := by
    intro fields
    induction fields with
    | nil => exact fun t ht => ht
    | cons e rest ih =>
      intro t ht
      refine ih _ ?_
      rw [names_insertSorted]
      exact pairwise_insertName e.1 ht
  exact hfold fields [] List.Pairwise.nil

theorem distinct_sortFields (fields : List (String × Json)) : Table.Distinct (sortFields fields) :=
  (pairwise_names_sortFields fields).imp ne_of_lt

theorem NumberParts.value_ne_object {p : NumberParts} {fields : List (String × Json)} :
    p.value ≠ some (.object fields) := by
  intro h
  unfold NumberParts.value wholeNumber at h
  dsimp only at h
  split at h
  · split at h
    · cases h
    · split at h <;> cases h
  · obtain ⟨f, -, hf⟩ := Option.map_eq_some_iff.mp h
    cases hf

theorem readNumber_ne_object {s rest : List Char} {fields : List (String × Json)} :
    readNumber s ≠ some (.object fields, rest) := by
  intro h
  unfold readNumber at h
  dsimp only at h
  obtain ⟨whole, -, h⟩ := Option.bind_eq_some_iff.mp h
  obtain ⟨fraction, -, h⟩ := Option.bind_eq_some_iff.mp h
  obtain ⟨exponent, -, h⟩ := Option.bind_eq_some_iff.mp h
  obtain ⟨value, hvalue, h⟩ := Option.bind_eq_some_iff.mp h
  cases h
  exact NumberParts.value_ne_object hvalue

theorem distinct_of_readValue {depth : Nat} {s rest : List Char} {fields : List (String × Json)}
    (h : readValue depth s = some (.object fields, rest)) : Table.Distinct fields := by
  unfold readValue at h
  split at h
  · cases h
  · cases h
  · cases h
  · obtain ⟨r, -, hr⟩ := Option.map_eq_some_iff.mp h
    cases hr
  · split at h
    · cases h
    · split at h
      · cases h
      · obtain ⟨r, -, hr⟩ := Option.map_eq_some_iff.mp h
        cases hr
  · split at h
    · cases h
    · split at h
      · cases h
        exact List.nodup_nil
      · obtain ⟨r, -, hr⟩ := Option.map_eq_some_iff.mp h
        cases hr
        exact distinct_sortFields r.1
  · exact absurd h readNumber_ne_object

/-- An object that was read has no field twice. -/
theorem distinct_of_read? {text : String} {fields : List (String × Json)}
    (h : read? text = some (.object fields)) : Table.Distinct fields := by
  unfold read? at h
  split at h
  next j rest hread =>
    split at h
    · cases h
      exact distinct_of_readValue hread
    · cases h
  next => cases h

end Json

theorem Value.ofJsonFields_eq_map {H : Type} (fields : List (String × Json)) :
    (ofJsonFields fields : List (String × Value H)) = fields.map fun e => (e.1, ofJson e.2) := by
  induction fields with
  | nil => rw [ofJsonFields, List.map_nil]
  | cons e rest ih => rw [ofJsonFields, ih, List.map_cons]

namespace Toml

end Toml
end LiquidEval
