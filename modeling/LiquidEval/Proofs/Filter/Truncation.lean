import LiquidEval.Proofs.Filter.Conversion
import LiquidEval.Proofs.Filter.Invocation
import LiquidEval.Proofs.Filter.Listing

/-! Truncated texts. A text that is too long is cut so that it has the length that was asked for
with the ellipsis behind it, or the ellipsis alone is left where that is longer. Either way there is
nothing to cut a second time. -/
namespace LiquidEval

namespace Filter

section Texts
variable {s ellipsis : String} {length : Nat}

theorem truncateText_of_length_le (h : s.length ≤ length) (ellipsis : String) :
    truncateText s length ellipsis = s := if_pos h

theorem toList_truncateText (h : length < s.length) (ellipsis : String) :
    (truncateText s length ellipsis).toList =
      s.toList.take (length - ellipsis.length) ++ ellipsis.toList := by
  rw [truncateText, if_neg (Nat.not_le_of_lt h), String.toList_ofList]

theorem length_truncateText (h : length < s.length) (ellipsis : String) :
    (truncateText s length ellipsis).length = max length ellipsis.length := by
  rw [← String.length_toList, toList_truncateText h, List.length_append, List.length_take,
    String.length_toList, String.length_toList]
  omega

theorem truncateText_of_le_length (hs : length < s.length) (he : length ≤ ellipsis.length) :
    truncateText s length ellipsis = ellipsis := by
  apply String.toList_inj.mp
  rw [toList_truncateText hs, Nat.sub_eq_zero_of_le he, List.take_zero, List.nil_append]

theorem truncateText_truncateText (s : String) (length : Nat) (ellipsis : String) :
    truncateText (truncateText s length ellipsis) length ellipsis =
      truncateText s length ellipsis := by
  rcases Nat.lt_or_ge length s.length with hs | hs
  · rcases Nat.lt_or_ge length ellipsis.length with he | he
    · -- the ellipsis is too long itself, and truncated to itself
      rw [truncateText_of_le_length hs he.le, truncateText_of_le_length he he.le]
    · apply truncateText_of_length_le
      rw [length_truncateText hs]
      omega
  · rw [truncateText_of_length_le hs, truncateText_of_length_le hs]

end Texts

/-- What a text is truncated to: it is left as it is if it is short enough, and else a start of it
is kept in front of the ellipsis. A negative length is zero. -/
structure IsTruncation (s : String) (length : Int) (ellipsis result : String) : Prop where
  whole : (s.length : Int) ≤ max length 0 → result = s
  cut : max length 0 < (s.length : Int) →
    (∃ kept, kept <+: s.toList ∧ result.toList = kept ++ ellipsis.toList) ∧
      (result.length : Int) = max (max length ellipsis.length) 0

theorem isTruncation_truncateText (s : String) (length : Int) (ellipsis : String) :
    IsTruncation s length ellipsis (truncateText s length.toNat ellipsis) where
  whole h := truncateText_of_length_le (by omega) ellipsis
  cut h := by
    have hlong : length.toNat < s.length := by omega
    refine ⟨⟨_, List.take_prefix _ _, toList_truncateText hlong ellipsis⟩, ?_⟩
    rw [length_truncateText hlong]
    omega

/-- A text has only one truncation. -/
theorem IsTruncation.unique {s ellipsis result result' : String} {length : Int}
    (h : IsTruncation s length ellipsis result) (h' : IsTruncation s length ellipsis result') :
    result = result' := by
  rcases le_or_gt (s.length : Int) (max length 0) with hs | hs
  · rw [h.whole hs, h'.whole hs]
  · obtain ⟨⟨kept, hprefix, hresult⟩, hlength⟩ := h.cut hs
    obtain ⟨⟨kept', hprefix', hresult'⟩, hlength'⟩ := h'.cut hs
    have hsame : kept.length = kept'.length := by
      have hcount := congrArg List.length hresult
      have hcount' := congrArg List.length hresult'
      rw [List.length_append, String.length_toList] at hcount hcount'
      omega
    apply String.toList_inj.mp
    rw [hresult, hresult',
      (List.prefix_of_prefix_length_le hprefix hprefix' hsame.le).eq_of_length hsame]

variable {H : Type} [Host H]

/-- The standard filter that truncates. -/
def truncating : Descriptor H where
  name := "truncate"
  ordered := [required "input" .string, optional "length" .int32 (.int 50)]
  named := [optional "ellipsis" .string (.string "...")]
  body := fun a => .ok (truncate a.input (lengthOf (a.get 1)) (a.named "ellipsis").display)

/-- It is the only standard filter of its name. -/
theorem filter_standard_truncate (n : Naming) :
    (standard : List (Descriptor H)).filter (fun d => n.namesMatch "truncate" d.name) =
      [truncating] := by
  have hmatches : n.namesMatch "truncate" "size" = false ∧
      n.namesMatch "truncate" "upcase" = false ∧
      n.namesMatch "truncate" "downcase" = false ∧ n.namesMatch "truncate" "append" = false ∧
      n.namesMatch "truncate" "default" = false ∧ n.namesMatch "truncate" "plus" = false ∧
      n.namesMatch "truncate" "divided_by" = false ∧ n.namesMatch "truncate" "truncate" = true ∧
      n.namesMatch "truncate" "lookup" = false := by
    cases n <;> decide +kernel
  simp [standard, hmatches, truncating]

theorem mem_standard_truncate_iff {n : Naming} {d : Descriptor H} :
    d ∈ standard ∧ n.namesMatch "truncate" d.name = true ↔ d = truncating := by
  have hmem :
      d ∈ (standard : List (Descriptor H)).filter (fun d => n.namesMatch "truncate" d.name) ↔
        d = truncating := by
    rw [filter_standard_truncate, List.mem_singleton]
  rwa [List.mem_filter] at hmem

end Filter

namespace Strainer
open LiquidEval.Filter
variable {H : Type} {s : Strainer H}

/-- All that the strainer has of a name are the overloads that a list has of it. -/
def HasOnly (s : Strainer H) (name : String) (ds : List (Descriptor H)) : Prop :=
  ∀ d, d ∈ s.overloads name ↔ d ∈ ds ∧ s.naming.namesMatch name d.name = true

/-- A single overload is meant by every call. -/
theorem HasOnly.extend {name : String} {ds es : List (Descriptor H)} (h : s.HasOnly name ds)
    (hes : ∀ e ∈ es, s.naming.namesMatch name e.name = false) : (s.extend es).HasOnly name ds := by
  have hnone : es.filter (fun e => s.naming.namesMatch name e.name) = [] := by
    rw [List.filter_eq_nil_iff]
    exact fun e he => Bool.eq_false_iff.mp (hes e he)
  have hoverloads : (s.extend es).overloads name = s.overloads name := by
    rw [overloads_extend, hnone, latest, List.append_nil]
    exact List.filter_true _
  intro d
  rw [hoverloads, naming_extend]
  exact h d

theorem HasOnly.addFunction {name added : String} {ds : List (Descriptor H)} (h : s.HasOnly name ds)
    (hadded : s.naming.namesMatch name added = false) (e : Descriptor H) :
    (s.addFunction added e).HasOnly name ds := by
  intro d
  rw [overloads_addFunction, hadded, if_neg Bool.false_ne_true, naming_addFunction]
  exact h d

variable [Host H]

theorem HasOnly.mem_overloads_iff (h : s.HasOnly "truncate" standard) (d : Descriptor H) :
    d ∈ s.overloads "truncate" ↔ d = truncating :=
  (h d).trans mem_standard_truncate_iff

/-- Merging the standard filters into a strainer without the name gives it no other overload of
it. -/
theorem hasOnly_extend_standard (h : s.overloads "truncate" = []) :
    (s.extend standard).HasOnly "truncate" standard := by
  intro d
  rw [mem_standard_truncate_iff, overloads_extend, h, filter_standard_truncate]
  exact List.mem_singleton

/-- A process starts with the standard filters alone. -/
theorem hasOnly_initial (view : View H) :
    (Registry.initial.strainer view).HasOnly "truncate" standard := by
  have hlists : (Registry.initial : Registry H).providerFilters = [standard] := rfl
  have hfunctions : Table.values (Registry.initial : Registry H).functions = [] := rfl
  rw [Registry.strainer, hlists, hfunctions, List.foldl_nil, List.foldl_cons, List.foldl_nil]
  exact hasOnly_extend_standard rfl

theorem means_ellipsis_iff (n : Naming) (i : Nat) :
    Means n (truncating : Descriptor H) "ellipsis" i ↔ i = 2 := by
  have hmatches : n.namesMatch "input" "ellipsis" = false ∧
      n.namesMatch "length" "ellipsis" = false ∧
      n.namesMatch "ellipsis" "ellipsis" = true := by
    cases n <;> decide +kernel
  have hslot : slotOf? n (truncating : Descriptor H) "ellipsis" = some 2 := by
    simp [slotOf?, Descriptor.parameters, truncating, Filter.required, Filter.optional,
      List.findIdx?_cons, hmatches]
  rw [← slotOf?_eq_some_iff, hslot, Option.some_inj, eq_comm]

section Call
variable (n : Naming) (text ellipsis : String) (length : Int32)

omit [Host H] in
theorem converts_int32_toInt64 :
    Value.Converts .int32 (.int length.toInt64 : Value H) (.int length.toInt64) := by
  have hlow := length.le_toInt
  have hhigh := length.toInt_lt
  refine .int32 (.int _) ?_ ?_
  · rw [Int32.toInt_toInt64]
    omega
  · rw [Int32.toInt_toInt64]
    omega

/-- The text and the length are given by position, and the ellipsis by name. -/
theorem allBound_truncating :
    AllBound n (truncating : Descriptor H) [.string text, .int length.toInt64]
      [("ellipsis", .string ellipsis)]
      [.string text, .int length.toInt64, .string ellipsis] := by
  have hunnamed (i : Nat) (hi : i ≠ 2) :
      ∀ e ∈ [("ellipsis", (.string ellipsis : Value H))],
        ¬Means n (truncating : Descriptor H) e.1 i := by
    rw [List.forall_mem_singleton, means_ellipsis_iff]
    exact hi
  refine ⟨rfl, ?_⟩
  intro i p hp
  match i with
  | 0 =>
    cases hp
    refine ⟨_, rfl, .string text, ?_, .string text⟩
    apply Filled.byPosition (hunnamed 0 (by decide))
    · exact Nat.zero_lt_two
    · exact Nat.zero_lt_two
  | 1 =>
    cases hp
    refine ⟨_, rfl, .int length.toInt64, ?_, converts_int32_toInt64 length⟩
    apply Filled.byPosition (hunnamed 1 (by decide))
    · exact Nat.one_lt_two
    · exact Nat.one_lt_two
  | 2 =>
    cases hp
    refine ⟨_, rfl, .string ellipsis, ?_, .string ellipsis⟩
    exact .byName (List.nil_append _).symm ((means_ellipsis_iff n 2).mpr rfl)
      (List.forall_mem_nil _)
  | i + 3 => cases hp

theorem HasOnly.invoke_truncate (h : s.HasOnly "truncate" standard) :
    s.invoke "truncate" [.string text, .int length.toInt64] [("ellipsis", .string ellipsis)] =
      .ok (.string (truncateText text length.toInt.toNat ellipsis)) := by
  have hd := resolve_of_forall_mem_iff h.mem_overloads_iff 2 ["ellipsis"]
  rw [invoke_of_allBound hd (allBound_truncating s.naming text ellipsis length),
    ← Int32.toInt_toInt64]
  rfl

end Call

/-- Truncating leaves a text as it is or keeps a start of it in front of the ellipsis, as long
together as was asked for or as the ellipsis alone. Truncating the outcome in the same way does not
change it. -/
theorem truncation_bounded_and_idempotent (h : s.HasOnly "truncate" standard)
    (text ellipsis : String) (length : Int32) :
    ∃ result : String,
      s.invoke "truncate" [.string text, .int length.toInt64] [("ellipsis", .string ellipsis)] =
        .ok (.string result) ∧
      IsTruncation text length.toInt ellipsis result ∧
      s.invoke "truncate" [.string result, .int length.toInt64] [("ellipsis", .string ellipsis)] =
        .ok (.string result) := by
  refine ⟨truncateText text length.toInt.toNat ellipsis, h.invoke_truncate text ellipsis length,
    isTruncation_truncateText text length.toInt ellipsis, ?_⟩
  rw [h.invoke_truncate, truncateText_truncateText]

/-- Among filters of other names: a length with room for the ellipsis, and a negative one. -/
theorem truncation_bounded_and_idempotent_without_room :
    ∃ s : Strainer Sample.Object, s.filterNames.length = 11 ∧ s.HasOnly "truncate" standard ∧
      (∀ text ∈ ["wörter", "wör…"],
        s.invoke "truncate" [.string text, .int 4] [("ellipsis", .string "…")] =
          .ok (.string "wör…")) ∧
      ∀ text ∈ ["wörter", "..."],
        s.invoke "truncate" [.string text, .int (-1)] [("ellipsis", .string "...")] =
          .ok (.string "...") := by
  let initial : Strainer Sample.Object :=
    Registry.initial.strainer (FlatContext.view { naming := .csharp })
  let s := (initial.extend Sample.greetings.filters).addFunction "Truncated" (Sample.pick [] "")
  have hs : s.HasOnly "truncate" standard := by
    refine ((hasOnly_initial _).extend ?_).addFunction (by decide +kernel) _
    exact List.forall_mem_singleton.mpr (by decide +kernel)
  obtain ⟨start, hstart, hcut, hagain⟩ := truncation_bounded_and_idempotent hs "wörter" "…" 4
  obtain ⟨mark, hmark, hcut', hagain'⟩ := truncation_bounded_and_idempotent hs "wörter" "..." (-1)
  have hstartText : IsTruncation "wörter" (4 : Int32).toInt "…" "wör…" :=
    ⟨fun h => absurd h (by decide), fun _ => ⟨⟨['w', 'ö', 'r'], by decide, by decide⟩, by decide⟩⟩
  have hmarkText : IsTruncation "wörter" (-1 : Int32).toInt "..." "..." :=
    ⟨fun h => absurd h (by decide), fun _ => ⟨⟨[], by decide, by decide⟩, by decide⟩⟩
  obtain rfl := hcut.unique hstartText
  obtain rfl := hcut'.unique hmarkText
  refine ⟨s, by decide +kernel, hs, ?_, ?_⟩
  · exact List.forall_mem_cons.mpr ⟨hstart, List.forall_mem_singleton.mpr hagain⟩
  · exact List.forall_mem_cons.mpr ⟨hmark, List.forall_mem_singleton.mpr hagain'⟩

end Strainer
end LiquidEval
