import LiquidEval.Proofs.Condition.Reading

/-! The texts of conditions. Blanks around an operator may be missing, those around a joining word
may not. What is read as a condition is a text of it, and the reader leaves the rest of its input as
it was. -/
namespace LiquidEval
open LiquidEval.Expr (Blanks skipBlanks exists_blanks_append_skipBlanks)

inductive Comparison.Spells : Comparison → List Char → Prop where
  | bare {left : String} (hleft : IsOperand left) : Spells ⟨left, none, none⟩ left.toList
  | tested {left operator right : String} {w w' : List Char} (hleft : IsOperand left)
      (hw : Blanks w)
      (hoperator : IsOperator operator.toList) (hw' : Blanks w') (hright : IsOperand right) :
      Spells ⟨left, some operator, some right⟩
        (left.toList ++ (w ++ (operator.toList ++ (w' ++ right.toList))))

theorem Comparison.Spells.startsSolid {x : Comparison} {t : List Char} (h : x.Spells t) :
    Expr.StartsSolid t := by
  cases h with
  | bare hleft => exact hleft.startsSolid
  | tested hleft => exact hleft.startsSolid.append _

namespace Markup

inductive TailSpells : List (Logical × Comparison) → List Char → Prop where
  | done : TailSpells [] []
  | link {l : Logical} {x : Comparison} {tail : List (Logical × Comparison)} {w w' t u : List Char}
      (hw : Blanks w) (hne : w ≠ []) (hw' : Blanks w') (hne' : w' ≠ []) (hx : x.Spells t)
      (htail : TailSpells tail u) :
      TailSpells ((l, x) :: tail) (w ++ (l.text.toList ++ (w' ++ (t ++ u))))

theorem TailSpells.ne_nil {link : Logical × Comparison} {tail : List (Logical × Comparison)}
    {t : List Char} (h : TailSpells (link :: tail) t) : t ≠ [] := by
  cases h with
  | link _ hne => exact List.append_ne_nil_of_left_ne_nil hne _

inductive Spells : Markup → List Char → Prop where
  | mk {m : Markup} {t u : List Char} (hhead : m.head.Spells t) (htail : TailSpells m.tail u) :
      Spells m (t ++ u)

theorem operand?_split {s rest : List Char} {text : String} (h : operand? s = some (text, rest)) :
    s = text.toList ++ rest := by
  obtain ⟨⟨e, r⟩, hread, h⟩ := Option.map_eq_some_iff.mp h
  cases h
  obtain ⟨t, rfl, -⟩ := Expr.read?_sound hread
  simp

theorem operator?_split {s operator rest : List Char} (h : operator? s = some (operator, rest)) :
    s = operator ++ rest := by
  unfold operator? at h
  split at h
  next r hread =>
    cases h
    obtain ⟨symbol, -, hsymbol⟩ := List.exists_of_findSome?_eq_some hread
    obtain ⟨r, hr, hpair⟩ := Option.map_eq_some_iff.mp hsymbol
    cases hpair
    exact Expr.after?_eq_some_iff.mp hr
  next =>
    cases s with
    | nil => cases h
    | cons c s =>
      simp only [wordOperator?] at h
      split at h
      next =>
        split at h
        next => cases h
        next =>
          cases h
          rw [List.cons_append, List.takeWhile_append_dropWhile]
      next => cases h

/-- The parts of a test, and what the readers of its parts make of them. -/
theorem test?_split {s rest : List Char} {operator right : String}
    (h : test? s = some ((operator, right), rest)) : ∃ w w', Blanks w ∧ Blanks w' ∧
      s = w ++ (operator.toList ++ (w' ++ (right.toList ++ rest))) ∧
      operator? (operator.toList ++ (w' ++ (right.toList ++ rest))) =
        some (operator.toList, w' ++ (right.toList ++ rest)) ∧
      operand? (right.toList ++ rest) = some (right, rest) := by
  unfold test? at h
  split at h
  next op s' hoperator =>
    split at h
    next right' rest' hright =>
      cases h
      obtain ⟨w, hw, hs⟩ := exists_blanks_append_skipBlanks s
      obtain ⟨w', hw', hs'⟩ := exists_blanks_append_skipBlanks s'
      have hoperator' := operator?_split hoperator
      rw [hoperator'] at hs hoperator
      have hright' := operand?_split hright
      rw [hright'] at hs' hright
      rw [hs'] at hs hoperator
      rw [String.toList_ofList]
      exact ⟨w, w', hw, hw', hs, hoperator, hright⟩
    next => cases h
  next => cases h

theorem comparison?_spells {s rest : List Char} {x : Comparison}
    (h : comparison? s = some (x, rest)) :
    ∃ t, s = t ++ rest ∧ x.Spells t := by
  unfold comparison? at h
  split at h
  next left s' hleft =>
    have hoperand := operand?_sound hleft
    split at h
    next operator right r htest =>
      cases h
      obtain ⟨hoperator, hright⟩ := test?_sound htest
      obtain ⟨w, w', hw, hw', hs', -, -⟩ := test?_split htest
      refine ⟨_, ?_, .tested hoperand hw hoperator hw' hright⟩
      simp only [List.append_assoc]
      rw [← hs', ← operand?_split hleft]
    next =>
      cases h
      exact ⟨_, operand?_split hleft, .bare hoperand⟩
  next => cases h

theorem blanks?_sound {s rest : List Char} (h : blanks? s = some rest) :
    ∃ w, w ≠ [] ∧ Blanks w ∧ s = w ++ rest := by
  unfold blanks? at h
  split at h
  next c s =>
    split at h
    next hc =>
      cases h
      obtain ⟨w, hw, hs⟩ := exists_blanks_append_skipBlanks s
      exact ⟨c :: w, List.cons_ne_nil c w, List.forall_mem_cons.mpr ⟨hc, hw⟩, congrArg (c :: ·) hs⟩
    next => cases h
  next => cases h

theorem joiner?_sound {s rest : List Char} {l : Logical} (h : joiner? s = some (l, rest)) :
    s = l.text.toList ++ rest := by
  unfold joiner? at h
  split at h
  next r hand =>
    cases h
    exact (Expr.keyword?_eq_some_iff.mp hand).1
  next =>
    obtain ⟨r, hor, hr⟩ := Option.map_eq_some_iff.mp h
    cases hr
    exact (Expr.keyword?_eq_some_iff.mp hor).1

theorem link?_spells {s rest : List Char} {link : Logical × Comparison}
    (h : link? s = some (link, rest)) :
    ∃ t, s = t ++ rest ∧ ∀ tail u, TailSpells tail u → TailSpells (link :: tail) (t ++ u) := by
  unfold link? at h
  split at h
  next s₁ hblanks =>
    obtain ⟨w, hne, hw, rfl⟩ := blanks?_sound hblanks
    split at h
    next l s₂ hjoiner =>
      split at h
      next s₃ hblanks' =>
        obtain ⟨w', hne', hw', rfl⟩ := blanks?_sound hblanks'
        obtain ⟨⟨x, r⟩, hread, h⟩ := Option.map_eq_some_iff.mp h
        cases h
        obtain ⟨t, rfl, hx⟩ := comparison?_spells hread
        refine ⟨w ++ (l.text.toList ++ (w' ++ t)), ?_, fun tail u hu => ?_⟩
        · rw [joiner?_sound hjoiner]
          simp only [List.append_assoc]
        · simpa only [List.append_assoc] using TailSpells.link hw hne hw' hne' hx hu
      next => cases h
    next => cases h
  next => cases h

theorem links_spells (fuel : Nat) (s : List Char) :
    ∃ u, s = u ++ (links fuel s).2 ∧ TailSpells (links fuel s).1 u := by
  induction fuel generalizing s with
  | zero => exact ⟨[], rfl, .done⟩
  | succ fuel ih =>
    rw [links]
    split
    next link r h =>
      obtain ⟨t, rfl, hlink⟩ := link?_spells h
      obtain ⟨u, hu, htail⟩ := ih r
      refine ⟨t ++ u, ?_, hlink _ _ htail⟩
      rw [List.append_assoc, ← hu]
    next => exact ⟨[], rfl, .done⟩

/-- What is read spells the markup, and the rest stands behind it. -/
theorem read?_spells {s rest : List Char} {m : Markup} (h : read? s = some (m, rest)) :
    ∃ t, s = t ++ rest ∧ m.Spells t := by
  unfold read? at h
  split at h
  next head s' hhead =>
    cases h
    obtain ⟨t, rfl, ht⟩ := comparison?_spells hhead
    obtain ⟨u, hu, htail⟩ := links_spells s'.length s'
    refine ⟨t ++ u, ?_, .mk ht htail⟩
    rw [List.append_assoc, ← hu]
  next => cases h

theorem Spells.startsSolid {m : Markup} {t : List Char} (h : m.Spells t) : Expr.StartsSolid t := by
  cases h with
  | mk hhead => exact hhead.startsSolid.append _

/-- Behind a condition that is a whole text there are only blanks. -/
theorem ofChars_eq_ok_iff {s : List Char} {m : Markup} :
    ofChars s = .ok m ↔ ∃ w, read? (skipBlanks s) = some (m, w) ∧ Blanks w := by
  have hblanks (w : List Char) : skipBlanks w = [] ↔ Blanks w := List.dropWhile_eq_nil_iff
  constructor
  · intro h
    simp only [ofChars] at h
    split at h
    next => cases h
    next =>
      split at h
      next => cases h
      next m' w hread =>
        split at h
        next hw =>
          cases h
          exact ⟨w, hread, (hblanks w).mp hw⟩
        next => cases h
  · rintro ⟨w, hread, hw⟩
    have hne : Text.trimChars s ≠ [] := by
      obtain ⟨t, ht, hspells⟩ := read?_spells hread
      obtain ⟨c, hc, hsolid⟩ := hspells.startsSolid.append w
      have hmem : c ∈ skipBlanks s := by
        rw [ht]
        exact List.mem_of_mem_head? hc
      exact Expr.trimChars_ne_nil ((List.dropWhile_sublist _).mem hmem) hsolid
    simp only [ofChars]
    rw [if_neg (mt List.isEmpty_iff.mp hne), hread]
    dsimp only
    rw [(hblanks w).mpr hw]

end Markup
end LiquidEval
