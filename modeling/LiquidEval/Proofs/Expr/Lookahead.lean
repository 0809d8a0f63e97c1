import LiquidEval.Proofs.Expr.Reading

/-! How far the reader of expressions looks. Where it stops in front of a character of a word, as it
may behind a string, a bracket, a mark or a number, it has seen no more of the text behind than that
character. -/
namespace LiquidEval.Expr

section
variable {c : Char} (hc : isWord c = true) {s s' : List Char}
include hc

theorem mark_of_isWord {mark : List Char} (hmark : IsMark mark)
    (h : (mark ++ c :: s).head?.any isWord = false) :
    mark = ['?'] := by
  rcases hmark with rfl | rfl
  · simp [hc] at h
  · rfl

end

theorem wordText_mark {w : List Char} (hw : Words w) (s : List Char) :
    wordText (w ++ '?' :: s) = (w ++ ['?'], s) := by
  have hmark : ('?' :: s).head?.any isWord = false := rfl
  simp only [wordText, takeWhile_append_of_head hw hmark, dropWhile_append_of_head hw hmark,
    markText]

/-- A word that stops in front of a character of words has its mark. -/
theorem wordText_of_isWord {c : Char} (hc : isWord c = true) {t word s : List Char}
    (h : wordText (t ++ c :: s) = (word, c :: s)) :
    ∃ w, Words w ∧ t = w ++ ['?'] ∧ word = w ++ ['?'] := by
  obtain ⟨w, mark, hread, hs, hw, hmark, hhead⟩ := wordText_sound (t ++ c :: s)
  rw [h] at hread hs hhead
  obtain rfl := mark_of_isWord hc hmark hhead
  refine ⟨w, hw, ?_, congrArg Prod.fst hread⟩
  rw [← List.append_assoc] at hs
  exact List.append_cancel_right hs

theorem mark_of_wordText {c : Char} (hc : isWord c = true) {w mark s : List Char} (hw : Words w)
    (hmark : IsMark mark) (h : (wordText (w ++ mark ++ c :: s)).2 = c :: s) : mark = ['?'] := by
  rcases hmark with rfl | rfl
  · obtain ⟨w', -, ht, -⟩ := wordText_of_isWord hc (Prod.ext rfl h)
    rw [List.append_nil] at ht
    have hword : isWord '?' = true := hw '?' (by rw [ht]; simp)
    exact absurd hword (by decide)
  · rfl

/-- A root that stops in front of a character of words stops in front of anything. -/
theorem root?_of_isWord {c : Char} (hc : isWord c = true) {root : String} {t s : List Char}
    (h : root? (t ++ c :: s) = some (root, c :: s)) (hliteral : literal? (t ++ c :: s) = none)
    (rest : List Char) :
    root? (t ++ rest) = some (root, rest) ∧ literal? (t ++ rest) = none := by
  obtain ⟨t', ht, hroot⟩ := root?_sound h hliteral
  obtain rfl := List.append_cancel_right ht
  cases hroot with
  | @name c₀ w mark hstart hw hmark hkey =>
    have hread : (wordText (w ++ mark ++ c :: s)).2 = c :: s := by
      simp only [root?, List.cons_append, name?, hstart, if_true, Option.some.injEq, Prod.mk.injEq]
        at h
      exact h.2
    obtain rfl := mark_of_wordText hc hw hmark hread
    have htext : c₀ :: (w ++ ['?']) ++ rest = c₀ :: (w ++ '?' :: rest) := by simp
    have hnone : keywordLiteral? (c₀ :: w ++ '?' :: rest) = none :=
      keywordLiteral?_eq_none (words_cons hstart hw) rfl hkey
    rw [htext, literal?_of_startsName hstart]
    refine ⟨?_, hnone⟩
    simp only [root?, name?, hstart, if_true, wordText_mark hw]
  | @bracketed _ w t w' hw hs hw' =>
    have hname : name? ('[' :: (w ++ (t ++ (w' ++ ']' :: rest)))) = none :=
      name?_eq_none (by decide) _
    have htext : '[' :: (w ++ (t ++ (w' ++ [']']))) ++ rest =
        '[' :: (w ++ (t ++ (w' ++ ']' :: rest))) := by simp
    rw [htext, root?, hname, bracketedName?_complete hw hs hw']
    exact ⟨rfl, literal?_eq_none_of_bracket (.inr rfl) _⟩

theorem head?_any_isAsciiDigit_of_numberText? {t rest s : List Char}
    (h : numberText? s = some (t, rest)) :
    rest.head?.any Decimal.isAsciiDigit = false := by
  simp only [numberText?] at h
  cases hread : digits1? (signText s).2 with
  | none => simp [hread] at h
  | some r =>
    obtain ⟨whole, r⟩ := r
    obtain ⟨-, -, hwhole⟩ := digits1?_eq_some_iff.mp hread
    simp only [hread, Option.some.injEq, Prod.mk.injEq] at h
    obtain ⟨-, rfl⟩ := h
    unfold fractionText
    split
    next u =>
      split
      next digits rest hfraction => exact (digits1?_eq_some_iff.mp hfraction).2.2
      next => exact hwhole
    next => exact hwhole

theorem endsNumber_of_isWord {c : Char} (hc : isWord c = true)
    (hdigit : Decimal.isAsciiDigit c = false) (s : List Char) : endsNumber (c :: s) := by
  refine ⟨by simp [hdigit], ?_⟩
  unfold fractionText
  split
  next h => cases h; exact absurd hc (by decide)
  next => rfl

/-- A keyword is not read in front of a character of words. A string is read in front of anything,
and a number where its digits end. -/
theorem literal?_of_isWord {c : Char} (hc : isWord c = true) {v : Literal} {t s : List Char}
    (h : literal? (t ++ c :: s) = some (v, c :: s)) (s' : List Char) :
    literal? (t ++ c :: s') = some (v, c :: s') := by
  unfold literal? at h
  split at h
  next text r hread =>
    cases h
    obtain ⟨t', ht, hstring⟩ := quotedText?_sound hread
    obtain rfl := List.append_cancel_right ht
    rw [literal?, quotedText?_complete hstring]
  next =>
    split at h
    next t' r hread =>
      cases h
      have hdigit := head?_any_isAsciiDigit_of_numberText? hread
      obtain ⟨ht, hnumber⟩ := numberText?_sound hread
      obtain rfl := List.append_cancel_right ht
      have hnumberText := numberText?_complete hnumber (endsNumber_of_isWord hc hdigit s')
      obtain ⟨d, u, rfl, hdouble, hsingle⟩ := hnumber.exists_cons
      rw [List.cons_append] at hnumberText ⊢
      rw [literal?, quotedText?_eq_none hdouble hsingle, hnumberText]
    next =>
      obtain ⟨k, -, hk⟩ := List.exists_of_findSome?_eq_some h
      obtain ⟨r, hread, hr⟩ := Option.map_eq_some_iff.mp hk
      cases hr
      obtain ⟨-, hhead⟩ := keyword?_eq_some_iff.mp hread
      simp [hc] at hhead

theorem lookup?_eq_none_of_isWord (inner : Reader Expr) {c : Char} (hc : isWord c = true)
    (s : List Char) :
    lookup? inner (c :: s) = none := by
  unfold lookup?
  split
  next h => cases h; exact absurd hc (by decide)
  next h => cases h; exact absurd hc (by decide)
  next => rfl

theorem lookups_eq_of_isWord (inner : Reader Expr) (fuel : Nat) {c : Char} (hc : isWord c = true)
    (s : List Char) :
    lookups inner fuel (c :: s) = ([], c :: s) := by
  cases fuel with
  | zero => rfl
  | succ fuel => rw [lookups, lookup?_eq_none_of_isWord inner hc]

theorem wordText_of_lookup? {inner : Reader Expr} {c : Char} {s rest : List Char} {l : Lookup}
    (h : lookup? inner ('.' :: c :: s) = some (l, rest)) : (wordText (c :: s)).2 = rest := by
  simp only [lookup?] at h
  split at h
  · cases h
    rfl
  · cases h

/-- What one lookup reads in front of others, or of a character of words. -/
theorem lookup?_of_isWord {c : Char} (hc : isWord c = true) {depth depth' : Nat} {l : Lookup}
    {ls : List Lookup} {t u s : List Char} (ht : t.length ≤ depth') (hu : Derives (.lookups ls) u)
    (h : lookup? (readAt depth) (t ++ (u ++ c :: s)) = some (l, u ++ c :: s)) (s' : List Char) :
    lookup? (readAt depth') (t ++ (u ++ c :: s')) = some (l, u ++ c :: s') := by
  obtain ⟨t', ht', hl⟩ := lookup?_sound (readAt_sound depth) h
  obtain rfl := List.append_cancel_right ht'
  have hone := hl [] [] .done
  rw [List.append_nil] at hone
  generalize hlookups : Phrase.lookups [l] = p at hone
  cases hone with
  | @dot _ c₁ w mark _ hw hmark hdone =>
    cases hlookups
    cases hdone
    rw [List.append_nil] at h ⊢
    have hread : wordText (c₁ :: w ++ (mark ++ (u ++ c :: s'))) =
        (c₁ :: w ++ mark, u ++ c :: s') := by
      cases hu with
      | done =>
        obtain rfl := mark_of_wordText hc hw hmark (wordText_of_lookup? h)
        exact wordText_mark hw (c :: s')
      | dot => exact wordText_complete hw hmark rfl
      | bracket => exact wordText_complete hw hmark rfl
    simpa using lookup?_dot (readAt depth') hw hread
  | @bracket e _ _ w t w' _ hw he hasks hw' hdone =>
    cases hlookups
    cases hdone
    simp only [List.length_cons, List.length_append] at ht
    have hshort : t.length < depth' := by omega
    have hread := lookup?_bracket hw he hasks hw' he.reads hshort (u ++ c :: s')
    simpa using hread
  | _ => cases hlookups

/-- By induction on the fuel, each lookup being read in front of the text of those behind it. -/
theorem lookups_of_isWord {c : Char} (hc : isWord c = true) {depth fuel : Nat} {u s : List Char}
    {ls : List Lookup} (h : lookups (readAt depth) fuel (u ++ c :: s) = (ls, c :: s))
    {depth' fuel' : Nat} (hdepth : u.length ≤ depth') (hfuel : u.length ≤ fuel') (s' : List Char) :
    lookups (readAt depth') fuel' (u ++ c :: s') = (ls, c :: s') := by
  induction fuel generalizing u ls fuel' with
  | zero =>
    obtain ⟨rfl, hu⟩ := Prod.mk.inj h
    rw [List.append_left_eq_self.mp hu]
    exact lookups_eq_of_isWord _ fuel' hc s'
  | succ fuel ih =>
    rw [lookups] at h
    split at h
    next l r hread =>
      obtain ⟨hls, hrest⟩ := Prod.mk.inj h
      obtain ⟨u', hu', hderives⟩ := lookups_sound (readAt_sound depth) fuel r
      rw [hrest] at hu'
      subst hu'
      obtain ⟨t, ht, hl⟩ := lookup?_sound (readAt_sound depth) hread
      rw [← List.append_assoc] at ht
      obtain rfl := List.append_cancel_right ht
      rw [List.append_assoc] at hread ⊢
      have hpos : 0 < t.length := by
        have hne := hl [] [] .done
        rw [List.append_nil] at hne
        cases hne <;> simp
      rw [List.length_append] at hdepth hfuel
      obtain ⟨fuel', rfl⟩ : ∃ n, fuel' = n + 1 := ⟨fuel' - 1, by omega⟩
      have hfirst := lookup?_of_isWord hc (show t.length ≤ depth' by omega) hderives hread s'
      have hothers := ih (Prod.ext rfl hrest) (by omega) (show u'.length ≤ fuel' by omega)
      rw [lookups, hfirst]
      dsimp only
      rw [hothers, ← hls]
    next =>
      obtain ⟨rfl, hu⟩ := Prod.mk.inj h
      rw [List.append_left_eq_self.mp hu]
      exact lookups_eq_of_isWord _ fuel' hc s'

theorem exists_range_of_range? {inner : Reader Expr} {s rest : List Char} {e : Expr}
    (h : range? inner s = some (e, rest)) : ∃ a b, e = .range a b := by
  unfold range? at h
  repeat' split at h
  all_goals try cases h
  exact ⟨_, _, rfl⟩

/-- The root of a path is read in front of its lookups, or of the character that the path stops
at. -/
theorem root?_lookups_of_isWord {c : Char} (hc : isWord c = true) {root : String} {ls : List Lookup}
    {t u s : List Char} (hu : Derives (.lookups ls) u)
    (h : root? (t ++ (u ++ c :: s)) = some (root, u ++ c :: s))
    (hliteral : literal? (t ++ (u ++ c :: s)) = none) (s' : List Char) :
    root? (t ++ (u ++ c :: s')) = some (root, u ++ c :: s') ∧
      literal? (t ++ (u ++ c :: s')) = none := by
  obtain ⟨t', ht, hroot⟩ := root?_sound h hliteral
  obtain rfl := List.append_cancel_right ht
  cases hu with
  | done => exact root?_of_isWord hc h hliteral (c :: s')
  | dot => exact ⟨root?_complete hroot rfl, literal?_eq_none_of_isRoot hroot rfl⟩
  | bracket => exact ⟨root?_complete hroot rfl, literal?_eq_none_of_isRoot hroot rfl⟩

theorem readAt_of_isWord {c : Char} (hc : isWord c = true) {depth depth' : Nat} {e : Expr}
    {t s : List Char} (h : readAt depth (t ++ c :: s) = some (e, c :: s))
    (hdepth : t.length < depth') (s' : List Char) :
    readAt depth' (t ++ c :: s') = some (e, c :: s') := by
  obtain ⟨depth', rfl⟩ : ∃ n, depth' = n + 1 := ⟨depth' - 1, by omega⟩
  cases depth with
  | zero => cases h
  | succ depth =>
    simp only [readAt] at h
    split at h
    next v r hliteral =>
      cases h
      have hread := literal?_of_isWord hc hliteral s'
      simp only [readAt, hread]
    next hliteral =>
      split at h
      next r hrange =>
        cases h
        obtain ⟨a, b, rfl⟩ := exists_range_of_range? hrange
        obtain ⟨t', ht, hderives⟩ := range?_sound (readAt_sound depth) _ _ _ hrange
        obtain rfl := List.append_cancel_right ht
        cases hderives with
        | range hw₁ ha hw₂ hw₃ hb hw₄ =>
          simp only [List.length_cons, List.length_append] at hdepth
          exact readAt_range hw₁ ha hw₂ hw₃ hb hw₄ ha.reads hb.reads (by omega) (by omega) (c :: s')
      next =>
        unfold path? at h
        split at h
        next root r hroot =>
          obtain ⟨rfl, hrest⟩ := Prod.mk.inj (Option.some.inj h)
          obtain ⟨u, hu, hlookups⟩ := lookups_sound (readAt_sound depth) r.length r
          rw [hrest] at hu
          subst hu
          obtain ⟨t', ht, hisRoot⟩ := root?_sound hroot hliteral
          rw [← List.append_assoc] at ht
          obtain rfl := List.append_cancel_right ht
          rw [List.append_assoc] at hroot
          rw [List.append_assoc] at hliteral ⊢
          rw [List.length_append] at hdepth
          obtain ⟨hroot', hliteral'⟩ := root?_lookups_of_isWord hc hlookups hroot hliteral s'
          have hsteps := lookups_of_isWord hc (Prod.ext rfl hrest) (show u.length ≤ depth' by omega)
            (show u.length ≤ (u ++ c :: s').length by simp) s'
          simp only [readAt, hliteral', range?_eq_none_of_isRoot _ hisRoot, path?, hroot', hsteps]
        next => cases h

/-- What is behind the text of an expression is looked at no further than its first character. -/
theorem read?_of_isWord {c : Char} (hc : isWord c = true) {e : Expr} {t s : List Char}
    (h : read? (t ++ c :: s) = some (e, c :: s)) (s' : List Char) :
    read? (t ++ c :: s') = some (e, c :: s') :=
  readAt_of_isWord hc h (by rw [List.length_append]; omega) s'

end LiquidEval.Expr
