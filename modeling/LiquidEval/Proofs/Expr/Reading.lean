import LiquidEval.Proofs.Expr.Words

/-! Reading an expression inverts the grammar. What is read is derived, whatever follows; and what
is derived is read in full wherever the text behind it stops it, so the text of an expression can be
moved from one place to another. -/
namespace LiquidEval.Expr

theorem markText_sound (s : List Char) :
    s = (markText s).1 ++ (markText s).2 ∧ IsMark (markText s).1 := by
  unfold markText
  split <;> simp [IsMark]

theorem markText_complete {mark rest : List Char} (hmark : IsMark mark)
    (hrest : endsWord rest = true) : markText (mark ++ rest) = (mark, rest) := by
  rcases hmark with rfl | rfl
  · rw [List.nil_append, markText.eq_def]
    split
    next => simp [endsWord] at hrest
    next => rfl
  · rfl

theorem head?_any_isWord_mark {mark rest : List Char} (hmark : IsMark mark)
    (hrest : endsWord rest = true) : (mark ++ rest).head?.any isWord = false := by
  rcases hmark with rfl | rfl
  · exact head?_any_isWord hrest
  · rfl

theorem wordText_complete {w mark rest : List Char} (hw : Words w) (hmark : IsMark mark)
    (hrest : endsWord rest = true) : wordText (w ++ (mark ++ rest)) = (w ++ mark, rest) := by
  have hhead := head?_any_isWord_mark hmark hrest
  simp only [wordText, takeWhile_append_of_head hw hhead, dropWhile_append_of_head hw hhead,
    markText_complete hmark hrest]

theorem wordText_sound (s : List Char) :
    ∃ w mark, wordText s = (w ++ mark, (wordText s).2) ∧ s = w ++ (mark ++ (wordText s).2) ∧
      Words w ∧ IsMark mark ∧ (mark ++ (wordText s).2).head?.any isWord = false := by
  obtain ⟨hs, hmark⟩ := markText_sound (s.dropWhile isWord)
  refine ⟨s.takeWhile isWord, (markText (s.dropWhile isWord)).1, rfl, ?_,
    forall_mem_takeWhile _ s, hmark, ?_⟩
  · simp only [wordText]
    rw [← hs, List.takeWhile_append_dropWhile]
  · simp only [wordText]
    rw [← hs]
    exact head?_any_dropWhile _ s

theorem name?_eq_none {c : Char} (hc : startsName c = false) (s : List Char) :
    name? (c :: s) = none := by
  simp [name?, hc]

/-- A name that stands where no literal does is none of the keywords. -/
theorem name?_sound {s rest : List Char} {root : String} (h : name? s = some (root, rest))
    (hliteral : literal? s = none) : ∃ t, s = t ++ rest ∧ IsRoot root t := by
  unfold name? at h
  split at h
  next c s =>
    split at h
    next hc =>
      obtain ⟨w, mark, hread, hs, hw, hmark, hhead⟩ := wordText_sound s
      rw [hread] at h
      cases h
      refine ⟨c :: (w ++ mark), ?_, .name hc hw hmark ?_⟩
      · rw [List.cons_append, List.append_assoc, ← hs]
      · refine not_isKeyword_iff.mpr fun k hk hkey => ?_
        rw [literal?_of_startsName hc] at hliteral
        have hnone := List.findSome?_eq_none_iff.mp hliteral k hk
        have hsome : keyword? k.1 (c :: s) = some (mark ++ (wordText s).2) := by
          refine keyword?_eq_some_iff.mpr ⟨?_, hhead⟩
          rw [hkey, List.cons_append, ← hs]
        rw [hsome] at hnone
        cases hnone
    next => cases h
  next => cases h

theorem bracketedName?_sound {s rest : List Char} {root : String}
    (h : bracketedName? s = some (root, rest)) : ∃ t, s = t ++ rest ∧ IsRoot root t := by
  unfold bracketedName? at h
  split at h
  next s =>
    obtain ⟨w, hw, hs⟩ := exists_blanks_append_skipBlanks s
    split at h
    next text s' hread =>
      obtain ⟨t, ht, hstring⟩ := quotedText?_sound hread
      obtain ⟨w', hw', hs'⟩ := exists_blanks_append_skipBlanks s'
      split at h
      next rest' hclose =>
        cases h
        refine ⟨_, ?_, .bracketed hw hstring hw'⟩
        calc
          '[' :: s = '[' :: (w ++ (t ++ (w' ++ ']' :: rest))) := by
            rw [← hclose, ← hs', ← ht, ← hs]
          _ = _ := by simp
      next => cases h
    next => cases h
  next => cases h

theorem root?_sound {s rest : List Char} {root : String} (h : root? s = some (root, rest))
    (hliteral : literal? s = none) : ∃ t, s = t ++ rest ∧ IsRoot root t := by
  unfold root? at h
  split at h
  next r hread =>
    cases h
    exact name?_sound hread hliteral
  next => exact bracketedName?_sound h

/-- Whatever a reader of nested expressions takes is derived. -/
def SoundReader (inner : Reader Expr) : Prop :=
  ∀ s e rest, inner s = some (e, rest) → ∃ t, s = t ++ rest ∧ Derives (.expr e) t

theorem segment_sound {c : Char} (hc : isWord c = true) (s : List Char) :
    ∃ t segment, wordText (c :: s) = (segment, (wordText (c :: s)).2) ∧
      '.' :: c :: s = t ++ (wordText (c :: s)).2 ∧
      ∀ ls u, Derives (.lookups ls) u →
        Derives (.lookups (dotLookup segment :: ls)) (t ++ u) := by
  obtain ⟨w, mark, hread, hs, hw, hmark, hhead⟩ := wordText_sound (c :: s)
  cases w with
  | nil =>
    rw [List.nil_append] at hs
    rw [← hs] at hhead
    simp [hc] at hhead
  | cons d w =>
    refine ⟨'.' :: d :: (w ++ mark), _, hread, ?_, ?_⟩
    · calc
        '.' :: c :: s = '.' :: (d :: w ++ (mark ++ (wordText (c :: s)).2)) := by rw [← hs]
        _ = _ := by simp
    · intro ls u hu
      simpa using Derives.dot hw hmark hu

theorem lookup?_sound {inner : Reader Expr} (hinner : SoundReader inner) {s rest : List Char}
    {l : Lookup} (h : lookup? inner s = some (l, rest)) :
    ∃ t, s = t ++ rest ∧
      ∀ ls u, Derives (.lookups ls) u → Derives (.lookups (l :: ls)) (t ++ u) := by
  unfold lookup? at h
  split at h
  next s =>
    split at h
    next c s' =>
      split at h
      next hc =>
        obtain ⟨t, segment, hread, hs, hl⟩ := segment_sound hc s'
        rw [hread] at h
        cases h
        exact ⟨t, hs, hl⟩
      next => cases h
    next => cases h
  next s =>
    obtain ⟨w, hw, hs⟩ := exists_blanks_append_skipBlanks s
    split at h
    next e s' hread =>
      obtain ⟨t, ht, he⟩ := hinner _ _ _ hread
      obtain ⟨w', hw', hs'⟩ := exists_blanks_append_skipBlanks s'
      split at h
      next rest' hclose =>
        cases h
        refine ⟨'[' :: (w ++ (t ++ (w' ++ [']']))), ?_, ?_⟩
        · calc
            '[' :: s = '[' :: (w ++ (t ++ (w' ++ ']' :: rest))) := by
              rw [← hclose, ← hs', ← ht, ← hs]
            _ = _ := by simp
        · intro ls u hu
          simpa using Derives.bracket hw he (asks_iff.mpr rfl) hw' hu
      next => cases h
    next => cases h
  next => cases h

theorem lookups_sound {inner : Reader Expr} (hinner : SoundReader inner) (fuel : Nat)
    (s : List Char) : ∃ u, s = u ++ (lookups inner fuel s).2 ∧
      Derives (.lookups (lookups inner fuel s).1) u := by
  induction fuel generalizing s with
  | zero => exact ⟨[], rfl, .done⟩
  | succ fuel ih =>
    rw [lookups]
    split
    next l s' hread =>
      obtain ⟨t, rfl, hl⟩ := lookup?_sound hinner hread
      obtain ⟨u, hu, hls⟩ := ih s'
      refine ⟨t ++ u, ?_, hl _ _ hls⟩
      rw [List.append_assoc, ← hu]
    next => exact ⟨[], rfl, .done⟩

theorem dots?_sound {s rest : List Char} (h : dots? s = some rest) : s = '.' :: '.' :: rest := by
  unfold dots? at h
  split at h
  · cases h; rfl
  · cases h

theorem range?_sound {inner : Reader Expr} (hinner : SoundReader inner) :
    SoundReader (range? inner) := by
  intro s e rest h
  unfold range? at h
  split at h
  next s =>
    obtain ⟨w₁, hw₁, hs₁⟩ := exists_blanks_append_skipBlanks s
    split at h
    next a s₂ hfirst =>
      obtain ⟨t, ht, ha⟩ := hinner _ _ _ hfirst
      obtain ⟨w₂, hw₂, hs₂⟩ := exists_blanks_append_skipBlanks s₂
      split at h
      next s₃ hdots =>
        obtain ⟨w₃, hw₃, hs₃⟩ := exists_blanks_append_skipBlanks s₃
        split at h
        next b s₄ hlast =>
          obtain ⟨u, hu, hb⟩ := hinner _ _ _ hlast
          obtain ⟨w₄, hw₄, hs₄⟩ := exists_blanks_append_skipBlanks s₄
          split at h
          next rest' hclose =>
            cases h
            refine ⟨_, ?_, .range hw₁ ha hw₂ hw₃ hb hw₄⟩
            calc
              '(' :: s =
                  '(' ::
                    (w₁ ++ (t ++ (w₂ ++ '.' :: '.' :: (w₃ ++ (u ++ (w₄ ++ ')' :: rest)))))) := by
                rw [← hclose, ← hs₄, ← hu, ← hs₃, ← dots?_sound hdots, ← hs₂, ← ht, ← hs₁]
              _ = _ := by simp
          next => cases h
        next => cases h
      next => cases h
    next => cases h
  next => cases h

theorem path?_sound {inner : Reader Expr} (hinner : SoundReader inner) {s rest : List Char}
    {e : Expr} (h : path? inner s = some (e, rest)) (hliteral : literal? s = none) :
    ∃ t, s = t ++ rest ∧ Derives (.expr e) t := by
  unfold path? at h
  split at h
  next root s' hroot =>
    cases h
    obtain ⟨t, rfl, ht⟩ := root?_sound hroot hliteral
    obtain ⟨u, hu, hls⟩ := lookups_sound hinner s'.length s'
    refine ⟨t ++ u, ?_, .path ht hls⟩
    rw [List.append_assoc, ← hu]
  next => cases h

theorem readAt_sound (depth : Nat) : SoundReader (readAt depth) := by
  induction depth with
  | zero =>
    intro s e rest h
    cases h
  | succ depth ih =>
    intro s e rest h
    simp only [readAt] at h
    split at h
    next v r hread =>
      cases h
      obtain ⟨t, hs, ht⟩ := literal?_sound hread
      exact ⟨t, hs, .literal ht⟩
    next hliteral =>
      split at h
      next r hread =>
        cases h
        exact range?_sound ih s e rest hread
      next => exact path?_sound ih h hliteral

theorem read?_sound {s rest : List Char} {e : Expr} (h : read? s = some (e, rest)) :
    ∃ t, s = t ++ rest ∧ Derives (.expr e) t :=
  readAt_sound _ s e rest h

theorem stops_blank {c : Char} (hc : Text.isBlank c = true) (s : List Char) :
    stops (c :: s) = true := by
  have hword := isWord_eq_false_of_isBlank hc
  rcases isBlank_cases hc with rfl | rfl | rfl | rfl <;> simp [stops, hword]

theorem stops_blanks_append {w s : List Char} (hw : Blanks w) (hs : stops s = true) :
    stops (w ++ s) = true := by
  cases w with
  | nil => exact hs
  | cons c w => exact stops_blank (hw c (by simp)) _

theorem stops_dots (s : List Char) : stops ('.' :: '.' :: s) = true := rfl

/-- Behind a word there stands at most a lookup, which is no part of it. -/
theorem Derives.endsWord {ls : List Lookup} {u : List Char} (h : Derives (.lookups ls) u)
    {rest : List Char} (hrest : endsWord rest = true) : endsWord (u ++ rest) = true := by
  cases h with
  | done => exact hrest
  | dot _ _ _ => rfl
  | bracket _ _ _ _ _ => rfl

theorem isBlank_eq_false_of_startsSolid {t : List Char} (h : StartsSolid t) (rest : List Char) :
    (t ++ rest).head?.any Text.isBlank = false := by
  obtain ⟨c, hc, hsolid⟩ := h
  have hblank : Text.isBlank c = false := by
    cases hb : Text.isBlank c with
    | false => rfl
    | true => rcases isBlank_cases hb with rfl | rfl | rfl | rfl <;> revert hsolid <;> decide
  simp [hc, hblank]

/-- Blanks in front of an expression are skipped, and nothing of the expression is. -/
theorem skipBlanks_derives {w : List Char} (hw : Blanks w) {e : Expr} {t : List Char}
    (h : Derives (.expr e) t) (rest : List Char) : skipBlanks (w ++ (t ++ rest)) = t ++ rest :=
  skipBlanks_append hw (isBlank_eq_false_of_startsSolid h.solidIn.1 rest)

theorem bracketedName?_complete {name : String} {w t w' : List Char} (hw : Blanks w)
    (hs : IsString name t) (hw' : Blanks w') (rest : List Char) :
    bracketedName? ('[' :: (w ++ (t ++ (w' ++ ']' :: rest)))) = some (name, rest) := by
  have hopen : skipBlanks (w ++ (t ++ (w' ++ ']' :: rest))) = t ++ (w' ++ ']' :: rest) :=
    skipBlanks_append hw (isBlank_eq_false_of_startsSolid hs.startsSolid _)
  have hclose : skipBlanks (w' ++ ']' :: rest) = ']' :: rest := skipBlanks_append hw' rfl
  simp [bracketedName?, hopen, quotedText?_complete hs, hclose]

theorem root?_complete {root : String} {t : List Char} (h : IsRoot root t) {rest : List Char}
    (hrest : endsWord rest = true) : root? (t ++ rest) = some (root, rest) := by
  cases h with
  | @name c w mark hc hw hmark _ =>
    have hread := wordText_complete hw hmark hrest
    simp [root?, name?, hc, hread]
  | @bracketed _ w t w' hw hs hw' =>
    have hname : ∀ s, name? ('[' :: s) = none := name?_eq_none (by decide)
    simp [root?, hname, bracketedName?_complete hw hs hw']

theorem literal?_eq_none_of_isRoot {root : String} {t : List Char} (h : IsRoot root t)
    {rest : List Char} (hrest : endsWord rest = true) : literal? (t ++ rest) = none := by
  cases h with
  | @name c w mark hc hw hmark hkey =>
    have hnone : keywordLiteral? (c :: w ++ (mark ++ rest)) = none :=
      keywordLiteral?_eq_none (words_cons hc hw) (head?_any_isWord_mark hmark hrest) hkey
    rw [List.cons_append, List.append_assoc, literal?_of_startsName hc]
    exact hnone
  | bracketed _ _ _ => exact literal?_eq_none_of_bracket (.inr rfl) _

theorem range?_eq_none (inner : Reader Expr) {c : Char} (hc : c ≠ '(') (s : List Char) :
    range? inner (c :: s) = none := by
  rw [range?.eq_def]
  split
  next h => exact absurd (List.cons.inj h).1 hc
  next => rfl

theorem range?_eq_none_of_isRoot (inner : Reader Expr) {root : String} {t : List Char}
    (h : IsRoot root t) (rest : List Char) : range? inner (t ++ rest) = none := by
  cases h with
  | name hc _ _ _ => exact range?_eq_none inner (by rintro rfl; revert hc; decide) _
  | bracketed _ _ _ => exact range?_eq_none inner (by decide) _

theorem lookup?_eq_none_of_stops (inner : Reader Expr) {s : List Char} (h : stops s = true) :
    lookup? inner s = none := by
  unfold lookup?
  split
  next s =>
    simp only [stops, Bool.not_eq_true', Bool.or_eq_false_iff] at h
    split
    next c s' =>
      have hc : isWord c = false := by simpa using h.2
      rw [hc, if_neg (by decide)]
    next => rfl
  next => simp [stops] at h
  next => rfl

theorem lookups_of_stops (inner : Reader Expr) (fuel : Nat) {s : List Char}
    (h : stops s = true) : lookups inner fuel s = ([], s) := by
  cases fuel with
  | zero => rfl
  | succ fuel => rw [lookups, lookup?_eq_none_of_stops inner h]

/-- What the reader makes of a phrase that is followed by anything that stops it. Depth and fuel
have to be as long as the phrase, however long the text goes on. -/
def Reads : Phrase → List Char → Prop
  | .expr e, t => ∀ depth rest, t.length < depth → stops rest = true →
      readAt depth (t ++ rest) = some (e, rest)
  | .lookups ls, u => ∀ depth fuel rest, u.length ≤ depth → u.length ≤ fuel →
      stops rest = true → lookups (readAt depth) fuel (u ++ rest) = (ls, rest)

/-- A range ends by itself, whatever stands behind it. -/
theorem readAt_range {a b : Expr} {w₁ t w₂ w₃ u w₄ : List Char} (hw₁ : Blanks w₁)
    (ha : Derives (.expr a) t) (hw₂ : Blanks w₂) (hw₃ : Blanks w₃) (hb : Derives (.expr b) u)
    (hw₄ : Blanks w₄) (iha : Reads (.expr a) t) (ihb : Reads (.expr b) u) {depth : Nat}
    (ht : t.length < depth) (hu : u.length < depth) (rest : List Char) :
    readAt (depth + 1)
      ('(' :: (w₁ ++ (t ++ (w₂ ++ ('.' :: '.' :: (w₃ ++ (u ++ (w₄ ++ [')']))))))) ++ rest) =
      some (.range a b, rest) := by
  have hfirst := iha depth (w₂ ++ '.' :: '.' :: (w₃ ++ (u ++ (w₄ ++ ')' :: rest)))) ht
    (stops_blanks_append hw₂ (stops_dots _))
  have hlast := ihb depth (w₄ ++ ')' :: rest) hu (stops_blanks_append hw₄ rfl)
  have hdots : skipBlanks (w₂ ++ '.' :: '.' :: (w₃ ++ (u ++ (w₄ ++ ')' :: rest)))) =
      '.' :: '.' :: (w₃ ++ (u ++ (w₄ ++ ')' :: rest))) := skipBlanks_append hw₂ rfl
  have hclose : skipBlanks (w₄ ++ ')' :: rest) = ')' :: rest := skipBlanks_append hw₄ rfl
  simp [readAt, literal?_eq_none_of_bracket, range?, skipBlanks_derives hw₁ ha, hfirst, hdots,
    dots?, skipBlanks_derives hw₃ hb, hlast, hclose]

theorem lookup?_bracket {e : Expr} {l : Lookup} {w t w' : List Char} (hw : Blanks w)
    (he : Derives (.expr e) t) (hl : Asks e l) (hw' : Blanks w') (ih : Reads (.expr e) t)
    {depth : Nat} (ht : t.length < depth) (rest : List Char) :
    lookup? (readAt depth) ('[' :: (w ++ (t ++ (w' ++ ']' :: rest)))) = some (l, rest) := by
  have hread := ih depth (w' ++ ']' :: rest) ht (stops_blanks_append hw' rfl)
  have hclose : skipBlanks (w' ++ ']' :: rest) = ']' :: rest := skipBlanks_append hw' rfl
  simp [lookup?, skipBlanks_derives hw he, hread, hclose, asks_iff.mp hl]

theorem lookup?_dot (inner : Reader Expr) {c : Char} {w mark rest : List Char} (hw : Words (c :: w))
    (hread : wordText (c :: w ++ (mark ++ rest)) = (c :: w ++ mark, rest)) :
    lookup? inner ('.' :: c :: (w ++ (mark ++ rest))) =
      some (dotLookup (c :: (w ++ mark)), rest) := by
  have hc : isWord c = true := hw c List.mem_cons_self
  rw [List.cons_append] at hread
  simp [lookup?, hc, hread]

theorem Derives.reads {p : Phrase} {t : List Char} (h : Derives p t) : Reads p t := by
  induction h with
  | literal h =>
    intro depth rest hdepth hrest
    cases depth with
    | zero => omega
    | succ depth => simp [readAt, literal?_complete h hrest]
  | @range a b w₁ t w₂ w₃ u w₄ hw₁ ha hw₂ hw₃ hb hw₄ iha ihb =>
    intro depth rest hdepth hrest
    simp only [List.length_cons, List.length_append] at hdepth
    cases depth with
    | zero => omega
    | succ depth => exact readAt_range hw₁ ha hw₂ hw₃ hb hw₄ iha ihb (by omega) (by omega) rest
  | @path root ls t u hroot hls ih =>
    intro depth rest hdepth hrest
    rw [List.length_append] at hdepth
    cases depth with
    | zero => omega
    | succ depth =>
      have hword := hls.endsWord (endsWord_of_stops hrest)
      have hsteps := ih depth (u.length + rest.length) rest (by omega) (by omega) hrest
      rw [List.append_assoc]
      simp [readAt, literal?_eq_none_of_isRoot hroot hword, range?_eq_none_of_isRoot _ hroot,
        path?, root?_complete hroot hword, hsteps]
  | done =>
    intro depth fuel rest _ _ hrest
    exact lookups_of_stops _ fuel hrest
  | @dot ls c w mark u hw hmark hls ih =>
    intro depth fuel rest hdepth hfuel hrest
    simp only [List.length_cons, List.length_append] at hdepth hfuel
    cases fuel with
    | zero => omega
    | succ fuel =>
      have hread := lookup?_dot (readAt depth) hw
        (wordText_complete hw hmark (hls.endsWord (endsWord_of_stops hrest)))
      have hsteps := ih depth fuel rest (by omega) (by omega) hrest
      simp [lookups, hread, hsteps]
  | @bracket e l ls w t w' u hw he hl hw' hls ihe ih =>
    intro depth fuel rest hdepth hfuel hrest
    simp only [List.length_cons, List.length_append] at hdepth hfuel
    cases fuel with
    | zero => omega
    | succ fuel =>
      have hread := lookup?_bracket hw he hl hw' ihe (show t.length < depth by omega) (u ++ rest)
      have hsteps := ih depth fuel rest (by omega) (by omega) hrest
      simp [lookups, hread, hsteps]

theorem read?_complete {e : Expr} {t rest : List Char} (h : Derives (.expr e) t)
    (hrest : stops rest = true) : read? (t ++ rest) = some (e, rest) :=
  h.reads _ rest (by rw [List.length_append]; omega) hrest

/-- A text is read as an expression exactly if the grammar derives it, but for white space around
it. -/
theorem ofChars_eq_ok_iff {s : List Char} {e : Expr} :
    ofChars s = .ok e ↔ Derives (.expr e) (Text.trimChars s) := by
  have hempty : (Text.trimChars s).isEmpty = true → ¬Derives (.expr e) (Text.trimChars s) := by
    intro hs h
    obtain ⟨c, hc, -⟩ := h.solidIn.1
    rw [List.isEmpty_iff.mp hs] at hc
    cases hc
  rw [ofChars]
  split
  next hs => simpa using hempty hs
  next =>
    constructor
    · intro h
      split at h
      next e' hread =>
        cases h
        obtain ⟨t, ht, he⟩ := read?_sound hread
        rw [List.append_nil] at ht
        rwa [ht]
      next => cases h
      next => cases h
    · intro h
      have hstops : stops [] = true := rfl
      have hread := read?_complete h hstops
      rw [List.append_nil] at hread
      simp [hread]

end LiquidEval.Expr
