import LiquidEval.Proofs.Expr.Grammar

/-! The readers of blanks, words, strings and numbers take exactly the texts of the grammar. Each is
sound for any text, and complete where what follows cannot be read as more of the same. -/
namespace LiquidEval.Expr

section
variable {p : Char → Bool} {w rest : List Char}

theorem takeWhile_append_of_head (hw : ∀ c ∈ w, p c = true) (hrest : rest.head?.any p = false) :
    (w ++ rest).takeWhile p = w := by
  rw [List.takeWhile_append_of_pos hw]
  cases rest with
  | nil => simp
  | cons c rest => rw [List.takeWhile_cons_of_neg (by simpa using hrest), List.append_nil]

theorem dropWhile_append_of_head (hw : ∀ c ∈ w, p c = true) (hrest : rest.head?.any p = false) :
    (w ++ rest).dropWhile p = rest := by
  rw [List.dropWhile_append_of_pos hw]
  cases rest with
  | nil => rfl
  | cons c rest => rw [List.dropWhile_cons_of_neg (by simpa using hrest)]

theorem head?_any_dropWhile (p : Char → Bool) (s : List Char) :
    (s.dropWhile p).head?.any p = false := by
  cases h : s.dropWhile p with
  | nil => rfl
  | cons c t =>
    have hc := List.head?_dropWhile_not p s
    simpa [h] using hc

theorem forall_mem_takeWhile (p : Char → Bool) (s : List Char) :
    ∀ c ∈ s.takeWhile p, p c = true :=
  List.all_eq_true.mp List.all_takeWhile

end

theorem skipBlanks_append {w s : List Char} (hw : Blanks w)
    (hs : s.head?.any Text.isBlank = false) : skipBlanks (w ++ s) = s :=
  dropWhile_append_of_head hw hs

theorem exists_blanks_append_skipBlanks (s : List Char) :
    ∃ w, Blanks w ∧ s = w ++ skipBlanks s :=
  ⟨s.takeWhile Text.isBlank, forall_mem_takeWhile _ s, List.takeWhile_append_dropWhile.symm⟩

theorem after?_eq_some_iff {k s rest : List Char} : after? k s = some rest ↔ s = k ++ rest := by
  induction k generalizing s with
  | nil => simp [after?]
  | cons c k ih =>
    cases s with
    | nil => simp [after?]
    | cons d s =>
      by_cases hcd : c = d
      · simp [after?, hcd, ih]
      · simp [after?, hcd, Ne.symm hcd]

theorem keyword?_eq_some_iff {k s rest : List Char} :
    keyword? k s = some rest ↔ s = k ++ rest ∧ rest.head?.any isWord = false := by
  rw [← after?_eq_some_iff, keyword?]
  cases after? k s with
  | none => simp
  | some r =>
    cases hr : r.head?.any isWord with
    | true =>
      simp only [if_pos hr, Option.some.injEq, reduceCtorEq, false_iff, not_and]
      rintro rfl
      simp [hr]
    | false =>
      simp only [Option.some.injEq]
      rw [if_neg (by simp [hr])]
      constructor
      · rintro ⟨⟩
        exact ⟨rfl, hr⟩
      · rintro ⟨rfl, -⟩
        rfl

/-- A keyword is read off a word only if it is the whole word. -/
theorem keyword?_word {k w rest : List Char} (hk : Words k) (hw : Words w)
    (hrest : rest.head?.any isWord = false) :
    keyword? k (w ++ rest) = if k = w then some rest else none := by
  split
  next h => exact keyword?_eq_some_iff.mpr ⟨by rw [h], hrest⟩
  next h =>
    cases hread : keyword? k (w ++ rest) with
    | none => rfl
    | some r =>
      obtain ⟨hsplit, hr⟩ := keyword?_eq_some_iff.mp hread
      have hword : w = k := by
        rw [← takeWhile_append_of_head hw hrest, hsplit, takeWhile_append_of_head hk hr]
      exact absurd hword.symm h

theorem untilQuote_eq_some_iff {quote : Char} {s body rest : List Char} :
    untilQuote quote s = some (body, rest) ↔ quote ∉ body ∧ s = body ++ quote :: rest := by
  induction s generalizing body with
  | nil => simp [untilQuote]
  | cons c s ih =>
    rw [untilQuote]
    split
    next hc =>
      subst hc
      cases body with
      | nil => simp
      | cons d body => simp; grind
    next hc =>
      cases body with
      | nil => simp [hc]
      | cons d body =>
        simp only [Option.map_eq_some_iff, Prod.mk.injEq, Prod.exists, List.cons.injEq,
          List.mem_cons, not_or, List.cons_append]
        constructor
        · rintro ⟨b, r, hread, ⟨rfl, rfl⟩, rfl⟩
          obtain ⟨hmem, rfl⟩ := ih.mp hread
          exact ⟨⟨fun h => hc h.symm, hmem⟩, rfl, rfl⟩
        · rintro ⟨⟨-, hmem⟩, rfl, rfl⟩
          exact ⟨body, rest, ih.mpr ⟨hmem, rfl⟩, ⟨rfl, rfl⟩, rfl⟩

theorem quotedText?_sound {s rest : List Char} {text : String}
    (h : quotedText? s = some (text, rest)) : ∃ t, s = t ++ rest ∧ IsString text t := by
  unfold quotedText? at h
  split at h
  all_goals try cases h
  all_goals
    obtain ⟨⟨body, r⟩, hread, h⟩ := Option.map_eq_some_iff.mp h
    cases h
    obtain ⟨hmem, rfl⟩ := untilQuote_eq_some_iff.mp hread
  · exact ⟨_, by simp, .mk (.inl rfl) hmem⟩
  · exact ⟨_, by simp, .mk (.inr rfl) hmem⟩

theorem quotedText?_complete {text : String} {t : List Char} (h : IsString text t)
    (rest : List Char) : quotedText? (t ++ rest) = some (text, rest) := by
  cases h with
  | @mk quote body hquote hbody =>
    have hread : untilQuote quote (body ++ quote :: rest) = some (body, rest) :=
      untilQuote_eq_some_iff.mpr ⟨hbody, rfl⟩
    rcases hquote with rfl | rfl
    · simp [quotedText?, hread]
    · simp [quotedText?, hread]

theorem digits1?_eq_some_iff {s digits rest : List Char} :
    digits1? s = some (digits, rest) ↔
      s = digits ++ rest ∧ Digits digits ∧ rest.head?.any Decimal.isAsciiDigit = false := by
  rw [digits1?]
  constructor
  · intro h
    split at h
    next => cases h
    next hne =>
      cases h
      refine ⟨List.takeWhile_append_dropWhile.symm, ⟨?_, forall_mem_takeWhile _ s⟩,
        head?_any_dropWhile _ s⟩
      simpa using hne
  · rintro ⟨rfl, ⟨hne, hdigits⟩, hrest⟩
    simp only [takeWhile_append_of_head hdigits hrest, dropWhile_append_of_head hdigits hrest]
    simpa using hne

/-- What follows is no part of a word and no mark. -/
def endsWord (s : List Char) : Bool := !s.head?.any fun c => isWord c || c == '?'

/-- No expression in front of this text could be read on into it. -/
def stops : List Char → Bool
  | [] => true
  | c :: s => !(isWord c || c == '?' || c == '[' || c == '.' && s.head?.any isWord)

theorem endsWord_of_stops {s : List Char} (h : stops s = true) : endsWord s = true := by
  cases s with
  | nil => rfl
  | cons c s => simp_all [stops, endsWord]

theorem head?_any_isWord {s : List Char} (h : endsWord s = true) :
    s.head?.any isWord = false := by
  cases s with
  | nil => rfl
  | cons c s => simp_all [endsWord]

theorem head?_any_isAsciiDigit {s : List Char} (h : s.head?.any isWord = false) :
    s.head?.any Decimal.isAsciiDigit = false := by
  cases s with
  | nil => rfl
  | cons c s =>
    cases hc : Decimal.isAsciiDigit c with
    | false => simp [hc]
    | true => simp [isWord_of_isAsciiDigit hc] at h

theorem digits1?_eq_none {s : List Char} (h : s.head?.any Decimal.isAsciiDigit = false) :
    digits1? s = none := by
  have htake : s.takeWhile Decimal.isAsciiDigit = [] :=
    takeWhile_append_of_head (w := []) (by simp) h
  simp [digits1?, htake]

theorem fractionText_sound (s : List Char) :
    s = (fractionText s).1 ++ (fractionText s).2 ∧ IsFraction (fractionText s).1 := by
  unfold fractionText
  split
  next t =>
    split
    next digits rest h =>
      obtain ⟨rfl, hdigits, -⟩ := digits1?_eq_some_iff.mp h
      exact ⟨rfl, .inr ⟨digits, hdigits, rfl⟩⟩
    next => exact ⟨rfl, .inl rfl⟩
  next => exact ⟨rfl, .inl rfl⟩

/-- What follows is not read on as part of a number. -/
def endsNumber (s : List Char) : Prop :=
  s.head?.any Decimal.isAsciiDigit = false ∧ fractionText s = ([], s)

theorem endsNumber_of_stops {s : List Char} (h : stops s = true) : endsNumber s := by
  refine ⟨head?_any_isAsciiDigit (head?_any_isWord (endsWord_of_stops h)), ?_⟩
  rw [fractionText.eq_def]
  split
  next t =>
    have ht : t.head?.any isWord = false := by
      simp only [stops, Bool.not_eq_true', Bool.or_eq_false_iff] at h
      simpa using h.2
    rw [digits1?_eq_none (head?_any_isAsciiDigit ht)]
  next => rfl

theorem fractionText_complete {f rest : List Char} (h : IsFraction f)
    (hrest : endsNumber rest) : fractionText (f ++ rest) = (f, rest) := by
  rcases h with rfl | ⟨digits, hdigits, rfl⟩
  · exact hrest.2
  · have hread : digits1? (digits ++ rest) = some (digits, rest) :=
      digits1?_eq_some_iff.mpr ⟨rfl, hdigits, hrest.1⟩
    simp [fractionText, hread]

theorem signText_sound (s : List Char) :
    s = (signText s).1 ++ (signText s).2 ∧ ((signText s).1 = [] ∨ (signText s).1 = ['-']) := by
  unfold signText
  split <;> simp

theorem numberText?_sound {s t rest : List Char} (h : numberText? s = some (t, rest)) :
    s = t ++ rest ∧ IsNumber t := by
  obtain ⟨hs, hsign⟩ := signText_sound s
  simp only [numberText?] at h
  cases hread : digits1? (signText s).2 with
  | none => simp [hread] at h
  | some r =>
    obtain ⟨whole, s'⟩ := r
    obtain ⟨hs', hwhole, -⟩ := digits1?_eq_some_iff.mp hread
    obtain ⟨hf, hfraction⟩ := fractionText_sound s'
    rw [hread] at h
    cases h
    refine ⟨?_, ?_⟩
    · calc
        s = (signText s).1 ++ (whole ++ ((fractionText s').1 ++ (fractionText s').2)) := by
          rw [← hf, ← hs', ← hs]
        _ = _ := by simp
    · rw [List.append_assoc]
      exact .mk hsign hwhole hfraction

theorem Digits.exists_cons {t : List Char} (h : Digits t) :
    ∃ c w, t = c :: w ∧ Decimal.isAsciiDigit c = true := by
  obtain ⟨c, w, rfl⟩ := List.exists_cons_of_ne_nil h.1
  exact ⟨c, w, rfl, h.2 c (by simp)⟩

theorem signText_of_ne {c : Char} (hc : c ≠ '-') (s : List Char) :
    signText (c :: s) = ([], c :: s) := by
  rw [signText.eq_def]
  split
  next h => exact absurd (List.cons.inj h).1 hc
  next => rfl

theorem numberText?_complete {t rest : List Char} (h : IsNumber t) (hrest : endsNumber rest) :
    numberText? (t ++ rest) = some (t, rest) := by
  cases h with
  | @mk sign whole fraction hsign hwhole hfraction =>
    have hread : digits1? (whole ++ (fraction ++ rest)) = some (whole, fraction ++ rest) := by
      refine digits1?_eq_some_iff.mpr ⟨rfl, hwhole, ?_⟩
      rcases hfraction with rfl | ⟨digits, -, rfl⟩
      · exact hrest.1
      · rfl
    have hsignText : signText (sign ++ (whole ++ (fraction ++ rest))) =
        (sign, whole ++ (fraction ++ rest)) := by
      rcases hsign with rfl | rfl
      · obtain ⟨c, w, rfl, hc⟩ := hwhole.exists_cons
        exact signText_of_ne (by rintro rfl; revert hc; decide) _
      · rfl
    simp [numberText?, hsignText, hread, fractionText_complete hfraction hrest]

/-- Neither quote opens, nor does a number start. -/
theorem quotedText?_eq_none {c : Char} (hdouble : c ≠ '"') (hsingle : c ≠ '\'')
    (s : List Char) : quotedText? (c :: s) = none := by
  rw [quotedText?.eq_def]
  split
  next h => exact absurd (List.cons.inj h).1 hdouble
  next h => exact absurd (List.cons.inj h).1 hsingle
  next => rfl

theorem numberText?_eq_none {c : Char} (hminus : c ≠ '-')
    (hdigit : Decimal.isAsciiDigit c = false) (s : List Char) :
    numberText? (c :: s) = none := by
  have hread : digits1? (c :: s) = none := digits1?_eq_none (by simp [hdigit])
  simp [numberText?, signText_of_ne hminus, hread]

theorem keywords_words :
    ∀ k ∈ keywords, ∃ c w, k.1 = c :: w ∧ startsName c = true ∧ Words k.1 := by
  have hall : ∀ k ∈ keywords, k.1.head?.any startsName = true ∧ k.1.all isWord = true := by
    simp only [keywords, List.forall_mem_cons]
    decide +kernel
  intro k hk
  obtain ⟨hstart, hword⟩ := hall k hk
  obtain ⟨c, hc⟩ : ∃ c, k.1.head? = some c ∧ startsName c = true :=
    (Option.any_eq_true _ _).mp hstart
  obtain ⟨w, hw⟩ := List.head?_eq_some_iff.mp hc.1
  exact ⟨c, w, hw, hc.2, List.all_eq_true.mp hword⟩

theorem keywordLiteral?_sound {s rest : List Char} {v : Literal}
    (h : keywordLiteral? s = some (v, rest)) : ∃ t, s = t ++ rest ∧ IsKeyword v t := by
  obtain ⟨before, k, after, hsplit, hk, -⟩ := List.findSome?_eq_some_iff.mp h
  obtain ⟨r, hread, hr⟩ := Option.map_eq_some_iff.mp hk
  cases hr
  obtain ⟨hs, -⟩ := keyword?_eq_some_iff.mp hread
  exact ⟨k.1, hs, mem_keywords_iff.mp (by rw [hsplit]; simp)⟩

/-- A word that is no keyword is not taken for one. -/
theorem keywordLiteral?_eq_none {w rest : List Char} (hw : Words w)
    (hrest : rest.head?.any isWord = false) (hkey : ∀ v, ¬IsKeyword v w) :
    keywordLiteral? (w ++ rest) = none := by
  refine List.findSome?_eq_none_iff.mpr ?_
  intro k hk
  obtain ⟨-, -, -, -, hword⟩ := keywords_words k hk
  rw [keyword?_word hword hw hrest, if_neg (not_isKeyword_iff.mp hkey k hk)]
  rfl

theorem keywordLiteral?_complete {t rest : List Char} {v : Literal} (h : IsKeyword v t)
    (hrest : rest.head?.any isWord = false) : keywordLiteral? (t ++ rest) = some (v, rest) := by
  have h := mem_keywords_iff.mpr h
  obtain ⟨-, -, -, -, ht⟩ := keywords_words _ h
  have hread : ∀ k ∈ keywords, (keyword? k.1 (t ++ rest)).map (fun r => (k.2, r)) =
      if k.1 = t then some (k.2, rest) else none := by
    intro k hk
    obtain ⟨-, -, -, -, hword⟩ := keywords_words k hk
    rw [keyword?_word hword ht hrest]
    split <;> rfl
  have hdistinct : (keywords.map Prod.fst).Nodup := by decide +kernel
  unfold keywordLiteral?
  generalize keywords = ks at h hread hdistinct
  induction ks with
  | nil => cases h
  | cons k ks ih =>
    rw [List.findSome?_cons, hread k (by simp)]
    rw [List.map_cons, List.nodup_cons] at hdistinct
    rcases List.mem_cons.mp h with rfl | h
    · rw [if_pos rfl]
    · have hne : k.1 ≠ t := by
        rintro rfl
        exact hdistinct.1 (List.mem_map.mpr ⟨_, h, rfl⟩)
      rw [if_neg hne]
      exact ih h (fun k hk => hread k (List.mem_cons_of_mem _ hk)) hdistinct.2

theorem literal?_sound {s rest : List Char} {v : Literal} (h : literal? s = some (v, rest)) :
    ∃ t, s = t ++ rest ∧ IsLiteral v t := by
  unfold literal? at h
  split at h
  next text r hread =>
    cases h
    obtain ⟨t, hs, ht⟩ := quotedText?_sound hread
    exact ⟨t, hs, .string ht⟩
  next =>
    split at h
    next t r hread =>
      cases h
      obtain ⟨hs, ht⟩ := numberText?_sound hread
      exact ⟨t, hs, .number ht⟩
    next =>
      obtain ⟨t, hs, ht⟩ := keywordLiteral?_sound h
      exact ⟨t, hs, .keyword ht⟩

/-- In front of a name only a keyword can be a literal. -/
theorem literal?_of_startsName {c : Char} (hc : startsName c = true) (s : List Char) :
    literal? (c :: s) = keywordLiteral? (c :: s) := by
  have hdouble : c ≠ '"' := by rintro rfl; revert hc; decide
  have hsingle : c ≠ '\'' := by rintro rfl; revert hc; decide
  have hminus : c ≠ '-' := by rintro rfl; revert hc; decide
  have hdigit : Decimal.isAsciiDigit c = false := by
    cases h : Decimal.isAsciiDigit c with
    | false => rfl
    | true => rw [startsName_eq_false_of_isAsciiDigit h] at hc; cases hc
  rw [literal?, quotedText?_eq_none hdouble hsingle, numberText?_eq_none hminus hdigit]

theorem keywordLiteral?_eq_none_of_not_startsName {c : Char} (hc : startsName c = false)
    (s : List Char) :
    keywordLiteral? (c :: s) = none := by
  refine List.findSome?_eq_none_iff.mpr ?_
  intro k hk
  obtain ⟨d, w, hd, hstart, -⟩ := keywords_words k hk
  have hne : d ≠ c := by rintro rfl; rw [hc] at hstart; cases hstart
  simp [keyword?, hd, after?, hne]

/-- A range and a bracketed name are no literals. -/
theorem literal?_eq_none_of_bracket {c : Char} (hc : c = '(' ∨ c = '[') (s : List Char) :
    literal? (c :: s) = none := by
  rcases hc with rfl | rfl
  · rw [literal?, quotedText?_eq_none (by decide) (by decide),
      numberText?_eq_none (by decide) (by decide),
      keywordLiteral?_eq_none_of_not_startsName (by decide)]
  · rw [literal?, quotedText?_eq_none (by decide) (by decide),
      numberText?_eq_none (by decide) (by decide),
      keywordLiteral?_eq_none_of_not_startsName (by decide)]

theorem IsNumber.exists_cons {t : List Char} (h : IsNumber t) :
    ∃ c u, t = c :: u ∧ c ≠ '"' ∧ c ≠ '\'' := by
  cases h with
  | mk hsign hwhole _ =>
    rcases hsign with rfl | rfl
    · obtain ⟨c, w, rfl, hc⟩ := hwhole.exists_cons
      exact ⟨c, _, rfl, by rintro rfl; revert hc; decide, by rintro rfl; revert hc; decide⟩
    · exact ⟨'-', _, rfl, by decide, by decide⟩

theorem literal?_complete {v : Literal} {t rest : List Char} (h : IsLiteral v t)
    (hrest : stops rest = true) : literal? (t ++ rest) = some (v, rest) := by
  cases h with
  | string h => rw [literal?, quotedText?_complete h]
  | number h =>
    obtain ⟨c, u, rfl, hdouble, hsingle⟩ := h.exists_cons
    have hread := numberText?_complete h (endsNumber_of_stops hrest)
    rw [List.cons_append] at hread ⊢
    rw [literal?, quotedText?_eq_none hdouble hsingle, hread]
  | keyword h =>
    obtain ⟨c, w, hcw, hstart, -⟩ := keywords_words _ (mem_keywords_iff.mpr h)
    have hread := keywordLiteral?_complete h (head?_any_isWord (endsWord_of_stops hrest))
    dsimp only at hcw
    rw [hcw, List.cons_append] at hread ⊢
    rw [literal?_of_startsName hstart, hread]

end LiquidEval.Expr
