import LiquidEval.Proofs.Expr.Tree

/-! No text has two derivations. The reader decides how far a part of a text goes by what follows
it, and in a derivation that is always something the part cannot go on into. -/
namespace LiquidEval.Expr

section
variable {s s' : List Char}

theorem Gap.split {w w' : Gap} (h : w.val ++ s = w'.val ++ s')
    (hs : s.head?.any Text.isBlank = false) (hs' : s'.head?.any Text.isBlank = false) :
    w = w' ∧ s = s' := by
  have hskip := congrArg skipBlanks h
  rw [skipBlanks_append w.property hs, skipBlanks_append w'.property hs'] at hskip
  rw [hskip] at h
  exact ⟨Subtype.ext (List.append_cancel_right h), hskip⟩

theorem Quoted.split {q q' : Quoted} (h : q.text ++ s = q'.text ++ s') : q = q' ∧ s = s' := by
  have hread := congrArg quotedText? h
  rw [quotedText?_complete q.isString, quotedText?_complete q'.isString, Option.some.injEq,
    Prod.mk.injEq] at hread
  obtain ⟨hvalue, hrest⟩ := hread
  have hbody : q.body = q'.body := by
    simpa [Quoted.value] using congrArg String.toList hvalue
  have hquote : q.quote = q'.quote := (List.cons.inj h).1
  refine ⟨?_, hrest⟩
  cases q
  cases q'
  congr

theorem Quoted.text_injective : Function.Injective Quoted.text := by
  intro q q' h
  exact (Quoted.split (congrArg (· ++ ([] : List Char)) h)).1

theorem Quoted.head?_text_append (q : Quoted) : (q.text ++ s).head?.any Text.isBlank = false :=
  isBlank_eq_false_of_startsSolid q.isString.startsSolid s

theorem Segment.text_injective : Function.Injective Segment.text := by
  intro s s' h
  have hmark (r : Segment) : r.mark.head?.any isWord = false := by
    have hend : endsWord [] = true := rfl
    simpa using head?_any_isWord_mark r.isMark hend
  have hword : s.word = s'.word := by
    rw [← takeWhile_append_of_head s.words (hmark s),
      ← takeWhile_append_of_head s'.words (hmark s')]
    exact congrArg (List.takeWhile isWord) h
  have hmarked : s.mark = s'.mark := by
    unfold text at h
    rw [hword] at h
    exact List.append_cancel_left h
  have : s.marked = s'.marked := by
    unfold mark at hmarked
    cases hs : s.marked <;> cases hs' : s'.marked <;> simp_all
  cases s
  cases s'
  congr

theorem Segment.split {r r' : Segment} (h : r.text ++ s = r'.text ++ s') (hs : endsWord s = true)
    (hs' : endsWord s' = true) : r = r' ∧ s = s' := by
  have hread := congrArg wordText h
  unfold Segment.text at hread
  rw [List.append_assoc, List.append_assoc, wordText_complete r.words r.isMark hs,
    wordText_complete r'.words r'.isMark hs', Prod.mk.injEq] at hread
  exact ⟨Segment.text_injective hread.1, hread.2⟩

theorem Tree.split {d d' : Tree} (h : d.text ++ s = d'.text ++ s') (hs : stops s = true)
    (hs' : stops s' = true) : d.text = d'.text ∧ s = s' := by
  have hread := congrArg read? h
  rw [read?_complete d.derives hs, read?_complete d'.derives hs', Option.some.injEq,
    Prod.mk.injEq] at hread
  rw [hread.2] at h
  exact ⟨List.append_cancel_right h, hread.2⟩

theorem Tree.head?_text_append (d : Tree) : (d.text ++ s).head?.any Text.isBlank = false :=
  isBlank_eq_false_of_startsSolid d.derives.solidIn.1 s

end

theorem Steps.endsWord_text (s : Steps) : endsWord s.text = true := by
  have hend : endsWord [] = true := rfl
  have h := s.derives.endsWord hend
  rwa [List.append_nil] at h

theorem Tree.expr_eq_of_text {d d' : Tree} (h : d.text = d'.text) : d.expr = d'.expr := by
  have hstops : stops [] = true := rfl
  have hread := read?_complete d.derives hstops
  rw [h, read?_complete d'.derives hstops] at hread
  exact (congrArg Prod.fst (Option.some.inj hread)).symm

/-- What the first character of a text tells of its tree. -/
inductive Opening where
  | quote
  | number
  | word
  | parenthesis
  | bracket
deriving DecidableEq

def openingOf (c : Char) : Opening :=
  if c = '"' ∨ c = '\'' then .quote
  else if c = '(' then .parenthesis
  else if c = '[' then .bracket
  else if startsName c then .word
  else .number

def Tree.opening : Tree → Opening
  | .string _ => .quote
  | .number _ => .number
  | .keyword _ => .word
  | .range _ _ _ _ _ _ => .parenthesis
  | .named _ _ => .word
  | .bracketed _ _ _ _ => .bracket

/-- A character that is neither a quote nor a bracket opens a name or a number. -/
theorem openingOf_of_isWord {c : Char} (hc : isWord c = true) :
    openingOf c = if startsName c then .word else .number := by
  have hne : ∀ d, isWord d = false → c ≠ d := by
    rintro d hd rfl
    rw [hc] at hd
    cases hd
  have hdouble : c ≠ '"' := hne _ (by decide)
  have hsingle : c ≠ '\'' := hne _ (by decide)
  have hparenthesis : c ≠ '(' := hne _ (by decide)
  have hbracket : c ≠ '[' := hne _ (by decide)
  simp [openingOf, hdouble, hsingle, hparenthesis, hbracket]

theorem openingOf_of_startsName {c : Char} (hc : startsName c = true) : openingOf c = .word := by
  rw [openingOf_of_isWord (isWord_of_startsName hc), if_pos hc]

theorem openingOf_of_isAsciiDigit {c : Char} (hc : Decimal.isAsciiDigit c = true) :
    openingOf c = .number := by
  rw [openingOf_of_isWord (isWord_of_isAsciiDigit hc), startsName_eq_false_of_isAsciiDigit hc]
  rfl

theorem Numeral.exists_cons (n : Numeral) : ∃ c t, n.text = c :: t ∧ openingOf c = .number := by
  unfold text
  cases n.negative with
  | true => exact ⟨'-', _, rfl, by decide⟩
  | false =>
    obtain ⟨c, w, hwhole, hc⟩ := n.whole_digits.exists_cons
    exact ⟨c, w ++ n.tail, by simp [hwhole], openingOf_of_isAsciiDigit hc⟩

theorem Name.exists_cons (n : Name) : ∃ c t, n.text = c :: t ∧ startsName c = true := by
  obtain ⟨c, w, hword⟩ := List.exists_cons_of_ne_nil n.word_ne_nil
  exact ⟨c, w ++ n.mark, by simp [Segment.text, hword], by simpa [hword] using n.starts⟩

theorem Tree.exists_cons (d : Tree) : ∃ c t, d.text = c :: t ∧ openingOf c = d.opening := by
  cases d with
  | string q =>
    refine ⟨q.quote, _, rfl, ?_⟩
    rw [openingOf, if_pos q.is_quote]
    rfl
  | number n => exact n.exists_cons
  | keyword k =>
    obtain ⟨c, w, hk, hc, -⟩ := keywords_words k.val (mem_keywords_iff.mpr k.property)
    exact ⟨c, w, hk, openingOf_of_startsName hc⟩
  | range => exact ⟨'(', _, rfl, rfl⟩
  | named n steps =>
    obtain ⟨c, t, hn, hc⟩ := n.exists_cons
    exact ⟨c, t ++ steps.text, by simp [Tree.text, hn], openingOf_of_startsName hc⟩
  | bracketed => exact ⟨'[', _, rfl, rfl⟩

theorem Tree.opening_eq_of_text {d d' : Tree} (h : d.text = d'.text) : d.opening = d'.opening := by
  obtain ⟨c, t, hd, hc⟩ := d.exists_cons
  obtain ⟨c', t', hd', hc'⟩ := d'.exists_cons
  rw [hd, hd', List.cons.injEq] at h
  rw [← hc, ← hc', h.1]

mutual
theorem Tree.eq_of_text (d d' : Tree) (h : d.text = d'.text) : d = d' := by
  have hopening := Tree.opening_eq_of_text h
  have hexpr := Tree.expr_eq_of_text h
  match d with
  | .string q =>
    cases d' with
    | string q' => rw [Quoted.text_injective h]
    | _ => cases hopening
  | .number n =>
    cases d' with
    | number n' => rw [Numeral.text_injective h]
    | _ => cases hopening
  | .keyword k =>
    cases d' with
    | keyword k' =>
      have hvalue : k.val.2 = k'.val.2 := by simpa [Tree.expr] using hexpr
      rw [Subtype.ext (Prod.ext h hvalue)]
    | named => cases hexpr
    | _ => cases hopening
  | .range w₁ a w₂ w₃ b w₄ =>
    cases d' with
    | range v₁ a' v₂ v₃ b' v₄ =>
      obtain ⟨hw₁, hfirst⟩ :=
        Gap.split (List.cons.inj h).2 a.head?_text_append a'.head?_text_append
      obtain ⟨ha, hdots⟩ := Tree.split hfirst (stops_blanks_append w₂.property (stops_dots _))
        (stops_blanks_append v₂.property (stops_dots _))
      obtain ⟨hw₂, hlast⟩ := Gap.split hdots rfl rfl
      obtain ⟨hw₃, hlast⟩ := Gap.split (List.cons.inj (List.cons.inj hlast).2).2
        b.head?_text_append b'.head?_text_append
      obtain ⟨hb, hclose⟩ := Tree.split hlast (stops_blanks_append w₄.property rfl)
        (stops_blanks_append v₄.property rfl)
      obtain ⟨hw₄, -⟩ := Gap.split hclose rfl rfl
      rw [Tree.eq_of_text a a' ha, Tree.eq_of_text b b' hb, hw₁, hw₂, hw₃, hw₄]
    | _ => cases hopening
  | .named n steps =>
    cases d' with
    | named n' steps' =>
      obtain ⟨hsegment, hsteps⟩ := Segment.split h steps.endsWord_text steps'.endsWord_text
      have hn : n = n' := by
        cases n
        cases n'
        congr
      rw [hn, Steps.eq_of_text steps steps' hsteps]
    | keyword => cases hexpr
    | _ => cases hopening
  | .bracketed w q w' steps =>
    cases d' with
    | bracketed v r v' steps' =>
      obtain ⟨hw, hname⟩ := Gap.split (List.cons.inj h).2 q.head?_text_append r.head?_text_append
      obtain ⟨hq, hclose⟩ := Quoted.split hname
      obtain ⟨hw', hsteps⟩ := Gap.split hclose rfl rfl
      rw [Steps.eq_of_text steps steps' (List.cons.inj hsteps).2, hw, hq, hw']
    | _ => cases hopening

theorem Steps.eq_of_text (s s' : Steps) (h : s.text = s'.text) : s = s' := by
  match s with
  | .done =>
    cases s' with
    | done => rfl
    | _ => cases h
  | .dot s rest =>
    cases s' with
    | dot s' rest' =>
      obtain ⟨hsegment, hrest⟩ :=
        Segment.split (List.cons.inj h).2 rest.endsWord_text rest'.endsWord_text
      rw [Steps.eq_of_text rest rest' hrest, hsegment]
    | done => cases h
    | bracket => cases (List.cons.inj h).1
  | .bracket w e w' rest =>
    cases s' with
    | bracket v e' v' rest' =>
      obtain ⟨hw, hinner⟩ := Gap.split (List.cons.inj h).2 e.head?_text_append e'.head?_text_append
      have hstops : ∀ (g : Gap) (t : List Char), stops (g.val ++ ']' :: t) = true :=
        fun g t => stops_blanks_append g.property rfl
      obtain ⟨he, hclose⟩ := Tree.split hinner (hstops w' _) (hstops v' _)
      obtain ⟨hw', hrest⟩ := Gap.split hclose rfl rfl
      rw [Tree.eq_of_text e e' he, Steps.eq_of_text rest rest' (List.cons.inj hrest).2, hw, hw']
    | done => cases h
    | dot => cases (List.cons.inj h).1
end

/-- A text is read as what its tree builds, and no two trees have one text. -/
theorem reads_only_derivation :
    (∀ (text : String) (e : Expr), ofText text = .ok e ↔
      ∃ d : Tree, d.text = Text.trimChars text.toList ∧ d.expr = e) ∧
    Function.Injective Tree.text := by
  constructor
  · intro text e
    unfold ofText
    rw [ofChars_eq_ok_iff, derives_iff_exists_tree]
  · exact fun d d' h => Tree.eq_of_text d d' h

theorem reads_only_derivation_of_brackets :
    let text := " é_1-?[ 'a b' ][\"12\"][12][-1][99999999999999999999][nil][(1..x)].12.012x?\u00a0"
    ∃ f, ofText text = .ok (.path "é_1-?" [.key "a b", .key "12", .index 12, .index (-1),
      .dynamic (.literal (.float f)), .dynamic (.literal .nil),
      .dynamic (.range (.literal (.int 1)) (.path "x" [])), .index 12, .key "012x?"]) := by
  let tight : Gap := ⟨[], by simp [Blanks]⟩
  let wide : Gap := ⟨[' '], by simp [Blanks, Text.isBlank]⟩
  let quoted (quote : Char) (body : String) (hquote : quote = '"' ∨ quote = '\'')
      (h : quote ∉ body.toList) : Tree := .string ⟨quote, body.toList, hquote, h⟩
  let integer (negative : Bool) (digits : String)
      (h : digits ≠ "" ∧ digits.toList.all Decimal.isAsciiDigit = true) : Numeral :=
    ⟨negative, digits.toList, none, ⟨by simpa using h.1, List.all_eq_true.mp h.2⟩, by simp⟩
  let segment (word : String) (marked : Bool) (h : word ≠ "" ∧ word.toList.all isWord = true) :
      Segment := ⟨word.toList, marked, by simpa using h.1, List.all_eq_true.mp h.2⟩
  let named (word : Segment) (hstart : word.word.head?.any startsName = true)
      (hkey : ∀ v, ¬IsKeyword v word.word) : Steps → Tree := .named ⟨word, hstart, hkey⟩
  let x : Tree := named (segment "x" false (by decide)) (by decide) (by decide) .done
  let great : Numeral := integer false "99999999999999999999" (by decide)
  let dots : Steps :=
    .dot (segment "12" false (by decide)) <| .dot (segment "012x" true (by decide)) .done
  let d : Tree := named (segment "é_1-" true (by decide)) (by decide) (by decide) <|
    .bracket wide (quoted '\'' "a b" (by decide) (by decide)) wide <|
    .bracket tight (quoted '"' "12" (by decide) (by decide)) tight <|
    .bracket tight (.number (integer false "12" (by decide))) tight <|
    .bracket tight (.number (integer true "1" (by decide))) tight <|
    .bracket tight (.number great) tight <|
    .bracket tight (.keyword ⟨("nil".toList, .nil), .nil⟩) tight <|
    .bracket tight (.range tight (.number (integer false "1" (by decide))) tight tight x tight)
      tight dots
  have hdots : dots.lookups = [.index 12, .key "012x?"] := by
    have hindex : (segment "12" false (by decide)).lookup = .index 12 :=
      if_pos ⟨rfl, List.all_eq_true.mp rfl, rfl⟩
    simp only [dots, Steps.lookups, hindex]
    rfl
  refine ⟨great.float, (reads_only_derivation.1 _ _).mpr ⟨d, by decide +kernel, ?_⟩⟩
  rw [← hdots]
  rfl

end LiquidEval.Expr
