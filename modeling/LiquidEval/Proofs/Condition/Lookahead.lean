import LiquidEval.Proofs.Condition.Texts
import LiquidEval.Proofs.Expr.Lookahead

/-! How far the reader of conditions looks. Where a comparison ends it has seen at most that neither
a test nor a joining word comes next. So a condition that is read from a text is read again in front
of anything that ends conditions. -/
namespace LiquidEval.Markup
open LiquidEval.Expr (Blanks skipBlanks stops isWord)

/-- No condition goes on here, nor behind blanks in front. -/
def IsEnd (s : List Char) : Prop := ∀ w, Blanks w → EndsMarkup (w ++ s)

theorem IsEnd.stops {s : List Char} (h : IsEnd s) : stops s = true :=
  (h [] (by simp [Blanks])).stops

theorem IsEnd.test {s : List Char} (h : IsEnd s) : test? s = none := (h [] (by simp [Blanks])).test

theorem IsEnd.links {s : List Char} (h : IsEnd s) (fuel : Nat) : links fuel s = ([], s) := by
  cases fuel with
  | zero => rfl
  | succ fuel => rw [Markup.links, show link? s = none from (h [] (by simp [Blanks])).link]

theorem IsEnd.append_blanks {s : List Char} (h : IsEnd s) {w : List Char} (hw : Blanks w) :
    IsEnd (w ++ s) := by
  intro w' hw'
  rw [← List.append_assoc]
  exact h _ (List.forall_mem_append.mpr ⟨hw', hw⟩)

theorem blanks?_append {w s : List Char} (hw : Blanks w) (hne : w ≠ [])
    (hs : s.head?.any Text.isBlank = false) :
    blanks? (w ++ s) = some s := by
  obtain ⟨b, w, rfl⟩ := List.exists_cons_of_ne_nil hne
  obtain ⟨hb, hw⟩ := List.forall_mem_cons.mp hw
  rw [List.cons_append, blanks?, if_pos hb, Expr.skipBlanks_append hw hs]

theorem blanks?_eq_none {s : List Char} (hs : s.head?.any Text.isBlank = false) :
    blanks? s = none := by
  cases s with
  | nil => rfl
  | cons c s =>
    have hc : Text.isBlank c = false := hs
    simp [blanks?, hc]

theorem isEnd_of_head {s : List Char} (hblank : s.head?.any Text.isBlank = false)
    (hstops : stops s = true) (hoperator : operator? s = none) (hjoiner : joiner? s = none) :
    IsEnd s := by
  intro w hw
  refine ⟨Expr.stops_blanks_append hw hstops, ?_, ?_⟩
  · rw [test?, Expr.skipBlanks_append hw hblank, hoperator]
  · by_cases hne : w = []
    · rw [hne, List.nil_append, link?, blanks?_eq_none hblank]
    · rw [link?, blanks?_append hw hne hblank]
      dsimp only
      rw [hjoiner]

theorem isEnd_nil : IsEnd [] := isEnd_of_head rfl rfl rfl rfl

/-- Words end at blanks. -/
theorem head?_any_isWord_blanks {w : List Char} (hw : Blanks w) (hne : w ≠ []) (s : List Char) :
    (w ++ s).head?.any isWord = false := by
  obtain ⟨b, w, rfl⟩ := List.exists_cons_of_ne_nil hne
  exact Expr.isWord_eq_false_of_isBlank (hw b List.mem_cons_self)

theorem head?_any_isOperatorWord {s : List Char} (h : s.head?.any isWord = false) :
    s.head?.any isOperatorWord = false := by
  cases s with
  | nil => rfl
  | cons c s =>
    have hc : isWord c = false := h
    rw [isWord, Bool.or_eq_false_iff] at hc
    exact hc.1

/-- No expression is read on into this text, unless into a word. -/
def Halts (s : List Char) : Prop := ∀ c, s.head? = some c → c ≠ '?' ∧ c ≠ '[' ∧ c ≠ '.'

theorem operand?_of_read? {e : Expr} {t rest : List Char}
    (h : Expr.read? (t ++ rest) = some (e, rest)) :
    operand? (t ++ rest) = some (String.ofList t, rest) := by
  simp [operand?, h]

theorem operand?_of_halts {t s u u' : List Char} {left : String} (hs : Halts s) (hu' : IsEnd u')
    (h : operand? (t ++ (s ++ u)) = some (left, s ++ u)) :
    operand? (t ++ (s ++ u')) = some (left, s ++ u') := by
  obtain rfl := List.append_cancel_right (operand?_split h)
  cases s with
  | nil => exact operand?_complete (operand?_sound h) hu'.stops
  | cons c s =>
    cases hc : isWord c with
    | true =>
      obtain ⟨⟨e, r⟩, hread, hr⟩ := Option.map_eq_some_iff.mp h
      obtain rfl : r = c :: s ++ u := (Prod.mk.inj hr).2
      have hread' := operand?_of_read? (Expr.read?_of_isWord hc hread (s ++ u'))
      rwa [String.ofList_toList] at hread'
    | false =>
      obtain ⟨hmark, hbracket, hdot⟩ := hs c rfl
      have hstops : Expr.stops (c :: s ++ u') = true := by
        simp [Expr.stops, hc, hmark, hbracket, hdot]
      exact operand?_complete (operand?_sound h) hstops

theorem head?_append_eq {t : List Char} (h : t ≠ []) (r r' : List Char) :
    (t ++ r).head? = (t ++ r').head? := by
  obtain ⟨c, t, rfl⟩ := List.exists_cons_of_ne_nil h
  rfl

theorem prefix_of_head?_eq {k t r r' : List Char} (hk : k.length ≤ t.length + 1)
    (h : r.head? = r'.head?) (hmatch : k <+: t ++ r) : k <+: t ++ r' := by
  have htake : (t ++ r).take (t.length + 1) = t ++ r'.take 1 := by
    rw [List.take_append, List.take_of_length_le (Nat.le_succ _), Nat.add_sub_cancel_left,
      List.take_one, List.take_one, h]
  have hshort : k <+: t ++ r'.take 1 := by
    rw [← htake, List.prefix_take_iff]
    exact ⟨hmatch, hk⟩
  exact hshort.trans (List.prefix_append_right_inj t |>.mpr (List.take_prefix 1 r'))

theorem length_le_two_of_mem_symbols : ∀ k ∈ symbols, k.length ≤ 2 := by
  have hall : symbols.all (fun k => k.length ≤ 2) = true := by decide +kernel
  exact fun k hk => of_decide_eq_true (List.all_eq_true.mp hall k hk)

/-- Whether a symbol stands at the start of a text is seen at the character behind an operator. -/
theorem after?_eq_none_of_head?_eq {k t r r' : List Char} (hk : k ∈ symbols) (ht : t ≠ [])
    (h : r.head? = r'.head?) (hnone : Expr.after? k (t ++ r) = none) :
    Expr.after? k (t ++ r') = none := by
  cases hread : Expr.after? k (t ++ r') with
  | none => rfl
  | some s =>
    have hlength : k.length ≤ t.length + 1 :=
      (length_le_two_of_mem_symbols k hk).trans (Nat.succ_le_succ (List.length_pos_iff.mpr ht))
    have hmatch : k <+: t ++ r' := ⟨s, (Expr.after?_eq_some_iff.mp hread).symm⟩
    obtain ⟨s', hs'⟩ := prefix_of_head?_eq hlength h.symm hmatch
    rw [Expr.after?_eq_some_iff.mpr hs'.symm] at hnone
    cases hnone

theorem wordOperator?_of_head?_eq {operator r r' : List Char} (hhead : r.head? = r'.head?)
    (hne : operator ≠ []) (h : wordOperator? (operator ++ r) = some (operator, r)) :
    wordOperator? (operator ++ r') = some (operator, r') := by
  obtain ⟨c, w, rfl⟩ := List.exists_cons_of_ne_nil hne
  simp only [List.cons_append, wordOperator?] at h ⊢
  split at h
  next hc =>
    split at h
    next => cases h
    next hword =>
      obtain ⟨hoperator, hrest⟩ := Prod.mk.inj (Option.some.inj h)
      have htake : (w ++ r).takeWhile isOperatorWord = w := (List.cons.inj hoperator).2
      have hw : ∀ d ∈ w, isOperatorWord d = true := by
        rw [← htake]
        exact Expr.forall_mem_takeWhile _ _
      have hend : r'.head?.any isOperatorWord = false := by
        rw [← hhead, ← hrest]
        exact Expr.head?_any_dropWhile _ _
      rw [hoperator] at hword
      rw [if_pos hc, Expr.takeWhile_append_of_head hw hend, Expr.dropWhile_append_of_head hw hend,
        if_neg hword]
  next => cases h

theorem IsOperator.ne_nil {operator : List Char} (h : IsOperator operator) : operator ≠ [] := by
  cases h with
  | symbol h =>
    obtain ⟨c, w, rfl, -⟩ := symbols_startsName _ h
    exact List.cons_ne_nil c w
  | word => exact List.cons_ne_nil _ _

theorem operator?_of_head?_eq {operator r r' : List Char} (hhead : r.head? = r'.head?)
    (h : operator? (operator ++ r) = some (operator, r)) :
    operator? (operator ++ r') = some (operator, r') := by
  have hne : operator ≠ [] := IsOperator.ne_nil (operator?_sound h)
  unfold operator? at h
  split at h
  next p hread =>
    cases h
    obtain ⟨before, symbol, after, hsplit, hsymbol, hbefore⟩ := List.findSome?_eq_some_iff.mp hread
    obtain ⟨r₀, -, hpair⟩ := Option.map_eq_some_iff.mp hsymbol
    obtain ⟨rfl, -⟩ := Prod.mk.inj hpair
    have hread' : (symbols.findSome? fun k => (Expr.after? k (symbol ++ r')).map (k, ·)) =
        some (symbol, r') := by
      refine List.findSome?_eq_some_iff.mpr ⟨before, symbol, after, hsplit, ?_, fun k hk => ?_⟩
      · rw [Expr.after?_eq_some_iff.mpr rfl]
        rfl
      · have hmem : k ∈ symbols := by rw [hsplit]; exact List.mem_append_left _ hk
        exact Option.map_eq_none_iff.mpr
          (after?_eq_none_of_head?_eq hmem hne hhead (Option.map_eq_none_iff.mp (hbefore k hk)))
    rw [operator?, hread']
  next hnone =>
    have hnone' : (symbols.findSome? fun k => (Expr.after? k (operator ++ r')).map (k, ·)) =
        none := by
      refine List.findSome?_eq_none_iff.mpr fun k hk => Option.map_eq_none_iff.mpr ?_
      have hk' := Option.map_eq_none_iff.mp (List.findSome?_eq_none_iff.mp hnone k hk)
      exact after?_eq_none_of_head?_eq hk hne hhead hk'
    rw [operator?, hnone']
    exact wordOperator?_of_head?_eq hhead hne h

theorem test?_of_halts {t s u u' : List Char} {operator right : String} (hs : Halts s)
    (hu' : IsEnd u') (h : test? (t ++ (s ++ u)) = some ((operator, right), s ++ u)) :
    test? (t ++ (s ++ u')) = some ((operator, right), s ++ u') := by
  obtain ⟨hoperator, e, he⟩ := test?_sound h
  obtain ⟨w, w', hw, hw', htext, hread, hread'⟩ := test?_split h
  have ht : t ++ (s ++ u) = w ++ (operator.toList ++ (w' ++ right.toList)) ++ (s ++ u) := by
    rw [htext]
    simp only [List.append_assoc]
  obtain rfl := List.append_cancel_right ht
  have hne : w' ++ right.toList ≠ [] := List.append_ne_nil_of_right_ne_nil w' he.solidIn.1.ne_nil
  have hhead := head?_append_eq hne (s ++ u) (s ++ u')
  rw [List.append_assoc, List.append_assoc] at hhead
  have hsolid := isBlank_eq_false_of_isOperator hoperator (w' ++ (right.toList ++ (s ++ u')))
  simp only [List.append_assoc]
  rw [test?, Expr.skipBlanks_append hw hsolid, operator?_of_head?_eq hhead hread]
  dsimp only
  rw [Expr.skipBlanks_derives hw' he, operand?_of_halts hs hu' hread', String.ofList_toList]

theorem halts_blanks {w : List Char} (hw : Blanks w) (hne : w ≠ []) (s : List Char) :
    Halts (w ++ s) := by
  obtain ⟨b, w, rfl⟩ := List.exists_cons_of_ne_nil hne
  have hb : Text.isBlank b = true := hw b List.mem_cons_self
  intro c hc
  obtain rfl : b = c := Option.some.inj hc
  refine ⟨?_, ?_, ?_⟩ <;> rintro rfl <;> exact absurd hb (by decide)

theorem halts_operator {operator : List Char} (h : IsOperator operator) (s : List Char) :
    Halts (operator ++ s) := by
  intro c hc
  cases h with
  | symbol h =>
    simp only [symbols, List.map_cons, List.map_nil, List.mem_cons, List.not_mem_nil, or_false] at h
    rcases h with rfl | rfl | rfl | rfl | rfl | rfl | rfl <;> cases hc <;> decide
  | @word d _ hd =>
    obtain rfl : d = c := Option.some.inj hc
    refine ⟨?_, ?_, ?_⟩ <;> rintro rfl <;> exact absurd hd (by decide)

theorem halts_test {w operator : List Char} (hw : Blanks w) (h : IsOperator operator)
    (s : List Char) :
    Halts (w ++ (operator ++ s)) := by
  by_cases hne : w = []
  · rw [hne]
    exact halts_operator h s
  · exact halts_blanks hw hne _

/-- No comparison is read on into this text, whatever ends the condition behind it. -/
structure EndsComparison (s : List Char) : Prop where
  halts : Halts s
  test : ∀ u, IsEnd u → test? (s ++ u) = none

theorem TailSpells.endsComparison {tail : List (Logical × Comparison)} {t : List Char}
    (h : TailSpells tail t) :
    EndsComparison t := by
  cases h with
  | done => exact ⟨by simp [Halts], fun _ hu => hu.test⟩
  | @link l x tail w w' t u hw hne hw' hne' =>
    refine ⟨halts_blanks hw hne _, fun s _ => ?_⟩
    have htext : w ++ (l.text.toList ++ (w' ++ (t ++ u))) ++ s =
        w ++ (l.text.toList ++ (w' ++ (t ++ u ++ s))) := by simp
    rw [htext]
    exact test?_joiner l hw (head?_any_isOperatorWord (head?_any_isWord_blanks hw' hne' _))

section
variable {t s u u' : List Char} (hs : EndsComparison s) (hu' : IsEnd u')
include hs hu'

theorem comparison?_of_endsComparison {x : Comparison}
    (h : comparison? (t ++ (s ++ u)) = some (x, s ++ u)) :
    comparison? (t ++ (s ++ u')) = some (x, s ++ u') := by
  unfold comparison? at h
  split at h
  next left r hleft =>
    split at h
    next operator right _ htest =>
      obtain ⟨rfl, rfl⟩ := Prod.mk.inj (Option.some.inj h)
      obtain ⟨w, w', hw, -, hr, -, -⟩ := test?_split htest
      obtain ⟨t', rfl, hhalts⟩ : ∃ t', r = t' ++ (s ++ u) ∧ Halts (t' ++ s) := by
        refine ⟨w ++ (operator.toList ++ (w' ++ right.toList)), by simpa using hr, ?_⟩
        rw [List.append_assoc, List.append_assoc]
        exact halts_test hw (test?_sound htest).1 _
      have ht : t ++ (s ++ u) = left.toList ++ t' ++ (s ++ u) := by
        rw [List.append_assoc, ← operand?_split hleft]
      obtain rfl := List.append_cancel_right ht
      have hoperand : operand? (left.toList ++ (t' ++ s ++ u)) = some (left, t' ++ s ++ u) := by
        simpa only [List.append_assoc] using hleft
      have hread := operand?_of_halts hhalts hu' hoperand
      rw [List.append_assoc] at hread ⊢
      rw [comparison?, hread]
      dsimp only
      rw [test?_of_halts hs.halts hu' htest]
    next =>
      obtain ⟨rfl, rfl⟩ := Prod.mk.inj (Option.some.inj h)
      rw [comparison?, operand?_of_halts hs.halts hu' hleft]
      dsimp only
      rw [hs.test u' hu']
  next => cases h

theorem link?_of_endsComparison {link : Logical × Comparison}
    (h : link? (t ++ (s ++ u)) = some (link, s ++ u)) :
    link? (t ++ (s ++ u')) = some (link, s ++ u') := by
  unfold link? at h
  split at h
  next r hblanks =>
    obtain ⟨w, hne, hw, hr⟩ := blanks?_sound hblanks
    split at h
    next l r' hjoiner =>
      obtain rfl := joiner?_sound hjoiner
      split at h
      next r'' hblanks' =>
        obtain ⟨w', hne', hw', rfl⟩ := blanks?_sound hblanks'
        obtain ⟨⟨x, r⟩, hread, hpair⟩ := Option.map_eq_some_iff.mp h
        obtain ⟨rfl, rfl⟩ := Prod.mk.inj hpair
        obtain ⟨t', rfl, hx⟩ := comparison?_spells hread
        have ht : t ++ (s ++ u) = w ++ (l.text.toList ++ (w' ++ t')) ++ (s ++ u) := by
          simpa using hr
        obtain rfl := List.append_cancel_right ht
        have hlink : blanks? (w ++ (l.text.toList ++ (w' ++ (t' ++ (s ++ u'))))) = _ :=
          blanks?_append hw hne (isBlank_eq_false_of_joiner l _)
        have hsolid : (t' ++ (s ++ u')).head?.any Text.isBlank = false :=
          Expr.isBlank_eq_false_of_startsSolid hx.startsSolid _
        simp only [List.append_assoc]
        rw [link?, hlink]
        dsimp only
        rw [joiner?_complete l (head?_any_isWord_blanks hw' hne' _)]
        dsimp only
        rw [blanks?_append hw' hne' hsolid]
        dsimp only
        rw [comparison?_of_endsComparison hs hu' hread]
        rfl
      next => cases h
    next => cases h
  next => cases h

end

theorem links_of_isEnd {t u u' : List Char} (hu' : IsEnd u') {fuel fuel' : Nat}
    {tail : List (Logical × Comparison)} (h : links fuel (t ++ u) = (tail, u))
    (hfuel : t.length ≤ fuel') :
    links fuel' (t ++ u') = (tail, u') := by
  induction fuel generalizing t tail fuel' with
  | zero =>
    obtain ⟨rfl, ht⟩ := Prod.mk.inj h
    rw [List.append_left_eq_self.mp ht]
    exact hu'.links fuel'
  | succ fuel ih =>
    rw [links] at h
    split at h
    next link r hread =>
      obtain ⟨htail, hrest⟩ := Prod.mk.inj h
      obtain ⟨s, hs, hspells⟩ := links_spells fuel r
      rw [hrest] at hs
      subst hs
      obtain ⟨t', ht, hlink⟩ := link?_spells hread
      rw [← List.append_assoc] at ht
      obtain rfl := List.append_cancel_right ht
      have hne := (hlink [] [] .done).ne_nil
      rw [List.append_nil] at hne
      have hpos : 0 < t'.length := List.length_pos_iff.mpr hne
      rw [List.length_append] at hfuel
      obtain ⟨fuel', rfl⟩ : ∃ n, fuel' = n + 1 := ⟨fuel' - 1, by omega⟩
      rw [List.append_assoc] at hread ⊢
      have hothers := ih (Prod.ext rfl hrest) (show s.length ≤ fuel' by omega)
      rw [links, link?_of_endsComparison hspells.endsComparison hu' hread]
      dsimp only
      rw [hothers, ← htail]
    next =>
      obtain ⟨rfl, ht⟩ := Prod.mk.inj h
      rw [List.append_left_eq_self.mp ht]
      exact hu'.links fuel'

/-- What is read is read in front of anything that ends a condition. -/
theorem read?_of_isEnd {t u u' : List Char} {m : Markup} (hu' : IsEnd u')
    (h : read? (t ++ u) = some (m, u)) : read? (t ++ u') = some (m, u') := by
  unfold read? at h
  split at h
  next head r hhead =>
    obtain ⟨hm, hrest⟩ := Prod.mk.inj (Option.some.inj h)
    obtain ⟨s, hs, hspells⟩ := links_spells r.length r
    rw [hrest] at hs
    subst hs
    obtain ⟨t', ht, -⟩ := comparison?_spells hhead
    rw [← List.append_assoc] at ht
    obtain rfl := List.append_cancel_right ht
    rw [List.append_assoc] at hhead ⊢
    have hlinks :=
      links_of_isEnd hu' (Prod.ext rfl hrest) (show s.length ≤ (s ++ u').length by simp)
    rw [read?, comparison?_of_endsComparison hspells.endsComparison hu' hhead]
    dsimp only
    rw [hlinks, ← hm]
  next => cases h

theorem skipBlanks_append_of_head {s : List Char} (hs : s.head?.any Text.isBlank = false)
    (front : List Char) :
    skipBlanks (front ++ s) = skipBlanks front ++ s := by
  obtain ⟨w, hw, hfront⟩ := Expr.exists_blanks_append_skipBlanks front
  have hhead : (skipBlanks front ++ s).head?.any Text.isBlank = false := by
    have hsolid : (skipBlanks front).head?.any Text.isBlank = false :=
      Expr.head?_any_dropWhile _ front
    cases hskip : skipBlanks front with
    | nil => exact hs
    | cons c t => rwa [hskip] at hsolid
  calc
    skipBlanks (front ++ s) = skipBlanks (w ++ (skipBlanks front ++ s)) := by
      rw [← List.append_assoc, ← hfront]
    _ = skipBlanks front ++ s := Expr.skipBlanks_append hw hhead

/-- Reading stops at this text behind a condition exactly if what stands in front of it is one. -/
theorem ofChars_front {front s : List Char} {m : Markup} (hend : IsEnd s)
    (hs : s.head?.any Text.isBlank = false) :
    (∃ r, read? (skipBlanks (front ++ s)) = some (m, r) ∧ skipBlanks r = s) ↔
      ofChars front = .ok m := by
  rw [ofChars_eq_ok_iff, skipBlanks_append_of_head hs]
  constructor
  · rintro ⟨r, hread, hr⟩
    obtain ⟨w, hw, rfl⟩ : ∃ w, Blanks w ∧ r = w ++ s := by
      obtain ⟨w, hw, h⟩ := Expr.exists_blanks_append_skipBlanks r
      exact ⟨w, hw, by rw [← hr, ← h]⟩
    obtain ⟨t, ht, -⟩ := read?_spells hread
    rw [← List.append_assoc] at ht
    obtain ht := List.append_cancel_right ht
    rw [ht, List.append_assoc] at hread
    have hwhole := isEnd_nil.append_blanks hw
    rw [List.append_nil] at hwhole
    rw [ht]
    exact ⟨w, read?_of_isEnd hwhole hread, hw⟩
  · rintro ⟨w, hread, hw⟩
    obtain ⟨t, ht, -⟩ := read?_spells hread
    rw [ht] at hread
    rw [ht, List.append_assoc]
    exact ⟨w ++ s, read?_of_isEnd (hend.append_blanks hw) hread, Expr.skipBlanks_append hw hs⟩

end LiquidEval.Markup
