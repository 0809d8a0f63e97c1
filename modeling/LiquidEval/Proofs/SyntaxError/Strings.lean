import LiquidEval.Proofs.Condition.Lookahead
import LiquidEval.Proofs.SyntaxError.Positions

/-! Which strings are said to have no end. Reading that stops in front of a quote reports the string
that starts there. Where a string could have been read, it has no end; but behind a complete
expression or condition no string is read, and the quote is reported though the string may have an
end. -/
namespace LiquidEval

section
variable {quote : Char} (h : IsQuote quote)
include h

theorem IsQuote.startsName_eq_false : Expr.startsName quote = false := by
  rcases h with rfl | rfl <;> decide

theorem IsQuote.isWhiteSpace_eq_false : Text.isWhiteSpace quote = false := by
  rcases h with rfl | rfl <;> decide

theorem IsQuote.head?_any_isBlank (rest : List Char) :
    (quote :: rest).head?.any Text.isBlank = false := by
  rcases h with rfl | rfl <;> rfl

theorem IsQuote.stops (rest : List Char) : Expr.stops (quote :: rest) = true := by
  rcases h with rfl | rfl <;> rfl

end

namespace Expr

/-- A bracketed name that lacks its closing bracket. -/
inductive OpenName : List Char → Prop where
  | mk {s : String} {w t w' : List Char} (hw : Blanks w) (hs : IsString s t) (hw' : Blanks w') :
      OpenName ('[' :: (w ++ (t ++ w')))

/-- A string with this quote is read here, and reading stops in front of it if it has no end. In a
bracketed name the single quote is tried last, and without its end reading gives up at the end of
the text. -/
inductive Awaits : List Char → Char → Prop where
  | start (quote : Char) : Awaits [] quote
  | name {w : List Char} (hw : Blanks w) : Awaits ('[' :: w) '"'

/-- Nothing that starts with a quote is read behind this text. -/
inductive Complete : List Char → Prop where
  | expr {e : Expr} {t : List Char} (h : Derives (.expr e) t) : Complete t
  | name {t : List Char} (h : OpenName t) : Complete t

theorem untilQuote_eq_none_iff {quote : Char} {s : List Char} :
    untilQuote quote s = none ↔ quote ∉ s := by
  constructor
  · intro h hmem
    obtain ⟨body, rest, rfl, hbody⟩ := List.eq_append_cons_of_mem hmem
    rw [untilQuote_eq_some_iff.mpr ⟨hbody, rfl⟩] at h
    cases h
  · intro h
    cases hread : untilQuote quote s with
    | none => rfl
    | some r =>
      obtain ⟨-, rfl⟩ := untilQuote_eq_some_iff.mp hread
      exact absurd (List.mem_append_right _ List.mem_cons_self) h

theorem quotedText?_eq_none_iff {quote : Char} (h : IsQuote quote) (rest : List Char) :
    quotedText? (quote :: rest) = none ↔ quote ∉ rest := by
  rcases h with rfl | rfl
  · exact Option.map_eq_none_iff.trans untilQuote_eq_none_iff
  · exact Option.map_eq_none_iff.trans untilQuote_eq_none_iff

theorem quotedText?_eq_none_of_read? {s : List Char} (h : read? s = none) :
    quotedText? s = none := by
  cases hread : quotedText? s with
  | none => rfl
  | some r =>
    simp only [read?, readAt, literal?, hread] at h
    cases h

theorem read?_eq_none {s : List Char} (hliteral : literal? s = none) (hrange : s.head? ≠ some '(')
    (hroot : root? s = none) : read? s = none := by
  have hnone (inner : Reader Expr) : range? inner s = none := by
    cases s with
    | nil => rfl
    | cons c s => exact range?_eq_none inner (by simpa using hrange) s
  simp only [read?, readAt, hliteral, hnone, path?, hroot]

/-- Reading that gets nowhere and stops at a quote has met the start of a string, or a second string
in a name. -/
theorem stuckAt_sound {s rest : List Char} {quote : Char} (hread : read? s = none)
    (hquote : IsQuote quote) (h : stuckAt s = quote :: rest) :
    ∃ front, s = front ++ quote :: rest ∧ (OpenName front ∨ Awaits front quote ∧ quote ∉ rest) := by
  unfold stuckAt at h
  split at h
  next t =>
    obtain ⟨w, hw, ht⟩ := exists_blanks_append_skipBlanks t
    dsimp only at h
    split at h
    next text r hname =>
      obtain ⟨u, hu, hstring⟩ := quotedText?_sound hname
      obtain ⟨w', hw', hr⟩ := exists_blanks_append_skipBlanks r
      refine ⟨_, ?_, .inl (.mk hw hstring hw')⟩
      calc
        '[' :: t = '[' :: (w ++ (u ++ (w' ++ quote :: rest))) := by rw [← h, ← hr, ← hu, ← ht]
        _ = _ := by simp
    next hname =>
      split at h
      next => cases h
      next hdouble =>
        rw [h] at hname hdouble
        obtain rfl : quote = '"' :=
          hquote.resolve_right fun hsingle => hdouble (by rw [hsingle]; rfl)
        exact ⟨'[' :: w, by rw [← h, List.cons_append, ← ht],
          .inr ⟨.name hw, (quotedText?_eq_none_iff hquote rest).mp hname⟩⟩
  next =>
    have hopen := quotedText?_eq_none_of_read? hread
    rw [h] at hopen
    exact ⟨[], h, .inr ⟨.start quote, (quotedText?_eq_none_iff hquote rest).mp hopen⟩⟩

theorem read?_quote_eq_none {quote : Char} (hquote : IsQuote quote) {rest : List Char}
    (hopen : quote ∉ rest) :
    read? (quote :: rest) = none := by
  have hstart := hquote.startsName_eq_false
  have hstring : quotedText? (quote :: rest) = none :=
    (quotedText?_eq_none_iff hquote rest).mpr hopen
  have hnumber : numberText? (quote :: rest) = none := by
    rcases hquote with rfl | rfl <;> exact numberText?_eq_none (by decide) (by decide) rest
  have hroot : root? (quote :: rest) = none := by
    rw [root?, name?_eq_none hstart]
    rcases hquote with rfl | rfl <;> rfl
  refine read?_eq_none ?_ (by rcases hquote with rfl | rfl <;> simp) hroot
  rw [literal?, hstring, hnumber, keywordLiteral?_eq_none_of_not_startsName hstart]

theorem read?_bracket_eq_none {s : List Char} (h : bracketedName? ('[' :: s) = none) :
    read? ('[' :: s) = none :=
  read?_eq_none (literal?_eq_none_of_bracket (.inr rfl) s) (by simp)
    (by rw [root?, name?_eq_none (by decide), h])

theorem OpenName.stuckAt_eq {t : List Char} (h : OpenName t) {quote : Char} (hquote : IsQuote quote)
    (rest : List Char) :
    read? (t ++ quote :: rest) = none ∧ stuckAt (t ++ quote :: rest) = quote :: rest := by
  cases h with
  | @mk name w t w' hw hs hw' =>
    have hstring : skipBlanks (w ++ (t ++ (w' ++ quote :: rest))) = t ++ (w' ++ quote :: rest) :=
      skipBlanks_append hw (isBlank_eq_false_of_startsSolid hs.startsSolid _)
    have hrest : skipBlanks (w' ++ quote :: rest) = quote :: rest :=
      skipBlanks_append hw' (hquote.head?_any_isBlank rest)
    have htext : '[' :: (w ++ (t ++ w')) ++ quote :: rest =
        '[' :: (w ++ (t ++ (w' ++ quote :: rest))) := by simp
    rw [htext]
    refine ⟨read?_bracket_eq_none ?_, ?_⟩
    · rw [bracketedName?, hstring, quotedText?_complete hs]
      dsimp only
      rw [hrest]
      rcases hquote with rfl | rfl <;> rfl
    · rw [stuckAt, hstring, quotedText?_complete hs]
      exact hrest

theorem Awaits.stuckAt_eq {t : List Char} {quote : Char} (h : Awaits t quote)
    (hquote : IsQuote quote) {rest : List Char} (hopen : quote ∉ rest) :
    read? (t ++ quote :: rest) = none ∧ stuckAt (t ++ quote :: rest) = quote :: rest := by
  cases h with
  | start =>
    refine ⟨read?_quote_eq_none hquote hopen, ?_⟩
    rcases hquote with rfl | rfl <;> rfl
  | @name w hw =>
    have hstring : skipBlanks (w ++ '"' :: rest) = '"' :: rest :=
      skipBlanks_append hw (hquote.head?_any_isBlank rest)
    have hnone := (quotedText?_eq_none_iff hquote rest).mpr hopen
    rw [List.cons_append]
    refine ⟨read?_bracket_eq_none ?_, ?_⟩
    · rw [bracketedName?, hstring, hnone]
    · rw [stuckAt, hstring, hnone]
      rfl

/-- Behind a name that is not closed, and at a string that is not closed, reading gets nowhere. -/
theorem stuckAt_complete {front rest : List Char} {quote : Char} (hquote : IsQuote quote)
    (h : OpenName front ∨ Awaits front quote ∧ quote ∉ rest) :
    read? (front ++ quote :: rest) = none ∧ stuckAt (front ++ quote :: rest) = quote :: rest := by
  rcases h with h | ⟨h, hopen⟩
  · exact h.stuckAt_eq hquote rest
  · exact h.stuckAt_eq hquote hopen

/-- What stands in front of a quote at which reading an expression ends. -/
theorem stopsAt_quote_iff {front rest : List Char} {quote : Char} (hquote : IsQuote quote) :
    StopsAt (front ++ quote :: rest) (quote :: rest) ↔
      Complete front ∨ Awaits front quote ∧ quote ∉ rest := by
  constructor
  · rintro (⟨hread, -⟩ | ⟨hread, hstuck⟩)
    · obtain ⟨t, ht, he⟩ := read?_sound hread
      rw [List.append_cancel_right ht]
      exact .inl (.expr he)
    · obtain ⟨front', hfront, hcases⟩ := stuckAt_sound hread hquote hstuck
      rw [List.append_cancel_right hfront]
      exact hcases.imp_left .name
  · have hstuck (h : OpenName front ∨ Awaits front quote ∧ quote ∉ rest) :
        StopsAt (front ++ quote :: rest) (quote :: rest) := by
      obtain ⟨hread, hstuck⟩ := stuckAt_complete hquote h
      exact .stuck hread hstuck
    rintro ((h | h) | h)
    · exact .behind (read?_complete h (hquote.stops rest)) (List.cons_ne_nil _ _)
    · exact hstuck (.inl h)
    · exact hstuck (.inr h)

end Expr

namespace Markup
open LiquidEval.Expr (Blanks skipBlanks exists_blanks_append_skipBlanks)

/-- Nothing that starts with a quote is read behind this text, be it a condition or a name. -/
inductive Complete : List Char → Prop where
  | markup {m : Markup} {t : List Char} (h : ofChars t = .ok m) : Complete t
  | name {w t : List Char} (hw : Blanks w) (ht : Expr.OpenName t) : Complete (w ++ t)

/-- A condition starts with an expression, but for blanks. -/
inductive Awaits : List Char → Char → Prop where
  | mk {w t : List Char} {quote : Char} (hw : Blanks w) (h : Expr.Awaits t quote) :
      Awaits (w ++ t) quote

theorem isEnd_quote {quote : Char} (hquote : IsQuote quote) (rest : List Char) :
    IsEnd (quote :: rest) := by
  refine isEnd_of_head (hquote.head?_any_isBlank rest) (hquote.stops rest) ?_ ?_
  · rcases hquote with rfl | rfl <;> rfl
  · rcases hquote with rfl | rfl <;> rfl

/-- A condition starts with an expression, so that reading gets nowhere exactly where no expression
is read. -/
theorem read?_eq_none_iff {s : List Char} : read? s = none ↔ Expr.read? s = none := by
  have hoperand : operand? s = none ↔ Expr.read? s = none := Option.map_eq_none_iff
  rw [← hoperand, read?, comparison?]
  cases operand? s with
  | none => simp
  | some r => cases htest : test? r.2 <;> simp [htest]

/-- What stands in front of a quote at which reading a condition ends. -/
theorem stopsAt_quote_iff {front rest : List Char} {quote : Char} (hquote : IsQuote quote) :
    StopsAt (front ++ quote :: rest) (quote :: rest) ↔
      Complete front ∨ Awaits front quote ∧ quote ∉ rest := by
  have hsolid := hquote.head?_any_isBlank rest
  have hend := isEnd_quote hquote rest
  constructor
  · rintro (⟨hread, hstop, -⟩ | ⟨hread, hstuck⟩)
    · exact .inl (.markup ((ofChars_front hend hsolid).mp ⟨_, hread, hstop⟩))
    · obtain ⟨t, ht, hcases⟩ := Expr.stuckAt_sound (read?_eq_none_iff.mp hread) hquote hstuck
      obtain ⟨w, hw, hs⟩ := exists_blanks_append_skipBlanks (front ++ quote :: rest)
      rw [ht, ← List.append_assoc] at hs
      rw [List.append_cancel_right hs]
      exact hcases.imp (.name hw) fun ⟨hawaits, hopen⟩ => ⟨.mk hw hawaits, hopen⟩
  · have hstuck {w t : List Char} (hw : Blanks w)
        (ht : (t ++ quote :: rest).head?.any Text.isBlank = false)
        (h : Expr.OpenName t ∨ Expr.Awaits t quote ∧ quote ∉ rest) :
        StopsAt (w ++ t ++ quote :: rest) (quote :: rest) := by
      obtain ⟨hread, hstuck⟩ := Expr.stuckAt_complete hquote h
      have hstart : skipBlanks (w ++ t ++ quote :: rest) = t ++ quote :: rest := by
        rw [List.append_assoc]
        exact Expr.skipBlanks_append hw ht
      rw [← hstart] at hread hstuck
      exact .stuck (read?_eq_none_iff.mpr hread) hstuck
    rintro (⟨⟨hm⟩ | ⟨hw, hname⟩⟩ | ⟨⟨hw, hawaits⟩, hopen⟩)
    · obtain ⟨r, hread, hstop⟩ := (ofChars_front hend hsolid).mpr hm
      exact .behind hread hstop (List.cons_ne_nil _ _)
    · exact hstuck hw (by cases hname; rfl) (.inl hname)
    · exact hstuck hw (by cases hawaits with | start => exact hsolid | name => rfl)
        (.inr ⟨hawaits, hopen⟩)

end Markup

namespace SyntaxError

/-- At byte `position` of the text a quote stands between `front` and `rest`. -/
structure QuoteAt (text : String) (position : Nat) (front : List Char) (quote : Char)
    (rest : List Char) : Prop where
  isQuote : IsQuote quote
  text_eq : text.toList = front ++ quote :: rest
  position_eq : (String.ofList front).utf8ByteSize = position

theorem eq_of_utf8ByteSize_eq {front front' rest rest' : List Char}
    (h : front ++ rest = front' ++ rest')
    (hbytes : (String.ofList front).utf8ByteSize = (String.ofList front').utf8ByteSize) :
    front = front' := by
  have hempty {t u : List Char}
      (ht : (String.ofList (t ++ u)).utf8ByteSize = (String.ofList t).utf8ByteSize) :
      u = [] := by
    rw [String.ofList_append, String.utf8ByteSize_append, Nat.add_eq_left,
      String.utf8ByteSize_eq_zero_iff] at ht
    exact String.ofList_eq_empty_iff.mp ht
  obtain ⟨u, rfl, -⟩ | ⟨u, rfl, -⟩ := List.append_eq_append_iff.mp h
  · rw [hempty hbytes.symm, List.append_nil]
  · rw [hempty hbytes, List.append_nil]

/-- A position tells what stands at it. -/
theorem QuoteAt.unique {text : String} {position : Nat} {front front' rest rest' : List Char}
    {quote quote' : Char} (h : QuoteAt text position front quote rest)
    (h' : QuoteAt text position front' quote' rest') :
    front = front' ∧ quote = quote' ∧ rest = rest' := by
  have htext := h.text_eq.symm.trans h'.text_eq
  obtain rfl := eq_of_utf8ByteSize_eq htext (h.position_eq.trans h'.position_eq.symm)
  exact ⟨rfl, List.cons.inj (List.append_cancel_left htext)⟩

/-- At this byte a quote stands behind a complete text, or a string that has no end starts where one
could be read. -/
def ReportedAt (complete : List Char → Prop) (awaits : List Char → Char → Prop) (text : String)
    (position : Nat) : Prop :=
  ∃ front quote rest, QuoteAt text position front quote rest ∧
    (complete front ∨ awaits front quote ∧ quote ∉ rest)

section
variable {complete : List Char → Prop} {awaits : List Char → Char → Prop} {text : String}
  {position : Nat}

/-- A reader whose errors are the places `S` where it stops reports the quotes among them. -/
theorem unterminatedString_iff_reportedAt {α : Type} {r : Except SyntaxError α}
    {S : List Char → Prop} (hsuffix : ∀ rest, S rest → rest <:+ text.toList)
    (hsound : ∀ e, r = .error e → e = .emptyInput ∨
      ∃ rest, S rest ∧ e = .stoppedAt text.toList rest)
    (hcomplete : ∀ quote rest, IsQuote quote → S (quote :: rest) →
      r = .error (.stoppedAt text.toList (quote :: rest)))
    (hplaces : ∀ front quote rest, QuoteAt text position front quote rest →
      (S (quote :: rest) ↔ complete front ∨ awaits front quote ∧ quote ∉ rest)) :
    r = .error (.unterminatedString position) ↔ ReportedAt complete awaits text position := by
  constructor
  · intro h
    obtain hempty | ⟨left, hleft, hstopped⟩ := hsound _ h
    · cases hempty
    · obtain ⟨front, hfront⟩ := hsuffix left hleft
      rw [← hfront] at hstopped
      obtain ⟨hposition, quote, rest, hquote, rfl⟩ := stoppedAt_eq_unterminatedString hstopped.symm
      have hplace : QuoteAt text position front quote rest := ⟨hquote, hfront.symm, hposition⟩
      exact ⟨front, quote, rest, hplace, (hplaces front quote rest hplace).mp hleft⟩
  · rintro ⟨front, quote, rest, hplace, h⟩
    have hstops := (hplaces front quote rest hplace).mpr h
    rw [hcomplete quote rest hplace.isQuote hstops, hplace.text_eq,
      stoppedAt_quote front rest hplace.isQuote, hplace.position_eq]

theorem expr_unterminatedString_iff : Expr.ofText text = .error (.unterminatedString position) ↔
    ReportedAt Expr.Complete Expr.Awaits (Text.trim text) position := by
  have htrim : (Text.trim text).toList = Text.trimChars text.toList := by
    rw [Text.trim, String.toList_ofList]
  refine unterminatedString_iff_reportedAt (S := Expr.StopsAt (Text.trim text).toList)
    (fun _ h => h.suffix) ?_ ?_ ?_
  · rw [htrim]
    exact fun e => Expr.stopsAt_of_ofChars
  · rw [htrim]
    intro quote rest hquote h
    refine Expr.ofChars_of_stopsAt (fun hnil => ?_) h
    rw [hnil] at h
    exact absurd h.suffix (by simp)
  · intro front quote rest h
    rw [h.text_eq]
    exact Expr.stopsAt_quote_iff h.isQuote

theorem markup_unterminatedString_iff : Markup.ofText text = .error (.unterminatedString position) ↔
    ReportedAt Markup.Complete Markup.Awaits text position := by
  refine unterminatedString_iff_reportedAt (S := Markup.StopsAt text.toList)
    (fun _ h => h.suffix) ?_ ?_ ?_
  · exact fun e => Markup.stopsAt_of_ofChars
  · intro quote rest hquote h
    have hmem : quote ∈ text.toList := h.suffix.mem List.mem_cons_self
    exact Markup.ofChars_of_stopsAt (Expr.trimChars_ne_nil hmem hquote.isWhiteSpace_eq_false) h
  · intro front quote rest h
    rw [h.text_eq]
    exact Markup.stopsAt_quote_iff h.isQuote

/-- At this byte there is a quote that no other matches. -/
def Unclosed (text : String) (position : Nat) : Prop :=
  ∃ front quote rest, QuoteAt text position front quote rest ∧ quote ∉ rest

/-- At this byte a string with an end starts, behind a text of this kind. -/
def ClosedBehind (complete : List Char → Prop) (text : String) (position : Nat) : Prop :=
  ∃ front quote rest, QuoteAt text position front quote rest ∧ complete front ∧ quote ∈ rest

/-- A report is right unless it is about a string with an end that stands behind a complete text. -/
theorem unclosed_of_reportedAt_iff :
    (ReportedAt complete awaits text position → Unclosed text position) ↔
      ¬ClosedBehind complete text position := by
  constructor
  · rintro hunclosed ⟨front, quote, rest, hquote, hcomplete, hclosed⟩
    obtain ⟨_, _, _, hquote', hopen⟩ := hunclosed ⟨front, quote, rest, hquote, .inl hcomplete⟩
    obtain ⟨-, rfl, rfl⟩ := hquote.unique hquote'
    exact hopen hclosed
  · rintro hbehind ⟨front, quote, rest, hquote, hcomplete | ⟨-, hopen⟩⟩
    · exact ⟨front, quote, rest, hquote,
        fun hclosed => hbehind ⟨front, quote, rest, hquote, hcomplete, hclosed⟩⟩
    · exact ⟨front, quote, rest, hquote, hopen⟩

end

/-- A string said to have no end has none, unless it has one and stands behind an expression, a
condition or the string of a bracketed name. There every quote is reported. -/
theorem unclosed_of_unterminatedString_iff (text : String) (position : Nat) :
    ((Expr.ofText text = .error (.unterminatedString position) →
      Unclosed (Text.trim text) position) ↔
      ¬ClosedBehind Expr.Complete (Text.trim text) position) ∧
    ((Markup.ofText text = .error (.unterminatedString position) → Unclosed text position) ↔
      ¬ClosedBehind Markup.Complete text position) := by
  rw [expr_unterminatedString_iff, markup_unterminatedString_iff]
  exact ⟨unclosed_of_reportedAt_iff, unclosed_of_reportedAt_iff⟩

/-- In a bracketed name and behind a blank, the reports name strings that have no end. -/
theorem unclosed_of_unterminatedString_behind_blanks :
    Expr.ofText " [ \"é" = .error (.unterminatedString 2) ∧ Unclosed (Text.trim " [ \"é") 2 ∧
    Markup.ofText " 'é" = .error (.unterminatedString 1) ∧ Unclosed " 'é" 1 := by
  have hname : Expr.ofText " [ \"é" = .error (.unterminatedString 2) := by decide +kernel
  have hmarkup : Markup.ofText " 'é" = .error (.unterminatedString 1) := by decide +kernel
  have hdouble : QuoteAt (Text.trim " [ \"é") 2 ['[', ' '] '"' ['é'] :=
    ⟨.inl rfl, by decide +kernel, by decide +kernel⟩
  have hsingle : QuoteAt " 'é" 1 [' '] '\'' ['é'] := ⟨.inr rfl, rfl, rfl⟩
  refine ⟨hname, (unclosed_of_unterminatedString_iff _ _).1.mpr ?_ hname, hmarkup,
    (unclosed_of_unterminatedString_iff _ _).2.mpr ?_ hmarkup⟩
  · rintro ⟨front, quote, rest, hquote, -, hclosed⟩
    obtain ⟨-, rfl, rfl⟩ := hdouble.unique hquote
    exact absurd hclosed (by decide)
  · rintro ⟨front, quote, rest, hquote, -, hclosed⟩
    obtain ⟨-, rfl, rfl⟩ := hsingle.unique hquote
    exact absurd hclosed (by decide)

/-- The second of two strings is reported though it has an end. -/
theorem terminated_string_reported :
    Expr.ofText "'a''b'" = .error (.unterminatedString 3) ∧ ¬Unclosed (Text.trim "'a''b'") 3 := by
  refine ⟨by decide +kernel, ?_⟩
  rintro ⟨front, quote, rest, hquote, hopen⟩
  have hplace : QuoteAt (Text.trim "'a''b'") 3 ['\'', 'a', '\''] '\'' ['b', '\''] :=
    ⟨.inr rfl, by decide +kernel, by decide +kernel⟩
  obtain ⟨-, rfl, rfl⟩ := hplace.unique hquote
  exact hopen (by decide)

end SyntaxError
end LiquidEval
