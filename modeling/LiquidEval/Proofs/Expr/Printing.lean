import LiquidEval.Expr.Printer
import LiquidEval.Proofs.Expr.Tree

/-! Which expressions survive printing. The quotes of a name between brackets are not printed, and
nothing else of an expression is lost. So it is read again from its print exactly if all its names
can do without quotes. -/
namespace LiquidEval

/-- What stands in an expression, at any depth. -/
inductive Leaf where
  | literal (value : Literal)
  | root (name : String)
  | key (name : String)

mutual
def Expr.leaves : Expr → List Leaf
  | .literal value => [.literal value]
  | .range first last => first.leaves ++ last.leaves
  | .path root lookups => .root root :: leavesOf lookups
def Lookup.leaves : Lookup → List Leaf
  | .key name => [.key name]
  | .index i => [.literal (.int i)]
  | .dynamic e => e.leaves
def leavesOf : List Lookup → List Leaf
  | [] => []
  | l :: rest => l.leaves ++ leavesOf rest
end

/-- The print of a floating-point number may have an exponent, which is not read. -/
def Leaf.Exact : Leaf → Prop
  | .literal (.float _) => False
  | _ => True

/-- Without quotes a root has to be a name, and a key a segment that is no index. -/
def Leaf.Bare : Leaf → Prop
  | .literal _ => True
  | .root name => ∃ n : Expr.Name, n.value = name
  | .key name => ∃ s : Expr.Segment, String.ofList s.text = name ∧ ¬s.IsIndex

namespace Expr

/-- Between brackets only a string is printed otherwise than as the expression it is. -/
theorem Asks.print_or_string {e : Expr} {l : Lookup} (h : Asks e l) :
    (∃ s, e = .literal (.string s) ∧ l = .key s) ∨
      l.print = "[" ++ e.print ++ "]" ∧ l.leaves = e.leaves := by
  cases h with
  | key s => exact .inl ⟨s, rfl, rfl⟩
  | index i => exact .inr ⟨rfl, rfl⟩
  | dynamic => exact .inr ⟨rfl, rfl⟩

/-- Leaving out a string between brackets leaves out nothing but a string. -/
theorem Asks.exact {e : Expr} {l : Lookup} (hl : Asks e l) (h : ∀ leaf ∈ l.leaves, leaf.Exact) :
    ∀ leaf ∈ e.leaves, leaf.Exact := by
  rcases hl.print_or_string with ⟨s, rfl, -⟩ | ⟨-, hleaves⟩
  · simp [leaves, Leaf.Exact]
  · rwa [← hleaves]

theorem Segment.lookup_cases (s : Segment) :
    (s.lookup = .key (String.ofList s.text) ∧ (Leaf.key (String.ofList s.text)).Bare) ∨
      ∃ i, s.lookup = .index i := by
  unfold lookup
  split
  next => exact .inr ⟨_, rfl⟩
  next h => exact .inl ⟨rfl, s, rfl, h⟩

theorem exists_quote_print (s : String) :
    ∃ quote, (Literal.string s).print.toList = quote :: (s.toList ++ [quote]) ∧
      (quote = '"' ∧ '\'' ∈ s.toList ∨ quote = '\'' ∧ '\'' ∉ s.toList) := by
  have hprint : (Literal.string s).print =
      if s.contains '\'' then "\"" ++ s ++ "\"" else "'" ++ s ++ "'" := rfl
  rw [hprint]
  split
  next h => exact ⟨'"', by simp, .inl ⟨rfl, by simpa using h⟩⟩
  next h => exact ⟨'\'', by simp, .inr ⟨rfl, by simpa using h⟩⟩

theorem Numeral.exists_int {n : Numeral} (h : (Leaf.literal n.literal).Exact) :
    ∃ i, n.literal = .int i := by
  unfold literal at h ⊢
  split at h
  next hfits => exact ⟨_, if_pos hfits⟩
  next => cases h

/-! What is printed is derived, if no name needs its quotes. -/

theorem derives_string (q : Quoted) :
    Derives (.expr (.literal (.string q.value))) (Literal.string q.value).print.toList := by
  apply Derives.literal
  apply IsLiteral.string
  have hbody : q.value.toList = q.body := by simp [Quoted.value]
  obtain ⟨quote, hprint, hquote⟩ := exists_quote_print q.value
  rw [hprint, hbody]
  rw [hbody] at hquote
  rcases hquote with ⟨rfl, hmem⟩ | ⟨rfl, hmem⟩
  · -- a string that holds a single quote was not read between such quotes
    have hne : q.quote ≠ '\'' := fun h => q.quote_not_mem (h ▸ hmem)
    have hdouble : q.quote = '"' := q.is_quote.resolve_right hne
    exact .mk (.inl rfl) (hdouble ▸ q.quote_not_mem)
  · exact .mk (.inr rfl) hmem

theorem derives_int (i : Int64) :
    Derives (.expr (.literal (.int i))) (Literal.int i).print.toList := by
  have hnumber := IsLiteral.number (Numeral.ofInt64 i).isNumber_text
  rw [Numeral.numberLiteral_text, Numeral.literal_ofInt64, Numeral.text_ofInt64] at hnumber
  exact .literal hnumber

theorem derives_keyword {v : Literal} {t : List Char} (h : IsKeyword v t) :
    Derives (.expr (.literal v)) v.print.toList := by
  apply Derives.literal
  apply IsLiteral.keyword
  cases h with
  | true => exact .true
  | false => exact .false
  | nil => exact .nil
  | null => exact .nil

theorem derives_range {a b : Expr} (ha : Derives (.expr a) a.print.toList)
    (hb : Derives (.expr b) b.print.toList) :
    Derives (.expr (.range a b)) (Expr.range a b).print.toList := by
  have hblanks : Blanks [] := by simp [Blanks]
  simpa [Expr.print] using Derives.range hblanks ha hblanks hblanks hb hblanks

theorem derives_path {root : String} {ls : List Lookup} (hroot : (Leaf.root root).Bare)
    (hls : Derives (.lookups ls) (printLookups ls).toList) :
    Derives (.expr (.path root ls)) (Expr.path root ls).print.toList := by
  obtain ⟨n, rfl⟩ := hroot
  simpa [Expr.print, Name.value] using Derives.path n.isRoot hls

theorem derives_key {name : String} {ls : List Lookup} (hkey : (Leaf.key name).Bare)
    (hls : Derives (.lookups ls) (printLookups ls).toList) :
    Derives (.lookups (.key name :: ls)) (printLookups (.key name :: ls)).toList := by
  obtain ⟨s, rfl, hs⟩ := hkey
  have hlookup : s.lookup = .key (String.ofList s.text) := if_neg hs
  simpa [printLookups, Lookup.print, hlookup] using s.derives hls

theorem derives_bracket {e : Expr} {l : Lookup} {ls : List Lookup}
    (he : Derives (.expr e) e.print.toList) (hl : Asks e l)
    (hprint : l.print = "[" ++ e.print ++ "]")
    (hls : Derives (.lookups ls) (printLookups ls).toList) :
    Derives (.lookups (l :: ls)) (printLookups (l :: ls)).toList := by
  have hblanks : Blanks [] := by simp [Blanks]
  simpa [printLookups, hprint] using Derives.bracket hblanks he hl hblanks hls

mutual
/-- An expression that needs no quotes for its names derives its own print. -/
theorem Tree.derives_print (d : Tree) (h : ∀ l ∈ d.expr.leaves, l.Exact ∧ l.Bare) :
    Derives (.expr d.expr) d.expr.print.toList := by
  match d with
  | .string q => exact derives_string q
  | .number n =>
    rw [Tree.expr, leaves, List.forall_mem_singleton] at h
    obtain ⟨i, hi⟩ := n.exists_int h.1
    rw [Tree.expr, hi]
    exact derives_int i
  | .keyword k => exact derives_keyword k.property
  | .range _ a _ _ b _ =>
    rw [Tree.expr, leaves, List.forall_mem_append] at h
    exact derives_range (a.derives_print h.1) (b.derives_print h.2)
  | .named n steps =>
    rw [Tree.expr, leaves, List.forall_mem_cons] at h
    exact derives_path h.1.2 (steps.derives_print h.2)
  | .bracketed _ q _ steps =>
    rw [Tree.expr, leaves, List.forall_mem_cons] at h
    exact derives_path h.1.2 (steps.derives_print h.2)

theorem Steps.derives_print (s : Steps) (h : ∀ l ∈ leavesOf s.lookups, l.Exact ∧ l.Bare) :
    Derives (.lookups s.lookups) (printLookups s.lookups).toList := by
  match s with
  | .done => exact .done
  | .dot s rest =>
    rw [Steps.lookups, leavesOf, List.forall_mem_append] at h
    have hrest := rest.derives_print h.2
    rcases s.lookup_cases with ⟨hkey, hbare⟩ | ⟨i, hi⟩
    · rw [Steps.lookups, hkey]
      exact derives_key hbare hrest
    · rw [Steps.lookups, hi]
      exact derives_bracket (derives_int i) (.index i) rfl hrest
  | .bracket _ e _ rest =>
    rw [Steps.lookups, leavesOf, List.forall_mem_append] at h
    have hrest := rest.derives_print h.2
    rw [Steps.lookups]
    rcases e.asks.print_or_string with ⟨s, -, hs⟩ | ⟨hprint, hleaves⟩
    · rw [hs] at h ⊢
      have hkey := (h.1 (.key s) (by simp [Lookup.leaves])).2
      exact derives_key hkey hrest
    · rw [hleaves] at h
      exact derives_bracket (e.derives_print h.1) e.asks hprint hrest
end

/-! Quotes count what printing loses. -/

def isQuote (c : Char) : Bool := c == '"' || c == '\''

def quotes (t : List Char) : Nat := t.countP isQuote

@[simp] theorem quotes_nil : quotes [] = 0 := rfl

@[simp] theorem quotes_cons (c : Char) (t : List Char) :
    quotes (c :: t) = quotes t + if isQuote c then 1 else 0 := List.countP_cons

@[simp] theorem quotes_append (t u : List Char) : quotes (t ++ u) = quotes t + quotes u :=
  List.countP_append

theorem quotes_trimChars_le (t : List Char) : quotes (Text.trimChars t) ≤ quotes t := by
  have hend := (List.dropWhile_sublist Text.isWhiteSpace (l := (Text.trimStart t).reverse)).reverse
  rw [List.reverse_reverse] at hend
  exact (hend.trans (List.dropWhile_sublist _)).countP_le

theorem quotes_words {w : List Char} (h : Words w) : quotes w = 0 := by
  rw [quotes, List.countP_eq_zero]
  intro c hc hquote
  have hword := h c hc
  simp only [isQuote, Bool.or_eq_true, beq_iff_eq] at hquote
  rcases hquote with rfl | rfl <;> revert hword <;> decide

@[simp] theorem quotes_gap (w : Gap) : quotes w.val = 0 := by
  rw [quotes, List.countP_eq_zero]
  intro c hc
  rcases isBlank_cases (w.property c hc) with rfl | rfl | rfl | rfl <;> decide

@[simp] theorem Segment.quotes_text (s : Segment) : quotes s.text = 0 := by
  have hmark : quotes s.mark = 0 := by
    rcases s.isMark with h | h <;> rw [h] <;> decide
  rw [text, quotes_append, quotes_words s.words, hmark]

@[simp] theorem Quoted.quotes_text (q : Quoted) : quotes q.text = quotes q.body + 2 := by
  have hquote : isQuote q.quote = true := by
    rcases q.is_quote with h | h <;> rw [h] <;> decide
  simp [text, hquote]

@[simp] theorem quotes_print_string (s : String) :
    quotes (Literal.string s).print.toList = quotes s.toList + 2 := by
  obtain ⟨quote, hprint, hquote⟩ := exists_quote_print s
  have : isQuote quote = true := by
    rcases hquote with ⟨rfl, -⟩ | ⟨rfl, -⟩ <;> decide
  simp [hprint, this]

@[simp] theorem quotes_print_int (i : Int64) : quotes (Value.intText i).toList = 0 := by
  have hdigits : quotes (Numeral.ofInt64 i).whole = 0 :=
    quotes_words fun c hc => isWord_of_isAsciiDigit ((Numeral.ofInt64 i).whole_digits.2 c hc)
  have htail : (Numeral.ofInt64 i).tail = [] := rfl
  rw [← Numeral.text_ofInt64, Numeral.text, htail]
  cases (Numeral.ofInt64 i).negative <;> simp [hdigits, isQuote]

@[simp] theorem quotes_print_keyword (k : Keyword) : quotes k.val.2.print.toList = 0 := by
  rcases k.property.bool_or_nil with ⟨b, hb⟩ | hnil
  · rw [hb]
    cases b <;> decide
  · rw [hnil]
    rfl

/-- Printing adds no quotes, and it leaves some out unless no name has any. -/
structure Sheds (t printed : List Char) (leaves : List Leaf) : Prop where
  quotes_le : quotes printed ≤ quotes t
  bare_of_le : quotes t ≤ quotes printed → ∀ l ∈ leaves, l.Bare

section
variable {t printed t' printed' : List Char} {ls ls' : List Leaf}

theorem Sheds.of_bare (h : quotes printed ≤ quotes t) (hbare : ∀ l ∈ ls, l.Bare) :
    Sheds t printed ls := ⟨h, fun _ => hbare⟩

theorem Sheds.of_lt (h : quotes printed < quotes t) : Sheds t printed ls :=
  ⟨by omega, fun _ => by omega⟩

theorem Sheds.append (h : Sheds t printed ls) (h' : Sheds t' printed' ls') :
    Sheds (t ++ t') (printed ++ printed') (ls ++ ls') := by
  have hle := h.quotes_le
  have hle' := h'.quotes_le
  constructor
  · simp only [quotes_append]
    omega
  · simp only [quotes_append]
    intro hge
    rw [List.forall_mem_append]
    exact ⟨h.bare_of_le (by omega), h'.bare_of_le (by omega)⟩

theorem Sheds.congr (h : Sheds t printed ls) (ht : quotes t' = quotes t)
    (hprinted : quotes printed' = quotes printed) : Sheds t' printed' ls := by
  constructor
  · rw [ht, hprinted]
    exact h.quotes_le
  · rw [ht, hprinted]
    exact h.bare_of_le

end

theorem sheds_literal {v : Literal} {t : List Char} (h : quotes v.print.toList ≤ quotes t) :
    Sheds t (Expr.literal v).print.toList (Expr.literal v).leaves :=
  .of_bare h (by simp [leaves, Leaf.Bare])

theorem Segment.sheds (s : Segment) :
    Sheds ('.' :: s.text) s.lookup.print.toList s.lookup.leaves := by
  rcases s.lookup_cases with ⟨hkey, hbare⟩ | ⟨i, hi⟩
  · rw [hkey]
    apply Sheds.of_bare
    · simp [Lookup.print, isQuote]
    · simpa [Lookup.leaves] using hbare
  · rw [hi]
    apply Sheds.of_bare
    · simp [Lookup.print, isQuote]
    · simp [Lookup.leaves, Leaf.Bare]

theorem Sheds.bracket {e : Expr} {l : Lookup} {t : List Char} {w w' : Gap} (hl : Asks e l)
    (h : Sheds t e.print.toList e.leaves) :
    Sheds ('[' :: (w.val ++ (t ++ (w'.val ++ [']'])))) l.print.toList l.leaves := by
  rcases hl.print_or_string with ⟨s, rfl, rfl⟩ | ⟨hprint, hleaves⟩
  · apply of_lt
    have hle := h.quotes_le
    simp only [print, quotes_print_string] at hle
    simp [Lookup.print, isQuote]
    omega
  · rw [hleaves]
    apply h.congr
    · simp [isQuote]
    · simp [hprint, isQuote]

mutual
theorem Tree.sheds (d : Tree) (h : ∀ l ∈ d.expr.leaves, l.Exact) :
    Sheds d.text d.expr.print.toList d.expr.leaves := by
  match d with
  | .string q => exact sheds_literal (by simp [Tree.text, Quoted.value])
  | .number n =>
    rw [Tree.expr, leaves, List.forall_mem_singleton] at h
    obtain ⟨i, hi⟩ := n.exists_int h
    exact sheds_literal (by simp [hi, Literal.print])
  | .keyword k => exact sheds_literal (by simp)
  | .range w₁ a w₂ w₃ b w₄ =>
    rw [Tree.expr, leaves, List.forall_mem_append] at h
    apply ((a.sheds h.1).append (b.sheds h.2)).congr
    · simp [Tree.text, isQuote]
    · simp [Tree.expr, print, isQuote]
  | .named n steps =>
    rw [Tree.expr, leaves, List.forall_mem_cons] at h
    have hroot : Sheds n.text n.value.toList [.root n.value] :=
      .of_bare (by simp [Name.value]) (by simp [Leaf.Bare])
    simpa [Tree.text, Tree.expr, print, leaves] using hroot.append (steps.sheds h.2)
  | .bracketed w q w' steps =>
    rw [Tree.expr, leaves, List.forall_mem_cons] at h
    have hle := (steps.sheds h.2).quotes_le
    apply Sheds.of_lt
    simp [Tree.text, Tree.expr, print, Quoted.value, isQuote]
    omega

theorem Steps.sheds (s : Steps) (h : ∀ l ∈ leavesOf s.lookups, l.Exact) :
    Sheds s.text (printLookups s.lookups).toList (leavesOf s.lookups) := by
  match s with
  | .done =>
    apply Sheds.of_bare
    · simp [Steps.lookups, printLookups]
    · simp [Steps.lookups, leavesOf]
  | .dot s rest =>
    rw [Steps.lookups, leavesOf, List.forall_mem_append] at h
    simpa [Steps.text, Steps.lookups, printLookups, leavesOf] using s.sheds.append (rest.sheds h.2)
  | .bracket w e w' rest =>
    rw [Steps.lookups, leavesOf, List.forall_mem_append] at h
    have he := e.sheds (e.asks.exact h.1)
    simpa [Steps.text, Steps.lookups, printLookups, leavesOf] using
      (Sheds.bracket e.asks he).append (rest.sheds h.2)
end

/-- An expression without floating-point numbers is read again from its print exactly if no name in
it, at any depth, needs quotes. -/
theorem survives_printing_iff_bare {text : String} {e : Expr} (h : ofText text = .ok e)
    (hexact : ∀ l ∈ e.leaves, l.Exact) :
    ofText e.print = .ok e ↔ ∀ l ∈ e.leaves, l.Bare := by
  unfold ofText at h ⊢
  rw [ofChars_eq_ok_iff] at h ⊢
  constructor
  · intro hprint
    obtain ⟨d, hd, rfl⟩ := derives_iff_exists_tree.mp hprint
    have hle := quotes_trimChars_le d.expr.print.toList
    rw [← hd] at hle
    exact (d.sheds hexact).bare_of_le hle
  · intro hbare
    obtain ⟨d, -, rfl⟩ := derives_iff_exists_tree.mp h
    have hprint := d.derives_print fun l hl => ⟨hexact l hl, hbare l hl⟩
    obtain ⟨hstart, hend⟩ := hprint.solidIn
    rwa [trimChars_eq_self hstart hend]

theorem survives_printing_iff_bare_of_quoted_names :
    let e : Expr := .path "user" [.key "name?", .dynamic (.path "n" [])]
    let e' : Expr := .path "user" [.key "10"]
    ofText "['user']['name?'][ n]" = .ok e ∧ ofText e.print = .ok e ∧
      ofText "user['10']" = .ok e' ∧ ofText e'.print ≠ .ok e' := by
  intro e e'
  let user : Name := ⟨⟨"user".toList, false, by decide, List.all_eq_true.mp (by decide)⟩,
    by decide, by decide⟩
  let n : Name := ⟨⟨"n".toList, false, by decide, List.all_eq_true.mp (by decide)⟩,
    by decide, by decide⟩
  let name : Segment := ⟨"name".toList, true, by decide, List.all_eq_true.mp (by decide)⟩
  let quoted (body : List Char) (h : '\'' ∉ body) : Quoted := ⟨'\'', body, .inr rfl, h⟩
  let tight : Gap := ⟨[], by simp [Blanks]⟩
  let wide : Gap := ⟨[' '], by simp [Blanks, Text.isBlank]⟩
  let d : Tree := .bracketed tight (quoted user.text (by decide)) tight
    (.bracket tight (.string (quoted name.text (by decide))) tight
      (.bracket wide (.named n .done) tight .done))
  let d' : Tree := .named user
    (.bracket tight (.string (quoted ['1', '0'] (by decide))) tight .done)
  have h : ofText "['user']['name?'][ n]" = .ok e := ofText_of_tree d (by decide)
  have h' : ofText "user['10']" = .ok e' := ofText_of_tree d' (by decide)
  have hexact : ∀ l ∈ e.leaves, l.Exact := by
    simp [e, leaves, leavesOf, Lookup.leaves, Leaf.Exact]
  have hexact' : ∀ l ∈ e'.leaves, l.Exact := by
    simp [e', leaves, leavesOf, Lookup.leaves, Leaf.Exact]
  have huser : (Leaf.root "user").Bare := ⟨user, rfl⟩
  have hn : (Leaf.root "n").Bare := ⟨n, rfl⟩
  have hname : (Leaf.key "name?").Bare := ⟨name, rfl, fun h => by cases h.1⟩
  have hbare : ∀ l ∈ e.leaves, l.Bare := by
    simpa [e, leaves, leavesOf, Lookup.leaves, Leaf.Bare] using ⟨huser, hname, hn⟩
  have hindex : ¬(Leaf.key "10").Bare := by
    rintro ⟨s, hs, hindex⟩
    have htext : s.text = ['1', '0'] := by simpa using congrArg String.toList hs
    obtain ⟨hmark, hdigits⟩ := s.all_text.mp (by rw [htext]; decide)
    have hword : s.word = ['1', '0'] := by simpa [Segment.text, Segment.mark, hmark] using htext
    exact hindex ⟨hmark, hdigits, by rw [hword]; decide⟩
  refine ⟨h, (survives_printing_iff_bare h hexact).mpr hbare, h', ?_⟩
  intro hprint
  apply hindex
  apply (survives_printing_iff_bare h' hexact').mp hprint
  simp [e', leaves, leavesOf, Lookup.leaves]

end Expr
end LiquidEval
