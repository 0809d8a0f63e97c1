import LiquidEval.Proofs.Expr.Numeral
import LiquidEval.Proofs.Expr.Reading

/-! Derivations of the grammar as trees. A tree keeps all that the text of an expression can vary
in: which quotes, how many blanks, how a number or the way to a member is written. From its tree an
expression is built part by part. -/
namespace LiquidEval.Expr

/-- Blanks where the grammar allows any number of them. -/
abbrev Gap := {w : List Char // Blanks w}

structure Quoted where
  quote : Char
  body : List Char
  is_quote : quote = '"' ∨ quote = '\''
  quote_not_mem : quote ∉ body

def Quoted.text (q : Quoted) : List Char := q.quote :: (q.body ++ [q.quote])

def Quoted.value (q : Quoted) : String := String.ofList q.body

abbrev Keyword := {k : List Char × Literal // IsKeyword k.2 k.1}

/-- What may follow a dot: characters of a name, and perhaps a question mark. -/
structure Segment where
  word : List Char
  marked : Bool
  word_ne_nil : word ≠ []
  words : Words word

namespace Segment

def mark (s : Segment) : List Char := if s.marked then ['?'] else []

def text (s : Segment) : List Char := s.word ++ s.mark

/-- Digits that fit in 64 bits, and nothing else. -/
def IsIndex (s : Segment) : Prop :=
  s.marked = false ∧ (∀ c ∈ s.word, Decimal.isAsciiDigit c = true) ∧
    Decimal.fitsInt64 (Decimal.naturalOf s.word) = true

instance (s : Segment) : Decidable s.IsIndex := inferInstanceAs (Decidable (_ ∧ _ ∧ _))

def lookup (s : Segment) : Lookup :=
  if s.IsIndex then .index (Int64.ofInt (Decimal.naturalOf s.word))
  else .key (String.ofList s.text)

end Segment

/-- A segment that starts with a letter or an underscore and is no keyword, with or without the
question mark. -/
structure Name extends Segment where
  starts : word.head?.any startsName = true
  not_keyword : ∀ v, ¬IsKeyword v word

def Name.value (n : Name) : String := String.ofList n.text

mutual
inductive Tree where
  | string (q : Quoted)
  | number (n : Numeral)
  | keyword (k : Keyword)
  | range (w₁ : Gap) (first : Tree) (w₂ w₃ : Gap) (last : Tree) (w₄ : Gap)
  | named (n : Name) (steps : Steps)
  | bracketed (w : Gap) (q : Quoted) (w' : Gap) (steps : Steps)
/-- The lookups of a path. -/
inductive Steps where
  | done
  | dot (s : Segment) (rest : Steps)
  | bracket (w : Gap) (e : Tree) (w' : Gap) (rest : Steps)
end

mutual
/-- The text that a tree derives. -/
def Tree.text : Tree → List Char
  | .string q => q.text
  | .number n => n.text
  | .keyword k => k.val.1
  | .range w₁ a w₂ w₃ b w₄ =>
    '(' :: (w₁.val ++ (a.text ++ (w₂.val ++
      ('.' :: '.' :: (w₃.val ++ (b.text ++ (w₄.val ++ [')'])))))))
  | .named n steps => n.text ++ steps.text
  | .bracketed w q w' steps => '[' :: (w.val ++ (q.text ++ (w'.val ++ ']' :: steps.text)))
def Steps.text : Steps → List Char
  | .done => []
  | .dot s rest => '.' :: (s.text ++ rest.text)
  | .bracket w e w' rest => '[' :: (w.val ++ (e.text ++ (w'.val ++ ']' :: rest.text)))
end

/-- What is asked for between brackets by a tree that builds the expression: a string names a key
and an integer an index, and any other is followed as the expression it is. -/
def Tree.asked (d : Tree) (e : Expr) : Lookup :=
  match d with
  | .string q => .key q.value
  | .number n =>
    if n.fraction = none ∧ Decimal.fitsInt64 n.integer = true then .index (Int64.ofInt n.integer)
    else .dynamic e
  | .keyword _ | .range .. | .named .. | .bracketed .. => .dynamic e

mutual
/-- The expression that is built of a tree. -/
def Tree.expr : Tree → Expr
  | .string q => .literal (.string q.value)
  | .number n => .literal n.literal
  | .keyword k => .literal k.val.2
  | .range _ a _ _ b _ => .range a.expr b.expr
  | .named n steps => .path n.value steps.lookups
  | .bracketed _ q _ steps => .path q.value steps.lookups
def Steps.lookups : Steps → List Lookup
  | .done => []
  | .dot s rest => s.lookup :: rest.lookups
  | .bracket _ d _ rest => d.asked d.expr :: rest.lookups
end

theorem IsKeyword.bool_or_nil {v : Literal} {t : List Char} (h : IsKeyword v t) :
    (∃ b, v = .bool b) ∨ v = .nil := by
  cases h with
  | true => exact .inl ⟨_, rfl⟩
  | false => exact .inl ⟨_, rfl⟩
  | nil => exact .inr rfl
  | null => exact .inr rfl

theorem Tree.asks (d : Tree) : Asks d.expr (d.asked d.expr) := by
  cases d with
  | string q => exact .key q.value
  | number n =>
    by_cases hint : n.fraction = none ∧ Decimal.fitsInt64 n.integer = true
    · simp only [asked, expr, Numeral.literal, if_pos hint]
      exact .index _
    · simp only [asked, expr, Numeral.literal, if_neg hint]
      exact .dynamic (by simp) (by simp)
  | keyword k =>
    unfold asked expr
    rcases k.property.bool_or_nil with ⟨b, hb⟩ | hnil
    · rw [hb]
      exact .dynamic (by simp) (by simp)
    · rw [hnil]
      exact .dynamic (by simp) (by simp)
  | range => exact .dynamic (by simp [expr]) (by simp [expr])
  | named => exact .dynamic (by simp [expr]) (by simp [expr])
  | bracketed => exact .dynamic (by simp [expr]) (by simp [expr])

theorem Asks.unique {e : Expr} {l l' : Lookup} (h : Asks e l) (h' : Asks e l') : l = l' := by
  rw [← asks_iff.mp h, asks_iff.mp h']

theorem Quoted.isString (q : Quoted) : IsString q.value q.text := .mk q.is_quote q.quote_not_mem

theorem IsString.exists_quoted {s : String} {t : List Char} (h : IsString s t) :
    ∃ q : Quoted, q.text = t ∧ q.value = s := by
  cases h with
  | @mk quote body hquote hbody => exact ⟨⟨quote, body, hquote, hbody⟩, rfl, rfl⟩

theorem Segment.isMark (s : Segment) : IsMark s.mark := by
  unfold mark IsMark
  cases s.marked <;> simp

theorem IsMark.exists_eq {m : List Char} (h : IsMark m) :
    ∃ b : Bool, m = if b then ['?'] else [] := by
  rcases h with rfl | rfl
  · exact ⟨false, rfl⟩
  · exact ⟨true, rfl⟩

theorem Segment.all_text (s : Segment) : s.text.all Decimal.isAsciiDigit = true ↔
    s.marked = false ∧ ∀ c ∈ s.word, Decimal.isAsciiDigit c = true := by
  have hquestion : Decimal.isAsciiDigit '?' = false := by decide
  unfold text mark
  cases s.marked <;> simp [hquestion]

/-- Digits without a sign denote the number that they spell. -/
theorem readInt64?_of_digits {t : List Char} (h : Digits t) :
    Decimal.readInt64? t = Decimal.int64? (Decimal.naturalOf t) := by
  have hread := Numeral.readInt64?_text ⟨false, t, none, h, by simp⟩
  simpa [Numeral.text, Numeral.tail, Numeral.integer, Decimal.signed] using hread

theorem Segment.dotLookup_text (s : Segment) : dotLookup s.text = s.lookup := by
  unfold dotLookup lookup
  by_cases hdigits : s.text.all Decimal.isAsciiDigit = true
  · obtain ⟨hmark, hword⟩ := s.all_text.mp hdigits
    have htext : s.text = s.word := by simp [text, mark, hmark]
    rw [if_pos hdigits, htext, readInt64?_of_digits ⟨s.word_ne_nil, hword⟩, Decimal.int64?]
    by_cases hfits : Decimal.fitsInt64 (Decimal.naturalOf s.word) = true
    · rw [if_pos hfits, if_pos ⟨hmark, hword, hfits⟩]
    · rw [if_neg hfits, if_neg fun h => hfits h.2.2]
  · rw [if_neg hdigits, if_neg fun h => hdigits (s.all_text.mpr ⟨h.1, h.2.1⟩)]

theorem Segment.derives (s : Segment) {ls : List Lookup} {u : List Char}
    (hls : Derives (.lookups ls) u) :
    Derives (.lookups (s.lookup :: ls)) ('.' :: (s.text ++ u)) := by
  obtain ⟨c, w, hword⟩ := List.exists_cons_of_ne_nil s.word_ne_nil
  have hdot := Derives.dot (hword ▸ s.words) s.isMark hls
  have htext : s.text = c :: (w ++ s.mark) := by simp [text, hword]
  rw [← htext, s.dotLookup_text] at hdot
  simpa [htext] using hdot

theorem Name.isRoot (n : Name) : IsRoot n.value n.text := by
  obtain ⟨c, w, hword⟩ := List.exists_cons_of_ne_nil n.word_ne_nil
  have hc : startsName c = true := by simpa [hword] using n.starts
  have hw : Words w := fun d hd => n.words d (by simp [hword, hd])
  have hroot := IsRoot.name hc hw n.isMark (by simpa [hword] using n.not_keyword)
  unfold value Segment.text
  rw [hword]
  exact hroot

mutual
theorem Tree.derives (d : Tree) : Derives (.expr d.expr) d.text := by
  match d with
  | .string q => exact .literal (.string q.isString)
  | .number n =>
    rw [Tree.expr, ← n.numberLiteral_text]
    exact .literal (.number n.isNumber_text)
  | .keyword k => exact .literal (.keyword k.property)
  | .range w₁ a w₂ w₃ b w₄ =>
    exact .range w₁.property a.derives w₂.property w₃.property b.derives w₄.property
  | .named n steps => exact .path n.isRoot steps.derives
  | .bracketed w q w' steps =>
    have hroot := IsRoot.bracketed w.property q.isString w'.property
    simpa [Tree.text, Tree.expr] using Derives.path hroot steps.derives

theorem Steps.derives (s : Steps) : Derives (.lookups s.lookups) s.text := by
  match s with
  | .done => exact .done
  | .dot s rest => exact s.derives rest.derives
  | .bracket w e w' rest => exact .bracket w.property e.derives e.asks w'.property rest.derives
end

/-- What the grammar derives has a tree. -/
def Phrase.HasTree (t : List Char) : Phrase → Prop
  | .expr e => ∃ d : Tree, d.text = t ∧ d.expr = e
  | .lookups ls => ∃ s : Steps, s.text = t ∧ s.lookups = ls

theorem IsLiteral.hasTree {v : Literal} {t : List Char} (h : IsLiteral v t) :
    (Phrase.expr (.literal v)).HasTree t := by
  cases h with
  | string h =>
    obtain ⟨q, rfl, rfl⟩ := h.exists_quoted
    exact ⟨.string q, rfl, rfl⟩
  | number h =>
    obtain ⟨n, rfl⟩ := h.exists_numeral
    exact ⟨.number n, rfl, by rw [Tree.expr, n.numberLiteral_text]⟩
  | @keyword v t h => exact ⟨.keyword ⟨(t, v), h⟩, rfl, rfl⟩

theorem IsRoot.hasTree {root : String} {t : List Char} (h : IsRoot root t) (s : Steps) :
    (Phrase.expr (.path root s.lookups)).HasTree (t ++ s.text) := by
  cases h with
  | @name c w mark hc hw hmark hkey =>
    obtain ⟨b, rfl⟩ := hmark.exists_eq
    refine ⟨.named ⟨⟨c :: w, b, by simp, words_cons hc hw⟩, by simpa using hc, hkey⟩ s, ?_, ?_⟩
    · simp [Tree.text, Segment.text, Segment.mark]
    · simp [Tree.expr, Name.value, Segment.text, Segment.mark]
  | bracketed hw hs hw' =>
    obtain ⟨q, rfl, rfl⟩ := hs.exists_quoted
    exact ⟨.bracketed ⟨_, hw⟩ q ⟨_, hw'⟩ s, by simp [Tree.text], rfl⟩

theorem Derives.hasTree {p : Phrase} {t : List Char} (h : Derives p t) : p.HasTree t := by
  induction h with
  | literal h => exact h.hasTree
  | range hw₁ _ hw₂ hw₃ _ hw₄ iha ihb =>
    obtain ⟨a, rfl, rfl⟩ := iha
    obtain ⟨b, rfl, rfl⟩ := ihb
    exact ⟨.range ⟨_, hw₁⟩ a ⟨_, hw₂⟩ ⟨_, hw₃⟩ b ⟨_, hw₄⟩, rfl, rfl⟩
  | path hroot _ ih =>
    obtain ⟨s, rfl, rfl⟩ := ih
    exact hroot.hasTree s
  | done => exact ⟨.done, rfl, rfl⟩
  | @dot _ c w mark _ hw hmark _ ih =>
    obtain ⟨s, rfl, rfl⟩ := ih
    obtain ⟨b, rfl⟩ := hmark.exists_eq
    let segment : Segment := ⟨c :: w, b, by simp, hw⟩
    refine ⟨.dot segment s, ?_, ?_⟩
    · simp [Steps.text, segment, Segment.text, Segment.mark]
    · rw [Steps.lookups, ← segment.dotLookup_text]
      rfl
  | bracket hw _ hl hw' _ ihe ih =>
    obtain ⟨e, rfl, rfl⟩ := ihe
    obtain ⟨s, rfl, rfl⟩ := ih
    obtain rfl := hl.unique e.asks
    exact ⟨.bracket ⟨_, hw⟩ e ⟨_, hw'⟩ s, rfl, rfl⟩

theorem derives_iff_exists_tree {e : Expr} {t : List Char} :
    Derives (.expr e) t ↔ ∃ d : Tree, d.text = t ∧ d.expr = e := by
  constructor
  · exact fun h => h.hasTree
  · rintro ⟨d, rfl, rfl⟩
    exact d.derives

theorem ofText_of_tree (d : Tree) {text : String} (h : d.text = text.toList) :
    ofText text = .ok d.expr := by
  unfold ofText
  rw [ofChars_eq_ok_iff, ← h, trimChars_eq_self d.derives.solidIn.1 d.derives.solidIn.2]
  exact d.derives

end LiquidEval.Expr
