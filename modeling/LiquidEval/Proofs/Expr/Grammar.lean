import Mathlib.Data.List.TakeWhile
import LiquidEval.Proofs.Text.Classes

/-! The grammar of expressions as a relation between a phrase and its texts. It says nothing of what
may stand behind a text; the reader finds that out by looking ahead. -/
namespace LiquidEval.Expr

def Blanks (w : List Char) : Prop := ∀ c ∈ w, Text.isBlank c = true

def Digits (t : List Char) : Prop := t ≠ [] ∧ ∀ c ∈ t, Decimal.isAsciiDigit c = true

def Words (w : List Char) : Prop := ∀ c ∈ w, isWord c = true

/-- A name and a segment may end in a question mark. -/
def IsMark (m : List Char) : Prop := m = [] ∨ m = ['?']

/-- There are no escapes, so a string cannot hold its own quote. -/
inductive IsString : String → List Char → Prop where
  | mk {quote : Char} {body : List Char} (hquote : quote = '"' ∨ quote = '\'')
      (hbody : quote ∉ body) : IsString (String.ofList body) (quote :: (body ++ [quote]))

def IsFraction (t : List Char) : Prop := t = [] ∨ ∃ digits, Digits digits ∧ t = '.' :: digits

inductive IsNumber : List Char → Prop where
  | mk {sign whole fraction : List Char} (hsign : sign = [] ∨ sign = ['-'])
      (hwhole : Digits whole) (hfraction : IsFraction fraction) :
      IsNumber (sign ++ (whole ++ fraction))

/-- The words that stand for values and name no variable. -/
inductive IsKeyword : Literal → List Char → Prop where
  | true : IsKeyword (.bool Bool.true) "true".toList
  | false : IsKeyword (.bool Bool.false) "false".toList
  | nil : IsKeyword .nil "nil".toList
  | null : IsKeyword .nil "null".toList

inductive IsLiteral : Literal → List Char → Prop where
  | string {s : String} {t : List Char} (h : IsString s t) : IsLiteral (.string s) t
  | number {t : List Char} (h : IsNumber t) : IsLiteral (numberLiteral t) t
  | keyword {v : Literal} {t : List Char} (h : IsKeyword v t) : IsLiteral v t

/-- The name of a path stands for itself, unless it is a keyword; any other has to be put between
brackets. -/
inductive IsRoot : String → List Char → Prop where
  | name {c : Char} {w mark : List Char} (hc : startsName c = true) (hw : Words w)
      (hmark : IsMark mark) (hkey : ∀ v, ¬IsKeyword v (c :: w)) :
      IsRoot (String.ofList (c :: (w ++ mark))) (c :: (w ++ mark))
  | bracketed {s : String} {w t w' : List Char} (hw : Blanks w) (hs : IsString s t)
      (hw' : Blanks w') : IsRoot s ('[' :: (w ++ (t ++ (w' ++ [']']))))

/-- What an expression between brackets asks for: a string names a key and an integer an index, and
what any other asks for is found when the path is followed. -/
inductive Asks : Expr → Lookup → Prop where
  | key (s : String) : Asks (.literal (.string s)) (.key s)
  | index (i : Int64) : Asks (.literal (.int i)) (.index i)
  | dynamic {e : Expr} (hkey : ∀ s, e ≠ .literal (.string s))
      (hindex : ∀ i, e ≠ .literal (.int i)) : Asks e (.dynamic e)

/-- What the grammar derives texts of. -/
inductive Phrase where
  | expr (e : Expr)
  | lookups (ls : List Lookup)

inductive Derives : Phrase → List Char → Prop where
  | literal {v : Literal} {t : List Char} (h : IsLiteral v t) : Derives (.expr (.literal v)) t
  | range {a b : Expr} {w₁ t w₂ w₃ u w₄ : List Char} (hw₁ : Blanks w₁) (ha : Derives (.expr a) t)
      (hw₂ : Blanks w₂) (hw₃ : Blanks w₃) (hb : Derives (.expr b) u) (hw₄ : Blanks w₄) :
      Derives (.expr (.range a b))
        ('(' :: (w₁ ++ (t ++ (w₂ ++ ('.' :: '.' :: (w₃ ++ (u ++ (w₄ ++ [')']))))))))
  | path {root : String} {ls : List Lookup} {t u : List Char} (hroot : IsRoot root t)
      (hls : Derives (.lookups ls) u) : Derives (.expr (.path root ls)) (t ++ u)
  | done : Derives (.lookups []) []
  | dot {ls : List Lookup} {c : Char} {w mark u : List Char} (hw : Words (c :: w))
      (hmark : IsMark mark) (hls : Derives (.lookups ls) u) :
      Derives (.lookups (dotLookup (c :: (w ++ mark)) :: ls)) ('.' :: c :: (w ++ (mark ++ u)))
  | bracket {e : Expr} {l : Lookup} {ls : List Lookup} {w t w' u : List Char} (hw : Blanks w)
      (he : Derives (.expr e) t) (hl : Asks e l) (hw' : Blanks w') (hls : Derives (.lookups ls) u) :
      Derives (.lookups (l :: ls)) ('[' :: (w ++ (t ++ (w' ++ ']' :: u))))

theorem mem_keywords_iff {v : Literal} {t : List Char} : (t, v) ∈ keywords ↔ IsKeyword v t := by
  simp only [keywords, List.mem_cons, List.not_mem_nil, or_false, Prod.mk.injEq]
  constructor
  · rintro (⟨rfl, rfl⟩ | ⟨rfl, rfl⟩ | ⟨rfl, rfl⟩ | ⟨rfl, rfl⟩)
    · exact .true
    · exact .false
    · exact .nil
    · exact .null
  · rintro (_ | _ | _ | _) <;> simp

theorem not_isKeyword_iff {w : List Char} :
    (∀ v, ¬IsKeyword v w) ↔ ∀ k ∈ keywords, k.1 ≠ w := by
  simp only [← mem_keywords_iff]
  constructor
  · rintro h k hk rfl
    exact h k.2 hk
  · exact fun h v hv => h _ hv rfl

instance (w : List Char) : Decidable (∀ v, ¬IsKeyword v w) :=
  decidable_of_iff _ not_isKeyword_iff.symm

theorem asks_iff {e : Expr} {l : Lookup} : Asks e l ↔ bracketLookup e = l := by
  constructor
  · intro h
    cases h with
    | key s => rfl
    | index i => rfl
    | dynamic hkey hindex =>
      unfold bracketLookup
      split
      next s => exact absurd rfl (hkey s)
      next i => exact absurd rfl (hindex i)
      next => rfl
  · rintro rfl
    unfold bracketLookup
    split
    next s => exact .key s
    next i => exact .index i
    next hkey hindex => exact .dynamic hkey hindex

def StartsSolid (t : List Char) : Prop := ∃ c, t.head? = some c ∧ Text.isWhiteSpace c = false

def EndsSolid (t : List Char) : Prop := ∃ c, t.getLast? = some c ∧ Text.isWhiteSpace c = false

theorem startsSolid_cons {c : Char} (h : Text.isWhiteSpace c = false) (t : List Char) :
    StartsSolid (c :: t) := ⟨c, rfl, h⟩

theorem StartsSolid.ne_nil {t : List Char} (h : StartsSolid t) : t ≠ [] := by
  obtain ⟨c, hc, -⟩ := h
  rintro rfl
  cases hc

theorem StartsSolid.append {t : List Char} (h : StartsSolid t) (u : List Char) :
    StartsSolid (t ++ u) := by
  obtain ⟨c, hc, hs⟩ := h
  exact ⟨c, by simp [hc], hs⟩

theorem endsSolid_concat (t : List Char) {c : Char} (h : Text.isWhiteSpace c = false) :
    EndsSolid (t ++ [c]) := ⟨c, by simp, h⟩

theorem EndsSolid.append {u : List Char} (h : EndsSolid u) (t : List Char) :
    EndsSolid (t ++ u) := by
  obtain ⟨c, hc, hs⟩ := h
  exact ⟨c, by simp [List.getLast?_append, hc], hs⟩

theorem EndsSolid.cons {u : List Char} (h : EndsSolid u) (c : Char) : EndsSolid (c :: u) :=
  h.append [c]

theorem endsSolid_of_forall {t : List Char} (hne : t ≠ [])
    (h : ∀ c ∈ t, Text.isWhiteSpace c = false) : EndsSolid t :=
  ⟨t.getLast hne, List.getLast?_eq_some_getLast hne, h _ (List.getLast_mem hne)⟩

theorem trimStart_eq_self {t : List Char} (h : StartsSolid t) : Text.trimStart t = t := by
  obtain ⟨c, hc, hsolid⟩ := h
  obtain ⟨w, rfl⟩ := List.head?_eq_some_iff.mp hc
  rw [Text.trimStart, List.dropWhile_cons_of_neg (by simp [hsolid])]

theorem trimEnd_eq_self {t : List Char} (h : EndsSolid t) : Text.trimEnd t = t := by
  obtain ⟨d, hd, hsolid⟩ := h
  rw [← List.head?_reverse] at hd
  obtain ⟨r, hr⟩ := List.head?_eq_some_iff.mp hd
  rw [Text.trimEnd, hr, List.dropWhile_cons_of_neg (by simp [hsolid]), ← hr, List.reverse_reverse]

/-- A text that is solid at both ends is what trimming leaves of it. -/
theorem trimChars_eq_self {t : List Char} (hstart : StartsSolid t) (hend : EndsSolid t) :
    Text.trimChars t = t := by
  rw [Text.trimChars, trimStart_eq_self hstart, trimEnd_eq_self hend]

theorem trimChars_ne_nil {s : List Char} {c : Char} (hc : c ∈ s)
    (hsolid : Text.isWhiteSpace c = false) :
    Text.trimChars s ≠ [] := by
  intro hempty
  have hrest := List.dropWhile_eq_nil_iff.mp (List.reverse_eq_nil_iff.mp hempty)
  have hwhite : Text.isWhiteSpace c = true := by
    rw [← List.takeWhile_append_dropWhile (p := Text.isWhiteSpace) (l := s)] at hc
    rcases List.mem_append.mp hc with hc | hc
    · exact List.mem_takeWhile_imp hc
    · exact hrest c (List.mem_reverse.mpr hc)
  rw [hsolid] at hwhite
  cases hwhite

theorem Digits.isWhiteSpace_eq_false {t : List Char} (h : Digits t) :
    ∀ c ∈ t, Text.isWhiteSpace c = false :=
  fun c hc => isWhiteSpace_eq_false_of_isWord (isWord_of_isAsciiDigit (h.2 c hc))

theorem IsMark.isWhiteSpace_eq_false {m : List Char} (h : IsMark m) :
    ∀ c ∈ m, Text.isWhiteSpace c = false := by
  rcases h with rfl | rfl
  · simp
  · intro c hc
    rw [List.mem_singleton.mp hc]
    decide

/-- A word with its mark holds no white space at all. -/
theorem Words.isWhiteSpace_eq_false {c : Char} {w m : List Char} (hw : Words (c :: w))
    (hm : IsMark m) : ∀ d ∈ c :: (w ++ m), Text.isWhiteSpace d = false := by
  intro d hd
  rw [← List.cons_append, List.mem_append] at hd
  rcases hd with hd | hd
  · exact isWhiteSpace_eq_false_of_isWord (hw d hd)
  · exact hm.isWhiteSpace_eq_false d hd

theorem IsString.startsSolid {s : String} {t : List Char} (h : IsString s t) : StartsSolid t := by
  cases h with
  | mk hquote _ =>
    refine startsSolid_cons ?_ _
    rcases hquote with rfl | rfl <;> decide

theorem IsString.endsSolid {s : String} {t : List Char} (h : IsString s t) : EndsSolid t := by
  cases h with
  | mk hquote _ =>
    refine (endsSolid_concat _ ?_).cons _
    rcases hquote with rfl | rfl <;> decide

theorem IsNumber.startsSolid {t : List Char} (h : IsNumber t) : StartsSolid t := by
  cases h with
  | mk hsign hwhole _ =>
    rcases hsign with rfl | rfl
    · obtain ⟨c, w, rfl⟩ := List.exists_cons_of_ne_nil hwhole.1
      exact startsSolid_cons (hwhole.isWhiteSpace_eq_false c (by simp)) _
    · exact startsSolid_cons (by decide) _

theorem IsNumber.endsSolid {t : List Char} (h : IsNumber t) : EndsSolid t := by
  cases h with
  | mk _ hwhole hfraction =>
    refine EndsSolid.append ?_ _
    rcases hfraction with rfl | ⟨digits, hdigits, rfl⟩
    · rw [List.append_nil]
      exact endsSolid_of_forall hwhole.1 hwhole.isWhiteSpace_eq_false
    · exact ((endsSolid_of_forall hdigits.1 hdigits.isWhiteSpace_eq_false).cons _).append _

theorem keywords_solid : ∀ k ∈ keywords, StartsSolid k.1 ∧ EndsSolid k.1 := by
  have hall : ∀ k ∈ keywords,
      k.1.isEmpty = false ∧ (k.1.all fun c => !Text.isWhiteSpace c) = true := by
    simp only [keywords, List.forall_mem_cons]
    decide +kernel
  intro k hk
  obtain ⟨hne, hsolid⟩ := hall k hk
  rw [List.isEmpty_eq_false_iff] at hne
  have hsolid : ∀ c ∈ k.1, Text.isWhiteSpace c = false := by simpa using hsolid
  obtain ⟨c, w, hcw⟩ := List.exists_cons_of_ne_nil hne
  refine ⟨?_, endsSolid_of_forall hne hsolid⟩
  rw [hcw] at hsolid ⊢
  exact startsSolid_cons (hsolid c (by simp)) w

theorem IsLiteral.solid {v : Literal} {t : List Char} (h : IsLiteral v t) :
    StartsSolid t ∧ EndsSolid t := by
  cases h with
  | string h => exact ⟨h.startsSolid, h.endsSolid⟩
  | number h => exact ⟨h.startsSolid, h.endsSolid⟩
  | keyword h => exact keywords_solid _ (mem_keywords_iff.mpr h)

theorem words_cons {c : Char} {w : List Char} (hc : startsName c = true) (hw : Words w) :
    Words (c :: w) := by
  intro d hd
  rcases List.mem_cons.mp hd with rfl | hd
  · exact isWord_of_startsName hc
  · exact hw d hd

theorem IsRoot.solid {root : String} {t : List Char} (h : IsRoot root t) :
    StartsSolid t ∧ EndsSolid t := by
  cases h with
  | name hc hw hmark _ =>
    have hall := (words_cons hc hw).isWhiteSpace_eq_false hmark
    exact ⟨startsSolid_cons (hall _ (by simp)) _, endsSolid_of_forall (by simp) hall⟩
  | @bracketed _ w t w' hw hs hw' =>
    refine ⟨startsSolid_cons (by decide) _, ?_⟩
    have hclose : EndsSolid [']'] := ⟨']', rfl, by decide⟩
    exact (((hclose.append w').append t).append w).cons '['

/-- What is known of the ends of a phrase; only a list of lookups may be empty. -/
def Phrase.SolidIn (t : List Char) : Phrase → Prop
  | .expr _ => StartsSolid t ∧ EndsSolid t
  | .lookups _ => t = [] ∨ EndsSolid t

theorem Derives.solidIn {p : Phrase} {t : List Char} (h : Derives p t) : p.SolidIn t := by
  induction h with
  | literal h => exact h.solid
  | @range _ _ w₁ t w₂ w₃ u w₄ =>
    refine ⟨startsSolid_cons (by decide) _, ?_⟩
    have hclose : EndsSolid (w₄ ++ [')']) := endsSolid_concat w₄ (by decide)
    exact (((((hclose.append u).append w₃).cons '.').cons '.').append w₂ |>.append t
      |>.append w₁).cons '('
  | path hroot _ ih =>
    obtain ⟨hstart, hend⟩ := hroot.solid
    refine ⟨hstart.append _, ?_⟩
    rcases ih with rfl | ih
    · rwa [List.append_nil]
    · exact ih.append _
  | done => exact .inl rfl
  | @dot _ c w mark u hw hmark _ ih =>
    have hword : EndsSolid (c :: (w ++ mark)) :=
      endsSolid_of_forall (by simp) (hw.isWhiteSpace_eq_false hmark)
    right
    rcases ih with rfl | ih
    · rw [List.append_nil]
      exact hword.cons '.'
    · exact ((ih.append mark).append w |>.cons c).cons '.'
  | @bracket _ _ _ w t w' u _ _ _ _ _ _ ih =>
    have hclose : EndsSolid (']' :: u) := by
      rcases ih with rfl | ih
      · exact ⟨']', rfl, by decide⟩
      · exact ih.cons ']'
    exact .inr (((hclose.append w').append t |>.append w).cons '[')

end LiquidEval.Expr
