import LiquidEval.Proofs.Naming.Letters

/-! The words of a name, found in two passes. A pass goes through a text from the left and parts
each place of a given form with an underscore; it goes on behind the place, so places do not
overlap. -/
namespace LiquidEval.Naming
open Text

/-- Capitals, and behind them the capital and the small letter that start a word. -/
def AcronymPlace (left right : List Char) : Prop :=
  left ≠ [] ∧ (∀ c ∈ left, isCapital c = true) ∧
    ∃ c d, right = [c, d] ∧ isCapital c = true ∧ isSmall d = true

/-- A small letter or a digit, and behind it a capital. -/
def WordPlace (left right : List Char) : Prop :=
  ∃ c d, left = [c] ∧ right = [d] ∧ (isSmall c || isDecimalDigit c) = true ∧ isCapital d = true

/-- What one pass makes of a text. -/
inductive Parted (Place : List Char → List Char → Prop) : List Char → List Char → Prop where
  | done : Parted Place [] []
  | copied {c : Char} {s t : List Char}
      (hnone : ∀ left right rest, c :: s = left ++ (right ++ rest) → ¬Place left right)
      (h : Parted Place s t) : Parted Place (c :: s) (c :: t)
  | parted {left right rest t : List Char} (hplace : Place left right)
      (h : Parted Place rest t) :
      Parted Place (left ++ (right ++ rest)) (left ++ '_' :: (right ++ t))

theorem exists_parted {Place : List Char → List Char → Prop}
    (hleft : ∀ left right, Place left right → left ≠ []) (s : List Char) :
    ∃ t, Parted Place s t := by
  induction hn : s.length using Nat.strongRecOn generalizing s with
  | ind n ih =>
    cases s with
    | nil => exact ⟨[], .done⟩
    | cons c s =>
      by_cases h : ∃ left right rest, c :: s = left ++ (right ++ rest) ∧ Place left right
      · obtain ⟨left, right, rest, hsplit, hplace⟩ := h
        have hpos : 0 < left.length := List.length_pos_iff.mpr (hleft left right hplace)
        have hlength := congrArg List.length hsplit
        simp only [List.length_append] at hlength
        obtain ⟨t, ht⟩ := ih rest.length (by omega) rest rfl
        rw [hsplit]
        exact ⟨_, .parted hplace ht⟩
      · rw [List.length_cons] at hn
        obtain ⟨t, ht⟩ := ih s.length (by omega) s rfl
        exact ⟨c :: t, .copied (fun left right rest hsplit hplace =>
          h ⟨left, right, rest, hsplit, hplace⟩) ht⟩

/-- An underscore in front of every character that a test accepts, which sees the characters next to
it. -/
def underscoreFrom (test : Char → Char → Option Char → Bool) (before : Char) :
    List Char → List Char
  | [] => []
  | c :: rest =>
    if test before c rest.head? then '_' :: c :: underscoreFrom test c rest
    else c :: underscoreFrom test c rest

/-- The text does not start with a character that the test accepts. -/
def Quiet (test : Char → Char → Option Char → Bool) (before : Char) (s : List Char) : Prop :=
  ∀ c rest, s = c :: rest → test before c rest.head? = false

section
variable {test : Char → Char → Option Char → Bool} {Place : List Char → List Char → Prop}

theorem underscoreFrom_of_quiet {before c : Char} {s : List Char}
    (h : Quiet test before (c :: s)) :
    underscoreFrom test before (c :: s) = c :: underscoreFrom test c s := by
  rw [underscoreFrom, if_neg (by simp [h c s rfl])]

/-- A pass may look back one character instead of ahead, if the test accepts exactly the start of
the second part of a place. -/
theorem Parted.eq_underscoreFrom
    (hfound : ∀ c d rest, test c d rest.head? = true →
      ∃ left right rest', c :: d :: rest = left ++ (right ++ rest') ∧ Place left right)
    (hpart : ∀ left right, Place left right → ∃ last, (∀ s, Quiet test last s) ∧
      ∀ before rest, Quiet test before (left ++ (right ++ rest)) →
        underscoreFrom test before (left ++ (right ++ rest)) =
          left ++ '_' :: (right ++ underscoreFrom test last rest))
    {s t : List Char} (h : Parted Place s t) {before : Char} (hquiet : Quiet test before s) :
    t = underscoreFrom test before s := by
  induction h generalizing before with
  | done => rfl
  | @copied c s t hnone h ih =>
    rw [underscoreFrom_of_quiet hquiet, ← ih]
    rintro d rest rfl
    rw [Bool.eq_false_iff]
    intro htest
    obtain ⟨left, right, rest', hsplit, hplace⟩ := hfound c d rest htest
    exact hnone left right rest' hsplit hplace
  | parted hplace h ih =>
    obtain ⟨last, hlast, hunderscore⟩ := hpart _ _ hplace
    rw [hunderscore before _ hquiet, ← ih (hlast _)]

end

def startsAfterAcronym (before c : Char) (after : Option Char) : Bool :=
  isCapital before && isCapital c && after.any isSmall

def startsAfterWord (before c : Char) (_ : Option Char) : Bool :=
  (isSmall before || isDecimalDigit before) && isCapital c

theorem isSmall_eq_false_of_isCapital {c : Char} (h : isCapital c = true) : isSmall c = false := by
  rw [isCapital_iff_toNat] at h
  rw [Bool.eq_false_iff, ne_eq, isSmall_iff_toNat]
  omega

theorem isDecimalDigit_eq_false_of_isCapital {c : Char} (h : isCapital c = true) :
    isDecimalDigit c = false := by
  have hascii := isAscii_of_isCapital h
  rw [isCapital_iff_toNat] at h
  simp only [isDecimalDigit, hascii, if_true]
  rw [Bool.eq_false_iff, ne_eq, isDigit_iff_toNat]
  omega

theorem underscoreFrom_acronym {left : List Char} (hleft : ∀ c ∈ left, isCapital c = true)
    {before c d : Char} (hbefore : isCapital before = true) (hc : isCapital c = true)
    (hd : isSmall d = true) (rest : List Char) :
    underscoreFrom startsAfterAcronym before (left ++ c :: d :: rest) =
      left ++ '_' :: c :: d :: underscoreFrom startsAfterAcronym d rest := by
  have hdc := isCapital_eq_false_of_isSmall hd
  induction left generalizing before with
  | nil => simp [underscoreFrom, startsAfterAcronym, hbefore, hc, hd, hdc]
  | cons x left ih =>
    rw [List.forall_mem_cons] at hleft
    have hahead : startsAfterAcronym before x (left ++ c :: d :: rest).head? = false := by
      cases left with
      | nil => simp [startsAfterAcronym, isSmall_eq_false_of_isCapital hc]
      | cons y left =>
        simp [startsAfterAcronym, isSmall_eq_false_of_isCapital (hleft.2 y (by simp))]
    rw [List.cons_append, underscoreFrom, hahead, if_neg (by decide), ih hleft.2 hleft.1,
      List.cons_append]

theorem eq_of_parted_acronyms {s u : List Char} (h : Parted AcronymPlace s u) :
    u = underscoreFrom startsAfterAcronym ' ' s := by
  refine h.eq_underscoreFrom ?_ ?_ (fun c rest _ => by simp [startsAfterAcronym, isCapital])
  · intro c d rest htest
    simp only [startsAfterAcronym, Bool.and_eq_true, Option.any_eq_true] at htest
    obtain ⟨⟨hc, hd⟩, e, he, hsmall⟩ := htest
    obtain ⟨rest, rfl⟩ := List.head?_eq_some_iff.mp he
    exact ⟨[c], [d, e], rest, rfl, by simp, by simpa using hc, d, e, rfl, hd, hsmall⟩
  · rintro left right ⟨hne, hleft, c, d, rfl, hc, hd⟩
    refine ⟨d, ?_, ?_⟩
    · intro s e rest _
      simp [startsAfterAcronym, isCapital_eq_false_of_isSmall hd]
    · intro before rest hquiet
      obtain ⟨x, left, rfl⟩ := List.exists_cons_of_ne_nil hne
      rw [List.forall_mem_cons] at hleft
      rw [List.cons_append] at hquiet ⊢
      rw [underscoreFrom_of_quiet hquiet]
      simpa using underscoreFrom_acronym hleft.2 hleft.1 hc hd rest

theorem eq_of_parted_words {u t : List Char} (h : Parted WordPlace u t) :
    t = underscoreFrom startsAfterWord ' ' u := by
  have hblank : (isSmall ' ' || isDecimalDigit ' ') = false := by decide
  refine h.eq_underscoreFrom ?_ ?_ (fun c rest _ => by simp [startsAfterWord, hblank])
  · intro c d rest htest
    rw [startsAfterWord, Bool.and_eq_true] at htest
    exact ⟨[c], [d], rest, rfl, c, d, rfl, rfl, htest.1, htest.2⟩
  · rintro left right ⟨c, d, rfl, rfl, hc, hd⟩
    refine ⟨d, ?_, ?_⟩
    · intro s e rest _
      simp [startsAfterWord, isSmall_eq_false_of_isCapital hd,
        isDecimalDigit_eq_false_of_isCapital hd]
    · intro before rest hquiet
      have hfirst : underscoreFrom startsAfterWord before (c :: d :: rest) =
          c :: underscoreFrom startsAfterWord c (d :: rest) := underscoreFrom_of_quiet hquiet
      have hsecond : startsAfterWord c d rest.head? = true := by simp [startsAfterWord, hc, hd]
      simp [hfirst, underscoreFrom, hsecond]

/-- The underscores of the first pass stand between capitals, so they hide nothing from the
second. -/
theorem underscoreFrom_twice (before : Char) (s : List Char) :
    underscoreFrom startsAfterWord before (underscoreFrom startsAfterAcronym before s) =
      splitFrom before s := by
  induction s generalizing before with
  | nil => rfl
  | cons c s ih =>
    have hline : isCapital '_' = false ∧ (isSmall '_' || isDecimalDigit '_') = false := by decide
    by_cases hacronym : startsAfterAcronym before c s.head? = true
    · have hstart : startsWord before c s.head? = true := by
        simp only [startsAfterAcronym, Bool.and_eq_true] at hacronym
        simp [startsWord, hacronym]
      simp [underscoreFrom, hacronym, splitFrom, hstart, startsAfterWord, hline, ih]
    · have hstart : startsWord before c s.head? = startsAfterWord before c none := by
        simp only [startsAfterAcronym, Bool.and_eq_true, not_and, Bool.not_eq_true] at hacronym
        unfold startsWord startsAfterWord
        grind
      simp [underscoreFrom, hacronym, splitFrom, hstart, startsAfterWord, ih]

theorem splitWords_eq_splitFrom (s : List Char) : splitWords s = splitFrom ' ' s := by
  cases s with
  | nil => rfl
  | cons c s =>
    have hstart : startsWord ' ' c s.head? = false := by
      have hblank : isSmall ' ' = false ∧ isDecimalDigit ' ' = false ∧ isCapital ' ' = false := by
        decide
      simp [startsWord, hblank]
    rw [splitWords, splitFrom, hstart, if_neg (by decide)]

/-- Parting acronyms from words, and then words from what stands in front of them, splits a name
into its words. -/
theorem parted_twice_iff {s t : List Char} :
    (∃ u, Parted AcronymPlace s u ∧ Parted WordPlace u t) ↔ t = splitWords s := by
  have htwice : ∀ u t, Parted AcronymPlace s u → Parted WordPlace u t → t = splitWords s := by
    intro u t hu ht
    rw [eq_of_parted_words ht, eq_of_parted_acronyms hu, underscoreFrom_twice,
      splitWords_eq_splitFrom]
  constructor
  · rintro ⟨u, hu, ht⟩
    exact htwice u t hu ht
  · rintro rfl
    obtain ⟨u, hu⟩ : ∃ u, Parted AcronymPlace s u := exists_parted (fun _ _ h => h.1) s
    obtain ⟨t, ht⟩ : ∃ t, Parted WordPlace u t := by
      apply exists_parted
      rintro left right ⟨c, d, rfl, -⟩
      exact List.cons_ne_nil c []
    exact ⟨u, hu, htwice u t hu ht ▸ ht⟩

end LiquidEval.Naming
