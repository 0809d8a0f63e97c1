import LiquidEval.Proofs.Naming.Keys

/-! What the first convention changes in a name. Capitals become small and underscores come in, each
between two letters or digits; nothing is lost, doubled or moved. Names with one key differ in case
and underscores only. -/
namespace LiquidEval

namespace Naming
open Text

/-- A letter of ASCII, or a decimal digit. -/
def isLetterOrDigit (c : Char) : Bool := isSmall c || isCapital c || isDecimalDigit c

/-- A text with underscores put in, each between a letter or digit and a capital that stand side by
side. -/
inductive Underscored : List Char → List Char → Prop where
  | nil : Underscored [] []
  | copied (c : Char) {s t : List Char} (h : Underscored s t) : Underscored (c :: s) (c :: t)
  | inserted {c d : Char} {s t : List Char} (hleft : isLetterOrDigit c = true)
      (hright : isCapital d = true) (h : Underscored (d :: s) t) :
      Underscored (c :: d :: s) (c :: '_' :: t)

theorem isCapital_of_startsWord {before c : Char} {after : Option Char}
    (h : startsWord before c after = true) : isCapital c = true :=
  ((Bool.and_eq_true ..).mp h).1

theorem isLetterOrDigit_of_startsWord {before c : Char} {after : Option Char}
    (h : startsWord before c after = true) : isLetterOrDigit before = true := by
  obtain ⟨-, h⟩ := (Bool.and_eq_true ..).mp h
  simp only [Bool.or_eq_true, Bool.and_eq_true] at h
  rcases h with (h | h) | ⟨h, -⟩
  · simp [isLetterOrDigit, h]
  · simp [isLetterOrDigit, h]
  · simp [isLetterOrDigit, h]

theorem underscored_splitFrom (before : Char) (s : List Char) :
    Underscored (before :: s) (before :: splitFrom before s) := by
  induction s generalizing before with
  | nil => exact .copied before .nil
  | cons c s ih =>
    rw [splitFrom]
    split
    next h => exact .inserted (isLetterOrDigit_of_startsWord h) (isCapital_of_startsWord h) (ih c)
    next => exact .copied before (ih c)

theorem underscored_splitWords (s : List Char) : Underscored s (splitWords s) := by
  cases s with
  | nil => exact .nil
  | cons c s => exact underscored_splitFrom c s

theorem Underscored.forall_isAscii {s t : List Char} (h : Underscored s t)
    (hs : ∀ c ∈ s, isAscii c = true) : ∀ c ∈ t, isAscii c = true := by
  induction h with
  | nil => exact hs
  | copied c h ih =>
    rw [List.forall_mem_cons] at hs ⊢
    exact ⟨hs.1, ih hs.2⟩
  | inserted hleft hright h ih =>
    rw [List.forall_mem_cons] at hs
    rw [List.forall_mem_cons, List.forall_mem_cons]
    exact ⟨hs.1, by decide, ih hs.2⟩

end Naming

namespace Text
open Naming

/-- Large tables are compared by `Nat.blt`, which the kernel evaluates at once. -/
theorem CodeRanges.apart_of_blt {a b : CodeRanges}
    (h : (a.all fun r => b.all fun s => Nat.blt r.2 s.1 || Nat.blt s.2 r.1) = true) :
    a.apart b = true := by
  simp only [apart, List.all_eq_true, Bool.or_eq_true, Nat.blt_eq, decide_eq_true_eq] at h ⊢
  exact h

theorem caseIgnorable_apart_decimalDigit : caseIgnorableRanges.apart decimalDigitRanges = true :=
  CodeRanges.apart_of_blt (by decide +kernel)

theorem isCaseIgnorable_of_isLetterOrDigit {c : Char} (h : isLetterOrDigit c = true) :
    isCaseIgnorable c = false := by
  unfold isCaseIgnorable
  cases hascii : isAscii c with
  | true =>
    rw [if_pos rfl, Bool.eq_false_iff]
    intro hmem
    simp only [List.contains_iff_mem, List.mem_cons, List.not_mem_nil, or_false] at hmem
    rcases hmem with rfl | rfl | rfl | rfl | rfl <;> exact absurd h (by decide)
  | false =>
    have hletter : isSmall c = false ∧ isCapital c = false := by
      rw [isAscii, decide_eq_false_iff_not] at hascii
      rw [Bool.eq_false_iff, Bool.eq_false_iff, ne_eq, ne_eq, isSmall_iff_toNat,
        isCapital_iff_toNat]
      omega
    rw [isLetterOrDigit, hletter.1, hletter.2, Bool.false_or, Bool.false_or, isDecimalDigit, hascii,
      if_neg Bool.false_ne_true] at h
    rw [if_neg Bool.false_ne_true, Bool.eq_false_iff]
    intro hignorable
    rw [CodeRanges.not_contains_of_apart caseIgnorable_apart_decimalDigit hignorable] at h
    cases h

theorem meetsCased_cons (c : Char) (s : List Char) :
    meetsCased (c :: s) = if isCaseIgnorable c then meetsCased s else isCased c := by
  unfold meetsCased
  rw [List.dropWhile_cons]
  cases isCaseIgnorable c with
  | true => rfl
  | false => rfl

/-- A letter or digit hides what is behind it. -/
theorem meetsCased_cons_of_isLetterOrDigit {c : Char} (h : isLetterOrDigit c = true)
    (s : List Char) : meetsCased (c :: s) = isCased c := by
  rw [meetsCased_cons, isCaseIgnorable_of_isLetterOrDigit h, if_neg Bool.false_ne_true]

theorem meetsCased_of_underscored {s t : List Char} (h : Underscored s t) :
    meetsCased t = meetsCased s := by
  induction h with
  | nil => rfl
  | copied c h ih => rw [meetsCased_cons, meetsCased_cons, ih]
  | inserted hleft hright h ih =>
    rw [meetsCased_cons_of_isLetterOrDigit hleft, meetsCased_cons_of_isLetterOrDigit hleft]

theorem isLetterOrDigit_of_isCapital {c : Char} (h : isCapital c = true) :
    isLetterOrDigit c = true := by
  simp [isLetterOrDigit, h]

theorem ne_sigma_of_isLetterOrDigit {c : Char} (h : isLetterOrDigit c = true) : c ≠ 'Σ' := by
  rintro rfl
  exact absurd h (by decide)

theorem lowerFrom_cons_of_ne_sigma {c : Char} (h : c ≠ 'Σ') (before s : List Char) :
    lowerFrom before (c :: s) = lowerChar c ++ lowerFrom (c :: before) s := by
  rw [lowerFrom, if_neg h]

/-- A sigma sees past no underscore that was put in: what it looks for is settled by the letters and
digits at its sides. Right behind such an underscore there is a capital, which looks at nothing. -/
theorem filter_lowerFrom_of_underscored {s t : List Char} (h : Underscored s t)
    {before before' : List Char}
    (hbefore : meetsCased before' = meetsCased before ∨ s.head?.any isCapital = true) :
    (lowerFrom before' t).filter (· != '_') = (lowerFrom before s).filter (· != '_') := by
  induction h generalizing before before' with
  | nil => rfl
  | @copied c s t h ih =>
    rcases hbefore with hbefore | hcapital
    · have hrest : meetsCased (c :: before') = meetsCased (c :: before) := by
        rw [meetsCased_cons, meetsCased_cons, hbefore]
      have hsigma : lowerSigma before' t = lowerSigma before s := by
        rw [lowerSigma, lowerSigma, hbefore, meetsCased_of_underscored h]
      rw [lowerFrom, lowerFrom, List.filter_append, List.filter_append, hsigma, ih (.inl hrest)]
    · have hc : isLetterOrDigit c = true := isLetterOrDigit_of_isCapital hcapital
      have hrest : meetsCased (c :: before') = meetsCased (c :: before) := by
        rw [meetsCased_cons_of_isLetterOrDigit hc, meetsCased_cons_of_isLetterOrDigit hc]
      rw [lowerFrom_cons_of_ne_sigma (ne_sigma_of_isLetterOrDigit hc),
        lowerFrom_cons_of_ne_sigma (ne_sigma_of_isLetterOrDigit hc), List.filter_append,
        List.filter_append, ih (.inl hrest)]
  | @inserted c d s t hleft hright h ih =>
    have hline : lowerFrom (c :: before') ('_' :: t) =
        '_' :: lowerFrom ('_' :: c :: before') t := by
      rw [lowerFrom_cons_of_ne_sigma (by decide), lowerChar_of_isAscii (by decide)]
      rfl
    rw [lowerFrom_cons_of_ne_sigma (ne_sigma_of_isLetterOrDigit hleft),
      lowerFrom_cons_of_ne_sigma (ne_sigma_of_isLetterOrDigit hleft), hline, List.filter_append,
      List.filter_append, List.filter_cons_of_neg (by decide), ih (.inr hright)]

end Text

namespace Naming
open Text

/-- A name without its underscores. -/
def runTogether (name : String) : String := String.ofList (name.toList.filter (· != '_'))

theorem runTogether_canonical (name : String) :
    runTogether (ruby.canonical name) = runTogether (Text.lower name) := by
  have hfilter := filter_lowerFrom_of_underscored (underscored_splitWords name.toList)
    (.inl (Eq.refl (meetsCased [])))
  rw [runTogether, runTogether, canonical, Text.lower, String.toList_ofList, String.toList_ofList,
    lowerChars, lowerChars, hfilter]

theorem forall_isAscii_lowerChars {s : List Char} (h : ∀ c ∈ s, isAscii c = true) :
    ∀ c ∈ lowerChars s, isAscii c = true := by
  rw [lowerChars_of_isAscii h]
  intro d hd
  obtain ⟨c, hc, rfl⟩ := List.mem_map.mp hd
  cases hcapital : isCapital c with
  | false => rw [toLower_eq_self hcapital, h c hc]
  | true =>
    have hcode := (isCapital_iff_toNat c).mp hcapital
    rw [isAscii_iff, toNat_toLower hcapital]
    omega

/-- The two passes of the first convention only put underscores into a name, each between a letter
or digit and a capital, and then only capitals change. What comes of it has no capital, is not
changed again, and without its underscores is the name in small letters without its own. Names that
match are one name up to case and underscores. -/
theorem canonical_lowers_and_underscores (name : String) :
    (∃ t, (∀ t', (∃ u, Parted AcronymPlace name.toList u ∧ Parted WordPlace u t') ↔ t' = t) ∧
      Underscored name.toList t ∧ ruby.canonical name = Text.lower (String.ofList t)) ∧
    (∀ c ∈ (ruby.canonical name).toList, isCapital c = false) ∧
    ((∀ c ∈ name.toList, isAscii c = true) → ∀ c ∈ (ruby.canonical name).toList, isAscii c = true) ∧
    ruby.canonical (ruby.canonical name) = ruby.canonical name ∧
    runTogether (ruby.canonical name) = runTogether (Text.lower name) ∧
    ∀ other, ruby.namesMatch name other = true →
      runTogether (Text.lower name) = runTogether (Text.lower other) := by
  have hunderscored := underscored_splitWords name.toList
  refine ⟨⟨splitWords name.toList, fun t => parted_twice_iff, hunderscored, ?_⟩, ?_, ?_,
    lookupKey_lookupKey ruby name, runTogether_canonical name, ?_⟩
  · rw [canonical, Text.lower, String.toList_ofList]
  · rw [canonical, String.toList_ofList]
    exact isCapital_eq_false_of_mem_lowerChars
  · intro h
    rw [canonical, String.toList_ofList]
    exact forall_isAscii_lowerChars (hunderscored.forall_isAscii h)
  · intro other hmatch
    have hkeys : ruby.canonical name = ruby.canonical other := beq_iff_eq.mp hmatch
    rw [← runTogether_canonical, hkeys, runTogether_canonical]

/-- The underscores come at three different places, and one was there before. -/
theorem canonical_lowers_and_underscores_of_acronyms :
    (∀ c ∈ (ruby.canonical "XMLHttpRequest2Go").toList, isAscii c = true) ∧
      ruby.namesMatch "XMLHttpRequest2Go" "xmlHTTPRequest2_go" = true ∧
      runTogether (Text.lower "XMLHttpRequest2Go") =
      runTogether (Text.lower "xmlHTTPRequest2_go") := by
  have hascii : ∀ c ∈ "XMLHttpRequest2Go".toList, isAscii c = true :=
    List.all_eq_true.mp (by decide +kernel)
  have hmatch : ruby.namesMatch "XMLHttpRequest2Go" "xmlHTTPRequest2_go" = true := by decide +kernel
  obtain ⟨-, -, hkept, -, -, hsame⟩ := canonical_lowers_and_underscores "XMLHttpRequest2Go"
  exact ⟨hkept hascii, hmatch, hsame _ hmatch⟩

end Naming
end LiquidEval
