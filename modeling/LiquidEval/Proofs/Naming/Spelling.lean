import Mathlib.Data.List.Basic
import LiquidEval.Proofs.Naming.Boundaries

/-! One name in four spellings: its words with capitals, with capitals but for the first, joined by
underscores, and run together. -/
namespace LiquidEval.Naming
open Text

/-- What a spelling keeps of a word: small letters and digits. -/
def isPlain (c : Char) : Bool := isSmall c || c.isDigit

/-- A small letter, and at least one small letter or digit behind it. -/
structure Word where
  first : Char
  rest : List Char
  first_small : isSmall first = true
  rest_ne_nil : rest ≠ []
  rest_plain : ∀ c ∈ rest, isPlain c = true

namespace Word

def chars (w : Word) : List Char := w.first :: w.rest

def capitalized (w : Word) : List Char := w.first.toUpper :: w.rest

def pascal (ws : List Word) : String := String.ofList (ws.flatMap capitalized)

def camel : List Word → String
  | [] => ""
  | w :: ws => String.ofList (w.chars ++ ws.flatMap capitalized)

def snake (ws : List Word) : String := String.ofList (List.intercalate ['_'] (ws.map chars))

def flat (ws : List Word) : String := String.ofList (ws.flatMap chars)

end Word

theorem isCapital_eq_false_of_isPlain {c : Char} (h : isPlain c = true) : isCapital c = false := by
  unfold isPlain at h
  rcases Bool.or_eq_true_iff.mp h with h | h
  · exact isCapital_eq_false_of_isSmall h
  · exact isCapital_eq_false_of_isDigit h

theorem isAscii_of_isPlain {c : Char} (h : isPlain c = true) : isAscii c = true := by
  unfold isPlain at h
  rcases Bool.or_eq_true_iff.mp h with h | h
  · exact isAscii_of_isSmall h
  · exact isAscii_of_isDigit h

/-- A capital behind a plain character always starts a word. -/
theorem startsWord_of_isPlain {before c : Char} (hbefore : isPlain before = true)
    (hc : isCapital c = true) (after : Option Char) : startsWord before c after = true := by
  have hdigit : before.isDigit = true → isDecimalDigit before = true := by
    intro h
    simp [isDecimalDigit, isAscii_of_isDigit h, h]
  unfold isPlain at hbefore
  rcases Bool.or_eq_true_iff.mp hbefore with h | h
  · simp [startsWord, hc, h]
  · simp [startsWord, hc, hdigit h]

theorem splitFrom_cons_of_not_isCapital {c : Char} (hc : isCapital c = false) (before : Char)
    (s : List Char) : splitFrom before (c :: s) = c :: splitFrom c s := by
  simp [splitFrom, startsWord, hc]

theorem splitFrom_eq_self {s : List Char} (h : ∀ c ∈ s, isCapital c = false) (before : Char) :
    splitFrom before s = s := by
  induction s generalizing before with
  | nil => rfl
  | cons c s ih =>
    rw [List.forall_mem_cons] at h
    rw [splitFrom_cons_of_not_isCapital h.1, ih h.2]

theorem splitWords_eq_self {s : List Char} (h : ∀ c ∈ s, isCapital c = false) :
    splitWords s = s := by
  cases s with
  | nil => rfl
  | cons c s => rw [splitWords, splitFrom_eq_self (List.forall_mem_cons.mp h).2]

/-- Nothing is put into the rest of a word, and what follows the rest stands behind a plain
character. -/
theorem exists_splitFrom_append {u : List Char} (hne : u ≠ [])
    (hu : ∀ c ∈ u, isPlain c = true) (before : Char) (s : List Char) :
    ∃ last, isPlain last = true ∧ splitFrom before (u ++ s) = u ++ splitFrom last s := by
  induction u generalizing before with
  | nil => exact absurd rfl hne
  | cons c u ih =>
    rw [List.forall_mem_cons] at hu
    have hcapital := isCapital_eq_false_of_isPlain hu.1
    by_cases hnil : u = []
    · subst hnil
      exact ⟨c, hu.1, splitFrom_cons_of_not_isCapital hcapital before s⟩
    · obtain ⟨last, hlast, hsplit⟩ := ih hnil hu.2 c
      refine ⟨last, hlast, ?_⟩
      rw [List.cons_append, splitFrom_cons_of_not_isCapital hcapital, hsplit, List.cons_append]

namespace Word

theorem chars_plain (w : Word) : ∀ c ∈ w.chars, isPlain c = true := by
  unfold chars
  rw [List.forall_mem_cons]
  exact ⟨by simp [isPlain, w.first_small], w.rest_plain⟩

/-- Every capitalized word behind a plain character gets an underscore. -/
theorem splitFrom_capitalized (ws : List Word) {before : Char} (hbefore : isPlain before = true) :
    splitFrom before (ws.flatMap capitalized) = ws.flatMap fun w => '_' :: w.capitalized := by
  induction ws generalizing before with
  | nil => rfl
  | cons w ws ih =>
    have hstart := startsWord_of_isPlain hbefore (isCapital_toUpper w.first_small)
    obtain ⟨last, hlast, hrest⟩ :=
      exists_splitFrom_append w.rest_ne_nil w.rest_plain w.first.toUpper
        (ws.flatMap capitalized)
    simp [capitalized, splitFrom, hstart, hrest, ih hlast]

theorem splitFrom_rest (w : Word) (ws : List Word) (before : Char) :
    splitFrom before (w.rest ++ ws.flatMap capitalized) =
      w.rest ++ ws.flatMap fun w => '_' :: w.capitalized := by
  obtain ⟨last, hlast, hrest⟩ :=
    exists_splitFrom_append w.rest_ne_nil w.rest_plain before (ws.flatMap capitalized)
  rw [hrest, splitFrom_capitalized ws hlast]

theorem toLower_capitalized (w : Word) : w.capitalized.map Char.toLower = w.chars := by
  have hrest : w.rest.map Char.toLower = w.rest :=
    map_toLower_eq_self fun c hc => isCapital_eq_false_of_isPlain (w.rest_plain c hc)
  simp [capitalized, chars, toLower_toUpper w.first_small, hrest]

theorem toLower_chars (w : Word) : w.chars.map Char.toLower = w.chars :=
  map_toLower_eq_self fun c hc => isCapital_eq_false_of_isPlain (w.chars_plain c hc)

theorem isAscii_chars (w : Word) : ∀ c ∈ w.chars, isAscii c = true :=
  fun c hc => isAscii_of_isPlain (w.chars_plain c hc)

theorem isAscii_capitalized (w : Word) : ∀ c ∈ w.capitalized, isAscii c = true := by
  unfold capitalized
  rw [List.forall_mem_cons]
  exact ⟨isAscii_of_isCapital (isCapital_toUpper w.first_small),
    fun c hc => isAscii_of_isPlain (w.rest_plain c hc)⟩

theorem snake_cons (w : Word) (ws : List Word) :
    snake (w :: ws) = String.ofList (w.chars ++ ws.flatMap fun w => '_' :: w.chars) := by
  unfold snake
  congr 1
  induction ws generalizing w with
  | nil => simp
  | cons v ws ih => simpa [List.intercalate_cons_cons] using ih v

section
variable {s : List Char} {w : Word} (hs : s.map Char.toLower = w.chars)
  (hascii : ∀ c ∈ s, isAscii c = true) (ws : List Word)
include hs hascii

/-- Where underscores stand in front of capitalized words, only their capitals are left to
change. -/
theorem lowerChars_split :
    String.ofList (lowerChars (s ++ ws.flatMap fun w => '_' :: w.capitalized)) =
      snake (w :: ws) := by
  rw [lowerChars_of_isAscii, List.map_append, hs, List.map_flatMap, snake_cons]
  · simp [toLower_capitalized]
  · intro c hc
    rcases List.mem_append.mp hc with hc | hc
    · exact hascii c hc
    · obtain ⟨v, -, hc⟩ := List.mem_flatMap.mp hc
      rcases List.mem_cons.mp hc with rfl | hc
      · rfl
      · exact v.isAscii_capitalized c hc

theorem lowerChars_run :
    String.ofList (lowerChars (s ++ ws.flatMap capitalized)) = flat (w :: ws) := by
  rw [lowerChars_of_isAscii, List.map_append, hs, List.map_flatMap]
  · simp [toLower_capitalized, flat]
  · intro c hc
    rcases List.mem_append.mp hc with hc | hc
    · exact hascii c hc
    · obtain ⟨v, -, hc⟩ := List.mem_flatMap.mp hc
      exact v.isAscii_capitalized c hc

end

theorem ruby_pascal (ws : List Word) : ruby.lookupKey (pascal ws) = snake ws := by
  cases ws with
  | nil => rfl
  | cons w ws =>
    have hsplit : splitWords (w.capitalized ++ ws.flatMap capitalized) =
        w.capitalized ++ ws.flatMap fun w => '_' :: w.capitalized := by
      simp [capitalized, splitWords, splitFrom_rest]
    simp [lookupKey, canonical, pascal, hsplit,
      lowerChars_split w.toLower_capitalized w.isAscii_capitalized]

theorem ruby_camel (ws : List Word) : ruby.lookupKey (camel ws) = snake ws := by
  cases ws with
  | nil => rfl
  | cons w ws =>
    have hsplit : splitWords (w.chars ++ ws.flatMap capitalized) =
        w.chars ++ ws.flatMap fun w => '_' :: w.capitalized := by
      simp [chars, splitWords, splitFrom_rest]
    simp [lookupKey, canonical, camel, hsplit, lowerChars_split w.toLower_chars w.isAscii_chars]

theorem lower_pascal (ws : List Word) : lower (pascal ws) = flat ws := by
  cases ws with
  | nil => rfl
  | cons w ws => simp [lower, pascal, lowerChars_run w.toLower_capitalized w.isAscii_capitalized]

theorem lower_camel (ws : List Word) : lower (camel ws) = flat ws := by
  cases ws with
  | nil => rfl
  | cons w ws => simp [lower, camel, lowerChars_run w.toLower_chars w.isAscii_chars]

theorem flat_plain (ws : List Word) : ∀ c ∈ (flat ws).toList, isPlain c = true := by
  intro c hc
  rw [flat, String.toList_ofList] at hc
  obtain ⟨w, -, hc⟩ := List.mem_flatMap.mp hc
  exact w.chars_plain c hc

theorem snake_plain (ws : List Word) :
    ∀ c ∈ (snake ws).toList, isPlain c = true ∨ c = '_' := by
  cases ws with
  | nil => intro c hc; cases hc
  | cons w ws =>
    intro c hc
    rw [snake_cons, String.toList_ofList, List.mem_append] at hc
    rcases hc with hc | hc
    · exact .inl (w.chars_plain c hc)
    · obtain ⟨v, -, hc⟩ := List.mem_flatMap.mp hc
      rcases List.mem_cons.mp hc with rfl | hc
      · exact .inr rfl
      · exact .inl (v.chars_plain c hc)

end Word

/-- A name without capitals is its own key. -/
theorem lookupKey_eq_self (n : Naming) {name : String}
    (h : ∀ c ∈ name.toList, isPlain c = true ∨ c = '_') : n.lookupKey name = name := by
  have hcapital : ∀ c ∈ name.toList, isCapital c = false := by
    intro c hc
    rcases h c hc with hplain | rfl
    · exact isCapital_eq_false_of_isPlain hplain
    · decide
  have hascii : ∀ c ∈ name.toList, isAscii c = true := by
    intro c hc
    rcases h c hc with hplain | rfl
    · exact isAscii_of_isPlain hplain
    · decide
  have hlower : String.ofList (lowerChars name.toList) = name := by
    rw [lowerChars_of_isAscii hascii, map_toLower_eq_self hcapital, String.ofList_toList]
  cases n with
  | ruby => simp [lookupKey, canonical, splitWords_eq_self hcapital, hlower]
  | csharp => simp [lookupKey, lower, hlower]

namespace Word

theorem flat_ne_snake {ws : List Word} (hws : 2 ≤ ws.length) : flat ws ≠ snake ws := by
  match ws, hws with
  | v :: w :: us, _ =>
    intro heq
    have hmem : '_' ∈ (snake (v :: w :: us)).toList := by simp [snake_cons]
    rw [← heq] at hmem
    exact absurd (flat_plain _ _ hmem) (by decide)

/-- Behind the first word there is a capital. -/
theorem exists_isCapital_camel {ws : List Word} (hws : 2 ≤ ws.length) :
    ∃ c ∈ (camel ws).toList, isCapital c = true := by
  match ws, hws with
  | v :: w :: us, _ =>
    refine ⟨w.first.toUpper, ?_, isCapital_toUpper w.first_small⟩
    simp [camel, capitalized]

theorem camel_ne_snake {ws : List Word} (hws : 2 ≤ ws.length) : camel ws ≠ snake ws := by
  obtain ⟨c, hc, hcapital⟩ := exists_isCapital_camel hws
  intro heq
  rw [heq] at hc
  rcases snake_plain ws c hc with hplain | rfl
  · rw [isCapital_eq_false_of_isPlain hplain] at hcapital
    cases hcapital
  · cases hcapital

theorem camel_ne_flat {ws : List Word} (hws : 2 ≤ ws.length) : camel ws ≠ flat ws := by
  obtain ⟨c, hc, hcapital⟩ := exists_isCapital_camel hws
  intro heq
  rw [heq] at hc
  rw [isCapital_eq_false_of_isPlain (flat_plain ws c hc)] at hcapital
  cases hcapital

theorem camel_ne_pascal {ws : List Word} (hws : ws ≠ []) : camel ws ≠ pascal ws := by
  match ws, hws with
  | w :: ws, _ =>
    intro heq
    have hfirst : w.first = w.first.toUpper := by
      simpa [camel, pascal, chars, capitalized] using (congrArg String.toList heq)
    have hcapital := isCapital_toUpper w.first_small
    rw [← hfirst, isCapital_eq_false_of_isSmall w.first_small] at hcapital
    cases hcapital

theorem upperFirst_pascal (ws : List Word) : upperFirst (pascal ws) = pascal ws := by
  cases ws with
  | nil => rfl
  | cons w ws =>
    have hcapital := isCapital_toUpper w.first_small
    have hupper : w.first.toUpper.toUpper = w.first.toUpper := toUpper_eq_self hcapital
    have hascii := isAscii_of_isCapital hcapital
    simp [upperFirst, pascal, capitalized, upperChar, hascii, hupper]

end Word

open Naming.Word

/-- The key of a name in the first convention, from the two passes that find its words. -/
theorem exists_parted_lookupKey (name : String) :
    ∃ u t, Parted AcronymPlace name.toList u ∧ Parted WordPlace u t ∧
      ruby.lookupKey name = String.ofList (lowerChars t) := by
  obtain ⟨u, hu, ht⟩ := parted_twice_iff.mpr (Eq.refl (splitWords name.toList))
  exact ⟨u, _, hu, ht, rfl⟩

/-- The first convention, which finds the words of a name in two passes, takes three of the four
spellings of a name for one; the second takes other three for one. An operator that is declared with
capitals is meant by its own spelling, by the words run together, and in the first convention by the
words joined; in neither is it meant by the spelling that starts small. -/
theorem spellings_looked_up {ws : List Word} (hws : 2 ≤ ws.length) :
    (∀ name, ∃ u t, Parted AcronymPlace name.toList u ∧ Parted WordPlace u t ∧
      ruby.lookupKey name = String.ofList (lowerChars t)) ∧
    (∀ name ∈ [pascal ws, camel ws, snake ws], ruby.lookupKey name = snake ws) ∧
    ruby.lookupKey (flat ws) = flat ws ∧ flat ws ≠ snake ws ∧
    (∀ a ∈ [pascal ws, camel ws, snake ws],
      (∀ b ∈ [pascal ws, camel ws, snake ws], ruby.namesMatch a b = true) ∧
      ruby.namesMatch a (flat ws) = false ∧ ruby.namesMatch (flat ws) a = false) ∧
    (∀ name ∈ [pascal ws, camel ws, flat ws], csharp.lookupKey name = flat ws) ∧
    csharp.lookupKey (snake ws) = snake ws ∧
    (∀ token, ruby.operatorMatches token (pascal ws) = true ↔
      token ∈ [pascal ws, flat ws, snake ws]) ∧
    (∀ token, csharp.operatorMatches token (pascal ws) = true ↔
      token ∈ [pascal ws, flat ws]) ∧
    ∀ n : Naming, n.operatorMatches (camel ws) (pascal ws) = false := by
  have hflat (n : Naming) : n.lookupKey (flat ws) = flat ws :=
    lookupKey_eq_self n fun c hc => .inl (flat_plain ws c hc)
  have hsnake (n : Naming) : n.lookupKey (snake ws) = snake ws :=
    lookupKey_eq_self n (snake_plain ws)
  have hruby : ∀ name ∈ [pascal ws, camel ws, snake ws], ruby.lookupKey name = snake ws := by
    simp [ruby_pascal, ruby_camel, hsnake]
  have hrubyToken (token : String) : ruby.operatorMatches token (pascal ws) = true ↔
      token ∈ [pascal ws, flat ws, snake ws] := by
    have hcanonical : ruby.canonical (pascal ws) = snake ws := ruby_pascal ws
    simp [operatorMatches, lower_pascal, hcanonical, or_assoc]
  have hcsharpToken (token : String) : csharp.operatorMatches token (pascal ws) = true ↔
      token ∈ [pascal ws, flat ws] := by
    simp [operatorMatches, lower_pascal, upperFirst_pascal]
    tauto
  have hpascal : camel ws ≠ pascal ws := camel_ne_pascal (by rintro rfl; cases hws)
  refine ⟨exists_parted_lookupKey, hruby, hflat ruby, flat_ne_snake hws, ?_, ?_, hsnake csharp,
    hrubyToken, hcsharpToken, ?_⟩
  · intro a ha
    refine ⟨fun b hb => ?_, ?_, ?_⟩
    · simp [namesMatch, hruby a ha, hruby b hb]
    · simpa [namesMatch, hruby a ha, hflat] using (flat_ne_snake hws).symm
    · simpa [namesMatch, hruby a ha, hflat] using flat_ne_snake hws
  · intro name hname
    simp only [List.mem_cons, List.not_mem_nil, or_false] at hname
    rcases hname with rfl | rfl | rfl
    · exact lower_pascal ws
    · exact lower_camel ws
    · exact hflat csharp
  · intro n
    rw [Bool.eq_false_iff]
    cases n with
    | ruby => simp [hrubyToken, hpascal, camel_ne_flat hws, camel_ne_snake hws]
    | csharp => simp [hcsharpToken, hpascal, camel_ne_flat hws]

/-- Digits start no word. -/
theorem spellings_looked_up_with_digits :
    ∃ ws : List Word, 2 ≤ ws.length ∧ snake ws = "is_multiple2_of" ∧
      ruby.lookupKey "IsMultiple2Of" = "is_multiple2_of" ∧
      ruby.lookupKey "isMultiple2Of" = "is_multiple2_of" ∧
      csharp.lookupKey "isMultiple2Of" = "ismultiple2of" ∧
      ruby.operatorMatches "is_multiple2_of" "IsMultiple2Of" = true ∧
      ∀ n : Naming, n.operatorMatches "isMultiple2Of" "IsMultiple2Of" = false := by
  let ws : List Word := [⟨'i', ['s'], by decide, by decide, List.all_eq_true.mp (by decide)⟩,
    ⟨'m', "ultiple2".toList, by decide, by decide, List.all_eq_true.mp (by decide +kernel)⟩,
    ⟨'o', ['f'], by decide, by decide, List.all_eq_true.mp (by decide)⟩]
  have hws : 2 ≤ ws.length := by decide
  have hpascal : pascal ws = "IsMultiple2Of" := by decide +kernel
  have hcamel : camel ws = "isMultiple2Of" := by decide +kernel
  have hsnake : snake ws = "is_multiple2_of" := by decide +kernel
  have hflat : flat ws = "ismultiple2of" := by decide +kernel
  obtain ⟨-, hruby, -, -, -, hcsharp, -, htoken, -, hrefused⟩ := spellings_looked_up hws
  rw [hpascal, hcamel, hsnake] at hruby
  rw [hpascal, hcamel, hflat] at hcsharp
  rw [hpascal, hsnake] at htoken
  rw [hpascal, hcamel] at hrefused
  exact ⟨ws, hws, hsnake, hruby _ (by simp), hruby _ (by simp), hcsharp _ (by simp),
    (htoken _).mpr (by simp), hrefused⟩

end LiquidEval.Naming
