import Mathlib.Data.List.DropRight
import LiquidEval.Proofs.Condition.Texts

/-! Where an error points. Reading stops in front of some rest of its text, and the position of the
error is the bytes in front of that rest. A condition is read from the caller's text, an expression
from what trimming leaves of it; the bytes that were trimmed off its start are missing from the
position. -/
namespace LiquidEval

/-- Whether reading fails with this error can be tested, though expressions cannot be told apart. -/
instance {α : Type} (r : Except SyntaxError α) (e : SyntaxError) : Decidable (r = .error e) :=
  match r with
  | .ok _ => isFalse nofun
  | .error e' => decidable_of_iff (e' = e) (by rw [Except.error.injEq])

theorem utf8Length_eq (s : List Char) : utf8Length s = (String.ofList s).utf8ByteSize := by
  induction s with
  | nil => rfl
  | cons c s ih =>
    rw [utf8Length, ih, String.ofList_cons, String.utf8ByteSize_append,
      String.utf8ByteSize_singleton]

def IsQuote (c : Char) : Prop := c = '"' ∨ c = '\''

namespace SyntaxError

theorem position_eq (front rest : List Char) :
    utf8Length (front ++ rest) - utf8Length rest = (String.ofList front).utf8ByteSize := by
  rw [utf8Length_eq, utf8Length_eq, String.ofList_append, String.utf8ByteSize_append,
    Nat.add_sub_cancel]

theorem stoppedAt_quote (front rest : List Char) {quote : Char} (h : IsQuote quote) :
    stoppedAt (front ++ quote :: rest) (quote :: rest) =
      .unterminatedString (String.ofList front).utf8ByteSize := by
  rw [stoppedAt, position_eq]
  rcases h with rfl | rfl <;> rfl

theorem stoppedAt_eq_unterminatedString {front rest : List Char} {position : Nat}
    (h : stoppedAt (front ++ rest) rest = .unterminatedString position) :
    (String.ofList front).utf8ByteSize = position ∧
      ∃ quote after, IsQuote quote ∧ rest = quote :: after := by
  rw [stoppedAt, position_eq] at h
  split at h
  next hquote =>
    rw [Bool.or_eq_true, beq_iff_eq, beq_iff_eq] at hquote
    refine ⟨SyntaxError.unterminatedString.inj h, ?_⟩
    rcases hquote with hquote | hquote
    · obtain ⟨after, rfl⟩ := List.head?_eq_some_iff.mp hquote
      exact ⟨'\'', after, .inr rfl, rfl⟩
    · obtain ⟨after, rfl⟩ := List.head?_eq_some_iff.mp hquote
      exact ⟨'"', after, .inl rfl, rfl⟩
  next => cases h

theorem stoppedAt_eq_unexpected {front rest : List Char} {found : String} {position : Nat}
    (h : stoppedAt (front ++ rest) rest = .unexpected found position) :
    (String.ofList front).utf8ByteSize = position ∧ found = String.ofList (rest.take 16) := by
  rw [stoppedAt, position_eq] at h
  split at h
  next => cases h
  next =>
    cases h
    exact ⟨rfl, rfl⟩

/-- Byte `position` of the text stands between two of its characters, and what was found stands
there. Where nothing was found, the text has come to its end. -/
def PointsInto (text found : String) (position : Nat) : Prop :=
  ∃ front rest : String, text = front ++ rest ∧ front.utf8ByteSize = position ∧ found.length ≤ 16 ∧
    found.toList <+: rest.toList ∧ (found = "" → ∀ c ∈ rest.toList, Text.isWhiteSpace c = true)

theorem pointsInto_of_stoppedAt {s rest : List Char} (hrest : rest <:+ s) {found : String}
    {position : Nat} (h : stoppedAt s rest = .unexpected found position) :
    PointsInto (String.ofList s) found position := by
  obtain ⟨front, rfl⟩ := hrest
  obtain ⟨hposition, rfl⟩ := stoppedAt_eq_unexpected h
  refine ⟨String.ofList front, String.ofList rest, String.ofList_append, hposition, ?_⟩
  simp only [String.length_ofList, String.toList_ofList]
  refine ⟨List.length_take_le 16 rest, List.take_prefix 16 rest, fun hnone => ?_⟩
  have hend : rest = [] := by simpa using hnone
  rw [hend]
  exact fun c hc => absurd hc List.not_mem_nil

/-- Text in front moves the position by its bytes. White space may follow, as it may behind the end
of a text. -/
theorem PointsInto.extend {text found : String} {position : Nat}
    (h : PointsInto text found position) (lead : String) {trail : String}
    (htrail : ∀ c ∈ trail.toList, Text.isWhiteSpace c = true) :
    PointsInto (lead ++ text ++ trail) found (lead.utf8ByteSize + position) := by
  obtain ⟨front, rest, rfl, rfl, hlength, hprefix, hend⟩ := h
  refine ⟨lead ++ front, rest ++ trail, ?_, String.utf8ByteSize_append, hlength, ?_,
    fun hnone => ?_⟩
  · simp only [String.append_assoc]
  · rw [String.toList_append]
    exact hprefix.trans (List.prefix_append _ _)
  · rw [String.toList_append]
    exact List.forall_mem_append.mpr ⟨hend hnone, htrail⟩

end SyntaxError

namespace Text

def leadingWhiteSpace (s : String) : String := String.ofList (s.toList.takeWhile isWhiteSpace)

theorem exists_eq_append_trim (s : String) :
    ∃ trail : String, s = leadingWhiteSpace s ++ trim s ++ trail ∧
      ∀ c ∈ trail.toList, isWhiteSpace c = true := by
  refine ⟨String.ofList ((trimStart s.toList).rtakeWhile isWhiteSpace), ?_, ?_⟩
  · have hend : trimChars s.toList ++ (trimStart s.toList).rtakeWhile isWhiteSpace =
        trimStart s.toList :=
      List.rdropWhile_append_rtakeWhile
    rw [← String.toList_inj, leadingWhiteSpace, trim, String.append_assoc, ← String.ofList_append,
      ← String.ofList_append, String.toList_ofList, hend]
    exact List.takeWhile_append_dropWhile.symm
  · rw [String.toList_ofList]
    exact fun c => List.mem_rtakeWhile_imp

theorem isWhiteSpace_of_trimChars {s t : List Char} {c : Char} (h : trimChars s = c :: t) :
    isWhiteSpace c = false := by
  have hstart : trimChars s <+: trimStart s := List.rdropWhile_prefix isWhiteSpace _
  obtain ⟨u, hu⟩ := hstart
  have hsolid := Expr.head?_any_dropWhile isWhiteSpace s
  rwa [← trimStart, ← hu, h] at hsolid

end Text

theorem Expr.stuckAt_suffix (s : List Char) : stuckAt s <:+ s := by
  unfold stuckAt
  split
  next t =>
    obtain ⟨w, -, ht⟩ := exists_blanks_append_skipBlanks t
    have hopen : skipBlanks t <:+ '[' :: t := ⟨'[' :: w, congrArg ('[' :: ·) ht.symm⟩
    dsimp only
    split
    next text rest hread =>
      obtain ⟨u, hu, -⟩ := quotedText?_sound hread
      obtain ⟨w', -, hrest⟩ := exists_blanks_append_skipBlanks rest
      have hclose : skipBlanks rest <:+ skipBlanks t :=
        ⟨u ++ w', by rw [List.append_assoc, ← hrest, ← hu]⟩
      exact hclose.trans hopen
    next =>
      split
      next => exact List.nil_suffix
      next => exact hopen
  next => exact List.suffix_refl s

/-- What is left of a text that is no expression. -/
inductive Expr.StopsAt (s rest : List Char) : Prop where
  | behind {e : Expr} (h : read? s = some (e, rest)) (hne : rest ≠ [])
  | stuck (h : read? s = none) (hrest : stuckAt s = rest)

theorem Expr.StopsAt.suffix {s rest : List Char} (h : StopsAt s rest) : rest <:+ s := by
  cases h with
  | behind h =>
    obtain ⟨t, ht, -⟩ := read?_sound h
    exact ⟨t, ht.symm⟩
  | stuck _ hrest =>
    rw [← hrest]
    exact stuckAt_suffix s

theorem Expr.stopsAt_of_ofChars {s : List Char} {e : SyntaxError} (h : ofChars s = .error e) :
    e = .emptyInput ∨ ∃ rest, StopsAt (Text.trimChars s) rest ∧
      e = .stoppedAt (Text.trimChars s) rest := by
  simp only [ofChars] at h
  split at h
  next => exact .inl (Except.error.inj h).symm
  next =>
    split at h
    next => cases h
    next rest hne hread => exact .inr ⟨_, .behind hread hne, (Except.error.inj h).symm⟩
    next hread => exact .inr ⟨_, .stuck hread rfl, (Except.error.inj h).symm⟩

theorem Expr.ofChars_of_stopsAt {s rest : List Char} (hs : Text.trimChars s ≠ [])
    (h : StopsAt (Text.trimChars s) rest) :
    ofChars s = .error (.stoppedAt (Text.trimChars s) rest) := by
  simp only [ofChars]
  rw [if_neg (mt List.isEmpty_iff.mp hs)]
  cases h with
  | behind h hne =>
    obtain ⟨c, rest, rfl⟩ := List.exists_cons_of_ne_nil hne
    rw [h]
  | stuck h hrest => rw [h, hrest]

/-- What is left of a text that is no condition. -/
inductive Markup.StopsAt (s rest : List Char) : Prop where
  | behind {m : Markup} {r : List Char} (h : read? (Expr.skipBlanks s) = some (m, r))
      (hrest : Expr.skipBlanks r = rest) (hne : rest ≠ [])
  | stuck (h : read? (Expr.skipBlanks s) = none) (hrest : Expr.stuckAt (Expr.skipBlanks s) = rest)

theorem Markup.StopsAt.suffix {s rest : List Char} (h : StopsAt s rest) : rest <:+ s := by
  have hstart : Expr.skipBlanks s <:+ s := List.dropWhile_suffix _
  cases h with
  | behind h hrest =>
    obtain ⟨t, ht, -⟩ := read?_spells h
    rw [← hrest]
    exact (List.dropWhile_suffix _).trans (.trans ⟨t, ht.symm⟩ hstart)
  | stuck _ hrest =>
    rw [← hrest]
    exact (Expr.stuckAt_suffix _).trans hstart

theorem Markup.stopsAt_of_ofChars {s : List Char} {e : SyntaxError} (h : ofChars s = .error e) :
    e = .emptyInput ∨ ∃ rest, StopsAt s rest ∧ e = .stoppedAt s rest := by
  simp only [ofChars] at h
  split at h
  next => exact .inl (Except.error.inj h).symm
  next =>
    split at h
    next hread => exact .inr ⟨_, .stuck hread rfl, (Except.error.inj h).symm⟩
    next m r hread =>
      split at h
      next => cases h
      next hne => exact .inr ⟨_, .behind hread rfl hne, (Except.error.inj h).symm⟩

theorem Markup.ofChars_of_stopsAt {s rest : List Char} (hs : Text.trimChars s ≠ [])
    (h : StopsAt s rest) :
    ofChars s = .error (.stoppedAt s rest) := by
  simp only [ofChars]
  rw [if_neg (mt List.isEmpty_iff.mp hs)]
  cases h with
  | behind h hrest hne =>
    obtain ⟨c, rest, rfl⟩ := List.exists_cons_of_ne_nil hne
    simp only [h, hrest]
  | stuck h hrest => rw [h, hrest]

namespace SyntaxError

theorem pointsInto_of_markup {text found : String} {position : Nat}
    (h : Markup.ofText text = .error (.unexpected found position)) :
    PointsInto text found position := by
  obtain hempty | ⟨rest, hrest, hstopped⟩ := Markup.stopsAt_of_ofChars h
  · cases hempty
  · rw [← String.ofList_toList (s := text)]
    exact pointsInto_of_stoppedAt hrest.suffix hstopped.symm

theorem pointsInto_trim {text found : String} {position : Nat}
    (h : Expr.ofText text = .error (.unexpected found position)) :
    PointsInto (Text.trim text) found position := by
  obtain hempty | ⟨rest, hrest, hstopped⟩ := Expr.stopsAt_of_ofChars h
  · cases hempty
  · exact pointsInto_of_stoppedAt hrest.suffix hstopped.symm

/-- An expression is counted from its first character, which stands behind the white space of the
caller's text. -/
theorem pointsInto_of_expr {text found : String} {position : Nat}
    (h : Expr.ofText text = .error (.unexpected found position)) :
    PointsInto text found ((Text.leadingWhiteSpace text).utf8ByteSize + position) := by
  obtain ⟨trail, htext, htrail⟩ := Text.exists_eq_append_trim text
  have hpoints := (pointsInto_trim h).extend (Text.leadingWhiteSpace text) htrail
  rwa [← htext] at hpoints

/-- Reading that gets nowhere behind white space is said to stop at the start of the text, where the
white space is. -/
theorem not_pointsInto_of_leadingWhiteSpace {text found : String}
    (h : Expr.ofText text = .error (.unexpected found 0))
    (hlead : Text.leadingWhiteSpace text ≠ "") :
    ¬PointsInto text found 0 := by
  have hatStart {s : String} (hs : PointsInto s found 0) :
      found.toList <+: s.toList ∧ (found = "" → ∀ c ∈ s.toList, Text.isWhiteSpace c = true) := by
    obtain ⟨front, rest, rfl, hfront, -, hfound⟩ := hs
    rwa [String.utf8ByteSize_eq_zero_iff.mp hfront, String.empty_append]
  intro hpoints
  obtain ⟨hfound, -⟩ := hatStart hpoints
  obtain ⟨htrim, hblank⟩ := hatStart (pointsInto_trim h)
  rw [Text.trim, String.toList_ofList] at htrim hblank
  obtain ⟨c, t, hct⟩ : ∃ c t, Text.trimChars text.toList = c :: t := by
    refine List.exists_cons_of_ne_nil fun hnil => ?_
    rw [Expr.ofText, Expr.ofChars, hnil] at h
    cases h
  have hc := Text.isWhiteSpace_of_trimChars hct
  rw [hct] at htrim hblank
  cases hcs : found.toList with
  | nil =>
    have hwhite := hblank (String.toList_eq_nil_iff.mp hcs) c List.mem_cons_self
    rw [hc] at hwhite
    cases hwhite
  | cons d u =>
    rw [hcs] at hfound htrim
    obtain rfl : d = c := (List.cons_prefix_cons.mp htrim).1
    obtain ⟨v, hv⟩ := hfound
    refine hlead ?_
    rw [Text.leadingWhiteSpace, ← hv, List.cons_append, List.takeWhile_cons_of_neg (by simp [hc])]

/-- The position of a condition that cannot be read points into the text that was given. So does
that of an expression once the white space at the start of the text is counted. -/
theorem points_into_text (text found : String) (position : Nat) :
    (Markup.ofText text = .error (.unexpected found position) → PointsInto text found position) ∧
    (Expr.ofText text = .error (.unexpected found position) →
      PointsInto text found ((Text.leadingWhiteSpace text).utf8ByteSize + position) ∧
      (Text.leadingWhiteSpace text = "" → PointsInto text found position) ∧
      (Text.leadingWhiteSpace text ≠ "" → position = 0 → ¬PointsInto text found position)) := by
  refine ⟨pointsInto_of_markup, fun h => ⟨pointsInto_of_expr h, ?_, ?_⟩⟩
  · intro hlead
    have hpoints := pointsInto_of_expr h
    rwa [hlead, show "".utf8ByteSize = 0 from rfl, Nat.zero_add] at hpoints
  · rintro hlead rfl
    exact not_pointsInto_of_leadingWhiteSpace h hlead

/-- Behind letters and white space of two bytes each. -/
theorem points_into_text_behind_no_break_space :
    Markup.ofText " é == " = .error (.unexpected "== " 4) ∧ PointsInto " é == " "== " 4 ∧
    Expr.ofText "\u00a0é b" = .error (.unexpected " b" 2) ∧ PointsInto "\u00a0é b" " b" 4 ∧
    Expr.ofText "é['x' " = .error (.unexpected "['x'" 2) ∧ PointsInto "é['x' " "['x'" 2 := by
  have hmarkup : Markup.ofText " é == " = .error (.unexpected "== " 4) := by decide +kernel
  have hspace : Expr.ofText "\u00a0é b" = .error (.unexpected " b" 2) := by decide +kernel
  have hopen : Expr.ofText "é['x' " = .error (.unexpected "['x'" 2) := by decide +kernel
  exact ⟨hmarkup, (points_into_text _ _ _).1 hmarkup, hspace, ((points_into_text _ _ _).2 hspace).1,
    hopen, ((points_into_text _ _ _).2 hopen).2.1 (by decide +kernel)⟩

/-- The bracket stands at byte 1. -/
theorem bracket_found_in_white_space :
    Expr.ofText " ]" = .error (.unexpected "]" 0) ∧ ¬PointsInto " ]" "]" 0 := by
  have hread : Expr.ofText " ]" = .error (.unexpected "]" 0) := by decide +kernel
  exact ⟨hread, not_pointsInto_of_leadingWhiteSpace hread (by decide +kernel)⟩

end SyntaxError
end LiquidEval
