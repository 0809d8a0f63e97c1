import LiquidEval.Proofs.Naming.Spelling

/-! Small forms and lookup keys are final: to make one of what is one already changes nothing. That
no character of a small form has another small form is read off the table of the case mappings. -/
namespace LiquidEval
open Naming

namespace Text

/-- The code points that have another small form. -/
def smallRuns : List CaseRun := ⟨65, 90, 1, 32⟩ :: ⟨0x130, 0x130, 1, 0⟩ :: lowerRuns

/-- Whether a run has no code point from `first` to `last`, or none at an even distance from
`first`. -/
def CaseRun.avoids (s : CaseRun) (first last : Nat) (even : Bool) : Bool :=
  Nat.blt last s.first || Nat.blt s.last first ||
    (even && s.step % 2 == 0 && (first + s.first) % 2 == 1)

/-- Whether no image of a run has another small form. -/
def CaseRun.isFinal (r : CaseRun) : Bool :=
  match r.first + r.shift with
  | .ofNat first => smallRuns.all fun s =>
    s.avoids first (first + (r.last - r.first)) (r.first == r.last || r.step % 2 == 0)
  | .negSucc _ => false

theorem CaseRun.covers_iff {r : CaseRun} {code : Nat} :
    r.covers code = true ↔ r.first ≤ code ∧ code ≤ r.last ∧ r.step ∣ code - r.first := by
  simp [covers, Nat.dvd_iff_mod_eq_zero, and_assoc]

theorem CaseRun.covers_eq_false {s : CaseRun} {first last code : Nat} {even : Bool}
    (h : s.avoids first last even = true) (hfirst : first ≤ code) (hlast : code ≤ last)
    (heven : even = true → 2 ∣ code - first) : s.covers code = false := by
  rw [Bool.eq_false_iff]
  intro hcovers
  obtain ⟨hfrom, hto, hstep⟩ := covers_iff.mp hcovers
  simp only [avoids, Bool.or_eq_true, Bool.and_eq_true, Nat.blt_eq, beq_iff_eq] at h
  rcases h with (h | h) | ⟨⟨heq, hs⟩, hodd⟩
  · omega
  · omega
  · have hcode := heven heq
    have hdist : 2 ∣ code - s.first := Nat.dvd_trans (Nat.dvd_of_mod_eq_zero hs) hstep
    omega

theorem CaseRun.covers_image {r s : CaseRun} (hr : r.isFinal = true) (hs : s ∈ smallRuns)
    {code : Nat} (hcode : r.covers code = true) :
    s.covers (code + r.shift).toNat = false := by
  obtain ⟨hfrom, hto, hstep⟩ := covers_iff.mp hcode
  unfold isFinal at hr
  split at hr
  next first hfirst =>
    have hshift : r.first + r.shift = (first : Int) := hfirst
    have himage : (code + r.shift).toNat = first + (code - r.first) := by omega
    rw [himage]
    refine covers_eq_false (List.all_eq_true.mp hr s hs) (by omega) (by omega) fun heven => ?_
    rcases Bool.or_eq_true_iff.mp heven with hone | htwo
    · rw [beq_iff_eq] at hone
      omega
    · have := Nat.dvd_trans (Nat.dvd_of_mod_eq_zero (beq_iff_eq.mp htwo)) hstep
      omega
  next => cases hr

theorem all_isFinal : lowerRuns.all CaseRun.isFinal = true := by decide +kernel

theorem lowerChar_of_isAscii {c : Char} (h : isAscii c = true) : lowerChar c = [c.toLower] := by
  rw [lowerChar, if_pos h]

theorem lowerChar_eq_self {c : Char} (h : ∀ s ∈ smallRuns, s.covers c.toNat = false) :
    lowerChar c = [c] := by
  simp only [smallRuns, List.forall_mem_cons] at h
  obtain ⟨hcapital, hlong, hruns⟩ := h
  have hnot : isCapital c = false := by
    rw [Bool.eq_false_iff, ne_eq, isCapital_iff_toNat]
    simpa [CaseRun.covers, Nat.mod_one] using hcapital
  have hcode : c.toNat ≠ 0x130 := by
    intro heq
    rw [heq] at hlong
    cases hlong
  unfold lowerChar
  split
  next => rw [toLower_eq_self hnot]
  next =>
    have hfind : (lowerRuns.find? fun r => r.covers c.toNat) = none := by
      simpa using hruns
    simp [mapCase, longLower, List.lookup_cons, beq_eq_false_iff_ne.mpr hcode, hfind]

theorem lowerChar_ofNat {code : Nat} (h : ∀ s ∈ smallRuns, s.covers code = false) :
    lowerChar (Char.ofNat code) = [Char.ofNat code] := by
  -- a number that is no code point stands for the character zero
  by_cases hvalid : code.isValidChar
  · have htoNat : (Char.ofNat code).toNat = code := by
      rw [Char.ofNat, dif_pos hvalid]
      rfl
    apply lowerChar_eq_self
    rwa [htoNat]
  · rw [Char.ofNat, dif_neg hvalid]
    decide

theorem lowerChar_of_mem {c d : Char} (hd : d ∈ lowerChar c) : lowerChar d = [d] := by
  cases hascii : isAscii c with
  | true =>
    rw [lowerChar_of_isAscii hascii, List.mem_singleton] at hd
    subst hd
    cases hcapital : isCapital c with
    | true =>
      have hcode := (isCapital_iff_toNat c).mp hcapital
      have hlower := toNat_toLower hcapital
      have hsmall : isSmall c.toLower = true := by
        rw [isSmall_iff_toNat]
        omega
      rw [lowerChar_of_isAscii (isAscii_of_isSmall hsmall),
        toLower_eq_self (isCapital_eq_false_of_isSmall hsmall)]
    | false => rw [toLower_eq_self hcapital, lowerChar_of_isAscii hascii, toLower_eq_self hcapital]
  | false =>
    have hmap : lowerChar c = mapCase longLower lowerRuns c := by
      rw [lowerChar, if_neg (by simp [hascii])]
    cases hlong : longLower.lookup c.toNat with
    | some codes =>
      have hcodes : codes = [0x69, 0x307] := by
        rw [longLower, List.lookup_cons] at hlong
        split at hlong
        next => exact (Option.some.inj hlong).symm
        next => cases hlong
      have himage : lowerChar c = ['i', Char.ofNat 0x307] := by
        simp only [hmap, mapCase, hlong, hcodes]
        rfl
      rw [himage, List.mem_cons, List.mem_singleton] at hd
      rcases hd with rfl | rfl <;> decide +kernel
    | none =>
      cases hfind : lowerRuns.find? fun r => r.covers c.toNat with
      | none =>
        have hself : lowerChar c = [c] := by simp only [hmap, mapCase, hlong, hfind]
        rw [hself, List.mem_singleton] at hd
        rwa [hd]
      | some r =>
        have himage : lowerChar c = [Char.ofNat (c.toNat + r.shift).toNat] := by
          simp only [hmap, mapCase, hlong, hfind]
        rw [himage, List.mem_singleton] at hd
        subst hd
        have hr := List.all_eq_true.mp all_isFinal r (List.mem_of_find?_eq_some hfind)
        have hcovers : r.covers c.toNat = true :=
          List.find?_some (p := fun r : CaseRun => r.covers c.toNat) hfind
        exact lowerChar_ofNat fun s hs => CaseRun.covers_image hr hs hcovers

theorem lowerFrom_eq_self {s : List Char} (h : ∀ c ∈ s, lowerChar c = [c]) (before : List Char) :
    lowerFrom before s = s := by
  induction s generalizing before with
  | nil => rfl
  | cons c s ih =>
    rw [List.forall_mem_cons] at h
    have hsigma : c ≠ 'Σ' := by
      rintro rfl
      exact absurd h.1 (by decide +kernel)
    rw [lowerFrom, if_neg hsigma, h.1, ih h.2, List.singleton_append]

/-- Either form of the small sigma is one. -/
theorem lowerChar_lowerSigma (before after : List Char) :
    lowerChar (lowerSigma before after) = [lowerSigma before after] := by
  unfold lowerSigma
  split <;> decide +kernel

theorem lowerChar_of_mem_lowerFrom {s before : List Char} :
    ∀ c ∈ lowerFrom before s, lowerChar c = [c] := by
  induction s generalizing before with
  | nil => exact List.forall_mem_nil _
  | cons c s ih =>
    rw [lowerFrom, List.forall_mem_append]
    refine ⟨?_, ih⟩
    split
    next => exact List.forall_mem_singleton.mpr (lowerChar_lowerSigma before s)
    next => exact fun d hd => lowerChar_of_mem hd

theorem lowerChars_lowerChars (s : List Char) : lowerChars (lowerChars s) = lowerChars s :=
  lowerFrom_eq_self lowerChar_of_mem_lowerFrom []

theorem isCapital_eq_false_of_mem_lowerChars {s : List Char} :
    ∀ c ∈ lowerChars s, isCapital c = false := by
  intro c hc
  rw [Bool.eq_false_iff]
  intro hcapital
  have hself := lowerChar_of_mem_lowerFrom c hc
  rw [lowerChar_of_isAscii (isAscii_of_isCapital hcapital), List.cons.injEq] at hself
  have hlower := toNat_toLower hcapital
  rw [hself.1] at hlower
  omega

end Text

namespace Naming

/-- A lookup key is its own lookup key. -/
theorem lookupKey_lookupKey (n : Naming) (name : String) :
    n.lookupKey (n.lookupKey name) = n.lookupKey name := by
  cases n with
  | csharp =>
    change Text.lower (Text.lower name) = Text.lower name
    rw [Text.lower, Text.lower, String.toList_ofList, Text.lowerChars_lowerChars]
  | ruby =>
    change canonical ruby (canonical ruby name) = canonical ruby name
    rw [canonical, canonical, String.toList_ofList,
      splitWords_eq_self Text.isCapital_eq_false_of_mem_lowerChars, Text.lowerChars_lowerChars]

end Naming
end LiquidEval
