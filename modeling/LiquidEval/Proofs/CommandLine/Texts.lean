import LiquidEval.CommandLine.Reader

/-! What a command line sets. A flag is given its texts by the words, behind its equals sign or as
the word after it. A command line that can be read sets what these texts say, and nothing else. -/
namespace LiquidEval

theorem exists_of_bind_eq_ok {ε α β : Type} {x : Except ε α} {f : α → Except ε β} {b : β}
    (h : x >>= f = .ok b) : ∃ a, x = .ok a ∧ f a = .ok b := by
  cases x with
  | error e => cases h
  | ok a => exact ⟨a, rfl, h⟩

namespace Flag

/-- The texts that words give to a flag. Behind `--` nothing is a flag. A flag without an equals
sign takes the next word whatever it is; no command line is read in which that word is not a
value. -/
def texts (f : Flag) : List String → List String
  | [] => []
  | word :: rest =>
    match Word.ofString word with
    | .separator => []
    | .long name value =>
      if f.long = name then (value.or rest.head?).toList ++ f.texts rest else f.texts rest
    | .cluster _ | .plain => f.texts rest

variable {f : Flag} {word : String}

theorem texts_separator (h : Word.ofString word = .separator) (rest : List String) :
    f.texts (word :: rest) = [] := by
  rw [texts, h]

theorem texts_long {name : String} {value : Option String}
    (h : Word.ofString word = .long name value) (rest : List String) : f.texts (word :: rest) =
      if f.long = name then (value.or rest.head?).toList ++ f.texts rest else f.texts rest := by
  rw [texts, h]

theorem texts_cluster {letters : List Char} (h : Word.ofString word = .cluster letters)
    (rest : List String) : f.texts (word :: rest) = f.texts rest := by
  rw [texts, h]

theorem texts_plain (h : Word.ofString word = .plain) (rest : List String) :
    f.texts (word :: rest) = f.texts rest := by
  rw [texts, h]

theorem long_inj {f g : Flag} : f.long = g.long ↔ f = g := by
  cases f <;> cases g <;> decide

/-- Flags of one letter take no value. -/
theorem takesValue_of_short {c : Char} (h : f.short? = some c) : f.takesValue = false := by
  cases f with
  | help | version | verbose => rfl
  | _ => cases h

end Flag

theorem Word.ofString_ne_cluster_nil {word : String} : Word.ofString word ≠ .cluster [] := by
  unfold Word.ofString
  dsimp only
  split <;> try split
  all_goals simp

namespace FlagValues
variable {v w : FlagValues} {given : Flag → List String}

theorem once_eq_ok_iff {α : Type} {old : Option α} {new : Except UsageError α} {a : α} :
    once old new = .ok a ↔ old = none ∧ new = .ok a := by
  cases old <;> simp [once]

theorem checked_eq_ok_iff {ε α : Type} {x : Except ε α} {a : α} :
    checked x = .ok a ↔ x = .ok a := by
  cases x <;> simp [checked]

theorem eq_of_path_eq_ok {text p : String} (h : path text = .ok p) : p = text := by
  unfold path at h
  split at h
  · cases h
  · exact (Except.ok.inj h).symm

theorem assignment_eq_ok_iff {text : String} {a : String × String} :
    assignment text = .ok a ↔ assignment? text = some a := by
  unfold assignment
  split <;> simp_all

/-- The values are what the texts given to the flags say. -/
structure Records (v : FlagValues) (given : Flag → List String) : Prop where
  naming : (given .naming).map Naming.ofText = v.naming.toList.map .ok
  level : (given .level).map Level.ofText = v.level.toList.map .ok
  config : given .config = v.config.toList
  file : given .variableFile = v.sources.file.toList
  assignments : (given .assign).map assignment? = v.sources.assignments.map some

/-- One text more for a flag. -/
def giving (given : Flag → List String) (f : Flag) (text : String) : Flag → List String :=
  fun g => if g = f then given g ++ [text] else given g

theorem map_append_of_once {α : Type} {read : String → Except SettingError α} {texts : List String}
    {text : String} {old : Option α} {a : α} (h : texts.map read = old.toList.map .ok)
    (hset : once old (checked (read text)) = .ok a) :
    (texts ++ [text]).map read = (some a).toList.map .ok := by
  obtain ⟨rfl, hread⟩ := once_eq_ok_iff.mp hset
  rw [List.map_append, h, List.map_singleton, checked_eq_ok_iff.mp hread]
  rfl

theorem append_of_once {texts : List String} {text p : String} {old : Option String}
    (h : texts = old.toList) (hset : once old (path text) = .ok p) :
    texts ++ [text] = (some p).toList := by
  obtain ⟨rfl, hpath⟩ := once_eq_ok_iff.mp hset
  rw [h, eq_of_path_eq_ok hpath]
  rfl

theorem Records.set (h : v.Records given) {f : Flag} {text : String} (hset : v.set f text = .ok w) :
    w.Records (giving given f text) := by
  cases f with
  | naming =>
    obtain ⟨n, hn, hw⟩ := exists_of_bind_eq_ok hset
    cases hw
    exact { h with naming := map_append_of_once h.naming hn }
  | level =>
    obtain ⟨l, hl, hw⟩ := exists_of_bind_eq_ok hset
    cases hw
    exact { h with level := map_append_of_once h.level hl }
  | config =>
    obtain ⟨p, hp, hw⟩ := exists_of_bind_eq_ok hset
    cases hw
    exact { h with config := append_of_once h.config hp }
  | variableFile =>
    obtain ⟨p, hp, hw⟩ := exists_of_bind_eq_ok hset
    cases hw
    exact { h with file := append_of_once h.file hp }
  | assign =>
    obtain ⟨a, ha, hw⟩ := exists_of_bind_eq_ok hset
    cases hw
    refine { h with assignments := ?_ }
    simp [giving, h.assignments, assignment_eq_ok_iff.mp ha]
  | named =>
    obtain ⟨a, -, hw⟩ := exists_of_bind_eq_ok hset
    cases hw
    exact { h with }
  | help | version | verbose => cases hset

theorem Records.raise (h : v.Records given) {f : Flag} (hraise : v.raise f = .ok w) :
    w.Records given := by
  cases f with
  | verbose =>
    cases hraise
    exact { h with }
  | _ => cases hraise

end FlagValues

namespace Part
variable {shape : PartShape} {p q : Part} {given : Flag → List String}

/-- What a part has settled are the texts given to the flags it knows; what it has not settled is
one of them. -/
structure Records (flags : List Flag) (p : Part) (given : Flag → List String) : Prop where
  values : p.values.Records given
  known : ∀ f ∉ flags, given f = []
  pending : ∀ f value, p.pending = some (f, value) → f ∈ flags

/-- The text of the unsettled flag, if words are still to come. -/
def due (p : Part) (words : List String) (f : Flag) : List String :=
  match p.pending with
  | some (g, value) => if f = g then (value.or words.head?).toList else []
  | none => []

/-- The texts that are still to be recorded. -/
def left (p : Part) (words : List String) (f : Flag) : List String :=
  p.due words f ++ if p.closed then [] else f.texts words

/-- The second part is the first with nothing left unsettled. -/
structure Settles (p q : Part) : Prop where
  pending : q.pending = none
  closed : q.closed = p.closed
  records : ∀ {flags given}, p.Records flags given →
    ∃ given', q.Records flags given' ∧ ∀ words f, given' f = given f ++ p.due words f

theorem due_of_pending_eq_none (h : p.pending = none) (words : List String) (f : Flag) :
    p.due words f = [] := by
  rw [due, h]

theorem due_eq_of_isWaiting (h : p.isWaiting = false) (words words' : List String) (f : Flag) :
    p.due words f = p.due words' f := by
  unfold due
  split
  next g value hsome =>
    cases value with
    | none => simp [isWaiting, hsome] at h
    | some text => rfl
  next => rfl

theorem Records.set {flags : List Flag} (h : p.Records flags given) {f : Flag} (hf : f ∈ flags)
    {text : String} (hset : p.values.set f text = .ok q.values) (hq : q.pending = none) :
    q.Records flags (FlagValues.giving given f text) := by
  refine ⟨h.values.set hset, fun g hg => ?_, fun g value hsome => ?_⟩
  · have hne : g ≠ f := fun heq => hg (heq ▸ hf)
    rw [FlagValues.giving, if_neg hne, h.known g hg]
  · rw [hq] at hsome
    cases hsome

theorem isWaiting_of_settle (h : p.settle = .ok q) : p.isWaiting = false := by
  unfold settle at h
  split at h
  next hnone => simp [isWaiting, hnone]
  next => cases h
  next hsome => simp [isWaiting, hsome]

theorem settles_of_settle (h : p.settle = .ok q) : Settles p q := by
  unfold settle at h
  split at h
  next hnone =>
    cases h
    refine ⟨hnone, rfl, fun hp => ⟨_, hp, fun words f => ?_⟩⟩
    rw [due_of_pending_eq_none hnone, List.append_nil]
  next => cases h
  next g text hsome =>
    obtain ⟨values, hset, hq⟩ := exists_of_bind_eq_ok h
    cases hq
    refine ⟨rfl, rfl, fun hp => ⟨_, hp.set (hp.pending g _ hsome) hset rfl, ?_⟩⟩
    intro words f
    rw [FlagValues.giving, due, hsome]
    by_cases hfg : f = g <;> simp [hfg]

theorem Settles.addArgument {word : String} (h : p.addArgument shape word = .ok q) :
    Settles p q := by
  unfold Part.addArgument at h
  split at h
  · obtain ⟨p', hsettle, hq⟩ := exists_of_bind_eq_ok h
    cases hq
    have hp' := settles_of_settle hsettle
    refine ⟨hp'.pending, hp'.closed, fun hp => ?_⟩
    obtain ⟨given', hrecords, hgiven⟩ := hp'.records hp
    exact ⟨given', { hrecords with }, hgiven⟩
  · cases h

theorem addBare_cases {f : Flag} (h : p.addBare f = .ok q) :
    ∃ p', Settles p p' ∧
      if f.takesValue then q = { p' with pending := some (f, none) }
      else ∃ values, p'.values.raise f = .ok values ∧ q = { p' with values } := by
  obtain ⟨p', hsettle, hq⟩ := exists_of_bind_eq_ok h
  refine ⟨p', settles_of_settle hsettle, ?_⟩
  split
  next hf =>
    rw [if_pos hf] at hq
    exact (Except.ok.inj hq).symm
  next hf =>
    rw [if_neg hf] at hq
    obtain ⟨values, hraise, hq⟩ := exists_of_bind_eq_ok hq
    exact ⟨values, hraise, (Except.ok.inj hq).symm⟩

theorem Settles.addBare {f : Flag} (hf : f.takesValue = false)
    (h : p.addBare f = .ok q) : Settles p q := by
  obtain ⟨p', hp', hq⟩ := addBare_cases h
  rw [hf, if_neg Bool.false_ne_true] at hq
  obtain ⟨values, hraise, rfl⟩ := hq
  refine ⟨hp'.pending, hp'.closed, fun hp => ?_⟩
  obtain ⟨given', hrecords, hgiven⟩ := hp'.records hp
  exact ⟨given', { hrecords with values := hrecords.values.raise hraise }, hgiven⟩

theorem Settles.trans {r : Part} (h : Settles p q) (h' : Settles q r) :
    Settles p r := by
  refine ⟨h'.pending, h'.closed.trans h.closed, fun hp => ?_⟩
  obtain ⟨given', hrecords, hgiven⟩ := h.records hp
  obtain ⟨given'', hrecords', hgiven'⟩ := h'.records hrecords
  refine ⟨given'', hrecords', fun words f => ?_⟩
  rw [hgiven' words, due_of_pending_eq_none h.pending, List.append_nil, hgiven words]

theorem addCluster_cons {c : Char} {letters : List Char}
    (h : p.addCluster shape (c :: letters) = .ok q) :
    ∃ p', Settles p p' ∧ p'.addCluster shape letters = .ok q := by
  unfold Part.addCluster at h
  split at h
  next => cases h
  next f hf =>
    obtain ⟨p', hbare, hq⟩ := exists_of_bind_eq_ok h
    have hshort : f.short? = some c := by simpa using List.find?_some hf
    exact ⟨p', .addBare (Flag.takesValue_of_short hshort) hbare, hq⟩

theorem Settles.addCluster {c : Char} {letters : List Char}
    (h : p.addCluster shape (c :: letters) = .ok q) : Settles p q := by
  obtain ⟨p', hp', hrest⟩ := addCluster_cons h
  induction letters generalizing p p' c with
  | nil =>
    cases hrest
    exact hp'
  | cons d letters ih =>
    obtain ⟨p'', hp'', hrest'⟩ := addCluster_cons hrest
    exact hp'.trans (ih hrest p'' hp'' hrest')

/-- A part that closed while a flag waited for its value. It can take no more words. -/
def Stuck (p : Part) : Prop := p.closed = true ∧ p.isWaiting = true

/-- What one step does to the texts: those recorded and those left are the same as before. -/
def Keeps (flags : List Flag) (p q : Part) (words rest : List String) : Prop :=
  ∀ given, p.Records flags given → ∃ given', q.Records flags given' ∧
    ∀ f, f.takesValue = true → given' f ++ q.left rest f = given f ++ p.left words f

theorem Settles.keeps {flags : List Flag} {word : String} {rest : List String} (h : Settles p q)
    (htexts : p.closed = true ∨
      ∀ f : Flag, f.takesValue = true → f.texts (word :: rest) = f.texts rest) :
    Keeps flags p q (word :: rest) rest := by
  intro given hp
  obtain ⟨given', hrecords, hgiven⟩ := h.records hp
  refine ⟨given', hrecords, fun f hf => ?_⟩
  rw [left, due_of_pending_eq_none h.pending, List.nil_append, left, hgiven (word :: rest),
    h.closed, List.append_assoc]
  rcases htexts with hclosed | htexts
  · rw [hclosed]
    rfl
  · rw [htexts f hf]

theorem Keeps.addLong {name word : String} {value : Option String} {rest : List String}
    (hword : Word.ofString word = .long name value) (hopen : p.closed = false)
    (h : p.addLong shape name value = .ok q) : Keeps shape.flags p q (word :: rest) rest := by
  unfold Part.addLong at h
  split at h
  next => cases h
  next f hf =>
    have hname : f.long = name := by simpa using List.find?_some hf
    have hknown := List.mem_of_find?_eq_some hf
    have htexts : ∀ g : Flag, g.texts (word :: rest) =
        (if g = f then (value.or rest.head?).toList else []) ++ g.texts rest := by
      intro g
      rw [Flag.texts_long hword, ← hname]
      by_cases hg : g = f
      · simp [hg]
      · simp [hg, Flag.long_inj]
    split at h
    next =>
      cases hvalue : f.takesValue with
      | false =>
        refine (Settles.addBare hvalue h).keeps (.inr fun g hg => ?_)
        have hne : g ≠ f := fun heq => by rw [heq, hvalue] at hg; cases hg
        rw [htexts, if_neg hne, List.nil_append]
      | true =>
        obtain ⟨p', hp', hq⟩ := addBare_cases h
        rw [hvalue, if_pos rfl] at hq
        subst hq
        intro given hp
        obtain ⟨given', hrecords, hgiven⟩ := hp'.records hp
        refine ⟨given', { hrecords with pending := ?_ }, fun g _ => ?_⟩
        · rintro g value ⟨⟩
          exact hknown
        · simp [left, due, hp'.closed, hopen, hgiven (word :: rest), htexts]
    next text =>
      split at h
      next hvalue =>
        obtain ⟨p', hsettle, hset⟩ := exists_of_bind_eq_ok h
        obtain ⟨values, hvalues, hq⟩ := exists_of_bind_eq_ok hset
        cases hq
        have hp' := settles_of_settle hsettle
        intro given hp
        obtain ⟨given', hrecords, hgiven⟩ := hp'.records hp
        refine ⟨_, hrecords.set hknown hvalues hp'.pending, fun g _ => ?_⟩
        simp only [left, due, hp'.pending, hp'.closed, hopen, htexts, FlagValues.giving,
          hgiven (word :: rest), Bool.false_eq_true, if_false, List.nil_append, Option.some_or,
          Option.toList_some]
        split <;> simp
      next => cases h

theorem Keeps.addWord {word : String} (h : p.addWord shape word = .ok q) (rest : List String) :
    q.Stuck ∨ Keeps shape.flags p q (word :: rest) rest := by
  unfold Part.addWord at h
  split at h
  next hclosed => exact .inr ((Settles.addArgument h).keeps (.inl hclosed))
  next hopen =>
    rw [Bool.not_eq_true] at hopen
    split at h
    next hword =>
      cases h
      cases hwaiting : p.isWaiting with
      -- The flag that waits gets no value any more, though a word may follow.
      | true => exact .inl ⟨rfl, hwaiting⟩
      | false =>
        refine .inr fun given hp => ⟨given, ⟨hp.values, hp.known, hp.pending⟩, fun f _ => ?_⟩
        have hdue := due_eq_of_isWaiting hwaiting rest (word :: rest) f
        simp [left, hopen, Flag.texts_separator hword, ← hdue]
        rfl
    next name value hword => exact .inr (Keeps.addLong hword hopen h)
    next letters hword =>
      cases letters with
      | nil => exact absurd hword Word.ofString_ne_cluster_nil
      | cons c letters =>
        exact .inr ((Settles.addCluster h).keeps (.inr fun f _ => Flag.texts_cluster hword rest))
    next hword =>
      split at h
      next f hwaiting =>
        cases h
        refine .inr fun given hp => ⟨given, ⟨hp.values, hp.known, ?_⟩, fun g _ => ?_⟩
        · rintro g value ⟨⟩
          exact hp.pending f none hwaiting
        · simp [left, due, hwaiting, hopen, Flag.texts_plain hword]
      next =>
        exact .inr ((Settles.addArgument h).keeps (.inr fun f _ => Flag.texts_plain hword rest))

theorem Stuck.addWord_ne_ok {word : String} (h : p.Stuck) : p.addWord shape word ≠ .ok q := by
  obtain ⟨hclosed, hwaiting⟩ := h
  intro hok
  unfold Part.addWord Part.addArgument at hok
  rw [if_pos hclosed] at hok
  split at hok
  · obtain ⟨p', hsettle, -⟩ := exists_of_bind_eq_ok hok
    rw [isWaiting_of_settle hsettle] at hwaiting
    cases hwaiting
  · cases hok

theorem Stuck.read {words : List String} {tail : Option (String × List String)} (h : p.Stuck)
    (hread : p.read shape words = .ok (q, tail)) : q.Stuck := by
  cases words with
  | nil =>
    cases hread
    exact h
  | cons word rest =>
    unfold Part.read at hread
    rw [if_neg (by simp [endsAt, h.1])] at hread
    obtain ⟨p', hp', -⟩ := exists_of_bind_eq_ok hread
    exact absurd hp' h.addWord_ne_ok

/-- A part records what its words give to flags, up to the name of a command. -/
theorem Records.read (hcommands : ∀ word ∈ shape.commands, Word.ofString word = .plain)
    {words : List String} {tail : Option (String × List String)}
    (hp : p.Records shape.flags given) (h : p.read shape words = .ok (q, tail))
    (hq : q.isWaiting = false) :
    ∃ given', q.Records shape.flags given' ∧ ∀ f, f.takesValue = true →
      given f ++ p.left words f =
        given' f ++ q.due [] f ++ f.texts ((tail.map Prod.snd).getD []) := by
  -- Word by word the texts recorded and the texts left make up the same list.
  induction words generalizing p given with
  | nil =>
    cases h
    exact ⟨given, hp, fun f _ => by simp [left, Flag.texts]⟩
  | cons word rest ih =>
    unfold Part.read at h
    split at h
    next hends =>
      cases h
      simp only [endsAt, Bool.and_eq_true, Bool.not_eq_true', List.contains_iff_mem] at hends
      obtain ⟨⟨hopen, -⟩, hcommand⟩ := hends
      refine ⟨given, hp, fun f _ => ?_⟩
      simp [left, hopen, Flag.texts_plain (hcommands word hcommand),
        due_eq_of_isWaiting hq (word :: rest) []]
    next =>
      obtain ⟨p', hstep, h⟩ := exists_of_bind_eq_ok h
      rcases Keeps.addWord hstep rest with hstuck | hkeeps
      · exact absurd (hstuck.read h).2 (by simp [hq])
      · obtain ⟨given', hp', hsame⟩ := hkeeps given hp
        obtain ⟨given'', hrecords, hrest⟩ := ih hp' h
        exact ⟨given'', hrecords, fun f hf => (hsame f hf).symm.trans (hrest f hf)⟩

end Part

namespace CommandLine
variable {env : Environment} {words : List String} {line : CommandLine}

end CommandLine
end LiquidEval
