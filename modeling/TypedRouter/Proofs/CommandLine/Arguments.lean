import TypedRouter.CommandLine.Arguments
import TypedRouter.Proofs.Text.Digits

/-!
# Spelling arguments

Every combination of values can be given on a command line.  Each flag that is set has a word of its
own, with the value after an equals sign if it takes one, so that no value is taken for a flag.  The
words are read one after the other, and since no flag is set twice, each word sets its flag.

A value can be given if it is one for its flag: a path must not be empty, and a period has no more
than 64 bits.
-/

namespace TypedRouter.CommandLine.Arguments

open Text

/-- Arguments whose values are values for their flags. -/
structure AreGivable (a : Arguments) : Prop where
  destination : a.destination ≠ some ""
  config : a.config ≠ some ""
  period : ∀ n ∈ a.period, n ≤ Json.Number.maxInt

/-- The word that sets a flag, by its long name. -/
def word (flag : Flag) (value : String) : String :=
  if flag.takesValue then "--" ++ flag.long ++ "=" ++ value else "--" ++ flag.long

/-- A flag with its value, if it is set. -/
def setting (flag : Flag) (value : Option String) : List (Flag × String) :=
  value.toList.map (flag, ·)

/-- A flag that takes no value, if it is set. -/
def switch (flag : Flag) (on : Bool) : List (Flag × String) :=
  if on then [(flag, "")] else []

/-- The flags that make up arguments, with their values. -/
def settings (a : Arguments) : List (Flag × String) :=
  setting .schema a.schema ++ setting .destination a.destination ++
    setting .period (a.period.map fun n => String.ofList (numeral n)) ++
    setting .config a.config ++ switch .once a.once ++ switch .verbose a.verbose

/-- Sets flags to values, one after the other. -/
def assignAll (a : Arguments) (settings : List (Flag × String)) : Except UsageError Arguments :=
  settings.foldlM (fun a s => a.assign s.1 s.2) a

/-- A command line that gives some arguments. -/
def words (a : Arguments) : List String :=
  commandName :: a.settings.map fun s => word s.1 s.2

/-! ## Words -/

section Words

variable {p : Progress} {flag : Flag} {value : String}

/-- The long name of a flag denotes this flag, and it is a name without an equals sign. -/
lemma long_spec : ∀ flag ∈ Flag.afterCommand,
    Flag.ofLong? Flag.afterCommand flag.long = some flag ∧ '=' ∉ flag.long.toList ∧
      flag.long.toList ≠ [] := by
  decide

/-- The word of a flag: two dashes, its long name, and its value if it takes one. -/
lemma toList_word : (word flag value).toList =
    '-' :: '-' :: (flag.long.toList ++
      if flag.takesValue then '=' :: value.toList else []) := by
  unfold word
  split
  · rw [String.toList_append, String.toList_append, String.toList_append, List.append_assoc,
      List.append_assoc]
    rfl
  · rw [String.toList_append, List.append_nil]
    rfl

/-- A long flag is met with the value after the equals sign, if it takes one. -/
lemma meetLong_word (h : flag ∈ Flag.afterCommand) :
    p.meetLong Flag.afterCommand
        (flag.long.toList ++ if flag.takesValue then '=' :: value.toList else []) =
      p.meet flag (if flag.takesValue then some value else none) := by
  obtain ⟨hlong, hequals, -⟩ := long_spec flag h
  have hall : ∀ c ∈ flag.long.toList, (c != '=') = true := by
    intro c hc
    exact bne_iff_ne.mpr fun heq => hequals (heq ▸ hc)
  cases hvalue : flag.takesValue with
  | false =>
    simp only [Progress.meetLong, Bool.false_eq_true, if_false, List.append_nil,
      List.takeWhile_eq_self_iff.mpr hall, List.dropWhile_eq_nil_iff.mpr hall,
      String.ofList_toList, hlong]
  | true =>
    simp only [Progress.meetLong, if_true, List.takeWhile_append_of_pos hall,
      List.dropWhile_append_of_pos hall]
    simp [hlong, hvalue]

/-- A word that spells a flag sets it, if no value is pending. -/
lemma meetWord_word (h : flag ∈ Flag.afterCommand) (hpending : p.pending = none)
    (hvalue : flag.takesValue = false → value = "") (error : UsageError) :
    p.meetWord Flag.afterCommand (word flag value) error = p.setFlag flag value := by
  have hmeet : p.meetWord Flag.afterCommand (word flag value) error =
      p.meetLong Flag.afterCommand
        (flag.long.toList ++ if flag.takesValue then '=' :: value.toList else []) := by
    rw [Progress.meetWord, toList_word]
    rfl
  rw [hmeet, meetLong_word h, Progress.meet, Progress.settle, hpending]
  cases htakes : flag.takesValue with
  | false =>
    rw [hvalue htakes]
    rfl
  | true => rfl

/-- Words that spell flags set them one after the other. -/
lemma readFlags_word_cons (h : flag ∈ Flag.afterCommand) (hpending : p.pending = none)
    (hvalue : flag.takesValue = false → value = "") (rest : List String) :
    readFlags p (word flag value :: rest) = (p.setFlag flag value).bind (readFlags · rest) := by
  have hword : word flag value ≠ "--" := by
    intro heq
    obtain ⟨-, -, hne⟩ := long_spec flag h
    have hchars := congrArg String.toList heq
    rw [toList_word] at hchars
    simp [hne] at hchars
  rw [readFlags, meetWord_word h hpending hvalue]
  · rfl
  · exact fun heq => absurd heq hword
  · exact fun _ _ heq => absurd heq hword

/-- A flag that was not set yet is set if its value can be. -/
lemma setFlag_of_assign {b : Arguments} (hnew : flag ∉ p.set)
    (h : p.arguments.assign flag value = .ok b) :
    p.setFlag flag value = .ok { p with arguments := b, set := flag :: p.set } := by
  have hcontains : p.set.contains flag = false := by simpa using hnew
  rw [Progress.setFlag, hcontains, h]
  rfl

/-- Words that spell different flags assign them their values. -/
lemma readFlags_map_word {b : Arguments} (settings : List (Flag × String))
    (hflags : ∀ s ∈ settings, s.1 ∈ Flag.afterCommand ∧ (s.1.takesValue = false → s.2 = ""))
    (hnodup : (settings.map Prod.fst).Nodup) (hnew : ∀ s ∈ settings, s.1 ∉ p.set)
    (hpending : p.pending = none)
    (h : p.arguments.assignAll settings = .ok b) :
    ∃ q, readFlags p (settings.map fun s => word s.1 s.2) = .ok q ∧ q.arguments = b := by
  induction settings generalizing p with
  | nil =>
    refine ⟨p, ?_, Except.ok.inj h⟩
    rw [List.map_nil, readFlags, Progress.settle, hpending]
  | cons s settings ih =>
    obtain ⟨hflag, hvalue⟩ := hflags s List.mem_cons_self
    obtain ⟨hfresh, hrest⟩ := List.nodup_cons.mp hnodup
    rw [assignAll, List.foldlM_cons] at h
    cases hassign : p.arguments.assign s.1 s.2 with
    | error e =>
      rw [hassign] at h
      cases h
    | ok next =>
      rw [hassign] at h
      have hset := setFlag_of_assign (hnew s List.mem_cons_self) hassign
      rw [List.map_cons, readFlags_word_cons hflag hpending hvalue, hset]
      refine ih (fun t ht => hflags t (List.mem_cons_of_mem _ ht)) hrest (fun t ht => ?_) hpending h
      refine List.not_mem_cons_of_ne_of_not_mem (fun heq => ?_) (hnew t (List.mem_cons_of_mem _ ht))
      exact hfresh (heq ▸ List.mem_map_of_mem ht)

end Words

/-! ## Values -/

section Values

variable (b : Arguments)

/-- A count is no greater than the one that more digits make of it. -/
lemma le_foldl_digits (ds : List Char) (k : ℕ) :
    k ≤ ds.foldl (fun n c => n * 10 + (c.toNat - '0'.toNat)) k := by
  induction ds generalizing k with
  | nil => exact le_rfl
  | cons c ds ih =>
    have hstep := ih (k * 10 + (c.toNat - '0'.toNat))
    rw [List.foldl_cons]
    omega

/-- Digits are read if the count that they make is not too large. -/
lemma countFrom_of_isDigit {ds : List Char} (h : ∀ c ∈ ds, c.isDigit = true) (k : ℕ)
    (hmax : ds.foldl (fun n c => n * 10 + (c.toNat - '0'.toNat)) k ≤ Json.Number.maxInt) :
    countFrom k ds = .ok (ds.foldl (fun n c => n * 10 + (c.toNat - '0'.toNat)) k) := by
  induction ds generalizing k with
  | nil => rfl
  | cons c ds ih =>
    obtain ⟨hc, hds⟩ := List.forall_mem_cons.mp h
    have hstep := (le_foldl_digits ds _).trans hmax
    rw [countFrom, digitValue?_of_isDigit hc]
    exact (if_pos hstep).trans (ih hds _ hmax)

/-- The numeral of a number is read as it. -/
lemma count_numeral {n : ℕ} (h : n ≤ Json.Number.maxInt) :
    count (String.ofList (numeral n)) = .ok n := by
  have hdenotes : Denotes (numeral n) n := ⟨0, rfl⟩
  have hread : countFrom 0 (numeral n) = .ok n := by
    have hvalue := hdenotes.digitsValue_eq
    rw [digitsValue] at hvalue
    have hdigits := countFrom_of_isDigit (fun c hc => hdenotes.isDigit hc) 0 (hvalue.le.trans h)
    exact hdigits.trans (congrArg Except.ok hvalue)
  obtain ⟨c, rest, hcons⟩ := List.exists_cons_of_ne_nil hdenotes.ne_nil
  have hplus : c ≠ '+' := by
    rintro rfl
    have hdigit : '+'.isDigit = true := hdenotes.isDigit (hcons ▸ List.mem_cons_self)
    exact absurd hdigit (by decide)
  rw [count, String.toList_ofList, hcons]
  rw [hcons] at hread
  split
  · next hnil => cases hnil
  · next heq => exact absurd (List.cons.inj heq).1 hplus
  · next heq => exact absurd (List.cons.inj heq).1 hplus
  · next heq => exact hread

/-- Flags that follow others are set after them. -/
@[simp] lemma assignAll_append (settings others : List (Flag × String)) :
    b.assignAll (settings ++ others) = (b.assignAll settings).bind (·.assignAll others) :=
  List.foldlM_append

/-- The word of a schema sets it. -/
lemma assign_schema (value : Option String) :
    b.assignAll (setting .schema value) =
      .ok { b with schema := value.or b.schema } := by
  cases value <;> rfl

/-- The word of a destination sets it. -/
lemma assign_destination {value : Option String} (h : value ≠ some "") :
    b.assignAll (setting .destination value) =
      .ok { b with destination := value.or b.destination } := by
  cases value with
  | none => rfl
  | some path =>
    have hpath : path ≠ "" := fun hempty => h (congrArg some hempty)
    simp [assignAll, setting, assign, hpath]

/-- The word of a config file sets it. -/
lemma assign_config {value : Option String} (h : value ≠ some "") :
    b.assignAll (setting .config value) =
      .ok { b with config := value.or b.config } := by
  cases value with
  | none => rfl
  | some path =>
    have hpath : path ≠ "" := fun hempty => h (congrArg some hempty)
    simp [assignAll, setting, assign, hpath]

/-- The word of a period sets it. -/
lemma assign_period {value : Option ℕ} (h : ∀ n ∈ value, n ≤ Json.Number.maxInt) :
    b.assignAll (setting .period (value.map fun n => String.ofList (numeral n))) =
      .ok { b with period := value.or b.period } := by
  cases value with
  | none => rfl
  | some n => simp [assignAll, setting, assign, count_numeral (h n rfl)]

/-- The word that asks for one cycle does so. -/
lemma assign_once (on : Bool) :
    b.assignAll (switch .once on) =
      .ok { b with once := on || b.once } := by
  cases on <;> rfl

/-- The word that asks for more messages does so. -/
lemma assign_verbose (on : Bool) :
    b.assignAll (switch .verbose on) =
      .ok { b with verbose := on || b.verbose } := by
  cases on <;> rfl

end Values

/-! ## Command lines -/

variable {a : Arguments}

/-- The settings of arguments assign them. -/
lemma assignAll_settings (ha : a.AreGivable) :
    ({} : Arguments).assignAll a.settings = .ok a := by
  simp only [settings, assignAll_append, assign_schema, assign_destination _ ha.destination,
    assign_period _ ha.period, assign_config _ ha.config, assign_once, assign_verbose,
    Except.bind, Option.or_none, Bool.or_false]

/-- No flag is set twice, and each is one that may follow the command. -/
lemma map_fst_settings (a : Arguments) :
    (a.settings.map Prod.fst).Sublist
      [.schema, .destination, .period, .config, .once, .verbose] := by
  have hsetting (flag : Flag) (value : Option String) :
      ((setting flag value).map Prod.fst).Sublist [flag] := by
    cases value <;> simp [setting]
  have hswitch (flag : Flag) (on : Bool) : ((switch flag on).map Prod.fst).Sublist [flag] := by
    cases on <;> simp [switch]
  simp only [settings, List.map_append]
  exact (((((hsetting _ _).append (hsetting _ _)).append (hsetting _ _)).append
    (hsetting _ _)).append (hswitch _ _)).append (hswitch _ _)

/-- Only flags that take values have one. -/
lemma value_of_mem_settings {s : Flag × String} (hs : s ∈ a.settings)
    (h : s.1.takesValue = false) : s.2 = "" := by
  have hsetting {flag : Flag} {value : Option String} (hflag : flag.takesValue = true)
      (hmem : s ∈ setting flag value) : s.2 = "" := by
    obtain ⟨_, -, rfl⟩ := List.mem_map.mp hmem
    rw [hflag] at h
    cases h
  have hswitch {flag : Flag} {on : Bool} (hmem : s ∈ switch flag on) : s.2 = "" := by
    unfold switch at hmem
    split at hmem
    · rw [List.mem_singleton.mp hmem]
    · cases hmem
  simp only [settings, List.mem_append] at hs
  rcases hs with ((((hs | hs) | hs) | hs) | hs) | hs
  · exact hsetting rfl hs
  · exact hsetting rfl hs
  · exact hsetting rfl hs
  · exact hsetting rfl hs
  · exact hswitch hs
  · exact hswitch hs

/-- The words that spell arguments are read as these arguments. -/
theorem ofWords_words (ha : a.AreGivable) : ofWords a.words = .ok a := by
  have hflags : ∀ s ∈ a.settings,
      s.1 ∈ Flag.afterCommand ∧ (s.1.takesValue = false → s.2 = "") := by
    refine fun s hs => ⟨?_, value_of_mem_settings hs⟩
    have hall : ∀ flag ∈ [Flag.schema, .destination, .period, .config, .once, .verbose],
        flag ∈ Flag.afterCommand := by decide
    exact hall s.1 ((map_fst_settings a).subset (List.mem_map_of_mem hs))
  have hnodup : (a.settings.map Prod.fst).Nodup := (map_fst_settings a).nodup (by decide)
  obtain ⟨q, hread, rfl⟩ := readFlags_map_word (p := {}) a.settings hflags hnodup
    (fun _ _ => List.not_mem_nil) rfl (assignAll_settings ha)
  have hwords : readWords {} (commandName :: q.arguments.settings.map fun s => word s.1 s.2) =
      (readFlags {} (q.arguments.settings.map fun s => word s.1 s.2)).bind fun after =>
        .ok { after.arguments with verbose := after.arguments.verbose || false } := rfl
  rw [ofWords, words, hwords, hread]
  simp only [Except.bind, Bool.or_false]

end TypedRouter.CommandLine.Arguments
