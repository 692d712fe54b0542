import TypedRouter.CommandLine.Settings
import TypedRouter.Proofs.CommandLine.Arguments
import TypedRouter.Proofs.Text.Utf8
import TypedRouter.Proofs.Files.Path
import Mathlib.Data.List.Infix

/-!
# How settings resolve

Each setting is the value of its flag, or else the value in the config file, or else the usual one.
The three do not depend on each other, so a value that is overridden does no harm, and there are
settings exactly if each of the three resolves.

A schema in the config file is a URL if it starts like one, and a path otherwise.  A path is seen
from the directory of the config file before it is looked at again as a schema.  It does not become
a URL in this way: what would have to be added before it is the start of a URL, and then the path of
the config file starts like a URL as well.
-/

namespace TypedRouter.CommandLine

open Loading Files

/-! ## Settings by field -/

/-- A text that starts like the URL of a document. -/
def StartsLikeUrl (text : String) : Prop :=
  "http://".toList <+: text.toList ∨ "https://".toList <+: text.toList

/-- Whether a text starts like a URL can be computed. -/
instance : DecidablePred StartsLikeUrl := fun _ => inferInstanceAs (Decidable (_ ∨ _))

/-- What a config file sets, and the directory that its paths are seen from.  Only a file that no
flag names may be missing. -/
inductive ReadsConfig (files : Node) : Option String → Config → String → Prop where
  | named {path text : String} {config : Config} (hread : files.readText path = .ok text)
    (hconfig : Config.ofText text = .ok config) :
    ReadsConfig files (some path) config (Path.parent path)
  | usual {text : String} {config : Config} (hread : files.readText "trellis.toml" = .ok text)
    (hconfig : Config.ofText text = .ok config) : ReadsConfig files none config ""
  | missing (hread : files.readText "trellis.toml" = .error .missing) : ReadsConfig files none {} ""

/-- Where the document is, by what the flag and the config file say. -/
inductive IsSchema (directory : String) : Option String → Option String → Locator → Prop where
  | flagUrl {text : String} {file : Option String} {url : Url} (h : StartsLikeUrl text)
    (hurl : Url.ofText text = .ok url) : IsSchema directory (some text) file (.url url)
  | flagPath {path : String} {file : Option String} (h : ¬ StartsLikeUrl path) :
    IsSchema directory (some path) file (.file path)
  | fileUrl {text : String} {url : Url} (h : StartsLikeUrl text)
    (hurl : Url.ofText text = .ok url) : IsSchema directory none (some text) (.url url)
  | filePath {path : String} (h : ¬ StartsLikeUrl path) :
    IsSchema directory none (some path) (.file (Path.below directory path))

/-- Where the module goes, by what the flag and the config file say. -/
inductive IsDestination (directory : String) : Option String → Option String → String → Prop where
  | flag {path : String} {file : Option String} : IsDestination directory (some path) file path
  | file {path : String} : IsDestination directory none (some path) (Path.below directory path)

/-- How long to wait between two looks, by what the flag and the config file say. -/
inductive IsPeriod : Option ℕ → Option ℕ → ℕ → Prop where
  | flag {n : ℕ} {file : Option ℕ} : IsPeriod (some n) file n
  | file {n : ℕ} : IsPeriod none (some n) n
  | usual : IsPeriod none none 30

/-- Settings in which each field is what its flag and its entry in the config file say. -/
structure Resolves (directory : String) (a : Arguments) (config : Config) (s : Settings) :
    Prop where
  schema : IsSchema directory a.schema config.schema s.job.schema
  destination : IsDestination directory a.destination config.destination s.job.destination
  period : IsPeriod a.period config.period s.period
  period_ne_zero : s.period ≠ 0
  verbose : s.verbose = a.verbose
  once : s.once = a.once

/-- What the words of a command line come to, if every field resolves apart from the others. -/
structure ResolvesFields (directory : String) (a : Arguments) (config : Config)
    (result : Except SettingsError Settings) : Prop where
  ok_iff : ∀ s, result = .ok s ↔ Resolves directory a config s
  /-- No field keeps another from resolving. -/
  succeeds_iff : (∃ s, result = .ok s) ↔
    (∃ schema, IsSchema directory a.schema config.schema schema) ∧
    (∃ destination, IsDestination directory a.destination config.destination destination) ∧
    ∃ period, IsPeriod a.period config.period period ∧ period ≠ 0
  noSchema : a.schema = none → config.schema = none → result = .error .noSchema
  noDestination : (∃ schema, IsSchema directory a.schema config.schema schema) →
    a.destination = none → config.destination = none → result = .error .noDestination

/-- How the paths in a config file are seen, if that file was named or not: an absolute path as it
is, and any other by walking to the directory of the file first. -/
structure SeesPaths (named : Option String) (directory : String) : Prop where
  absolute : ∀ path, path.toList.head? = some '/' → Path.below directory path = path
  relative : ∀ path, path.toList.head? ≠ some '/' →
    Path.moves (Path.below directory path) = Path.moves directory ++ Path.moves path
  of_named : ∀ path ∈ named, Path.moves directory = (Path.moves path).dropLast
  of_none : named = none → Path.moves directory = []

namespace Settings

variable {files : Node} {a : Arguments} {config : Config} {directory : String}

/-! ## Starts of URLs -/

/-- The program takes a text for a URL if it starts like one. -/
@[simp] lemma isRemoteText_iff {text : String} :
    Locator.isRemoteText text = true ↔ StartsLikeUrl text := by
  rw [Locator.isRemoteText, Bool.or_eq_true, List.isPrefixOf_iff_prefix,
    List.isPrefixOf_iff_prefix, StartsLikeUrl]

/-- The starts of the URLs of documents. -/
def urlStarts : List (List Char) := ["http://".toList, "https://".toList]

/-- If a front of the start of a URL ends with a slash, it is all of it or another slash follows. -/
lemma eq_or_head?_drop_urlStart : ∀ start ∈ urlStarts, ∀ front ∈ start.inits,
    front.getLast? = some '/' → front = start ∨ (start.drop front.length).head? = some '/' := by
  decide

/-- The last but one character of such a start is a slash. -/
lemma getLast?_dropLast_urlStart : ∀ start ∈ urlStarts, start.dropLast.getLast? = some '/' := by
  decide

/-- If a text with a slash inside that is followed by none starts like a URL, so does what ends with
this slash. -/
lemma prefix_of_prefix_slash {start front rest : List Char} (hstart : start ∈ urlStarts)
    (hrest : rest.head? ≠ some '/') (h : start <+: front ++ '/' :: rest) :
    start <+: front ++ ['/'] := by
  have hfront : front ++ ['/'] <+: front ++ '/' :: rest :=
    (List.prefix_append_right_inj front).mpr ⟨rest, rfl⟩
  rcases List.prefix_or_prefix_of_prefix h hfront with hshort | hlong
  · exact hshort
  · have hlast : (front ++ ['/']).getLast? = some '/' := List.getLast?_concat
    rcases eq_or_head?_drop_urlStart start hstart _ ((List.mem_inits _ _).mpr hlong) hlast with
      heq | hslash
    · exact heq ▸ List.prefix_rfl
    · -- the slash that follows in the start of the URL would have to be the front of the rest
      obtain ⟨after, rfl⟩ := hlong
      rw [List.drop_left] at hslash
      obtain ⟨tail, rfl⟩ := List.head?_eq_some_iff.mp hslash
      obtain ⟨last, hlast⟩ := h
      rw [List.append_assoc, List.append_assoc, List.append_cancel_left_eq] at hlast
      rw [List.singleton_append, List.cons.injEq] at hlast
      exact absurd (hlast.2 ▸ rfl) hrest

/-- A path that is seen from a directory starts like a URL only if one of the two does. -/
lemma prefix_of_prefix_below {start : List Char} {path : String} (hstart : start ∈ urlStarts)
    (h : start <+: (Path.below directory path).toList) :
    start <+: directory.toList ∨ start <+: path.toList := by
  unfold Path.below at h
  split at h
  · exact .inr h
  · next hseen =>
    rw [Bool.or_eq_true, not_or, beq_iff_eq] at hseen
    refine .inl ?_
    split at h
    · next hends =>
      obtain ⟨front, hfront⟩ := List.getLast?_eq_some_iff.mp (beq_iff_eq.mp hends)
      rw [String.toList_append, hfront, List.append_assoc] at h
      rw [hfront]
      exact prefix_of_prefix_slash hstart hseen.2 h
    · next hends =>
      rw [String.toList_append, String.toList_append, List.append_assoc] at h
      rcases List.prefix_concat_iff.mp (prefix_of_prefix_slash hstart hseen.2 h) with heq | hshort
      · have hlast := getLast?_dropLast_urlStart start hstart
        rw [heq, List.dropLast_concat] at hlast
        exact absurd (beq_iff_eq.mpr hlast) hends
      · exact hshort

/-- A text starts like a URL if one of the starts is a front of it. -/
lemma startsLikeUrl_iff {text : String} :
    StartsLikeUrl text ↔ ∃ start ∈ urlStarts, start <+: text.toList := by
  simp [StartsLikeUrl, urlStarts]

/-- No path looks like a URL from a directory that does not, unless it does by itself. -/
lemma not_startsLikeUrl_below {path : String} (hdirectory : ¬ StartsLikeUrl directory)
    (hpath : ¬ StartsLikeUrl path) : ¬ StartsLikeUrl (Path.below directory path) := by
  rw [startsLikeUrl_iff] at hdirectory hpath ⊢
  rintro ⟨start, hstart, hprefix⟩
  rcases prefix_of_prefix_below hstart hprefix with h | h
  · exact hdirectory ⟨start, hstart, h⟩
  · exact hpath ⟨start, hstart, h⟩

/-- The directory of a config file starts like a URL only if the path of the file does. -/
lemma not_startsLikeUrl_of_readsConfig (h : ReadsConfig files a.config config directory)
    (hplain : ∀ path ∈ a.config, ¬ StartsLikeUrl path) : ¬ StartsLikeUrl directory := by
  generalize a.config = named at h hplain
  cases h with
  | @named path text config hread hconfig =>
    rw [startsLikeUrl_iff]
    rintro ⟨start, hstart, hprefix⟩
    refine hplain path rfl (startsLikeUrl_iff.mpr ⟨start, hstart, ?_⟩)
    exact hprefix.trans (Path.parent_prefix path)
  | usual => decide
  | missing => decide

/-! ## Fields -/

/-- A text that starts like a URL has to be one. -/
lemma ofText_of_startsLikeUrl {text : String} (h : StartsLikeUrl text) :
    Locator.ofText text = (Url.ofText text).map .url :=
  if_pos (isRemoteText_iff.mpr h)

/-- Any other text is the path of a file. -/
lemma ofText_of_not_startsLikeUrl {text : String} (h : ¬ StartsLikeUrl text) :
    Locator.ofText text = .ok (.file text) :=
  if_neg (mt isRemoteText_iff.mp h)

/-- A text names a document by a URL that is one, or by a path. -/
lemma ofText_eq_ok_iff {text : String} {l : Locator} :
    Locator.ofText text = .ok l ↔
      (StartsLikeUrl text ∧ ∃ url, Url.ofText text = .ok url ∧ l = .url url) ∨
        (¬ StartsLikeUrl text ∧ l = .file text) := by
  by_cases h : StartsLikeUrl text
  · rw [ofText_of_startsLikeUrl h]
    cases Url.ofText text with
    | error fault => simp [h, Except.map]
    | ok url => simp [h, Except.map, eq_comm]
  · rw [ofText_of_not_startsLikeUrl h]
    simp [h, eq_comm]

/-- The flag decides alone on the schema. -/
@[simp] lemma isSchema_flag_iff {text : String} {file : Option String} {l : Locator} :
    IsSchema directory (some text) file l ↔ Locator.ofText text = .ok l := by
  rw [ofText_eq_ok_iff]
  constructor
  · rintro (⟨h, hurl⟩ | h)
    · exact .inl ⟨h, _, hurl, rfl⟩
    · exact .inr ⟨h, rfl⟩
  · rintro (⟨h, url, hurl, rfl⟩ | ⟨h, rfl⟩)
    · exact .flagUrl h hurl
    · exact .flagPath h

/-- Without the flag the config file decides, and its paths are seen from its directory. -/
lemma isSchema_file_iff (hdirectory : ¬ StartsLikeUrl directory) {text : String} {l : Locator} :
    IsSchema directory none (some text) l ↔
      Locator.ofText (if Locator.isRemoteText text then text else Path.below directory text) =
        .ok l := by
  by_cases h : StartsLikeUrl text
  · rw [if_pos (isRemoteText_iff.mpr h), ofText_eq_ok_iff]
    constructor
    · rintro (_ | _ | ⟨-, hurl⟩ | hnot)
      · exact .inl ⟨h, _, hurl, rfl⟩
      · exact absurd h hnot
    · rintro (⟨-, url, hurl, rfl⟩ | ⟨hnot, -⟩)
      · exact .fileUrl h hurl
      · exact absurd h hnot
  · -- the path has become another text, but not one that names a URL
    rw [if_neg (mt isRemoteText_iff.mp h),
      ofText_of_not_startsLikeUrl (not_startsLikeUrl_below hdirectory h)]
    constructor
    · rintro (_ | _ | ⟨hurl, -⟩ | -)
      · exact absurd hurl h
      · rfl
    · intro hl
      obtain rfl := Except.ok.inj hl
      exact .filePath h

/-- The schema is what the text for it names. -/
lemma isSchema_iff (hdirectory : ¬ StartsLikeUrl directory) {l : Locator} :
    IsSchema directory a.schema config.schema l ↔
      ∃ text, schemaText a config directory = some text ∧ Locator.ofText text = .ok l := by
  unfold schemaText
  cases a.schema with
  | some text => simp [isSchema_flag_iff]
  | none =>
    cases config.schema with
    | some text =>
      rw [isSchema_file_iff hdirectory]
      dsimp only
      split <;> simp
    | none =>
      refine iff_of_false (fun h => nomatch h) (by simp)

/-- The destination is the path for it. -/
lemma isDestination_iff {path : String} :
    IsDestination directory a.destination config.destination path ↔
      destinationPath a config directory = some path := by
  unfold destinationPath
  generalize a.destination = flag, config.destination = file
  constructor
  · rintro (_ | _) <;> rfl
  · intro h
    cases flag with
    | some flag =>
      obtain rfl := Option.some.inj h
      exact .flag
    | none =>
      cases file with
      | some file =>
        obtain rfl := Option.some.inj h
        exact .file
      | none => cases h

/-- The period is that of the flag, or else that of the file, or else the usual one. -/
lemma isPeriod_iff {flag file : Option ℕ} {n : ℕ} :
    IsPeriod flag file n ↔ (flag.or file).getD usualPeriod = n := by
  constructor
  · rintro (_ | _ | _) <;> rfl
  · rintro rfl
    cases flag with
    | some n => exact .flag
    | none =>
      cases file with
      | some n => exact .file
      | none => exact .usual

/-! ## All fields -/

section Combine

variable {text : String} {schema : Locator} {destination : String}

/-- Without a schema this is reported, whatever else there is. -/
lemma combine_of_noSchema (htext : schemaText a config directory = none) :
    combine a config directory = .error .noSchema := by
  simp only [combine, htext]
  rfl

/-- A schema that cannot be located is reported next. -/
lemma combine_of_badSchema {fault : Url.Fault}
    (htext : schemaText a config directory = some text)
    (hschema : Locator.ofText text = .error fault) :
    combine a config directory = .error (.badSchema text fault) := by
  simp only [combine, htext, hschema]
  rfl

/-- Then it is reported if there is no destination. -/
lemma combine_of_noDestination (htext : schemaText a config directory = some text)
    (hschema : Locator.ofText text = .ok schema)
    (hdestination : destinationPath a config directory = none) :
    combine a config directory = .error .noDestination := by
  simp only [combine, htext, hschema, hdestination]
  rfl

/-- With a schema and a destination only a period of zero can be at fault. -/
lemma combine_of_fields (htext : schemaText a config directory = some text)
    (hschema : Locator.ofText text = .ok schema)
    (hdestination : destinationPath a config directory = some destination) :
    combine a config directory =
      if (a.period.or config.period).getD usualPeriod = 0 then .error .noPeriod
      else .ok {
        verbose := a.verbose, job := { schema, destination },
        period := (a.period.or config.period).getD usualPeriod, once := a.once } := by
  simp only [combine, htext, hschema, hdestination]
  rfl

end Combine

/-- There are settings exactly if each field resolves, and then each is what it resolves to. -/
lemma combine_eq_ok_iff (hdirectory : ¬ StartsLikeUrl directory) {s : Settings} :
    combine a config directory = .ok s ↔ Resolves directory a config s := by
  constructor
  · intro h
    -- the fields are looked at one after the other, and each of them can end it
    cases htext : schemaText a config directory with
    | none =>
      rw [combine_of_noSchema htext] at h
      cases h
    | some text =>
      cases hschema : Locator.ofText text with
      | error fault =>
        rw [combine_of_badSchema htext hschema] at h
        cases h
      | ok schema =>
        cases hdestination : destinationPath a config directory with
        | none =>
          rw [combine_of_noDestination htext hschema hdestination] at h
          cases h
        | some destination =>
          rw [combine_of_fields htext hschema hdestination] at h
          split_ifs at h with hperiod
          obtain rfl := Except.ok.inj h
          exact ⟨(isSchema_iff hdirectory).mpr ⟨text, htext, hschema⟩,
            isDestination_iff.mpr hdestination, isPeriod_iff.mpr rfl, hperiod, rfl, rfl⟩
  · rintro ⟨hschema, hdestination, hperiod, hne, hverbose, honce⟩
    obtain ⟨text, htext, hschema⟩ := (isSchema_iff hdirectory).mp hschema
    rw [isDestination_iff] at hdestination
    rw [isPeriod_iff] at hperiod
    rw [combine_of_fields htext hschema hdestination, hperiod, if_neg hne, ← hverbose, ← honce]

/-- A config file that can be read and understood is taken, whether it may lack or not. -/
lemma readConfig_of_ok {path text : String} (hread : files.readText path = .ok text)
    (hconfig : Config.ofText text = .ok config) (mayLack : Bool) :
    readConfig files path mayLack = .ok config := by
  rw [readConfig, hread]
  simp only [hconfig]

/-- The config file that is read is the one that the arguments name. -/
lemma configOf_of_readsConfig (h : ReadsConfig files a.config config directory) :
    configOf files a = .ok (config, directory) := by
  unfold configOf
  generalize a.config = named at h
  cases h with
  | named hread hconfig =>
    dsimp only
    rw [readConfig_of_ok hread hconfig]
    rfl
  | usual hread hconfig =>
    dsimp only
    rw [usualConfig, readConfig_of_ok hread hconfig]
    rfl
  | missing hread =>
    dsimp only
    rw [usualConfig, readConfig, hread]
    rfl

/-- The settings of a command line are those of its arguments and the config file they lead to. -/
lemma ofWords_eq_combine {words : List String} (hwords : Arguments.ofWords words = .ok a)
    (hread : ReadsConfig files a.config config directory) :
    ofWords files words = combine a config directory := by
  rw [ofWords, hwords]
  show (configOf files a).bind _ = _
  rw [configOf_of_readsConfig hread]
  rfl

/-- The directory of the config file is the one that its paths are seen from. -/
lemma seesPaths_of_readsConfig (h : ReadsConfig files a.config config directory) :
    SeesPaths a.config directory where
  absolute _ := Path.below_of_isAbsolute
  relative _ := Path.moves_below
  of_named path hpath := by
    generalize a.config = named at h hpath
    cases h with
    | @named other text config hread hconfig =>
      obtain rfl := Option.some.inj hpath
      exact Path.moves_parent other
    | usual => cases hpath
    | missing => cases hpath
  of_none hnone := by
    generalize a.config = named at h hnone
    cases h with
    | named => cases hnone
    | usual => rfl
    | missing => rfl

/-- What arguments and a config file are combined to resolves field by field. -/
lemma resolvesFields_combine (hdirectory : ¬ StartsLikeUrl directory) :
    ResolvesFields directory a config (combine a config directory) where
  ok_iff _ := combine_eq_ok_iff hdirectory
  succeeds_iff := by
    constructor
    · rintro ⟨s, hs⟩
      have hfields := (combine_eq_ok_iff hdirectory).mp hs
      exact ⟨⟨_, hfields.schema⟩, ⟨_, hfields.destination⟩, _, hfields.period,
        hfields.period_ne_zero⟩
    · rintro ⟨⟨schema, hschema⟩, ⟨destination, hdestination⟩, period, hperiod, hne⟩
      let s : Settings := ⟨a.verbose, ⟨schema, destination⟩, period, a.once⟩
      exact ⟨s, (combine_eq_ok_iff hdirectory).mpr
        ⟨hschema, hdestination, hperiod, hne, rfl, rfl⟩⟩
  noSchema hflag hfile := by
    refine combine_of_noSchema ?_
    rw [schemaText, hflag, hfile]
  noDestination := by
    rintro ⟨schema, hschema⟩ hflag hfile
    obtain ⟨text, htext, hok⟩ := (isSchema_iff hdirectory).mp hschema
    refine combine_of_noDestination htext hok ?_
    rw [destinationPath, hflag, hfile]

/-- Settings resolve field by field.  Every combination of values can be given on a command line, by
one word for each of them after the name of the command.
Whatever words set some arguments and whatever the config file sets, if the path of that file does
not start like a URL, then there are settings exactly if the schema, the destination and the period
each resolve and the period is not zero.  Each of them is what its own flag and its own entry in the
file say: the value of the flag as it is, or else that of the file, or else the usual period.  Where
neither names a schema, or a destination, that is what is reported.  A path from the file is kept if
it is absolute, and otherwise it is walked from the directory of the file. -/
theorem ofWords_resolves_fields (hread : ReadsConfig files a.config config directory)
    (hplain : ∀ path ∈ a.config, ¬ StartsLikeUrl path) :
    (a.AreGivable → Arguments.ofWords a.words = .ok a) ∧
      SeesPaths a.config directory ∧
      ∀ words, Arguments.ofWords words = .ok a →
        ResolvesFields directory a config (ofWords files words) := by
  have hdirectory := not_startsLikeUrl_of_readsConfig hread hplain
  refine ⟨Arguments.ofWords_words, seesPaths_of_readsConfig hread, fun words hwords => ?_⟩
  rw [ofWords_eq_combine hwords hread]
  exact resolvesFields_combine hdirectory

/-- What a config file in a directory of its own sets. -/
def nestedConfig : String :=
  "period = 0\nschema = \x22api.yaml\x22\n"

/-- A tree with nothing but this config file. -/
def nestedFiles : Node :=
  .directory [("conf", .directory [("trellis.toml",
    .file (Text.Utf8.encode nestedConfig.toList))])]

/-- The tokens of this config file. -/
def nestedTokens : List Toml.Token :=
  [⟨.text .bare, 0, "period".toList⟩, ⟨.blank, 6, [' ']⟩, ⟨.equals, 7, ['=']⟩,
    ⟨.blank, 8, [' ']⟩, ⟨.text .bare, 9, ['0']⟩, ⟨.newline, 10, ['\n']⟩,
    ⟨.text .bare, 11, "schema".toList⟩, ⟨.blank, 17, [' ']⟩, ⟨.equals, 18, ['=']⟩,
    ⟨.blank, 19, [' ']⟩, ⟨.text .basic, 20, "\x22api.yaml\x22".toList⟩, ⟨.newline, 30, ['\n']⟩]

/-- The entries of this config file. -/
def nestedEntries : List Toml.Entry :=
  [⟨"period", 0, 9, .integer 0⟩, ⟨"schema", 11, 20, .string "api.yaml"⟩]

/-- The config file is read from its path. -/
lemma readText_nestedFiles : nestedFiles.readText "conf/trellis.toml" = .ok nestedConfig := by
  have hfollow : nestedFiles.follow [] (Path.moves "conf/trellis.toml") =
      .ok (.file (Text.Utf8.encode nestedConfig.toList)) := rfl
  have hfile : (Path.file? "conf/trellis.toml").isNone = false := rfl
  have hpath : "conf/trellis.toml".isEmpty = false := rfl
  simp only [Node.readText, hpath, hfollow, hfile, bind, Except.bind, Text.Utf8.decode?_encode]
  exact congrArg Except.ok String.ofList_toList

/-- The config file names a schema and a period of zero. -/
lemma ofText_nestedConfig : Config.ofText nestedConfig = .ok ⟨some "api.yaml", none, some 0⟩ := by
  have htokens : Toml.Token.ofChars nestedConfig.toList = nestedTokens := by decide +kernel
  have hentries : Toml.Document.ofChars nestedConfig.toList = .ok nestedEntries := by
    rw [Toml.Document.ofChars, Toml.Statement.ofChars, htokens]
    rfl
  have hsorted : (nestedEntries.mergeSort fun a b => decide (a.name ≤ b.name)) = nestedEntries :=
    List.mergeSort_of_pairwise (by decide)
  simp only [Config.ofText, hentries, bind, Except.bind, hsorted]
  rfl

/-- A period of zero in the config file does no harm if the flag sets another. -/
theorem ofWords_resolves_nested :
    ofWords nestedFiles ["types", "-c", "conf/trellis.toml", "-d", "api.d.ts", "--period=5"] =
      .ok ⟨false, ⟨.file "conf/api.yaml", "api.d.ts"⟩, 5, false⟩ := by
  let a : Arguments :=
    { config := some "conf/trellis.toml", destination := some "api.d.ts", period := some 5 }
  have hread : ReadsConfig nestedFiles a.config _ _ :=
    .named readText_nestedFiles ofText_nestedConfig
  have hplain : ∀ path ∈ a.config, ¬ StartsLikeUrl path := by
    rintro path ⟨⟩
    decide
  obtain ⟨-, -, hfields⟩ := ofWords_resolves_fields hread hplain
  have hwords : Arguments.ofWords
      ["types", "-c", "conf/trellis.toml", "-d", "api.d.ts", "--period=5"] = .ok a := rfl
  refine ((hfields _ hwords).ok_iff _).mpr ⟨?_, .flag, .flag, by decide, rfl, rfl⟩
  have hbelow : Path.below (Path.parent "conf/trellis.toml") "api.yaml" = "conf/api.yaml" := rfl
  exact hbelow ▸ .filePath (by decide)

end Settings

end TypedRouter.CommandLine
