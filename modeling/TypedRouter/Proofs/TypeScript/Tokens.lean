import TypedRouter.Proofs.TypeScript.Router

/-!
# The tokens of a type

The text of a type is a sequence of tokens: string literals, words, numbers and marks, with blanks
between some of them.  A reader that goes through the text one character at a time finds them.  A
string literal ends at the first quotation mark that no backslash leads, and a word or a number ends
where a character follows that is no part of it, so whether a text has certain tokens may depend on
what follows it.  Two notions keep this apart: a text has some tokens if they are read as long as
what follows does not go on with the last of them, and it has them closed if they are read whatever
follows.

The tokens of a type follow its structure, and indentation has no part in them.
-/

namespace TypedRouter.TypeScript

open Router Text

/-- A token of the text of a type. -/
inductive Token where
  /-- A string literal, from its opening quotation mark on. -/
  | quoted (cs : List Char)
  | word (cs : List Char)
  | number (cs : List Char)
  | mark (c : Char)
  deriving DecidableEq

/-- The token of a run of word characters: a word if they are an identifier, and else a number. -/
def Token.ofRun (cs : List Char) : Token :=
  if Identifier.isIdentifierChars cs then .word cs else .number cs

/-- Where a reader of tokens stands: between two tokens, or inside one of which it has taken some
characters. -/
inductive Reading where
  | between
  | run (taken : List Char)
  | literal (taken : List Char)
  /-- After a backslash in a string literal. -/
  | escape (taken : List Char)
  deriving DecidableEq

/-- What a character between two tokens leads to: the mark that it is, unless it begins a token or
is blank, and where the reader stands then. -/
def opening (c : Char) : List Token × Reading :=
  if c = Quoted.mark then ([], .literal [c])
  else if isWordChar c then ([], .run [c])
  else if c.isWhitespace then ([], .between)
  else ([.mark c], .between)

/-- The tokens of a text. -/
def readTokens : Reading → List Char → List Token
  | .between, [] => []
  | .run taken, [] => [.ofRun taken]
  | .literal taken, [] => [.quoted taken]
  | .escape taken, [] => [.quoted taken]
  | .between, c :: rest => (opening c).1 ++ readTokens (opening c).2 rest
  | .run taken, c :: rest =>
    if isWordChar c then readTokens (.run (taken ++ [c])) rest
    else .ofRun taken :: ((opening c).1 ++ readTokens (opening c).2 rest)
  | .literal taken, c :: rest =>
    if c = Quoted.mark then .quoted (taken ++ [c]) :: readTokens .between rest
    else if c = '\\' then readTokens (.escape (taken ++ [c])) rest
    else readTokens (.literal (taken ++ [c])) rest
  | .escape taken, c :: rest => readTokens (.literal (taken ++ [c])) rest

/-- The tokens of a text that stands alone. -/
def readText (cs : List Char) : List Token := readTokens .between cs

/-! ## Texts with certain tokens -/

section Composition

/-- A text has some tokens for a reader if these are read from it as long as what follows does not
go on with the last of them. -/
def HasTokens (read : List Char → List Token) (cs : List Char) (ts : List Token) : Prop :=
  ∀ rest, Stops rest → read (cs ++ rest) = ts ++ read rest

/-- A text has some tokens closed for a reader if these are read from it whatever follows. -/
def HasClosedTokens (read : List Char → List Token) (cs : List Char) (ts : List Token) : Prop :=
  ∀ rest, read (cs ++ rest) = ts ++ read rest

/-- The characters that a word or a number may be followed by. -/
def delimiters : List Char :=
  [' ', '\n', ',', ';', ':', '?', '|', '&', '=', '<', '>', '[', ']', '\x7b', '\x7d']

variable {read : List Char → List Token} {cs ds : List Char} {ts us : List Token} {c : Char}

/-- No delimiter is a word character. -/
lemma isWordChar_of_mem_delimiters (h : c ∈ delimiters) : isWordChar c = false := by
  have hall : delimiters.all (fun d => !isWordChar d) = true := by decide +kernel
  simpa using List.all_eq_true.mp hall c h

/-- A delimiter ends a word. -/
lemma stops_of_mem_delimiters (h : c ∈ delimiters) (rest : List Char) : Stops (c :: rest) := by
  intro d hd
  obtain rfl : c = d := by simpa using hd
  exact isWordChar_of_mem_delimiters h

/-- Tokens that are read whatever follows are read if a delimiter follows. -/
lemma HasClosedTokens.hasTokens (h : HasClosedTokens read cs ts) : HasTokens read cs ts :=
  fun rest _ => h rest

/-- Nothing has no tokens. -/
lemma hasClosedTokens_nil : HasClosedTokens read [] [] := fun _ => rfl

/-- Texts with closed tokens have the tokens of both. -/
lemma HasClosedTokens.append (h : HasClosedTokens read cs ts) (h' : HasClosedTokens read ds us) :
    HasClosedTokens read (cs ++ ds) (ts ++ us) := by
  intro rest
  rw [List.append_assoc, h, h', List.append_assoc]

/-- The second of two texts need not be closed. -/
lemma HasClosedTokens.append_open (h : HasClosedTokens read cs ts) (h' : HasTokens read ds us) :
    HasTokens read (cs ++ ds) (ts ++ us) := by
  intro rest hrest
  rw [List.append_assoc, h, h' rest hrest, List.append_assoc]

/-- Tokens that are followed by a delimiter are closed if those after it are. -/
lemma HasTokens.close (h : HasTokens read cs ts) (hc : c ∈ delimiters)
    (h' : HasClosedTokens read (c :: ds) us) :
    HasClosedTokens read (cs ++ c :: ds) (ts ++ us) := by
  intro rest
  rw [List.append_assoc, List.cons_append, h _ (stops_of_mem_delimiters hc _), ← List.cons_append,
    h', List.append_assoc]

/-- The first need not be if a delimiter follows it. -/
lemma HasTokens.append (h : HasTokens read cs ts) (hc : c ∈ delimiters)
    (h' : HasTokens read (c :: ds) us) : HasTokens read (cs ++ c :: ds) (ts ++ us) := by
  intro rest hrest
  rw [List.append_assoc, List.cons_append, h _ (stops_of_mem_delimiters hc _), ← List.cons_append,
    h' rest hrest, List.append_assoc]

/-- What is read from a text that stands alone. -/
lemma HasTokens.read_eq (h : HasTokens read cs ts) (hread : read [] = []) : read cs = ts := by
  have hstops : Stops [] := fun _ hd => nomatch hd
  have htokens := h [] hstops
  rwa [List.append_nil, hread, List.append_nil] at htokens

/-- The closed tokens of several texts, one text after the other. -/
lemma hasClosedTokens_flatMap {α : Type} {f : α → List Char} {g : α → List Token}
    {xs : List α} (h : ∀ x ∈ xs, HasClosedTokens read (f x) (g x)) :
    HasClosedTokens read (xs.flatMap f) (xs.flatMap g) := by
  induction xs with
  | nil => exact hasClosedTokens_nil
  | cons x xs ih =>
    rw [List.flatMap_cons, List.flatMap_cons]
    exact (h x List.mem_cons_self).append (ih fun y hy => h y (List.mem_cons_of_mem _ hy))

/-- Items with separators between them have the tokens of the items with those of the separator
between. -/
lemma hasTokens_intercalate {α : Type} {f : α → List Char} {g : α → List Token}
    {sep : List Char} (hc : c ∈ delimiters) (hsep : HasClosedTokens read (c :: sep) us)
    {xs : List α} (h : ∀ x ∈ xs, HasTokens read (f x) (g x)) :
    HasTokens read (List.intercalate (c :: sep) (xs.map f)) (List.intercalate us (xs.map g)) := by
  cases xs with
  | nil => exact hasClosedTokens_nil.hasTokens
  | cons x xs =>
    rw [intercalate_map_cons, intercalate_map_cons]
    induction xs generalizing x with
    | nil => simpa using h x List.mem_cons_self
    | cons y ys ih =>
      have hitems := ih y fun z hz => h z (List.mem_cons_of_mem _ hz)
      rw [List.flatMap_cons, List.flatMap_cons, List.append_assoc, List.append_assoc]
      exact (h x List.mem_cons_self).append hc (hsep.append_open hitems)

end Composition

/-! ## Words, literals and marks -/

/-- A text that stands alone is read from its first character on. -/
@[simp] lemma readText_cons (c : Char) (rest : List Char) :
    readText (c :: rest) = (opening c).1 ++ readTokens (opening c).2 rest := rfl

/-- A run of word characters is read to its end. -/
lemma readTokens_run {word rest : List Char} (hword : word.all isWordChar = true)
    (hrest : Stops rest) (taken : List Char) :
    readTokens (.run taken) (word ++ rest) = .ofRun (taken ++ word) :: readText rest := by
  induction word generalizing taken with
  | nil =>
    rw [List.nil_append, List.append_nil]
    cases rest with
    | nil => rfl
    | cons c rest =>
      have hc : isWordChar c = false := hrest c rfl
      rw [readTokens, hc]
      rfl
  | cons c word ih =>
    rw [List.all_cons, Bool.and_eq_true] at hword
    rw [List.cons_append, readTokens, if_pos hword.1, ih hword.2, List.append_assoc,
      List.singleton_append]

/-- A word or a number is one token. -/
lemma hasTokens_run {word : List Char} (hne : word ≠ []) (hword : word.all isWordChar = true) :
    HasTokens readText word [.ofRun word] := by
  have hquote : isWordChar Quoted.mark = false := by decide +kernel
  cases word with
  | nil => exact absurd rfl hne
  | cons c word =>
    rw [List.all_cons, Bool.and_eq_true] at hword
    have hopening : opening c = ([], .run [c]) := by
      have hc : c ≠ Quoted.mark := by
        rintro rfl
        rw [hquote] at hword
        cases hword.1
      rw [opening, if_neg hc, if_pos hword.1]
    intro rest hrest
    rw [List.cons_append, readText_cons, hopening, List.nil_append, readTokens_run hword.2 hrest]
    rfl

/-- A literal is read to its closing quotation mark. -/
lemma readTokens_literal (cs rest taken : List Char) :
    readTokens (.literal taken) (Quoted.escape cs ++ Quoted.mark :: rest) =
      .quoted (taken ++ (Quoted.escape cs ++ [Quoted.mark])) :: readText rest := by
  induction cs generalizing taken with
  | nil =>
    rw [Quoted.escape_nil, List.nil_append, readTokens, if_pos rfl]
    rfl
  | cons c cs ih =>
    have hbackslash : '\\' ≠ Quoted.mark := by decide
    by_cases hc : c = '\\' ∨ c = Quoted.mark
    · -- the reader takes the character after a backslash as it is, a quotation mark too
      rw [Quoted.escape_cons_of_special hc, List.cons_append, List.cons_append, readTokens,
        if_neg hbackslash, if_pos rfl, readTokens, ih]
      simp
    · obtain ⟨hplain, hmark⟩ := not_or.mp hc
      rw [Quoted.escape_cons_of_plain hc, List.cons_append, readTokens, if_neg hmark,
        if_neg hplain, ih]
      simp

/-- A string literal is one token, whatever its value. -/
lemma hasClosedTokens_encode (cs : List Char) :
    HasClosedTokens readText (Quoted.encode cs) [.quoted (Quoted.encode cs)] := by
  intro rest
  have hopening : opening Quoted.mark = ([], .literal [Quoted.mark]) := if_pos rfl
  rw [Quoted.encode, List.cons_append, List.append_assoc, List.singleton_append, readText_cons,
    hopening, List.nil_append, readTokens_literal]
  rfl

/-- A delimiter is a mark, unless it is blank. -/
lemma opening_of_mem_delimiters {c : Char} (h : c ∈ delimiters) :
    opening c = (if c.isWhitespace then [] else [.mark c], .between) := by
  have hquote : Quoted.mark ∉ delimiters := by decide
  have hc : c ≠ Quoted.mark := fun heq => hquote (heq ▸ h)
  rw [opening, if_neg hc, isWordChar_of_mem_delimiters h]
  cases c.isWhitespace
  · rfl
  · rfl

/-- Delimiters are marks, apart from the blank ones. -/
lemma hasClosedTokens_delimiters {cs : List Char} (h : cs.all (· ∈ delimiters) = true) :
    HasClosedTokens readText cs ((cs.filter fun c => !c.isWhitespace).map .mark) := by
  induction cs with
  | nil => exact hasClosedTokens_nil
  | cons c cs ih =>
    rw [List.all_cons, Bool.and_eq_true, decide_eq_true_iff] at h
    intro rest
    rw [List.cons_append, readText_cons, opening_of_mem_delimiters h.1, ← readText, ih h.2,
      List.filter_cons]
    cases hc : c.isWhitespace
    · simp
    · simp

/-- A margin has no tokens. -/
lemma hasClosedTokens_margin (indent : ℕ) : HasClosedTokens readText (margin indent) [] := by
  have hspace : ∀ c ∈ margin indent, c = ' ' := fun c hc => List.eq_of_mem_replicate hc
  have hdelimiters : (margin indent).all (· ∈ delimiters) = true := by
    refine List.all_eq_true.mpr fun c hc => ?_
    rw [hspace c hc]
    decide
  have hblank : (margin indent).filter (fun c => !c.isWhitespace) = [] := by
    refine List.filter_eq_nil_iff.mpr fun c hc => ?_
    rw [hspace c hc]
    decide
  have hmargin := hasClosedTokens_delimiters hdelimiters
  rwa [hblank] at hmargin

/-! ## Names and values -/

/-- A name is one word. -/
lemma hasTokens_identifier {cs : List Char} (h : Identifier.isIdentifierChars cs = true) :
    HasTokens readText cs [.ofRun cs] := by
  have hne : cs ≠ [] := by
    rintro rfl
    cases h
  exact hasTokens_run hne (all_isWordChar_of_isIdentifierChars h)

/-- A name has one token. -/
lemma hasTokens_nameChars (name : String) :
    HasTokens readText (nameChars name) [.ofRun (nameChars name)] :=
  hasTokens_identifier (Identifier.isIdentifierChars_sanitizeChars name.toList)

/-- The token of a value. -/
def valueToken : Literal → Token
  | .string s => .quoted (Quoted.encode s.toList)
  | .number n => .ofRun n.chars
  | .bool b => .ofRun (Literal.bool b).chars

/-- The token of the name of a property. -/
def keyToken (name : String) : Token :=
  if Identifier.isIdentifier name then .ofRun name.toList
  else .quoted (Quoted.encode name.toList)

/-- So has a literal. -/
lemma hasTokens_literal (value : Literal) : HasTokens readText value.chars [valueToken value] := by
  cases value with
  | string s => exact (hasClosedTokens_encode _).hasTokens
  | number n => exact hasTokens_run (startsNumber_number n).ne_nil (all_isWordChar_number n)
  | bool b =>
    cases b
    · exact hasTokens_identifier (by decide +kernel)
    · exact hasTokens_identifier (by decide +kernel)

/-- So has a key. -/
lemma hasTokens_keyChars (name : String) : HasTokens readText (keyChars name) [keyToken name] := by
  unfold keyChars keyToken
  split
  · next h => exact hasTokens_identifier h
  · exact (hasClosedTokens_encode _).hasTokens

/-- The marks between the name of a property and its type. -/
def propertyMarks (mayLack : Bool) : List Token :=
  if mayLack then [.mark '?', .mark ':'] else [.mark ':']

/-- What leads a property has the token of its key, and its marks. -/
lemma hasClosedTokens_propertyLead (name : String) (mayLack : Bool) :
    HasClosedTokens readText (propertyLead name mayLack)
      (keyToken name :: propertyMarks mayLack) := by
  cases mayLack
  · exact (hasTokens_keyChars name).close (by decide) (hasClosedTokens_delimiters (by decide))
  · exact (hasTokens_keyChars name).close (by decide) (hasClosedTokens_delimiters (by decide))

/-- The tokens before the type of any property. -/
def indexTokens (label : String) : List Token :=
  [.mark '[', .ofRun (nameChars label), .mark ':', .ofRun "string".toList, .mark ']', .mark ':']

/-- What leads an index has the tokens of the index. -/
lemma hasClosedTokens_indexLead (label : String) :
    HasClosedTokens readText (indexLead label) (indexTokens label) := by
  have hopen : HasClosedTokens readText ['['] [.mark '['] := hasClosedTokens_delimiters (by decide)
  have hcolon : HasClosedTokens readText [':', ' '] [.mark ':'] :=
    hasClosedTokens_delimiters (by decide)
  have hclose : HasClosedTokens readText [']', ':', ' '] [.mark ']', .mark ':'] :=
    hasClosedTokens_delimiters (by decide)
  have hstring : HasTokens readText "string".toList [.ofRun "string".toList] :=
    hasTokens_identifier (by decide +kernel)
  have hlabel := (hasTokens_nameChars label).close (by decide)
    (hcolon.append (hstring.close (by decide) hclose))
  exact hopen.append hlabel

/-- The tokens of the arguments of a named type. -/
def argumentTokens : List (List Token) → List Token
  | [] => []
  | arguments => .mark '<' :: (List.intercalate [.mark ','] arguments ++ [.mark '>'])

/-! ## The tokens of a type -/

namespace Ty

mutual

/-- The tokens of a type. -/
def tokens : Ty → List Token
  | .keyword word => [.ofRun word.toList]
  | .literal value => [valueToken value]
  | .named name arguments => .ofRun (nameChars name) :: argumentTokens (listTokens arguments)
  | .union members => List.intercalate [.mark '|'] (listTokens members)
  | .intersection members => List.intercalate [.mark '&'] (listTokens members)
  | .object members => .mark '\x7b' :: (membersTokens members ++ [.mark '\x7d'])
termination_by structural t => t

/-- The tokens of some types. -/
def listTokens : List Ty → List (List Token)
  | [] => []
  | t :: rest => tokens t :: listTokens rest
termination_by structural ts => ts

/-- The tokens of the members of an object type, each of them ended by a semicolon. -/
def membersTokens : List (Member Ty) → List Token
  | [] => []
  | m :: rest => memberTokens m ++ (.mark ';' :: membersTokens rest)
termination_by structural ms => ms

/-- The tokens of a member of an object type. -/
def memberTokens : Member Ty → List Token
  | .property name mayLack t => keyToken name :: (propertyMarks mayLack ++ tokens t)
  | .indexed label t => indexTokens label ++ tokens t
termination_by structural m => m

end

/-- The tokens of types, one type after the other. -/
@[simp] lemma listTokens_eq_map (ts : List Ty) : listTokens ts = ts.map tokens := by
  induction ts with
  | nil => rfl
  | cons t ts ih => rw [listTokens, ih, List.map_cons]

/-- The tokens of members, each with a semicolon after it. -/
@[simp] lemma membersTokens_eq_flatMap (ms : List (Member Ty)) :
    membersTokens ms = ms.flatMap fun m => memberTokens m ++ [.mark ';'] := by
  induction ms with
  | nil => rfl
  | cons m ms ih => simp [membersTokens, ih]

/-- A name has one token before those of its arguments. -/
@[simp] lemma tokens_named (name : String) (ts : List Ty) :
    (named name ts).tokens = .ofRun (nameChars name) :: argumentTokens (ts.map tokens) := by
  rw [tokens, listTokens_eq_map]

/-- The tokens of the members of a union have bars between them. -/
@[simp] lemma tokens_union (ts : List Ty) :
    (union ts).tokens = List.intercalate [.mark '|'] (ts.map tokens) := by
  rw [tokens, listTokens_eq_map]

/-- The tokens of the members of an intersection have ampersands between them. -/
@[simp] lemma tokens_intersection (ts : List Ty) :
    (intersection ts).tokens = List.intercalate [.mark '&'] (ts.map tokens) := by
  rw [tokens, listTokens_eq_map]

/-- The tokens of the members of an object stand between braces. -/
@[simp] lemma tokens_object (ms : List (Member Ty)) :
    (object ms).tokens =
      .mark '\x7b' :: ((ms.flatMap fun m => memberTokens m ++ [.mark ';']) ++ [.mark '\x7d']) := by
  rw [tokens, membersTokens_eq_flatMap]

/-- The types directly inside a type. -/
def parts : Ty → List Ty
  | .named _ arguments => arguments
  | .union members => members
  | .intersection members => members
  | .object members => members.map Member.type
  | _ => []

/-- The types whose keywords, at any depth, are those of the language. -/
inductive Printable : Ty → Prop
  | intro {t : Ty} (keyword : ∀ word, t = .keyword word → word ∈ keywords)
      (parts : ∀ u ∈ t.parts, Printable u) : Printable t

variable {indent : ℕ}

/-- A name with arguments has its tokens if the arguments have theirs. -/
lemma hasTokens_named (name : String) {args : List Ty}
    (h : ∀ t ∈ args, HasTokens readText (t.chars indent) t.tokens) :
    HasTokens readText ((named name args).chars indent) (named name args).tokens := by
  rw [chars_named, tokens_named]
  cases args with
  | nil =>
    rw [List.map_nil, List.map_nil, argumentChars, argumentTokens, List.append_nil]
    exact hasTokens_nameChars name
  | cons arg args =>
    have hopen : HasClosedTokens readText ['<'] [.mark '<'] :=
      hasClosedTokens_delimiters (by decide)
    have hcomma : HasClosedTokens readText [',', ' '] [.mark ','] :=
      hasClosedTokens_delimiters (by decide)
    have hclose : HasClosedTokens readText ['>'] [.mark '>'] :=
      hasClosedTokens_delimiters (by decide)
    have hargs := (hasTokens_intercalate (by decide) hcomma h).close (by decide) hclose
    exact (hasTokens_nameChars name).append (by decide) (hopen.append hargs).hasTokens

/-- A member has its tokens if its type has. -/
lemma hasTokens_memberChars {m : Member Ty}
    (h : HasTokens readText (m.type.chars indent) m.type.tokens) :
    HasTokens readText (memberChars indent m) (memberTokens m) := by
  cases m with
  | property name mayLack t => exact (hasClosedTokens_propertyLead name mayLack).append_open h
  | indexed label t => exact (hasClosedTokens_indexLead label).append_open h

/-- An object has its tokens if the types of its members have theirs. -/
lemma hasTokens_object {members : List (Member Ty)}
    (h : ∀ m ∈ members, HasTokens readText (m.type.chars (indent + 2)) m.type.tokens) :
    HasTokens readText ((object members).chars indent) (object members).tokens := by
  have hopen : HasClosedTokens readText ['\x7b', '\n'] [.mark '\x7b'] :=
    hasClosedTokens_delimiters (by decide)
  have hclose : HasClosedTokens readText ['\x7d'] [.mark '\x7d'] :=
    hasClosedTokens_delimiters (by decide)
  have hend : HasClosedTokens readText [';', '\n'] [.mark ';'] :=
    hasClosedTokens_delimiters (by decide)
  rw [chars_object, tokens_object]
  have hlines := hasClosedTokens_flatMap fun m hm =>
    (hasClosedTokens_margin (indent + 2)).append
      ((hasTokens_memberChars (h m hm)).close (by decide) hend)
  have hobject := hopen.append (hlines.append ((hasClosedTokens_margin indent).append hclose))
  exact hobject.hasTokens

/-- The text of a type has its tokens, whatever the indentation. -/
theorem hasTokens_chars {t : Ty} (h : Printable t) (indent : ℕ) :
    HasTokens readText (t.chars indent) t.tokens := by
  -- the members of an object stand further to the right, so the indentation is not fixed
  induction h generalizing indent with
  | @intro t keyword parts ih =>
    cases t with
    | keyword word =>
      have hkeywords : ∀ w ∈ keywords, Identifier.isIdentifier w = true := by decide +kernel
      exact hasTokens_identifier (hkeywords word (keyword word rfl))
    | literal value => exact hasTokens_literal value
    | named name args => exact hasTokens_named name fun u hu => ih u hu indent
    | union members =>
      have hbar : HasClosedTokens readText [' ', '|', ' '] [.mark '|'] :=
        hasClosedTokens_delimiters (by decide)
      rw [chars_union, tokens_union]
      exact hasTokens_intercalate (by decide) hbar fun u hu => ih u hu indent
    | intersection members =>
      have hand : HasClosedTokens readText [' ', '&', ' '] [.mark '&'] :=
        hasClosedTokens_delimiters (by decide)
      rw [chars_intersection, tokens_intersection]
      exact hasTokens_intercalate (by decide) hand fun u hu => ih u hu indent
    | object members =>
      exact hasTokens_object fun m hm => ih m.type (List.mem_map_of_mem hm) (indent + 2)

/-! ## Types that are printed -/

/-- A keyword is printable. -/
lemma printable_keyword {word : String} (h : word ∈ keywords) : Printable (keyword word) := by
  refine .intro (fun w hw => ?_) fun u hu => absurd hu List.not_mem_nil
  cases hw
  exact h

/-- So is a literal. -/
lemma printable_literal (value : Literal) : Printable (literal value) := by
  refine .intro (fun w hw => ?_) fun u hu => absurd hu List.not_mem_nil
  cases hw

/-- So is a name if its arguments are. -/
lemma printable_named {name : String} {args : List Ty} (h : ∀ t ∈ args, Printable t) :
    Printable (named name args) := by
  refine .intro (fun w hw => ?_) h
  cases hw

/-- So is a union if its members are. -/
lemma printable_union {members : List Ty} (h : ∀ t ∈ members, Printable t) :
    Printable (union members) := by
  refine .intro (fun w hw => ?_) h
  cases hw

/-- So is an intersection if its members are. -/
lemma printable_intersection {members : List Ty} (h : ∀ t ∈ members, Printable t) :
    Printable (intersection members) := by
  refine .intro (fun w hw => ?_) h
  cases hw

/-- So is an object if the types of its members are. -/
lemma printable_object {members : List (Member Ty)} (h : ∀ m ∈ members, Printable m.type) :
    Printable (object members) := by
  refine .intro (fun w hw => ?_) fun t ht => ?_
  · cases hw
  · obtain ⟨m, hm, rfl⟩ := List.mem_map.mp ht
    exact h m hm

/-- The type of a type expression is printable. -/
lemma printable_ofExpr (t : TypeExpr) : Printable (ofExpr t) := by
  induction t using TypeExpr.induction with
  | step t ihProperty ihMember =>
    cases t with
    | literal value => exact printable_literal value
    | record ps =>
      rw [ofExpr_record]
      refine printable_object fun m hm => ?_
      obtain ⟨⟨name, mayLack, t⟩, hp, rfl⟩ := List.mem_map.mp hm
      exact ihProperty ps rfl _ hp
    | union ts =>
      rw [ofExpr_union]
      refine printable_union fun u hu => ?_
      obtain ⟨t, ht, rfl⟩ := List.mem_map.mp hu
      exact ihMember ts rfl t ht
    | ref name => exact printable_named fun u hu => absurd hu List.not_mem_nil
    | _ => exact printable_keyword (by decide)

end Ty

/-- A router is printable if the types of its members are. -/
lemma printable_routerOf {members : List (Member Ty)} (h : ∀ m ∈ members, m.type.Printable) :
    (routerOf members).Printable := by
  refine Ty.printable_named fun t ht => ?_
  rcases List.mem_pair.mp ht with rfl | rfl
  · exact Ty.printable_named fun u hu => absurd hu List.not_mem_nil
  · exact Ty.printable_object h

/-- The type of a branch is printable if those of its records are. -/
lemma printable_branchType {ts : List Ty} (h : ∀ t ∈ ts, t.Printable) :
    (branchType ts).Printable := by
  unfold branchType
  split
  · next t => exact h t List.mem_cons_self
  · exact Ty.printable_intersection h

/-- The type of a record is printable. -/
lemma printable_routerType (r : Record) : (routerType r).Printable := by
  induction r using Record.induction with
  | step r ih =>
    rw [routerType_eq]
    refine printable_routerOf fun m hm => ?_
    obtain ⟨e, he, rfl⟩ := List.mem_map.mp hm
    cases e with
    | procedure p =>
      refine Ty.printable_named fun t ht => ?_
      rcases List.mem_pair.mp ht with rfl | rfl
      · exact Ty.printable_ofExpr p.input
      · exact Ty.printable_ofExpr p.output
    | branch key records =>
      rw [entryMember_branch, branchMember_type]
      refine printable_branchType fun t ht => ?_
      obtain ⟨s, hs, rfl⟩ := List.mem_map.mp ht
      exact ih key records he s hs

end TypedRouter.TypeScript
