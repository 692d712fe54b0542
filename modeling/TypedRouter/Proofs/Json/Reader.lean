import TypedRouter.Outline.Value
import Mathlib.Data.List.Basic
import Mathlib.Tactic.Common

/-!
# What the reader of JSON texts reads

A JSON text has fewer kinds of parts than an outline can have: no scalar with a spelling of its own,
no tag, no infinity, and no name that is a value.  Every reader of a part gives one of these kinds,
and leaves a text that stands at the end of the one it was given.

From the second fact it follows that the fuel of the reader is no bound on what is read: each list
or object costs two units of it and at least one character, so twice the length of a text is enough.
-/

namespace TypedRouter.Json.Reader

open Text

/-- A name as a JSON text can give it. -/
inductive IsName : Outline → Prop where
  | text (s : String) : IsName (.text s)
  | broken (f : Fault) : IsName (.broken f)
  | unreadable (f : Fault) (inner : Outline) : IsName (.unreadable f inner)

/-- A part as a JSON text can give it. -/
inductive IsJson : Outline → Prop where
  | null : IsJson .null
  | bool (b : Bool) : IsJson (.bool b)
  | number (n : Number) : IsJson (.number n)
  | text (s : String) : IsJson (.text s)
  | list {items : List Outline} (stop : Option Fault) (values : ∀ o ∈ items, IsJson o) :
      IsJson (.list items stop)
  | object {members : List (Outline × Outline)} (stop : Option Fault)
      (names : ∀ m ∈ members, IsName m.1) (values : ∀ m ∈ members, IsJson m.2) :
      IsJson (.object members stop)
  | broken (f : Fault) : IsJson (.broken f)
  | unreadable (f : Fault) (inner : Outline) : IsJson (.unreadable f inner)

/-- A name can stand in the place of a value. -/
lemma IsName.isJson {o : Outline} (h : IsName o) : IsJson o := by
  cases h with
  | text s => exact .text s
  | broken f => exact .broken f
  | unreadable f inner => exact .unreadable f inner

/-- A member as a JSON text can give it. -/
def IsMember (m : Outline × Outline) : Prop := IsName m.1 ∧ IsJson m.2

/-- A part of some kind was read at the front of a text, and what is left stands at its end. -/
structure Reads (P : Outline → Prop) (cs : List Char) (part : Part) : Prop where
  kind : P part.1
  left : ∀ rest, part.2 = some rest → rest <:+ cs

/-- Parts of some kind were read at the front of a text, and what is left stands at its end. -/
structure ReadsAll {α : Type} (P : α → Prop) (cs : List Char)
    (parts : List α × Option Fault × Option (List Char)) : Prop where
  kind : ∀ x ∈ parts.1, P x
  left : ∀ rest, parts.2.2 = some rest → rest <:+ cs

section

variable {P Q : Outline → Prop} {cs ds rest : List Char} {o : Outline} {part : Part}

/-- A part that nothing follows. -/
lemma Reads.stop (h : P o) : Reads P cs (o, none) :=
  ⟨h, fun _ hrest => nomatch hrest⟩

/-- A part that is followed by the rest of the text. -/
lemma Reads.goOn (h : P o) (hrest : rest <:+ cs) : Reads P cs (o, some rest) :=
  ⟨h, fun _ heq => Option.some.inj heq ▸ hrest⟩

/-- A part of one kind is one of a wider kind, in a longer text. -/
lemma Reads.mono (h : Reads P cs part) (kind : ∀ o, P o → Q o) (hcs : cs <:+ ds) :
    Reads Q ds part :=
  ⟨kind _ h.kind, fun rest hrest => (h.left rest hrest).trans hcs⟩

/-- What a part leaves when it was read in a text that stands at the end of another. -/
lemma Reads.within (h : Reads P cs part) (hcs : cs <:+ ds) : Reads P ds part :=
  h.mono (fun _ ho => ho) hcs

end

section

variable {α : Type} {P : α → Prop} {cs ds rest : List Char} {x : α} {xs : List α}
  {fault : Option Fault} {parts : List α × Option Fault × Option (List Char)}

/-- Parts that nothing follows. -/
lemma ReadsAll.stop (h : ∀ x ∈ xs, P x) : ReadsAll P cs (xs, fault, none) :=
  ⟨h, fun _ hrest => nomatch hrest⟩

/-- The last part, followed by the rest of the text. -/
lemma ReadsAll.goOn (h : P x) (hrest : rest <:+ cs) : ReadsAll P cs ([x], none, some rest) :=
  ⟨by simpa using h, fun _ heq => Option.some.inj heq ▸ hrest⟩

/-- A part before others. -/
lemma ReadsAll.cons (h : P x) (hparts : ReadsAll P cs parts) (hcs : cs <:+ ds) :
    ReadsAll P ds (x :: parts.1, parts.2.1, parts.2.2) :=
  ⟨by simpa using ⟨h, hparts.kind⟩, fun rest hrest => (hparts.left rest hrest).trans hcs⟩

end

/-! ## Words and numbers -/

/-- What follows the blanks stands at the end of the text. -/
lemma skipBlanks_suffix (cs : List Char) : skipBlanks cs <:+ cs :=
  List.dropWhile_suffix _

/-- So does what follows the first character that is no blank. -/
lemma suffix_of_skipBlanks {cs rest : List Char} {c : Char} (h : skipBlanks cs = c :: rest) :
    rest <:+ cs :=
  (List.suffix_cons c rest).trans (h ▸ skipBlanks_suffix cs)

/-- A word is read as the value that it stands for, or it is broken. -/
lemma reads_word {value : Outline} (h : IsJson value) (ws cs : List Char) :
    Reads IsJson cs (word value ws cs) := by
  induction ws generalizing cs with
  | nil => exact .goOn h List.suffix_rfl
  | cons w ws ih =>
    cases cs with
    | nil => exact .stop (.broken _)
    | cons c cs =>
      rw [word]
      split
      · exact (ih cs).within (List.suffix_cons c cs)
      · exact .stop (.broken _)

/-- A number is read as one, or it cannot be read. -/
lemma reads_numberPart (negative : Bool) (whole : List Char) (fraction : Option (List Char))
    (power : Option Int) (cs : List Char) :
    Reads IsJson cs (numberPart negative whole fraction power cs) := by
  unfold numberPart
  split
  · exact .goOn (.number _) List.suffix_rfl
  · exact .goOn (.unreadable _ _) List.suffix_rfl

/-- So is a number with a power of ten. -/
lemma reads_exponentPart (negative : Bool) (whole : List Char) (fraction : Option (List Char))
    (cs : List Char) : Reads IsJson cs (exponentPart negative whole fraction cs) := by
  unfold exponentPart
  split
  next down ds heq =>
  have hds : ds <:+ cs := by
    split at heq
    · cases heq
      exact List.suffix_cons _ _
    · cases heq
      exact List.suffix_cons _ _
    · cases heq
      exact List.suffix_rfl
  dsimp only
  split
  · exact .stop (.broken _)
  · exact (reads_numberPart ..).within ((List.dropWhile_suffix _).trans hds)

/-- So is a number whose digits have been read. -/
lemma reads_afterDigits (negative : Bool) (whole : List Char) (fraction : Option (List Char))
    (cs : List Char) : Reads IsJson cs (afterDigits negative whole fraction cs) := by
  unfold afterDigits
  split
  · exact (reads_exponentPart ..).within (List.suffix_cons _ _)
  · exact (reads_exponentPart ..).within (List.suffix_cons _ _)
  · exact reads_numberPart ..

/-- So is a number whose digits before the point have been read. -/
lemma reads_afterWhole (negative : Bool) (whole cs : List Char) :
    Reads IsJson cs (afterWhole negative whole cs) := by
  unfold afterWhole
  split
  · next cs =>
    dsimp only
    split
    · exact .stop (.broken _)
    · exact (reads_afterDigits ..).within ((List.dropWhile_suffix _).trans (List.suffix_cons _ _))
  · exact reads_afterDigits ..

/-- So is a number without its sign. -/
lemma reads_number (negative : Bool) (cs : List Char) :
    Reads IsJson cs (number negative cs) := by
  unfold number
  split
  · exact .stop (.broken _)
  · split
    · exact (reads_afterWhole ..).within (List.nil_suffix)
    · split
      · exact .stop (.broken _)
      · exact (reads_afterWhole ..).within (List.suffix_cons _ _)
  · split
    · exact (reads_afterWhole ..).within (List.dropWhile_suffix _)
    · exact .stop (.broken _)

/-! ## Texts -/

/-- A text that ends because of a fault is a name. -/
lemma reads_brokenText (taken : Taken) (fault : Fault) (cs : List Char) :
    Reads IsName cs (brokenText taken fault) := by
  cases taken with
  | none => exact .stop (.unreadable _ _)
  | some ds => exact .stop (.broken _)

/-- A text that ends with its closing quote is a name. -/
lemma reads_wholeText (taken : Taken) (cs : List Char) :
    Reads IsName cs (wholeText taken cs) := by
  cases taken with
  | none => exact .goOn (.unreadable _ _) List.suffix_rfl
  | some ds => exact .goOn (.text _) List.suffix_rfl

/-- The part of a text that a move closes. -/
def Move.Closes (cs : List Char) : Move → Prop
  | .goOn _ _ => True
  | .finish part => Reads IsName cs part

/-- A plain character leaves what stands at the end of the text. -/
lemma closes_plainMove (taken : Taken) (c : Char) (cs : List Char) :
    (plainMove taken c cs).Closes cs := by
  unfold plainMove
  split
  · exact reads_wholeText taken cs
  · split
    · trivial
    · split
      · exact reads_brokenText taken _ cs
      · trivial

/-- So does the mark before the digits of an escape. -/
lemma closes_digitsMove (high : Option Nat) (taken : Taken) (cs : List Char) :
    (digitsMove high taken cs).Closes cs := by
  unfold digitsMove
  split
  · exact reads_brokenText taken _ cs
  · trivial

/-- So does the character after a backslash. -/
lemma closes_escapeMove (taken : Taken) (c : Char) (cs : List Char) :
    (escapeMove taken c cs).Closes cs := by
  unfold escapeMove
  split
  · exact closes_digitsMove none taken cs
  · split
    · trivial
    · exact reads_brokenText taken _ cs

/-- So does the last digit of an escape. -/
lemma closes_escapedMove (high : Option Nat) (taken : Taken) (n : Nat) (cs : List Char) :
    (escapedMove high taken n).Closes cs := by
  unfold escapedMove
  split
  · trivial
  · split
    · trivial
    · split
      · trivial
      · trivial

/-- So does every character, wherever the reader stands. -/
lemma closes_move (place : Place) (taken : Taken) (c : Char) (cs : List Char) :
    (move place taken c cs).Closes cs := by
  cases place with
  | plain => exact closes_plainMove taken c cs
  | escape => exact closes_escapeMove taken c cs
  | digits high left n =>
    rw [move]
    split
    · exact reads_brokenText taken _ cs
    · split
      · exact closes_escapedMove high taken _ cs
      · trivial
  | half high =>
    rw [move]
    split
    · trivial
    · exact closes_plainMove none c cs
  | halfEscape high =>
    rw [move]
    split
    · exact closes_digitsMove (some high) taken cs
    · exact closes_escapeMove none c cs

/-- A text is read as a name. -/
lemma reads_text (place : Place) (taken : Taken) (cs : List Char) :
    Reads IsName cs (text place taken cs) := by
  induction cs generalizing place taken with
  | nil => exact reads_brokenText taken _ []
  | cons c cs ih =>
    have hmove := closes_move place taken c cs
    rw [text]
    split
    · exact (ih _ _).within (List.suffix_cons c cs)
    · next part heq =>
      rw [heq] at hmove
      exact Reads.within hmove (List.suffix_cons c cs)

/-! ## Values -/

/-- What is read inside other lists and objects is read in the same way, or it is too deep. -/
lemma reads_guarded {depth : Nat} {cs : List Char} {part : Part} (h : Reads IsJson cs part) :
    Reads IsJson cs (guarded depth part) := by
  unfold guarded
  split
  · exact h
  · exact ⟨.unreadable _ _, h.left⟩

section

variable {fuel : Nat} (hvalue : ∀ depth cs, Reads IsJson cs (value fuel depth cs))
  (hitems : ∀ depth cs, ReadsAll IsJson cs (items fuel depth cs))
  (hmembers : ∀ depth cs, ReadsAll IsMember cs (members fuel depth cs))

include hvalue hitems in
/-- Items are read with one unit of fuel more than their values are. -/
lemma reads_items_succ (depth : Nat) (cs : List Char) :
    ReadsAll IsJson cs (items (fuel + 1) depth cs) := by
  have hfirst := hvalue depth cs
  rw [items]
  split
  · next heq =>
    rw [heq] at hfirst
    exact .stop (by simpa using hfirst.kind)
  · next v rest heq =>
    rw [heq] at hfirst
    have hrest := hfirst.left rest rfl
    split
    · exact .stop (by simpa using hfirst.kind)
    · next hclose => exact .goOn hfirst.kind ((suffix_of_skipBlanks hclose).trans hrest)
    · next hcomma =>
      exact .cons hfirst.kind (hitems _ _) ((suffix_of_skipBlanks hcomma).trans hrest)
    · exact .stop (by simpa using hfirst.kind)

include hvalue hmembers in
/-- So are members. -/
lemma reads_members_succ (depth : Nat) (cs : List Char) :
    ReadsAll IsMember cs (members (fuel + 1) depth cs) := by
  have hstop {k v : Outline} (hk : IsName k) (hv : IsJson v) :
      ∀ m ∈ [(k, v)], IsMember m := by
    simpa using ⟨hk, hv⟩
  rw [members]
  split
  · exact .stop (List.forall_mem_nil _)
  · next ds hopen =>
    have hds := suffix_of_skipBlanks hopen
    have hname := reads_text .plain (some []) ds
    split
    · next k heq =>
      rw [heq] at hname
      exact .stop (hstop hname.kind .null)
    · next k rest heq =>
      rw [heq] at hname
      have hrest := (hname.left rest rfl).trans hds
      split
      · exact .stop (hstop hname.kind (.broken _))
      · next after hcolon =>
        have hafter := (suffix_of_skipBlanks hcolon).trans hrest
        have hfirst := hvalue depth after
        split
        · next heqv =>
          rw [heqv] at hfirst
          exact .stop (hstop hname.kind hfirst.kind)
        · next v rest' heqv =>
          rw [heqv] at hfirst
          have hrest' := (hfirst.left rest' rfl).trans hafter
          have hmember : IsMember (k, v) := ⟨hname.kind, hfirst.kind⟩
          split
          · exact .stop (hstop hname.kind hfirst.kind)
          · next hclose => exact .goOn hmember ((suffix_of_skipBlanks hclose).trans hrest')
          · next hcomma =>
            exact .cons hmember (hmembers _ _) ((suffix_of_skipBlanks hcomma).trans hrest')
          · exact .stop (hstop hname.kind hfirst.kind)
      · exact .stop (hstop hname.kind (.broken _))
  · exact .stop (List.forall_mem_nil _)

include hitems hmembers in
/-- A value is read with one unit of fuel more than what is inside it. -/
lemma reads_value_succ (depth : Nat) (cs : List Char) :
    Reads IsJson cs (value (fuel + 1) depth cs) := by
  rw [value]
  split
  · exact .stop (.broken _)
  · next heq => exact (reads_word .null _ _).within (suffix_of_skipBlanks heq)
  · next heq => exact (reads_word (.bool true) _ _).within (suffix_of_skipBlanks heq)
  · next heq => exact (reads_word (.bool false) _ _).within (suffix_of_skipBlanks heq)
  · next heq => exact (reads_text ..).mono (fun _ => IsName.isJson) (suffix_of_skipBlanks heq)
  · next heq => exact (reads_number ..).within (suffix_of_skipBlanks heq)
  · next ds heq =>
    refine reads_guarded (Reads.within ?_ (suffix_of_skipBlanks heq))
    split
    · exact .stop (.list _ (List.forall_mem_nil _))
    · next hclose => exact .goOn (.list _ (List.forall_mem_nil _)) (suffix_of_skipBlanks hclose)
    · have hall := (hitems (depth + 1) (skipBlanks ds))
      exact ⟨.list _ hall.kind, fun rest h => (hall.left rest h).trans (skipBlanks_suffix ds)⟩
  · next ds heq =>
    refine reads_guarded (Reads.within ?_ (suffix_of_skipBlanks heq))
    split
    · exact .stop (.object _ (List.forall_mem_nil _) (List.forall_mem_nil _))
    · next hclose =>
      exact .goOn (.object _ (List.forall_mem_nil _) (List.forall_mem_nil _))
        (suffix_of_skipBlanks hclose)
    · have hall := (hmembers (depth + 1) (skipBlanks ds))
      exact ⟨.object _ (fun m hm => (hall.kind m hm).1) (fun m hm => (hall.kind m hm).2),
        fun rest h => (hall.left rest h).trans (skipBlanks_suffix ds)⟩
  · next heq =>
    split
    · exact (reads_number ..).within (heq ▸ skipBlanks_suffix cs)
    · exact .stop (.broken _)

end

/-- The three readers of values, by induction on their fuel. -/
lemma reads_all (fuel : Nat) :
    (∀ depth cs, Reads IsJson cs (value fuel depth cs)) ∧
      (∀ depth cs, ReadsAll IsJson cs (items fuel depth cs)) ∧
      ∀ depth cs, ReadsAll IsMember cs (members fuel depth cs) := by
  induction fuel with
  | zero =>
    exact ⟨fun _ _ => .stop (.broken _), fun _ _ => .stop (List.forall_mem_nil _),
      fun _ _ => .stop (List.forall_mem_nil _)⟩
  | succ fuel ih =>
    obtain ⟨hvalue, hitems, hmembers⟩ := ih
    exact ⟨reads_value_succ hitems hmembers, reads_items_succ hvalue hitems,
      reads_members_succ hvalue hmembers⟩

/-! ## Fuel -/

/-- What follows the first character of a text that is no blank is shorter than the text. -/
lemma length_lt_of_skipBlanks {cs : List Char} {n : Nat} (hle : cs.length ≤ n) :
    ∀ c rest, skipBlanks cs = c :: rest → rest.length < n := by
  intro c rest h
  have hskip := (skipBlanks_suffix cs).length_le
  rw [h, List.length_cons] at hskip
  omega

section

variable {fuel other depth : Nat} {cs : List Char}

/-- What a value is read as depends on the fuel only through the shorter texts inside it. -/
lemma value_congr
    (hitems : ∀ ds, ds.length < cs.length →
      items other (depth + 1) ds = items fuel (depth + 1) ds)
    (hmembers : ∀ ds, ds.length < cs.length →
      members other (depth + 1) ds = members fuel (depth + 1) ds) :
    value (other + 1) depth cs = value (fuel + 1) depth cs := by
  have hopen := length_lt_of_skipBlanks (Nat.le_refl cs.length)
  have hinner (ds : List Char) := (skipBlanks_suffix ds).length_le
  rw [value, value]
  -- both readers look at the same text, so that one split tells the cases of both
  generalize skipBlanks cs = bs at hopen ⊢
  split
  · rfl
  · next null => rfl
  · next true => rfl
  · next false => rfl
  · next text => rfl
  · next number => rfl
  · next list =>
    have hlist := Nat.lt_of_le_of_lt (hinner list) (hopen _ _ rfl)
    generalize skipBlanks list = ds at hlist
    refine congrArg (guarded depth) ?_
    dsimp only
    split
    · rfl
    · next after => rfl
    · rw [hitems _ hlist]
  · next object =>
    have hobject := Nat.lt_of_le_of_lt (hinner object) (hopen _ _ rfl)
    generalize skipBlanks object = ds at hobject
    refine congrArg (guarded depth) ?_
    dsimp only
    split
    · rfl
    · next after => rfl
    · rw [hmembers _ hobject]
  · next digit _ _ _ _ _ _ _ _ => rfl

/-- What the items of a list are read as depends on the fuel only through their first value and
through the shorter texts after it. -/
lemma items_congr (hvalue : value other depth cs = value fuel depth cs)
    (hitems : ∀ ds, ds.length < cs.length → items other depth ds = items fuel depth ds) :
    items (other + 1) depth cs = items (fuel + 1) depth cs := by
  have hfirst := (reads_all fuel).1 depth cs
  rw [items, items, hvalue]
  generalize value fuel depth cs = first at hfirst ⊢
  split
  · next v => rfl
  · next v rest =>
    have hcomma := length_lt_of_skipBlanks (hfirst.left rest rfl).length_le
    generalize skipBlanks rest = bs at hcomma ⊢
    split
    · rfl
    · next closed => rfl
    · next more => rw [hitems more (hcomma _ _ rfl)]
    · rfl

/-- What the members of an object are read as depends on the fuel only through shorter texts. -/
lemma members_congr
    (hvalue : ∀ ds, ds.length < cs.length → value other depth ds = value fuel depth ds)
    (hmembers : ∀ ds, ds.length < cs.length → members other depth ds = members fuel depth ds) :
    members (other + 1) depth cs = members (fuel + 1) depth cs := by
  rw [members, members]
  have hopen := length_lt_of_skipBlanks (Nat.le_refl cs.length)
  generalize skipBlanks cs = bs at hopen ⊢
  split
  · rfl
  · next named =>
    have hname := reads_text .plain (some []) named
    dsimp only
    generalize text .plain (some []) named = name at hname ⊢
    split
    · next k => rfl
    · next k rest =>
      have hcolon := length_lt_of_skipBlanks
        (Nat.le_trans (hname.left rest rfl).length_le (Nat.le_of_lt (hopen _ _ rfl)))
      generalize skipBlanks rest = bs at hcolon ⊢
      split
      · rfl
      · next after =>
        have hfirst := (reads_all fuel).1 depth after
        rw [hvalue after (hcolon _ _ rfl)]
        generalize value fuel depth after = first at hfirst ⊢
        split
        · next v => rfl
        · next v last =>
          have hcomma := length_lt_of_skipBlanks
            (Nat.le_trans (hfirst.left last rfl).length_le (Nat.le_of_lt (hcolon _ _ rfl)))
          generalize skipBlanks last = bs at hcomma ⊢
          split
          · rfl
          · next closed => rfl
          · next more => rw [hmembers more (hcomma _ _ rfl)]
          · rfl
      · rfl
  · rfl

end

/-- More fuel than twice the length of a text changes nothing: a list or an object takes two units
of it, and at least its opening character from the text. -/
lemma fuel_irrelevant (fuel : Nat) : ∀ other, fuel ≤ other →
    (∀ depth (cs : List Char), 2 * cs.length + 1 ≤ fuel →
      value other depth cs = value fuel depth cs) ∧
    (∀ depth (cs : List Char), 2 * cs.length + 2 ≤ fuel →
      items other depth cs = items fuel depth cs) ∧
    ∀ depth (cs : List Char), 2 * cs.length + 2 ≤ fuel →
      members other depth cs = members fuel depth cs := by
  induction fuel with
  | zero =>
    refine fun other _ => ⟨fun _ _ h => ?_, fun _ _ h => ?_, fun _ _ h => ?_⟩
    all_goals omega
  | succ fuel ih =>
    intro other hle
    obtain ⟨other, rfl⟩ : ∃ n, other = n + 1 := ⟨other - 1, by omega⟩
    obtain ⟨hvalue, hitems, hmembers⟩ := ih other (by omega)
    refine ⟨fun depth cs h => ?_, fun depth cs h => ?_, fun depth cs h => ?_⟩
    · exact value_congr (fun ds hds => hitems _ ds (by omega))
        fun ds hds => hmembers _ ds (by omega)
    · exact items_congr (hvalue depth cs (by omega)) fun ds hds => hitems _ ds (by omega)
    · exact members_congr (fun ds hds => hvalue _ ds (by omega))
        fun ds hds => hmembers _ ds (by omega)

end TypedRouter.Json.Reader

namespace TypedRouter.Outline

open Json.Reader

/-- A JSON text is read into parts of the kinds that JSON has. -/
theorem isJson_read (cs : List Char) : IsJson (read cs).1 :=
  ((reads_all _).1 0 cs).kind

/-- What follows the value at the front of a text stands at the end of the text. -/
theorem suffix_of_read {cs rest : List Char} (h : (read cs).2 = some rest) : rest <:+ cs :=
  ((reads_all _).1 0 cs).left rest h

/-- A text is read to its end or to a fault in it, and never until the fuel is used up. -/
theorem read_eq_value {cs : List Char} {fuel : Nat} (h : 2 * cs.length + 2 ≤ fuel) :
    read cs = value fuel 0 cs :=
  ((fuel_irrelevant _ fuel h).1 0 cs (by omega)).symm

end TypedRouter.Outline
