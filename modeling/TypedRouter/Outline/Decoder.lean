import TypedRouter.Outline.Value

/-!
# Decoding outlines

Readers for the parts that documents are made of: texts, truth values, lists, maps, records and
choices.

A record is written as an object, whose unknown members are passed over, or as a list of its
fields in order.  A choice between alternatives looks at the whole part first; it then forgets
how scalars were spelled, and takes a number for a field name as the position of the field.
-/

namespace TypedRouter.Outline

/-- What an outline is, for the text of an error. -/
def found : Outline → Found
  | .null => .null
  | .bool b => .bool b
  | .number n => .number n
  | .nonFinite => .nonFinite
  | .text s => .text s
  | .scalar s _ => .text s
  | .list _ _ => .sequence
  | .object _ _ => .map
  | .tagged _ => .variant
  | .broken _ => .variant
  | .unreadable _ (.list _ _) => .sequence
  | .unreadable _ (.object _ _) => .map
  | .unreadable _ _ => .variant

/-- Fails because an outline is not of the kind that is wanted.  A fault of the text comes
first, but the depth of a list or an object does not matter here. -/
def unexpected {α : Type} (wanted : String) (o : Outline) : Decoded α :=
  match o with
  | .broken f => Decoded.fail (.fault f)
  | .unreadable _ (.list _ _) => Decoded.fail (.wrongType o.found wanted)
  | .unreadable _ (.object _ _) => Decoded.fail (.wrongType o.found wanted)
  | .unreadable f _ => Decoded.fail (.fault f)
  | o => Decoded.fail (.wrongType o.found wanted)

/-! ## Simple readers -/

/-- Reads a text. -/
def asText : Outline → Decoded String
  | .text s => .ok s
  | .scalar s _ => .ok s
  | o => o.unexpected "a string"

/-- Reads a truth value. -/
def asBool : Outline → Decoded Bool
  | .bool b => .ok b
  | .scalar _ (.bool b) => .ok b
  | o => o.unexpected "a boolean"

/-- Reads a part that may be null. -/
def optional {α : Type} (read : Outline → Decoded α) : Outline → Decoded (Option α)
  | .null => .ok none
  | .scalar _ .null => .ok none
  | o => (read o).map some

/-- Whether an outline is a scalar without any spelling, which counts as an empty list, map or
record. -/
def isEmptyScalar : Outline → Bool
  | .scalar "" .null => true
  | _ => false

/-! ## Lists and maps -/

/-- Reads the items of a list from a position on. -/
def readItems {α : Type} (read : Outline → Decoded α) (position : Nat) :
    List Outline → Decoded (List α)
  | [] => .ok []
  | x :: xs => do
    let v ← (read x).under (.index position)
    let vs ← readItems read (position + 1) xs
    return v :: vs

/-- Reads the members of a map. -/
def readMembers {α : Type} (read : Outline → Decoded α) :
    List (Outline × Outline) → Decoded (List (String × α))
  | [] => .ok []
  | (k, x) :: rest => do
    let name ← (nameText k).under .unknown
    let v ← (read x).under (.key name)
    let ms ← readMembers read rest
    return (name, v) :: ms

/-- Reads a list. -/
def asList {α : Type} (read : Outline → Decoded α) : Outline → Decoded (List α)
  | .list items stop => do
    let vs ← readItems read 0 items
    Decoded.stopped stop
    return vs
  | .tagged (.list items stop) => do
    let vs ← readItems read 0 items
    Decoded.stopped stop
    return vs
  | .unreadable f (.list _ _) => Decoded.fail (.fault f)
  | o => if o.isEmptyScalar then .ok [] else o.unexpected "a sequence"

/-- Reads a map from names to parts; a repeated name keeps its place and takes its last
value. -/
def asMap {α : Type} (read : Outline → Decoded α) : Outline → Decoded (List (String × α))
  | .object members stop => do
    let ms ← readMembers read members
    Decoded.stopped stop
    return OrderedMap.ofList ms
  | .tagged (.object members stop) => do
    let ms ← readMembers read members
    Decoded.stopped stop
    return OrderedMap.ofList ms
  | .unreadable f (.object _ _) => Decoded.fail (.fault f)
  | o => if o.isEmptyScalar then .ok [] else o.unexpected "a map"

/-! ## Records -/

/-- A field of a record: its name, whether the record needs it, and how its part is read. -/
structure Field (σ : Type) where
  name : String
  required : Bool
  read : Outline → Decoded (σ → σ)

/-- A field that a record may lack. -/
def Field.mayLack {σ α : Type} (name : String) (read : Outline → Decoded α)
    (put : α → σ → σ) : Field σ :=
  ⟨name, false, fun o => (read o).map put⟩

/-- A field that a record needs. -/
def Field.needed {σ α : Type} (name : String) (read : Outline → Decoded α)
    (put : α → σ → σ) : Field σ :=
  ⟨name, true, fun o => (read o).map put⟩

/-- The position that a member name of number type stands for. -/
def fieldPosition? : Outline → Option Nat
  | .number (.int i) => if 0 ≤ i then some i.toNat else none
  | _ => none

/-- The field that a member name picks from a list of field names, if there is one. -/
def fieldName? (names : List String) (key : Outline) : Decoded (Option String) :=
  match fieldPosition? key with
  | some n => .ok names[n]?
  | none => do
    let name ← (nameText key).under .unknown
    return names.find? (· == name)

/-- Reads the members of a record that is written as an object. -/
def readFields {σ : Type} (fields : List (Field σ)) (seen : List String) (acc : σ) :
    List (Outline × Outline) → Decoded (List String × σ)
  | [] => .ok (seen, acc)
  | (k, x) :: rest => do
    match ← fieldName? (fields.map Field.name) k with
    | none =>
      skip x
      readFields fields seen acc rest
    | some name =>
      if seen.contains name then Decoded.fail (.duplicateField name)
      else
        match fields.find? (·.name == name) with
        | none => readFields fields seen acc rest
        | some field =>
          let put ← (field.read x).under (.key name)
          readFields fields (name :: seen) (put acc) rest

/-- Reads the items of a record that is written as a list.  `count` is the length of the whole
list, and `wanted` says what the record is. -/
def readPositions {σ : Type} (wanted : String) (count : Nat) (stop : Option Fault) :
    Nat → List (Field σ) → List Outline → σ → Decoded σ
  | _, [], [], acc => do
    Decoded.stopped stop
    return acc
  | _, [], _ :: _, _ => Decoded.fail (.tooLong count)
  | position, field :: fields, [], acc => do
    Decoded.stopped stop
    if field.required then Decoded.fail (.tooShort position wanted)
    else readPositions wanted count stop position fields [] acc
  | position, field :: fields, x :: xs, acc => do
    let put ← (field.read x).under (.index position)
    readPositions wanted count stop (position + 1) fields xs (put acc)

/-- What a record is, with the number of its fields. -/
def recordTitle (title : String) (count : Nat) : String :=
  "struct " ++ title ++ " with " ++ toString count ++
    (if count = 1 then " element" else " elements")

/-- Reads the members of a record and checks that it has the fields it needs. -/
def readObject {σ : Type} (fields : List (Field σ)) (blank : σ)
    (members : List (Outline × Outline)) (stop : Option Fault) : Decoded σ := do
  let (seen, acc) ← readFields fields [] blank members
  Decoded.stopped stop
  match fields.find? fun field => field.required && !seen.contains field.name with
  | some field => Decoded.fail (.missingField field.name)
  | none => return acc

/-- Reads a record, starting from a blank one. -/
def asRecord {σ : Type} (title : String) (fields : List (Field σ)) (blank : σ) :
    Outline → Decoded σ
  | .object members stop => readObject fields blank members stop
  | .tagged (.object members stop) => readObject fields blank members stop
  | .list items stop =>
    readPositions (recordTitle title fields.length) items.length stop 0 fields items blank
  | .tagged (.list items stop) =>
    readPositions (recordTitle title fields.length) items.length stop 0 fields items blank
  | .unreadable f _ => Decoded.fail (.fault f)
  | o =>
    if o.isEmptyScalar then readObject fields blank [] none
    else o.unexpected ("struct " ++ title)

/-! ## Choices -/

/-- The step to the member with this name. -/
def memberStep : Outline → Step
  | .text s => .key s
  | .number n => .key n.text
  | .bool b => .key (if b then "true" else "false")
  | _ => .unknown

mutual

/-- Reads a whole part for a choice: scalars become what their spelling stands for. -/
def whole : Outline → Decoded Outline
  | .scalar _ v => whole v
  | .list items stop => do
    let xs ← wholeItems 0 items
    Decoded.stopped stop
    return .list xs none
  | .object members stop => do
    let ms ← wholeMembers members
    Decoded.stopped stop
    return .object ms none
  | .tagged _ => Decoded.fail (.wrongType .variant "any value")
  | .broken f => Decoded.fail (.fault f)
  | .unreadable f _ => Decoded.fail (.fault f)
  | o => .ok o
termination_by structural o => o

/-- Reads the whole items of a list from a position on. -/
def wholeItems (position : Nat) : List Outline → Decoded (List Outline)
  | [] => .ok []
  | x :: xs => do
    let v ← (whole x).under (.index position)
    let vs ← wholeItems (position + 1) xs
    return v :: vs
termination_by structural xs => xs

/-- Reads the whole members of an object. -/
def wholeMembers : List (Outline × Outline) → Decoded (List (Outline × Outline))
  | [] => .ok []
  | (k, x) :: rest => do
    let key ← (whole k).under .unknown
    let v ← (whole x).under (memberStep key)
    let ms ← wholeMembers rest
    return (key, v) :: ms
termination_by structural xs => xs

end

/-- Reads one of some names, as a text or as an object whose one member has that name and is
null.  A name that is not known stands for the last resort. -/
def asName {α : Type} (known : List (String × α)) (other : α) (o : Outline) : Decoded α :=
  match o with
  | .text s => .ok ((known.lookup s).getD other)
  | .object [(key, .null)] none =>
    match fieldPosition? key with
    | some n => .ok ((known[n]?.map Prod.snd).getD other)
    | none => do
      let name ← nameText key
      return (known.lookup name).getD other
  | o => o.unexpected "string or map"

/-- Reads the first of two alternatives that decodes. -/
def asEither {α : Type} (choice : String) (first second : Outline → Decoded α) (o : Outline) :
    Decoded α := do
  let o ← whole o
  match first o with
  | .ok v => .ok v
  | .error _ =>
    match second o with
    | .ok v => .ok v
    | .error _ => Decoded.fail (.noVariant choice)

end TypedRouter.Outline
