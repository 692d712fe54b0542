import TypedRouter.OpenApi.Schema
import TypedRouter.Outline.Decoder

/-!
# Decoding schemas

A schema is an object, whose unknown keywords are passed over, or a truth value, which sets no
keyword.  The `type` keyword is one name or a list of names.
-/

namespace TypedRouter.OpenApi

open Outline

/-- Reads one type name. -/
def SchemaType.decode (o : Outline) : Decoded SchemaType :=
  asName SchemaType.named .other o

/-- Reads the `type` keyword. -/
def SchemaType.decodeTypes (o : Outline) : Decoded (List SchemaType) :=
  asEither "TypesOr" (asList SchemaType.decode) (fun o => (SchemaType.decode o).map ([·])) o

namespace Schema

/-- The keywords of a schema that are read. -/
inductive Keyword where
  | reference
  | types
  | description
  | properties
  | required
  | variants
  | oneOf
  deriving DecidableEq, Repr

/-- The keywords by their names. -/
def Keyword.named : List (String × Keyword) :=
  [("$ref", .reference), ("type", .types), ("description", .description),
    ("properties", .properties), ("required", .required), ("enum", .variants),
    ("oneOf", .oneOf)]

mutual

/-- Reads a schema. -/
def decode : Outline → Decoded Schema
  | .bool _ => .ok {}
  | .scalar _ v => decode v
  | .object members stop => do
    let s ← decodeKeywords [] {} members
    Decoded.stopped stop
    return s
  | .unreadable f _ => Decoded.fail (.fault f)
  | o => o.unexpected "a schema object or a boolean"
termination_by structural o => o

/-- Reads the keywords of a schema into those that are set already. -/
def decodeKeywords (seen : List String) (acc : Schema) :
    List (Outline × Outline) → Decoded Schema
  | [] => .ok acc
  | (k, x) :: rest => do
    match ← fieldName? (Keyword.named.map Prod.fst) k with
    | none =>
      skip x
      decodeKeywords seen acc rest
    | some name =>
      if seen.contains name then Decoded.fail (.duplicateField name)
      else
        let acc ← Decoded.under (.key name) <|
          match Keyword.named.lookup name with
          | some .reference => (optional asText x).map fun r => { acc with reference := r }
          | some .types => (SchemaType.decodeTypes x).map fun ts => { acc with types := ts }
          | some .description => (optional asText x).map fun d => { acc with description := d }
          | some .properties => (decodeProperties x).map fun ps => { acc with properties := ps }
          | some .required => (asList asText x).map fun rs => { acc with required := rs }
          | some .variants =>
            (optional (asList toValue) x).map fun vs => { acc with variants := vs }
          | some .oneOf => (decodeMembers x).map fun ms => { acc with oneOf := ms }
          | none => .ok acc
        decodeKeywords (name :: seen) acc rest
termination_by structural members => members

/-- Reads the `properties` keyword. -/
def decodeProperties : Outline → Decoded (Option (List (String × Schema)))
  | .null => .ok none
  | .scalar _ .null => .ok none
  | .object members stop => do
    let ms ← decodeNamed members
    Decoded.stopped stop
    return some (OrderedMap.ofList ms)
  | .tagged inner => decodeProperties inner
  | .unreadable f (.object _ _) => Decoded.fail (.fault f)
  | o => o.unexpected "a map"
termination_by structural o => o

/-- Reads named schemas. -/
def decodeNamed : List (Outline × Outline) → Decoded (List (String × Schema))
  | [] => .ok []
  | (k, x) :: rest => do
    let name ← (nameText k).under .unknown
    let s ← (decode x).under (.key name)
    let ms ← decodeNamed rest
    return (name, s) :: ms
termination_by structural members => members

/-- Reads the `oneOf` keyword. -/
def decodeMembers : Outline → Decoded (Option (List Schema))
  | .null => .ok none
  | .scalar _ .null => .ok none
  | .list items stop => do
    let ss ← decodeItems 0 items
    Decoded.stopped stop
    return some ss
  | .tagged inner => decodeMembers inner
  | .unreadable f (.list _ _) => Decoded.fail (.fault f)
  | o => o.unexpected "a sequence"
termination_by structural o => o

/-- Reads the schemas of a list from a position on. -/
def decodeItems (position : Nat) : List Outline → Decoded (List Schema)
  | [] => .ok []
  | x :: xs => do
    let s ← (decode x).under (.index position)
    let ss ← decodeItems (position + 1) xs
    return s :: ss
termination_by structural items => items

end

end Schema

end TypedRouter.OpenApi
