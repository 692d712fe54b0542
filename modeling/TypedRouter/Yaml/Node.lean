import TypedRouter.Yaml.Token.Lexer

/-!
# YAML nodes

A text is a list of documents, and a document is a node: a scalar, a sequence, a mapping, or
another node under the name of its anchor.  Where a node is missing an empty plain scalar
stands.

A result of `none` means that the text is not well formed.
-/

namespace TypedRouter.Yaml

/-- The name and the tag that lead a node. -/
structure Lead where
  anchor : Option String := none
  tag : Option String := none
  deriving DecidableEq, Repr, Inhabited

/-- The lead of a scalar, which may have a lone exclamation mark as its tag; that says nothing. -/
def Lead.ofScalar (lead : Lead) : Lead :=
  if lead.tag == some "!" then { lead with tag := none } else lead

/-- A node of a document. -/
inductive Node where
  | alias (name : String)
  | scalar (lead : Lead) (style : Style) (text : String)
  | sequence (lead : Lead) (items : List Node)
  | mapping (lead : Lead) (members : List (Node × Node))
  deriving Repr, Inhabited

namespace Node

/-- The node that stands where none is written. -/
def empty : Node := .scalar {} .plain ""

/-- A reader of nodes takes them from the front of a list of tokens. -/
abbrev Reader (α : Type) := List Token → Option (α × List Token)

/-- What the handles of tags stand for. -/
abbrev Handles := List (String × String)

/-- The handles that every document knows. -/
def defaultHandles : Handles := [("!", "!"), ("!!", "tag:yaml.org,2002:")]

/-- The tag that a handle and a suffix stand for. -/
def expandTag (handles : Handles) (handle suffix : String) : Option String :=
  if handle.isEmpty then some suffix else (handles.lookup handle).map (· ++ suffix)

/-- Reads the anchor and the tag before a node, in either order. -/
def lead (handles : Handles) : Reader Lead
  | .anchor a :: .tag h s :: rest => do return (⟨some a, ← expandTag handles h s⟩, rest)
  | .anchor a :: rest => some (⟨some a, none⟩, rest)
  | .tag h s :: .anchor a :: rest => do return (⟨some a, ← expandTag handles h s⟩, rest)
  | .tag h s :: rest => do return (⟨none, ← expandTag handles h s⟩, rest)
  | rest => some ({}, rest)

/-- Where a node may stand, which says what may be left out and how lists may be written. -/
inductive Context where
  /-- As a part of a block list or as a document. -/
  | block
  /-- As a part of a block mapping, where a list needs no indentation. -/
  | member
  /-- In a flow collection. -/
  | flow
  deriving DecidableEq, Repr

/-- Whether no node can start with a token in a block list. -/
def endsEntry : Token → Bool
  | .blockEntry => true
  | .blockEnd => true
  | _ => false

/-- Whether no node can start with a token in a list without indentation. -/
def endsMemberEntry : Token → Bool
  | .blockEntry => true
  | .key => true
  | .value => true
  | .blockEnd => true
  | _ => false

/-- Whether no node can start with a token in a block mapping. -/
def endsMember : Token → Bool
  | .key => true
  | .value => true
  | .blockEnd => true
  | _ => false

/-- Whether no value can start with a token in a flow collection with this closing mark. -/
def endsFlowValue (close t : Token) : Bool := t == .flowEntry || t == close

/-- Whether no key can start with a token in a flow collection with this closing mark. -/
def endsFlowKey (close t : Token) : Bool := t == .value || endsFlowValue close t

/-- Whether a list of tokens starts with one of a kind. -/
def starts (p : Token → Bool) (ts : List Token) : Bool := ts.head?.any p

mutual

/-- Reads a node. -/
def read (handles : Handles) : Nat → Context → Reader Node
  | 0, _, _ => none
  | fuel + 1, context, ts =>
    match ts with
    | .alias name :: rest => some (.alias name, rest)
    | ts => do
      let (lead, ts) ← lead handles ts
      match ts with
      | .scalar style text :: rest => return (.scalar lead.ofScalar style text, rest)
      | .flowSequenceStart :: rest =>
        let (items, rest) ← flowItems handles fuel true rest
        return (.sequence lead items, rest)
      | .flowMappingStart :: rest =>
        let (members, rest) ← flowMembers handles fuel true rest
        return (.mapping lead members, rest)
      | .blockEntry :: rest =>
        if context = .member then
          let (items, rest) ← bareItems handles fuel (.blockEntry :: rest)
          return (.sequence lead items, rest)
        else if lead.anchor.isSome || lead.tag.isSome then
          return (.scalar lead .plain "", .blockEntry :: rest)
        else none
      | .blockSequenceStart :: rest =>
        if context = .flow then missing lead (.blockSequenceStart :: rest)
        else
          let (items, rest) ← blockItems handles fuel rest
          return (.sequence lead items, rest)
      | .blockMappingStart :: rest =>
        if context = .flow then missing lead (.blockMappingStart :: rest)
        else
          let (members, rest) ← blockMembers handles fuel rest
          return (.mapping lead members, rest)
      | rest => missing lead rest
termination_by structural fuel => fuel

/-- A node that is missing after its anchor and tag; it may not be missing without them. -/
def missing (lead : Lead) : Reader Node := fun ts =>
  if lead.anchor.isSome || lead.tag.isSome then some (.scalar lead .plain "", ts) else none

/-- Reads the items of a block list up to its end. -/
def blockItems (handles : Handles) : Nat → Reader (List Node)
  | 0, _ => none
  | fuel + 1, ts =>
    match ts with
    | .blockEnd :: rest => some ([], rest)
    | .blockEntry :: rest => do
      let (item, rest) ←
        if starts endsEntry rest then some (empty, rest) else read handles fuel .block rest
      let (items, rest) ← blockItems handles fuel rest
      return (item :: items, rest)
    | _ => none
termination_by structural fuel => fuel

/-- Reads the items of a list without indentation. -/
def bareItems (handles : Handles) : Nat → Reader (List Node)
  | 0, _ => none
  | fuel + 1, ts =>
    match ts with
    | .blockEntry :: rest => do
      let (item, rest) ←
        if starts endsMemberEntry rest then some (empty, rest) else read handles fuel .block rest
      let (items, rest) ← bareItems handles fuel rest
      return (item :: items, rest)
    | rest => some ([], rest)
termination_by structural fuel => fuel

/-- Reads the members of a block mapping up to its end. -/
def blockMembers (handles : Handles) : Nat → Reader (List (Node × Node))
  | 0, _ => none
  | fuel + 1, ts =>
    match ts with
    | .blockEnd :: rest => some ([], rest)
    | .key :: rest => do
      let (key, rest) ←
        if starts endsMember rest then some (empty, rest) else read handles fuel .member rest
      let (value, rest) ← blockValue handles fuel rest
      let (members, rest) ← blockMembers handles fuel rest
      return ((key, value) :: members, rest)
    | _ => none
termination_by structural fuel => fuel

/-- Reads the value of a member of a block mapping, which may be left out. -/
def blockValue (handles : Handles) : Nat → Reader Node
  | 0, _ => none
  | fuel + 1, ts =>
    match ts with
    | .value :: rest =>
      if starts endsMember rest then some (empty, rest) else read handles fuel .member rest
    | rest => some (empty, rest)
termination_by structural fuel => fuel

/-- Reads the items of a flow list up to its end.  A key among them makes an item that is a
mapping with one member. -/
def flowItems (handles : Handles) : Nat → Bool → Reader (List Node)
  | 0, _, _ => none
  | fuel + 1, first, ts =>
    match ts with
    | .flowSequenceEnd :: rest => some ([], rest)
    | ts => do
      let ts ← if first then some ts else match ts with
        | .flowEntry :: rest => some rest
        | _ => none
      match ts with
      | .flowSequenceEnd :: rest => return ([], rest)
      | .key :: rest =>
        let (key, rest) ←
          if starts (endsFlowKey .flowSequenceEnd) rest then some (empty, rest.drop 1)
          else read handles fuel .flow rest
        let (value, rest) ← flowValue handles fuel .flowSequenceEnd rest
        let (items, rest) ← flowItems handles fuel false rest
        return (.mapping {} [(key, value)] :: items, rest)
      | ts =>
        let (item, rest) ← read handles fuel .flow ts
        let (items, rest) ← flowItems handles fuel false rest
        return (item :: items, rest)
termination_by structural fuel => fuel

/-- Reads the members of a flow mapping up to its end.  A part without a key mark is a key
without a value. -/
def flowMembers (handles : Handles) : Nat → Bool → Reader (List (Node × Node))
  | 0, _, _ => none
  | fuel + 1, first, ts =>
    match ts with
    | .flowMappingEnd :: rest => some ([], rest)
    | ts => do
      let ts ← if first then some ts else match ts with
        | .flowEntry :: rest => some rest
        | _ => none
      match ts with
      | .flowMappingEnd :: rest => return ([], rest)
      | .key :: rest =>
        let (key, rest) ←
          if starts (endsFlowKey .flowMappingEnd) rest then some (empty, rest)
          else read handles fuel .flow rest
        let (value, rest) ← flowValue handles fuel .flowMappingEnd rest
        let (members, rest) ← flowMembers handles fuel false rest
        return ((key, value) :: members, rest)
      | ts =>
        let (key, rest) ← read handles fuel .flow ts
        let (members, rest) ← flowMembers handles fuel false rest
        return ((key, empty) :: members, rest)
termination_by structural fuel => fuel

/-- Reads the value of a member in a flow collection, which may be left out. -/
def flowValue (handles : Handles) : Nat → Token → Reader Node
  | 0, _, _ => none
  | fuel + 1, close, ts =>
    match ts with
    | .value :: rest =>
      if starts (endsFlowValue close) rest then some (empty, rest)
      else read handles fuel .flow rest
    | rest => some (empty, rest)
termination_by structural fuel => fuel

end

/-! ## Documents -/

/-- Reads the directives before a document: at most one version, which has to be 1.1 or 1.2,
and at most one for each handle of tags. -/
def directives : Nat → Bool → Handles → Reader Handles
  | 0, _, _, _ => none
  | fuel + 1, versioned, handles, ts =>
    match ts with
    | .version major minor :: rest =>
      if versioned || major != 1 || (minor != 1 && minor != 2) then none
      else directives fuel true handles rest
    | .tagDirective handle expansion :: rest =>
      if (handles.lookup handle).isSome then none
      else directives fuel versioned (handles ++ [(handle, expansion)]) rest
    | rest => some (handles ++ defaultHandles, rest)

/-- Whether the text ends at a token, or a document starts there with a mark. -/
def startsDocument : Token → Bool
  | .version _ _ => true
  | .tagDirective _ _ => true
  | .documentStart => true
  | .streamEnd => true
  | _ => false

/-- Whether a document without content ends at a token. -/
def endsDocument (t : Token) : Bool := startsDocument t || t == .documentEnd

/-- Passes over the mark at the end of a document, if there is one. -/
def passEnd : List Token → List Token
  | .documentEnd :: rest => rest
  | rest => rest

/-- Passes over all marks at the end of documents. -/
def passEnds : List Token → List Token
  | .documentEnd :: rest => passEnds rest
  | rest => rest

/-- Reads the documents that start with a mark, up to the end of the text. -/
def moreDocuments : Nat → List Token → Option (List Node)
  | 0, _ => none
  | fuel + 1, ts =>
    match passEnds ts with
    | [.streamEnd] => some []
    | ts => do
      match ← directives (ts.length + 1) false [] ts with
      | (handles, .documentStart :: rest) =>
        let (node, rest) ←
          if starts endsDocument rest then some (empty, rest)
          else read handles (2 * rest.length + 2) .block rest
        let nodes ← moreDocuments fuel (passEnd rest)
        return node :: nodes
      | _ => none

/-- The documents of a text.  The first may start without a mark. -/
def ofTokens? (ts : List Token) : Option (List Node) :=
  if starts startsDocument ts then moreDocuments (ts.length + 1) ts
  else do
    let (node, rest) ← read defaultHandles (2 * ts.length + 2) .block ts
    let nodes ← moreDocuments (ts.length + 1) (passEnd rest)
    return node :: nodes

/-- The documents of a text. -/
def ofText? (text : String) : Option (List Node) := do
  ofTokens? (← Token.ofText? text)

end Node

end TypedRouter.Yaml
