import TypedRouter.Url.Basic
import TypedRouter.Url.Domain

/-!
# Reading URLs

A text is read as a URL that stands on its own.  Blanks and control characters at its ends and
all tabs and line breaks are dropped first.  Then the text is cut: at the first hash, at the
first question mark before that, and at the colon after the scheme.  What is between the scheme
and the query is an authority and a path, or only a path.

In a special URL a backslash is as good as a slash, any number of slashes leads the authority,
and there has to be a host.  Segments that are one point or two, also if they are encoded, are
carried out and not kept.
-/

namespace TypedRouter

namespace Url

open Text

/-- Why a text is no URL. -/
inductive Fault where
  | relative
  | noHost
  | badDomain
  | badHostCharacter
  | badV4
  | badV6
  | badPort
  deriving DecidableEq, Repr, Inhabited

/-- A fault in words. -/
def Fault.message : Fault → String
  | .relative => "relative URL without a base"
  | .noHost => "empty host"
  | .badDomain => "invalid international domain name"
  | .badHostCharacter => "invalid domain character"
  | .badV4 => "invalid IPv4 address"
  | .badV6 => "invalid IPv6 address"
  | .badPort => "invalid port number"

namespace Reader

/-- Whether a character is dropped at the ends of a text. -/
def isOuterBlank (c : Char) : Bool := decide (c.toNat ≤ 0x20)

/-- Whether a character is dropped anywhere. -/
def isDropped (c : Char) : Bool := c == '\t' || c == '\n' || c == '\r'

/-- A text without the characters that are dropped. -/
def clean (cs : List Char) : List Char :=
  let inner := (cs.dropWhile isOuterBlank).reverse.dropWhile isOuterBlank
  inner.reverse.filter fun c => !isDropped c

/-- Whether a character may stand in a scheme after its first letter. -/
def isSchemeChar (c : Char) : Bool :=
  c.isAlphanum || c == '+' || c == '-' || c == '.'

/-- The scheme at the front of a text, in small letters, and what follows its colon. -/
def scheme? (cs : List Char) : Option (List Char × List Char) :=
  match cs, cs.dropWhile isSchemeChar with
  | c :: _, ':' :: rest =>
    if c.isAlpha then some ((cs.takeWhile isSchemeChar).map Char.toLower, rest) else none
  | _, _ => none

/-- A text before the first of a mark, and what follows the mark, if it is there. -/
def cut (mark : Char) (cs : List Char) : List Char × Option (List Char) :=
  match cs.dropWhile (· != mark) with
  | [] => (cs, none)
  | _ :: rest => (cs.takeWhile (· != mark), some rest)

/-! ## Authorities -/

/-- The text before the last at sign, if there is one, and the text after it. -/
def cutUser (cs : List Char) : Option (List Char) × List Char :=
  let last := (cs.reverse.takeWhile (· != '@')).reverse
  if last.length < cs.length then (some (cs.take (cs.length - last.length - 1)), last)
  else (none, cs)

/-- How many characters a host takes: those before the first colon outside brackets. -/
def hostLength (inBrackets : Bool) : List Char → Nat
  | [] => 0
  | c :: rest =>
    if c = ':' ∧ ¬inBrackets then 0
    else if c = '[' then hostLength true rest + 1
    else if c = ']' then hostLength false rest + 1
    else hostLength inBrackets rest + 1

/-- The characters that a host may not have if the scheme is not special. -/
def isForbiddenHostChar (c : Char) : Bool :=
  ['\x00', '\t', '\n', '\x0d', ' ', '#', '/', ':', '<', '>', '?', '@', '[', '\\', ']', '^',
    '|'].contains c

/-- The address in brackets that a text denotes. -/
def v6Host (cs : List Char) : Except Fault Host :=
  match cs.getLast? with
  | some ']' =>
    match Address.v6? (cs.drop 1).dropLast with
    | some words => .ok (.v6 words)
    | none => .error .badV6
  | _ => .error .badV6

/-- The host that a text denotes in a special URL. -/
def specialHost (cs : List Char) : Except Fault Host :=
  if cs.head? = some '[' then v6Host cs
  else
    match Domain.ofText? cs with
    | none => .error .badDomain
    | some [] => .error .noHost
    | some domain =>
      if Address.endsInNumber domain then
        match Address.v4? domain with
        | some address => .ok (.v4 address)
        | none => .error .badV4
      else .ok (.name domain)

/-- The host that a text denotes in any other URL. -/
def plainHost (cs : List Char) : Except Fault Host :=
  if cs.head? = some '[' then v6Host cs
  else if cs.any isForbiddenHostChar then .error .badHostCharacter
  else .ok (.name (Percent.encode Percent.isControl cs))

/-- The port that a text denotes; the usual port of the scheme counts as none. -/
def port (scheme cs : List Char) : Except Fault (Option Nat) :=
  if cs.isEmpty then .ok none
  else
    match digits? 10 cs with
    | none => .error .badPort
    | some n =>
      if n > 65535 then .error .badPort
      else if usualPort? scheme = some n then .ok none
      else .ok (some n)

/-- The authority that a text denotes. -/
def authority (scheme cs : List Char) : Except Fault Authority := do
  let (user, server) := cutUser cs
  let (name, password) := cut ':' (user.getD [])
  let hostText := server.take (hostLength false server)
  let portText := server.drop hostText.length
  if hostText.isEmpty && (isSpecial scheme || user.isSome || !portText.isEmpty) then throw .noHost
  let host ← if isSpecial scheme then specialHost hostText else plainHost hostText
  return {
    user := Percent.encode Percent.userinfo name
    password := Percent.encode Percent.userinfo (password.getD [])
    host
    port := ← port scheme (portText.drop 1) }

/-! ## Paths -/

/-- Whether a segment stands for the segment that it is in. -/
def isSingleDot (s : List Char) : Bool :=
  ["." , "%2e"].contains (String.ofList (s.map Char.toLower))

/-- Whether a segment stands for the one before it. -/
def isDoubleDot (s : List Char) : Bool :=
  ["..", ".%2e", "%2e.", "%2e%2e"].contains (String.ofList (s.map Char.toLower))

/-- Whether a segment is a letter that names a drive. -/
def isDrive : List Char → Bool
  | [c, d] => c.isAlpha && (d == ':' || d == '|')
  | _ => false

/-- The segments without the last one, which stays if it names a drive. -/
def parent (items : List (List Char)) : List (List Char) :=
  if items.getLast?.any isDrive then items else items.dropLast

/-- Adds the segments of a path, and carries out those that are points. -/
def addSegments (isFile : Bool) (items : List (List Char)) : List (List Char) → List (List Char)
  | [] => items
  | s :: rest =>
    let after :=
      if isDoubleDot s then parent items ++ (if rest.isEmpty then [[]] else [])
      else if isSingleDot s then items ++ (if rest.isEmpty then [[]] else [])
      else if isFile && items.isEmpty && isDrive s then [s.take 1 ++ [':']]
      else items ++ [s]
    addSegments isFile after rest

/-- The segments of a path that follows a slash. -/
def segments (isFile : Bool) (cs : List Char) : List (List Char) :=
  addSegments isFile [] (split '/' (Percent.encode Percent.path cs))

/-- Segments without the empty ones at the front; the last one stays. -/
def dropEmpty : List (List Char) → List (List Char)
  | [] :: s :: rest => dropEmpty (s :: rest)
  | items => items

/-- The segments of a path that has a slash at its front or none; a path without any text has
no segments unless it must have one. -/
def segmentsOf (isFile needed : Bool) (cs : List Char) : List (List Char) :=
  match cs with
  | [] => if needed then [[]] else []
  | '/' :: rest => segments isFile rest
  | cs => segments isFile cs

/-- The authority and the path of a file URL. -/
def filePlace (cs : List Char) : Except Fault (Option Authority × Path) := do
  let path (cs : List Char) : Path := .segments (dropEmpty (segmentsOf true true cs))
  match cs with
  | '/' :: '/' :: rest =>
    let hostText := rest.takeWhile (· != '/')
    if isDrive hostText then return (some ⟨[], [], .name [], none⟩, path rest)
    else
      let host ← if hostText.isEmpty then pure (.name []) else specialHost hostText
      let host := if host = .name "localhost".toList then .name [] else host
      return (some ⟨[], [], host, none⟩, path (rest.drop hostText.length))
  | cs => return (some ⟨[], [], .name [], none⟩, path cs)

/-- The authority and the path after the slashes that lead them. -/
def authorityPlace (scheme cs : List Char) : Except Fault (Option Authority × Path) := do
  let authorityText := cs.takeWhile (· != '/')
  let a ← authority scheme authorityText
  let rest := cs.drop authorityText.length
  return (some a, .segments (segmentsOf false (isSpecial scheme) rest))

/-- The authority and the path of a URL. -/
def place (scheme cs : List Char) : Except Fault (Option Authority × Path) :=
  if isSpecial scheme then
    let cs := cs.map fun c => if c = '\\' then '/' else c
    if scheme = "file".toList then filePlace cs
    else authorityPlace scheme (cs.dropWhile (· = '/'))
  else
    match cs with
    | '/' :: '/' :: rest => authorityPlace scheme rest
    | '/' :: rest => .ok (none, .segments (segments false rest))
    | cs => .ok (none, .plain (Percent.encode Percent.isControl cs))

end Reader

open Reader in
/-- The URL that a text denotes. -/
def ofText (s : String) : Except Fault Url :=
  match scheme? (clean s.toList) with
  | none => .error .relative
  | some (scheme, rest) => do
    let (rest, fragment) := cut '#' rest
    let (rest, query) := cut '?' rest
    let (authority, path) ← place scheme rest
    return {
      scheme, authority, path
      query := query.map (Percent.encode
        (if isSpecial scheme then Percent.specialQuery else Percent.query))
      fragment := fragment.map (Percent.encode Percent.fragment) }

end Url

end TypedRouter
