import TypedRouter.Url.Address

/-!
# URLs

A URL has a scheme, a path and, as it may be, an authority, a query and a fragment.  A path is a
list of segments, or else a plain text, to which no segment can be added.  The parts are kept as
they are written in the URL, that is, percent-encoded.

A few schemes are special: their URLs have an authority and segments.
-/

namespace TypedRouter

/-- A host. -/
inductive Url.Host where
  /-- A domain, or any text if the scheme is not special. -/
  | name (text : List Char)
  /-- An address of four bytes, as one number. -/
  | v4 (address : Nat)
  /-- An address of eight words. -/
  | v6 (words : List Nat)
  deriving DecidableEq, Repr, Inhabited

/-- A host with what may stand around it. -/
structure Url.Authority where
  user : List Char := []
  password : List Char := []
  host : Url.Host
  /-- A port other than the usual one of the scheme. -/
  port : Option Nat := none
  deriving DecidableEq, Repr, Inhabited

/-- A path. -/
inductive Url.Path where
  /-- A text without segments. -/
  | plain (text : List Char)
  /-- Segments, each with a slash before it. -/
  | segments (items : List (List Char))
  deriving DecidableEq, Repr, Inhabited

/-- A URL. -/
structure Url where
  scheme : List Char
  authority : Option Url.Authority
  path : Url.Path
  query : Option (List Char)
  fragment : Option (List Char)
  deriving DecidableEq, Repr, Inhabited

namespace Url

/-- A host as text. -/
def Host.chars : Host → List Char
  | .name text => text
  | .v4 address => Address.v4Chars address
  | .v6 words => Address.v6Chars words

/-- The user of an authority as text, with the mark after it. -/
def Authority.userChars (a : Authority) : List Char :=
  match a.user, a.password with
  | [], [] => []
  | user, [] => user ++ ['@']
  | user, password => user ++ ':' :: (password ++ ['@'])

/-- An authority as text. -/
def Authority.chars (a : Authority) : List Char :=
  let port := match a.port with
    | none => []
    | some port => ':' :: Text.numeral port
  a.userChars ++ a.host.chars ++ port

/-- Segments as text. -/
def segmentChars (items : List (List Char)) : List Char :=
  items.flatMap ('/' :: ·)

/-- A path as text. -/
def Path.chars : Path → List Char
  | .plain text => text
  | .segments items => segmentChars items

/-- What stands between the scheme and the path.  Without an authority, two slashes at the start
of a path would look like one, so a point is put in front of them. -/
def leadChars (u : Url) : List Char :=
  match u.authority, u.path with
  | some a, _ => '/' :: '/' :: a.chars
  | none, .segments ([] :: _ :: _) => ['/', '.']
  | none, _ => []

/-- A part of a URL with the mark before it, if it is there. -/
def partChars (mark : Char) : Option (List Char) → List Char
  | none => []
  | some text => mark :: text

/-- A URL as text. -/
def chars (u : Url) : List Char :=
  u.scheme ++ ':' :: (u.leadChars ++ u.path.chars ++ partChars '?' u.query ++
    partChars '#' u.fragment)

/-- A URL as text. -/
def text (u : Url) : String :=
  String.ofList u.chars

/-- What a URL asks a server for: its path and its query. -/
def target (u : Url) : String :=
  String.ofList (u.path.chars ++ partChars '?' u.query)

/-- The schemes whose URLs have an authority and segments. -/
def specialSchemes : List String := ["http", "https", "ws", "wss", "ftp", "file"]

/-- Whether a scheme is special. -/
def isSpecial (scheme : List Char) : Bool :=
  specialSchemes.contains (String.ofList scheme)

/-- The port that a scheme uses unless another one is named. -/
def usualPort? (scheme : List Char) : Option Nat :=
  match String.ofList scheme with
  | "http" => some 80
  | "ws" => some 80
  | "https" => some 443
  | "wss" => some 443
  | "ftp" => some 21
  | _ => none

end Url

end TypedRouter
