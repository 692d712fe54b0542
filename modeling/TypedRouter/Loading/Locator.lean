import TypedRouter.Url.Reader

/-!
# Where documents are

A document is at a URL if its place starts like one, and in a file otherwise.
-/

namespace TypedRouter.Loading

/-- Where a document is. -/
inductive Locator where
  | url (url : Url)
  | file (path : String)
  deriving Repr, Inhabited

namespace Locator

/-- Whether a text starts like the URL of a document. -/
def isRemoteText (text : String) : Bool :=
  "http://".toList.isPrefixOf text.toList || "https://".toList.isPrefixOf text.toList

/-- The place that a text names. -/
def ofText (text : String) : Except Url.Fault Locator :=
  if isRemoteText text then (Url.ofText text).map .url else .ok (.file text)

/-- Whether a place is reached over the network. -/
def isRemote : Locator → Bool
  | .url _ => true
  | .file _ => false

/-- A place as text. -/
def text : Locator → String
  | .url u => u.text
  | .file path => path

end Locator

end TypedRouter.Loading
