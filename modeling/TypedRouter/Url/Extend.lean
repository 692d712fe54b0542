import TypedRouter.Url.Form
import TypedRouter.Url.Reader

/-!
# Extending URLs

Segments can be added below the path of a URL, and pairs at the end of its query; nothing else
of the URL changes.  The text of a segment is encoded, so it stays one segment whatever it
holds.  Segments that are one point or two are left out.
-/

namespace TypedRouter.Url

/-- The segments of a path, if it has segments. -/
def Path.items? : Path → Option (List (List Char))
  | .plain _ => none
  | .segments items => some items

/-- The segments of a path without an empty one at the end, which a slash at the end of the path
leaves; a path that is only a slash stays. -/
def withoutLastEmpty (items : List (List Char)) : List (List Char) :=
  if items.length > 1 ∧ items.getLast? = some [] then items.dropLast else items

/-- Adds a segment below a path; the path that is only a slash gives way to it.  Tabs and line
breaks are dropped from the text of the segment, and what is left may be one that is carried
out. -/
def addSegment (escaped : Char → Bool) (isFile : Bool) (items : List (List Char))
    (text : String) : List (List Char) :=
  if text = "." ∨ text = ".." then items
  else
    let base := if items = [[]] then [] else items
    let segment := Percent.encode escaped (text.toList.filter fun c => !Reader.isDropped c)
    Reader.addSegments isFile base [segment]

/-- The URL with segments added below its path, if its path has segments. -/
def below? (u : Url) (texts : List String) : Option Url := do
  let items ← u.path.items?
  let escaped := if isSpecial u.scheme then Percent.specialSegment else Percent.segment
  let isFile := u.scheme == "file".toList
  let items := texts.foldl (addSegment escaped isFile) (withoutLastEmpty items)
  return { u with path := .segments items }

/-- The URL with pairs added at the end of its query. -/
def addPairs (u : Url) (ps : List (String × String)) : Url :=
  if ps.isEmpty then u
  else
    let before := match u.query with
      | none => []
      | some [] => []
      | some query => query ++ ['&']
    { u with query := some (before ++ Form.pairs ps) }

end TypedRouter.Url
