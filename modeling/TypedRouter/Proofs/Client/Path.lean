import TypedRouter.Client.Call
import TypedRouter.Proofs.Url.Extend
import Mathlib.Data.List.Forall2

/-!
# The paths of calls

The URL of a procedure is the base URL of the client with the segments of the procedure added to its
path; an empty segment at the end of the path of the base makes room for them.  If the base is a URL
of HTTP, there always is such a URL.

A segment that is not empty, is not one point or two, and holds no tab and no line break comes
through as it is: it makes one segment of the path, and reading that segment gives it back, whatever
marks are in it.  So what is called can be told from the URL.

Other segments may come to nothing, and then the URL names something that is higher up than what is
called.  Points are carried out, those included that show only when a tab or a line break between
them is dropped, and an empty segment gives way to the one after it if nothing is before it.
-/

namespace TypedRouter.Client

open Text Url

/-- There is a URL for every procedure below a base of HTTP. -/
lemma urlFor_of_isHttp {c : Client} (hbase : c.base.IsHttp) (p : Procedure) :
    c.urlFor p none = .ok (c.base.extend p.segments) := by
  rw [urlFor, hbase.below?_eq]

/-! ## Segments that come through -/

/-- A procedure that has segments, each of which stands for itself. -/
structure Procedure.IsOrdinary (p : Procedure) : Prop where
  segments_ne_nil : p.segments ≠ []
  isOrdinary : ∀ t ∈ p.segments, Url.IsOrdinary t

/-- Whether a segment of a path is read as a text. -/
def Spells (s : List Char) (text : String) : Prop :=
  Utf8.decode? (Percent.decode s) = some text.toList

/-- The segment that is made from a text spells it. -/
lemma spells_segmentOf (text : String) : Spells (segmentOf text.toList) text := by
  rw [Spells, decode_segmentOf, Utf8.decode?_encode]

/-- A segment is read as one text only. -/
lemma rightUnique_spells : Relator.RightUnique Spells :=
  fun _ _ _ h h' => String.toList_inj.mp (Option.some.inj (h.symm.trans h'))

/-- The segments of a base without empty segments inside are followed by one segment for each of the
procedure. -/
lemma exists_pathSegments_extend {u : Url} {texts : List String} (hbase : u.IsHttp)
    (hfull : ∀ s ∈ u.pathSegments.dropLast, s ≠ []) (htexts : texts ≠ [])
    (h : ∀ t ∈ texts, Url.IsOrdinary t) :
    ∃ added, (u.extend texts).pathSegments = withoutTrailing u.pathSegments ++ added ∧
      List.Forall₂ Spells added texts := by
  have hslashes : u.pathSegments ≠ [[], []] := by
    intro heq
    rw [heq] at hfull
    exact hfull [] List.mem_cons_self rfl
  refine ⟨texts.map fun t => segmentOf t.toList, ?_, ?_⟩
  · rw [hbase.pathSegments_extend, foldl_addText_of_isOrdinary htexts h,
      openSegments_withoutLastEmpty hslashes]
  · exact List.forall₂_map_left_iff.mpr (List.forall₂_same.mpr fun t _ => spells_segmentOf t)

/-- Ordinary segments survive the URL.  Below a base of HTTP whose path has no empty segment, except
for one at its end, every procedure with such segments has a URL.  All of it but the path is that of
the base, and the path is that of the base, without the empty segment, followed by one segment for
each of the procedure, which is read as it.  So procedures with other segments have other URLs. -/
theorem urlFor_of_isOrdinary (c : Client) (hbase : c.base.IsHttp)
    (hfull : ∀ s ∈ c.base.pathSegments.dropLast, s ≠ []) :
    (∀ p : Procedure, p.IsOrdinary →
        ∃ url added, c.urlFor p none = .ok url ∧ url.scheme = c.base.scheme ∧
          url.authority = c.base.authority ∧ url.query = c.base.query ∧
          url.fragment = c.base.fragment ∧
          url.pathSegments = withoutTrailing c.base.pathSegments ++ added ∧
          List.Forall₂ Spells added p.segments) ∧
      ∀ p q : Procedure, p.IsOrdinary → q.IsOrdinary → p.segments ≠ q.segments →
        ∀ u v, c.urlFor p none = .ok u → c.urlFor q none = .ok v → u.text ≠ v.text := by
  constructor
  · intro p hp
    obtain ⟨added, hadded, hspells⟩ :=
      exists_pathSegments_extend hbase hfull hp.segments_ne_nil hp.isOrdinary
    exact ⟨_, added, urlFor_of_isHttp hbase p, rfl, rfl, rfl, rfl, hadded, hspells⟩
  · intro p q hp hq hne u v hu hv htext
    obtain rfl := Except.ok.inj ((urlFor_of_isHttp hbase p).symm.trans hu)
    obtain rfl := Except.ok.inj ((urlFor_of_isHttp hbase q).symm.trans hv)
    obtain ⟨added, hadded, hspells⟩ :=
      exists_pathSegments_extend hbase hfull hp.segments_ne_nil hp.isOrdinary
    obtain ⟨others, hothers, hspells'⟩ :=
      exists_pathSegments_extend hbase hfull hq.segments_ne_nil hq.isOrdinary
    have hpaths := hbase.pathSegments_eq_of_text_eq htext
    rw [hadded, hothers] at hpaths
    obtain rfl := List.append_cancel_left hpaths
    exact hne (rightUnique_spells.forall₂ hspells hspells')

/-- The base URL `https://api.example.com/v1/?x=1#f`. -/
def versionedBase : Url where
  scheme := "https".toList
  authority := some { host := .name "api.example.com".toList }
  path := .segments ["v1".toList, []]
  query := some "x=1".toList
  fragment := some "f".toList

/-- This is the text of a URL of HTTP. -/
lemma isHttp_versionedBase : versionedBase.IsHttp :=
  ⟨⟨"https://api.example.com/v1/?x=1#f", by decide +kernel⟩, .inr rfl⟩

/-- A slash in a segment does not make two of it. -/
theorem urlFor_of_slash :
    (∃ url added, Client.urlFor ⟨versionedBase, []⟩ ⟨["a/b", "é %41?#"], "GET"⟩ none = .ok url ∧
        url.pathSegments = ["v1".toList] ++ added ∧
        List.Forall₂ Spells added ["a/b", "é %41?#"]) ∧
      ∀ u v, Client.urlFor ⟨versionedBase, []⟩ ⟨["a/b", "é %41?#"], "GET"⟩ none = .ok u →
        Client.urlFor ⟨versionedBase, []⟩ ⟨["a", "b", "é %41?#"], "GET"⟩ none = .ok v →
        u.text ≠ v.text := by
  have hfull : ∀ s ∈ versionedBase.pathSegments.dropLast, s ≠ [] := by decide
  have hslash : Procedure.IsOrdinary ⟨["a/b", "é %41?#"], "GET"⟩ := ⟨by decide, by decide⟩
  have hpieces : Procedure.IsOrdinary ⟨["a", "b", "é %41?#"], "GET"⟩ := ⟨by decide, by decide⟩
  obtain ⟨hsome, hne⟩ := urlFor_of_isOrdinary ⟨versionedBase, []⟩ isHttp_versionedBase hfull
  obtain ⟨url, added, hurl, -, -, -, -, hpath, hspells⟩ := hsome _ hslash
  exact ⟨⟨url, added, hurl, hpath, hspells⟩, hne _ _ hslash hpieces (by decide)⟩

/-! ## Segments that are lost -/

/-- When a call goes as deep as it says.  Below a base of HTTP every procedure has a URL.  Without
segments it is that of the base, less an empty segment at the end of its path.  With segments, the
path of the base, without an empty segment at its end, is followed by as many segments as the
procedure has if and only if no segment is lost, the first one is not left as nothing or as points
if the path of the base is only a slash, and that path is not two slashes.  A segment of which two
points are left is lost unless it comes after one that names a drive.  A path that is only a slash
counts as one without segments. -/
theorem urlFor_keepsDepth_iff (c : Client) (p : Procedure) (hbase : c.base.IsHttp) :
    ∃ url, c.urlFor p none = .ok url ∧
      (p.segments = [] → url.pathSegments = withoutLastEmpty c.base.pathSegments) ∧
      (p.segments ≠ [] →
        ((∃ added, openSegments url.pathSegments = withoutTrailing c.base.pathSegments ++ added ∧
            added.length = p.segments.length) ↔ KeepsDepth c.base.pathSegments p.segments)) := by
  refine ⟨_, urlFor_of_isHttp hbase p, fun hsegments => ?_, fun hsegments => ?_⟩
  · rw [hbase.pathSegments_extend, hsegments, List.foldl_nil]
  · rw [hbase.pathSegments_extend]
    exact exists_openSegments_iff_keepsDepth hbase.pathSegments_ne_nil hsegments

/-- An empty segment is kept below a path that is more than a slash. -/
theorem urlFor_of_empty_inside :
    versionedBase.IsHttp ∧ KeepsDepth versionedBase.pathSegments ["", "users"] ∧
      ∃ url, Client.urlFor ⟨versionedBase, []⟩ ⟨["", "users"], "GET"⟩ none = .ok url ∧
        ∃ added, openSegments url.pathSegments = ["v1".toList] ++ added ∧ added.length = 2 := by
  have hkeeps : KeepsDepth versionedBase.pathSegments ["", "users"] :=
    ⟨by decide, by decide, by decide⟩
  obtain ⟨url, hurl, -, hiff⟩ :=
    urlFor_keepsDepth_iff ⟨versionedBase, []⟩ ⟨["", "users"], "GET"⟩ isHttp_versionedBase
  exact ⟨isHttp_versionedBase, hkeeps, url, hurl, (hiff (List.cons_ne_nil _ _)).mpr hkeeps⟩

/-- The base URL `https://api.example.com/`. -/
def rootBase : Url where
  scheme := "https".toList
  authority := some { host := .name "api.example.com".toList }
  path := .segments [[]]
  query := none
  fragment := none

/-- So is this. -/
lemma isHttp_rootBase : rootBase.IsHttp :=
  ⟨⟨"https://api.example.com/", by decide +kernel⟩, .inr rfl⟩

/-- A path that is too short has not the segments of another one with some more. -/
lemma not_exists_append_of_length_ne {α : Type} {items base : List α} {n : ℕ}
    (h : items.length ≠ base.length + n) :
    ¬ ∃ added, items = base ++ added ∧ added.length = n := by
  rintro ⟨added, rfl, rfl⟩
  exact h List.length_append

/-- An empty segment is lost at the top, and what is called is not below it any more.  Two points
that have a tab between them take the call back to where its other segments are. -/
theorem urlFor_loses_segments :
    rootBase.IsHttp ∧ versionedBase.IsHttp ∧
      (∃ url, Client.urlFor ⟨rootBase, []⟩ ⟨["", "users"], "DELETE"⟩ none = .ok url ∧
        url.text = "https://api.example.com/users" ∧
        ¬ ∃ added, url.pathSegments = withoutTrailing rootBase.pathSegments ++ added ∧
          added.length = 2) ∧
      ∃ url, Client.urlFor ⟨versionedBase, []⟩ ⟨["users", ".\t."], "DELETE"⟩ none = .ok url ∧
        url.text = "https://api.example.com/v1/?x=1#f" ∧
        ¬ ∃ added, url.pathSegments = withoutTrailing versionedBase.pathSegments ++ added ∧
          added.length = 2 := by
  refine ⟨isHttp_rootBase, isHttp_versionedBase, ?_, ?_⟩
  · refine ⟨_, urlFor_of_isHttp isHttp_rootBase _, by decide +kernel, ?_⟩
    exact not_exists_append_of_length_ne (by decide +kernel)
  · refine ⟨_, urlFor_of_isHttp isHttp_versionedBase _, by decide +kernel, ?_⟩
    exact not_exists_append_of_length_ne (by decide +kernel)

end TypedRouter.Client
