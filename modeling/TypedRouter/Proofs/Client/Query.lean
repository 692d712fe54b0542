import TypedRouter.Client.Query
import TypedRouter.OrderedMap
import TypedRouter.Proofs.Url.Form

/-!
# Appended queries

The pairs of an object are those of its members, one member after the other.  They are added to the
query of a URL as a form, and a form can be read again, so the URL holds exactly the pairs it had
and those of the object.  What the query was before does not matter: there may be none, or one that
is empty or no form at all.

Two objects whose names differ can be appended one after the other or as one.
-/

namespace TypedRouter

open Json

namespace Client

/-- Whether a value has members: it is an object, or null, which stands for one that is empty. -/
def HasMembers : Value → Prop
  | .object _ => True
  | .null => True
  | _ => False

section QueryPairs

variable {q : Value}

/-- What has members has pairs. -/
lemma exists_queryPairs (h : HasMembers q) : ∃ ps, queryPairs q = .ok ps := by
  cases q with
  | object members => exact ⟨_, rfl⟩
  | null => exact ⟨[], rfl⟩
  | bool | number | string | array => exact absurd h id

/-- Anything else is reported by its kind. -/
lemma queryPairs_of_not_hasMembers (h : ¬ HasMembers q) :
    queryPairs q = .error ⟨q.kindName⟩ := by
  cases q with
  | object | null => exact absurd trivial h
  | bool | number | string | array => rfl

/-- The pairs of some members come before those of the members after them. -/
lemma queryPairs_append {first second : List (String × Value)} {ps qs : List (String × String)}
    (hfirst : queryPairs (.object first) = .ok ps)
    (hsecond : queryPairs (.object second) = .ok qs) :
    queryPairs (.object (first ++ second)) = .ok (ps ++ qs) := by
  obtain rfl := Except.ok.inj hfirst
  obtain rfl := Except.ok.inj hsecond
  exact congrArg Except.ok List.flatMap_append

end QueryPairs

end Client

namespace Url

open Client

/-- A query that has pairs is appended as these. -/
lemma appendQuery_of_queryPairs {u : Url} {q : Value} {ps : List (String × String)}
    (h : queryPairs q = .ok ps) : u.appendQuery q = .ok (u.addPairs ps) := by
  rw [appendQuery, h]
  rfl

/-- Only the query changes when pairs are added. -/
lemma addPairs_eq (u : Url) (ps : List (String × String)) :
    u.addPairs ps = { u with query := (u.addPairs ps).query } := by
  unfold addPairs
  split_ifs <;> rfl

/-- Appending a query is exact, and it can be done member by member.  An object or null can be
appended to every URL, and nothing but the query changes.  Without pairs the URL stays as it is;
else the new query is read as the pairs of the old one and those that are appended.  No other value
can be appended.  If the names of two objects differ, appending one and then the other is appending
the object that has the members of both. -/
theorem appendQuery_spec (u : Url) :
    (∀ q, HasMembers q → ∃ ps v, queryPairs q = .ok ps ∧ u.appendQuery q = .ok v ∧
        v = { u with query := v.query } ∧ (ps = [] → v = u) ∧
        (ps ≠ [] → ∃ query, v.query = some query ∧ Form.read query = u.formPairs ++ ps)) ∧
      (∀ q, ¬ HasMembers q → u.appendQuery q = .error ⟨q.kindName⟩) ∧
      ∀ first second : List (String × Value), ((first ++ second).map Prod.fst).Nodup →
        ∃ v w, u.appendQuery (.object first) = .ok v ∧ v.appendQuery (.object second) = .ok w ∧
          u.appendQuery
            (.object (second.foldl (fun acc (k, v) => OrderedMap.set k v acc) first)) = .ok w := by
  refine ⟨fun q hq => ?_, fun q hq => ?_, fun first second hnames => ?_⟩
  · obtain ⟨ps, hps⟩ := exists_queryPairs hq
    refine ⟨ps, _, hps, appendQuery_of_queryPairs hps, addPairs_eq u ps, ?_, fun hne => ?_⟩
    · rintro rfl
      rfl
    · have hread := formPairs_addPairs u ps
      rw [addPairs_of_ne_nil hne] at hread ⊢
      exact ⟨_, rfl, hread⟩
  · rw [appendQuery, queryPairs_of_not_hasMembers hq]
    rfl
  · obtain ⟨ps, hps⟩ := exists_queryPairs (q := .object first) trivial
    obtain ⟨qs, hqs⟩ := exists_queryPairs (q := .object second) trivial
    refine ⟨_, _, appendQuery_of_queryPairs hps, appendQuery_of_queryPairs hqs, ?_⟩
    rw [OrderedMap.foldl_set_of_nodup first second hnames, addPairs_addPairs]
    exact appendQuery_of_queryPairs (queryPairs_append hps hqs)

/-- The URL `https://api.example.com/pets?x=1&#list`. -/
def petsUrl : Url where
  scheme := "https".toList
  authority := some { host := .name "api.example.com".toList }
  path := .segments ["pets".toList]
  query := some "x=1&".toList
  fragment := some "list".toList

example : (petsUrl.appendQuery (.object [("q", .string "a b&ü")])).map Url.text =
    .ok "https://api.example.com/pets?x=1&&q=a+b%26%C3%BC#list" := by
  decide +kernel

/-- A list gives its name to its items, behind the pair that is there, and it makes no difference
whether it is appended together with other members. -/
theorem appendQuery_of_pets :
    HasMembers (.object [("tag", .array [.string "a", .null, .string "b"])]) ∧
      ¬ HasMembers (.array []) ∧ (["tag", "cursor", "q"] : List String).Nodup ∧
      (∃ v query, petsUrl.appendQuery
            (.object [("tag", .array [.string "a", .null, .string "b"])]) = .ok v ∧
          v.query = some query ∧ Form.read query = [("x", "1"), ("tag", "a"), ("tag", "b")]) ∧
      petsUrl.appendQuery (.array []) = .error ⟨"array"⟩ ∧
      ∃ v w, petsUrl.appendQuery (.object [("tag", .array [.string "a", .null, .string "b"])]) =
          .ok v ∧
        v.appendQuery (.object [("cursor", .null), ("q", .string "a b&ü")]) = .ok w ∧
        petsUrl.appendQuery (.object [("tag", .array [.string "a", .null, .string "b"]),
          ("cursor", .null), ("q", .string "a b&ü")]) = .ok w := by
  have hnames : (["tag", "cursor", "q"] : List String).Nodup := by decide
  have hpairs : petsUrl.formPairs = [("x", "1")] := by decide +kernel
  obtain ⟨hexact, hother, hboth⟩ := appendQuery_spec petsUrl
  refine ⟨trivial, id, hnames, ?_, hother (.array []) id, hboth _ _ hnames⟩
  obtain ⟨ps, v, hps, hv, -, -, hquery⟩ :=
    hexact (.object [("tag", .array [.string "a", .null, .string "b"])]) trivial
  obtain rfl := Except.ok.inj hps
  obtain ⟨query, hsome, hread⟩ := hquery (List.cons_ne_nil _ _)
  rw [hpairs] at hread
  exact ⟨v, query, hv, hsome, hread⟩

end Url

end TypedRouter
