import TypedRouter.Proofs.Client.Path
import Mathlib

/-!
# The headers of requests

A client keeps one value for each header that has been set, the one that was set last, whatever
capitals the names were written with.  A request has these headers, and then one more, which says
that the body is JSON.  That one is added to the others and replaces nothing, so every header of a
request has one value, the last one set, except for the header that is added: it has a second value
if it has been set.

Names are told apart in two ways here.  The client keeps them in small letters and compares them as
they are; what is asked of a request compares them up to capitals.  That these agree is a property
of the headers that a client can have, and each setting keeps it.
-/

namespace TypedRouter.Client

open Text

/-! ## Names -/

/-- A name in small letters. -/
def smallName (name : String) : String := String.ofList (name.toList.map Char.toLower)

/-- Two names of the same header: they differ in capitals at most. -/
def SameName (a b : String) : Prop := smallName a = smallName b

/-- Whether two names are the same can be computed. -/
instance : DecidableRel SameName := fun a b =>
  inferInstanceAs (Decidable (smallName a = smallName b))

/-- Two names are the same in either order. -/
lemma sameName_comm {a b : String} : SameName a b ↔ SameName b a := eq_comm

/-- The values that some headers have for a name. -/
def valuesOf (headers : Http.Headers) (name : String) : List String :=
  (headers.filter fun h => SameName h.1 name).map Prod.snd

/-- A name in small letters is in small letters. -/
@[simp]
lemma smallName_smallName (name : String) : smallName (smallName name) = smallName name := by
  have hlower : Char.toLower ∘ Char.toLower = Char.toLower :=
    funext Char.toLower_toLower_eq_toLower
  rw [smallName, smallName, String.toList_ofList, List.map_map, hlower]

/-- Headers that follow others add their values. -/
@[simp] lemma valuesOf_append (headers others : Http.Headers) (name : String) :
    valuesOf (headers ++ others) name = valuesOf headers name ++ valuesOf others name := by
  rw [valuesOf, List.filter_append, List.map_append]
  rfl

/-- Headers as a client keeps them: names in small letters, none of them twice. -/
structure AreKept (headers : Http.Headers) : Prop where
  small : ∀ h ∈ headers, smallName h.1 = h.1
  nodup : (headers.map Prod.fst).Nodup

/-- Headers that a client keeps have at most one value for a name, the one that is found there. -/
lemma AreKept.valuesOf_eq {headers : Http.Headers} (h : AreKept headers) (name : String) :
    valuesOf headers name = (headers.lookup (smallName name)).toList := by
  induction headers with
  | nil => rfl
  | cons header rest ih =>
    obtain ⟨k, v⟩ := header
    have hk : smallName k = k := h.small (k, v) List.mem_cons_self
    obtain ⟨hnotMem, hnodup⟩ := List.nodup_cons.mp h.nodup
    have hrest := ih ⟨fun other hother => h.small other (List.mem_cons_of_mem _ hother), hnodup⟩
    by_cases hname : SameName k name
    · -- the names differ, so no later header has the name too
      have hlookup : rest.lookup (smallName name) = none := by
        rw [← show k = smallName name from hk.symm.trans hname]
        apply List.lookup_eq_none_iff.mpr
        intro other hother
        have hmem : other.1 ∈ rest.map Prod.fst := List.mem_map_of_mem hother
        have hne : k ≠ other.1 := fun heq => hnotMem (heq ▸ hmem)
        simpa using hne
      rw [hlookup] at hrest
      have hhead : valuesOf ((k, v) :: rest) name = v :: valuesOf rest name := by
        simp [valuesOf, hname]
      have hfound : ((k, v) :: rest).lookup (smallName name) = some v := by
        rw [← show k = smallName name from hk.symm.trans hname]
        simp
      rw [hhead, hrest, hfound]
      rfl
    · have hne : smallName name ≠ k := fun heq => hname (hk.trans heq.symm)
      have hhead : valuesOf ((k, v) :: rest) name = valuesOf rest name := by
        simp [valuesOf, hname]
      rw [hhead, hrest, OrderedMap.lookup_cons_of_ne hne]

/-- Setting a header keeps the names small and different. -/
lemma AreKept.set {headers : Http.Headers} (h : AreKept headers) (name value : String) :
    AreKept (OrderedMap.set (smallName name) value headers) := by
  refine ⟨fun header hheader => ?_, OrderedMap.nodup_map_fst_set _ _ h.nodup⟩
  rcases OrderedMap.mem_map_fst_set.mp (List.mem_map_of_mem hheader) with heq | hmem
  · rw [heq, smallName_smallName]
  · obtain ⟨other, hother, heq⟩ := List.mem_map.mp hmem
    rw [← heq]
    exact h.small other hother

/-! ## Settings -/

/-- What sets a header of a client. -/
inductive Setting where
  | plain (name value : String)
  | sensitive (name value : String)
  | agent (value : String)

namespace Setting

/-- The name of the header that is set. -/
def name : Setting → String
  | .plain name _ => name
  | .sensitive name _ => name
  | .agent _ => "user-agent"

/-- The value that a header is set to. -/
def value : Setting → String
  | .plain _ value => value
  | .sensitive _ value => value
  | .agent value => value

/-- The client with a header set. -/
def apply (c : Client) : Setting → Except Error Client
  | .plain name value => c.withHeader name value
  | .sensitive name value => c.withSensitiveHeader name value
  | .agent value => c.withUserAgent value

/-- Each setting sets its header to its value. -/
@[simp] lemma apply_eq (c : Client) (s : Setting) : s.apply c = c.withHeader s.name s.value := by
  cases s <;> rfl

end Setting

/-- The client with some headers set, one after the other. -/
def withSettings (c : Client) (settings : List Setting) : Except Error Client :=
  settings.foldlM Setting.apply c

/-- The value that a header was set to last. -/
def lastValue? (settings : List Setting) (name : String) : Option String :=
  (settings.reverse.find? fun s => SameName s.name name).map Setting.value

section Settings

variable {c d : Client} {s : Setting} {settings : List Setting} {name value : String}

/-- A header has no last value if no setting sets it. -/
lemma lastValue?_eq_none_iff :
    lastValue? settings name = none ↔ ∀ s ∈ settings, ¬ SameName s.name name := by
  simp [lastValue?]

/-- A later setting of the same header counts, and else the first one. -/
@[simp] lemma lastValue?_cons (s : Setting) (settings : List Setting) (name : String) :
    lastValue? (s :: settings) name =
      (lastValue? settings name).or (if SameName s.name name then some s.value else none) := by
  have hone : ([s].find? fun t => SameName t.name name).map Setting.value =
      if SameName s.name name then some s.value else none := by
    by_cases h : SameName s.name name
    · simp [h]
    · simp [h]
  rw [lastValue?, List.reverse_cons, List.find?_append, Option.map_or, hone]
  rfl

/-- What sets a header puts its value in the place of the one before. -/
lemma eq_of_withHeader (h : c.withHeader name value = .ok d) :
    d = { c with headers := OrderedMap.set (smallName name) value c.headers } := by
  unfold withHeader at h
  split at h
  · cases h
  · next found hfound =>
    split_ifs at h
    obtain rfl := Except.ok.inj h
    unfold Http.headerName? at hfound
    dsimp only at hfound
    split_ifs at hfound
    obtain rfl := Option.some.inj hfound
    rfl

/-- One setting gives a header its value and leaves the others alone. -/
lemma lookup_of_apply (h : s.apply c = .ok d) (name : String) :
    d.headers.lookup (smallName name) =
      if SameName s.name name then some s.value else c.headers.lookup (smallName name) := by
  rw [Setting.apply_eq] at h
  rw [eq_of_withHeader h, OrderedMap.lookup_set]
  by_cases hname : SameName s.name name
  · rw [if_pos hname, if_pos (Eq.symm hname)]
  · rw [if_neg hname, if_neg (Ne.symm hname)]

/-- A setting keeps the headers in order. -/
lemma areKept_of_apply (h : s.apply c = .ok d) (hkept : AreKept c.headers) :
    AreKept d.headers := by
  rw [Setting.apply_eq] at h
  rw [eq_of_withHeader h]
  exact hkept.set s.name s.value

/-- After any settings, a client has for each header the value that was set last, or the one it had
before. -/
theorem headers_of_withSettings (h : c.withSettings settings = .ok d) (hkept : AreKept c.headers) :
    AreKept d.headers ∧ ∀ name, d.headers.lookup (smallName name) =
      (lastValue? settings name).or (c.headers.lookup (smallName name)) := by
  induction settings generalizing c with
  | nil =>
    obtain rfl := Except.ok.inj h
    exact ⟨hkept, fun name => rfl⟩
  | cons s settings ih =>
    rw [withSettings, List.foldlM_cons] at h
    cases hstep : s.apply c with
    | error e =>
      rw [hstep] at h
      cases h
    | ok next =>
      rw [hstep] at h
      obtain ⟨hkept', hlast⟩ := ih h (areKept_of_apply hstep hkept)
      refine ⟨hkept', fun name => ?_⟩
      rw [hlast name, lookup_of_apply hstep name, lastValue?_cons]
      cases lastValue? settings name with
      | some value => rfl
      | none =>
        by_cases hname : SameName s.name name
        · simp [hname]
        · simp [hname]

end Settings

/-! ## Requests -/

/-- The header that a request has for its body. -/
def bodyHeader : String := "content-type"

/-- What a request says of its body. -/
def bodyValue : String := "application/json"

/-- Each header that was set has one value, the last one, and the header for the body has one that
says that the body is JSON. -/
structure HasOneValueEach (settings : List Setting) (headers : Http.Headers) : Prop where
  body : valuesOf headers bodyHeader = [bodyValue]
  others : ∀ s ∈ settings, ¬ SameName s.name bodyHeader →
    ∃ value, lastValue? settings s.name = some value ∧ valuesOf headers s.name = [value]

section Requests

variable {α : Type} {c : Client} {network : Http.Network} {decode : Outline → Decoded α}
  {p : Procedure} {input : Input} {r : Http.Request}

/-- A request has the headers of the client and one more. -/
lemma headers_of_mem_requests (h : r ∈ (c.call network decode p input).requests) :
    r.headers = c.headers ++ [(bodyHeader, bodyValue)] := by
  cases hurl : c.urlFor p input.query with
  | error e =>
    rw [call_of_urlFor_error hurl] at h
    cases h
  | ok url =>
    rw [call, requestFor, hurl] at h
    obtain rfl := List.mem_singleton.mp h
    rfl

/-- A client has no headers before the first one is set. -/
lemma headers_of_ofBase {base : String} (h : ofBase base = .ok c) : c.headers = [] := by
  unfold ofBase at h
  split at h
  · obtain rfl := Except.ok.inj h
    rfl
  · cases h

/-- The values of a request for a name: the last one set, if any, and the one that is added. -/
lemma valuesOf_request {start : Client} {settings : List Setting} (hstart : start.headers = [])
    (hset : start.withSettings settings = .ok c)
    (hr : r ∈ (c.call network decode p input).requests) (name : String) :
    valuesOf r.headers name = (lastValue? settings name).toList ++
      if SameName bodyHeader name then [bodyValue] else [] := by
  have hkept : AreKept start.headers := by
    rw [hstart]
    exact ⟨fun h hmem => absurd hmem List.not_mem_nil, List.nodup_nil⟩
  obtain ⟨hkept', hlast⟩ := headers_of_withSettings hset hkept
  have hadded : valuesOf [(bodyHeader, bodyValue)] name =
      if SameName bodyHeader name then [bodyValue] else [] := by
    by_cases h : SameName bodyHeader name
    · simp [valuesOf, h]
    · simp [valuesOf, h]
  rw [headers_of_mem_requests hr, valuesOf_append, hkept'.valuesOf_eq, hlast name, hstart, hadded]
  simp

end Requests

/-- What values the headers of a request have.  Of a client that is made by setting headers, every
request has for each name that was set, up to capitals, one value, the last one, and none for a name
that was not set; but the header for the body has the last value that was set, if any, and then the
one that says that the body is JSON.  So there is one value for each header if and only if the
header for the body was not set. -/
theorem hasOneValueEach_iff {start c : Client} {settings : List Setting}
    (hstart : start.headers = []) (hset : start.withSettings settings = .ok c) {α : Type}
    (network : Http.Network) (decode : Outline → Decoded α) (p : Procedure) (input : Input)
    {r : Http.Request} (hr : r ∈ (c.call network decode p input).requests) :
    (∀ name, ¬ SameName name bodyHeader →
        valuesOf r.headers name = (lastValue? settings name).toList) ∧
      valuesOf r.headers bodyHeader = (lastValue? settings bodyHeader).toList ++ [bodyValue] ∧
      (HasOneValueEach settings r.headers ↔ ∀ s ∈ settings, ¬ SameName s.name bodyHeader) := by
  have hvalues := valuesOf_request hstart hset hr
  have hothers : ∀ name, ¬ SameName name bodyHeader →
      valuesOf r.headers name = (lastValue? settings name).toList := by
    intro name hname
    rw [hvalues, if_neg (mt sameName_comm.mp hname), List.append_nil]
  have hbody : valuesOf r.headers bodyHeader =
      (lastValue? settings bodyHeader).toList ++ [bodyValue] := by
    have hsame : SameName bodyHeader bodyHeader := rfl
    rw [hvalues, if_pos hsame]
  refine ⟨hothers, hbody, fun h => ?_, fun h => ⟨?_, fun s hs hname => ?_⟩⟩
  · rw [← lastValue?_eq_none_iff]
    have hone := h.body
    rw [hbody] at hone
    simpa using hone
  · rw [hbody, lastValue?_eq_none_iff.mpr h]
    rfl
  · obtain ⟨value, hvalue⟩ : ∃ value, lastValue? settings s.name = some value := by
      refine Option.ne_none_iff_exists'.mp fun hnone => ?_
      exact lastValue?_eq_none_iff.mp hnone s hs rfl
    refine ⟨value, hvalue, ?_⟩
    rw [hothers s.name hname, hvalue]
    rfl

/-- A server that carries everything out and says nothing. -/
def silentNetwork : Http.Network := fun _ => some { status := ⟨204⟩ }

/-- The client of this base URL starts without headers. -/
lemma ofBase_rootBase : ofBase "https://api.example.com/" = .ok ⟨rootBase, []⟩ := by
  have hurl : Url.ofText "https://api.example.com/" = .ok rootBase := by decide +kernel
  rw [ofBase, hurl]

/-- A client whose base is the root sends one request for every procedure. -/
lemma exists_request_of_rootBase (headers : Http.Headers) (p : Procedure) :
    ∃ r, ((⟨rootBase, headers⟩ : Client).call silentNetwork Outline.toValue p {}).requests = [r] ∧
      r ∈ ((⟨rootBase, headers⟩ : Client).call silentNetwork Outline.toValue p {}).requests := by
  have hurl := urlFor_of_isHttp (c := ⟨rootBase, headers⟩) isHttp_rootBase p
  rw [call, requestFor]
  simp only [hurl]
  exact ⟨_, rfl, List.mem_singleton_self _⟩

/-- A token that is set twice, with other capitals, is sent once. -/
theorem oneValueEach_of_token :
    let settings : List Setting := [.plain "Authorization" "Bearer a", .agent "router/1",
      .sensitive "AUTHORIZATION" "Bearer b"]
    ∃ c r, (⟨rootBase, []⟩ : Client).withSettings settings = .ok c ∧
      (c.call silentNetwork Outline.toValue (.query ["pets"]) {}).requests = [r] ∧
      valuesOf r.headers "authorization" = ["Bearer b"] ∧
      valuesOf r.headers "user-agent" = ["router/1"] ∧ HasOneValueEach settings r.headers := by
  intro settings
  let c : Client := ⟨rootBase, [("authorization", "Bearer b"), ("user-agent", "router/1")]⟩
  have hset : (⟨rootBase, []⟩ : Client).withSettings settings = .ok c := by rfl
  obtain ⟨r, hr, hmem⟩ := exists_request_of_rootBase c.headers (.query ["pets"])
  obtain ⟨hothers, -, hiff⟩ := hasOneValueEach_iff (headers_of_ofBase ofBase_rootBase) hset
    silentNetwork Outline.toValue (.query ["pets"]) {} hmem
  have htoken := hothers "authorization" (by decide)
  have hagent := hothers "user-agent" (by decide)
  have hnone : ∀ s ∈ settings, ¬ SameName s.name bodyHeader := by decide
  exact ⟨c, r, hset, hr, htoken.trans (by decide), hagent.trans (by decide), hiff.mpr hnone⟩

/-- A header for the body that was set is sent beside the one that is added. -/
theorem bodyHeader_sent_twice :
    ∃ c r, (⟨rootBase, []⟩ : Client).withSettings [.plain "Content-Type" "text/plain"] = .ok c ∧
      (c.call silentNetwork Outline.toValue (.query ["pets"]) {}).requests = [r] ∧
      valuesOf r.headers bodyHeader = ["text/plain", bodyValue] ∧
      ¬ HasOneValueEach [.plain "Content-Type" "text/plain"] r.headers := by
  let c : Client := ⟨rootBase, [("content-type", "text/plain")]⟩
  obtain ⟨r, hr, hmem⟩ := exists_request_of_rootBase c.headers (.query ["pets"])
  have hvalues : valuesOf r.headers bodyHeader = ["text/plain", bodyValue] := by
    rw [headers_of_mem_requests hmem]
    decide
  refine ⟨c, r, rfl, hr, hvalues, fun h => ?_⟩
  have hone := h.body
  rw [hvalues] at hone
  exact absurd hone (by decide)

end TypedRouter.Client
