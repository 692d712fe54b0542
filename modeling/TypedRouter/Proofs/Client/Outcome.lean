import TypedRouter.Client.Call
import TypedRouter.Proofs.Client.Path

/-!
# What comes of a call

A call sends one request, and its outcome is one of three: a value, an error or neither.  The status
of the response says which of the two there may be.  The body says what it is, and a body is looked
at in two ways that have to agree: it may hold one JSON value and nothing else, and it may be blank.

A body holds a value if it is the UTF-8 text of one.  A body is blank if it has only the five bytes
that are blank in ASCII.  One of these, the form feed, is no blank of JSON, so a blank body may be
malformed for two reasons; in any case it holds no value, and it does not matter which of the two is
looked at first.
-/

namespace TypedRouter.Client

open Json OpenApi Text

/-! ## Bodies -/

/-- A body that is the text of one JSON value, with nothing but blanks around it. -/
def Holds (body : List UInt8) (v : Value) : Prop :=
  ∃ text : String, body = Utf8.encode text.toList ∧ Value.ofText text = .ok v

/-- A body of blanks alone: spaces, tabs, line feeds, form feeds and carriage returns. -/
def IsBlank (body : List UInt8) : Prop :=
  ∀ b ∈ body, b ∈ [0x20, 0x09, 0x0A, 0x0C, 0x0D]

section Bodies

variable {body : List UInt8} {v : Value}

/-- Reading a text to its end gives the value that the text is. -/
@[simp] lemma readText_eq_ok_iff {text : String} :
    readText Outline.toValue text.toList = .ok v ↔ Value.ofText text = .ok v := by
  unfold readText Value.ofText
  cases hvalue : (Outline.read text.toList).1.toValue with
  | error p => simp [hvalue]
  | ok w =>
    cases hrest : (Outline.read text.toList).2 with
    | none => simp [hvalue, hrest]
    | some rest =>
      cases hblank : (Reader.skipBlanks rest).isEmpty
      · simp [hvalue, hrest, hblank]
      · simp [hvalue, hrest, hblank]

/-- A body is read exactly if it holds a value. -/
@[simp] lemma readBody_eq_ok_iff : readBody Outline.toValue body = .ok v ↔ Holds body v := by
  unfold readBody
  constructor
  · intro h
    cases hdecode : Utf8.decode? body with
    | none =>
      rw [hdecode] at h
      cases h
    | some cs =>
      rw [hdecode] at h
      refine ⟨String.ofList cs, ?_, readText_eq_ok_iff.mp ?_⟩
      · rw [String.toList_ofList]
        exact Utf8.decode?_eq_some_iff.mp hdecode
      · rwa [String.toList_ofList]
  · rintro ⟨text, rfl, htext⟩
    rw [Utf8.decode?_encode]
    exact readText_eq_ok_iff.mpr htext

/-- The program takes a body for blank if it is. -/
@[simp] lemma isBlankBody_iff : isBlankBody body = true ↔ IsBlank body := by
  have hbytes : ∀ n < 256, isAsciiBlank (Char.ofNat n) = true ↔
      UInt8.ofNat n ∈ [0x20, 0x09, 0x0A, 0x0C, 0x0D] := by
    decide +kernel
  rw [isBlankBody, List.all_eq_true, IsBlank]
  refine forall₂_congr fun b _ => ?_
  rw [hbytes b.toNat b.toNat_lt, UInt8.ofNat_toNat]

/-- A blank body is the text of blanks. -/
lemma exists_blanks (h : IsBlank body) :
    ∃ cs, body = Utf8.encode cs ∧ ∀ c ∈ cs, isAsciiBlank c = true := by
  have hall : [0x20, 0x09, 0x0A, 0x0C, 0x0D].all (fun b : UInt8 => b.toNat < 0x80) = true := by
    decide
  have hascii {b : UInt8} (hb : b ∈ [0x20, 0x09, 0x0A, 0x0C, 0x0D]) : b.toNat < 0x80 :=
    of_decide_eq_true (List.all_eq_true.mp hall b hb)
  have hblank := List.all_eq_true.mp (isBlankBody_iff.mpr h)
  induction body with
  | nil => exact ⟨[], rfl, fun _ hc => nomatch hc⟩
  | cons b body ih =>
    obtain ⟨cs, rfl, hcs⟩ := ih (fun b' hb' => h b' (List.mem_cons_of_mem _ hb'))
      fun b' hb' => hblank b' (List.mem_cons_of_mem _ hb')
    refine ⟨Char.ofNat b.toNat :: cs, ?_, ?_⟩
    · rw [Utf8.encode_cons, Utf8.utf8EncodeChar_one (hascii (h b List.mem_cons_self)),
        UInt8.ofNat_toNat, List.singleton_append]
    · intro c hc
      rcases List.mem_cons.mp hc with rfl | hc
      · exact hblank b List.mem_cons_self
      · exact hcs c hc

/-- Of the blanks of ASCII, JSON passes over all but the form feed. -/
lemma skipBlanks_blanks {cs : List Char} (h : ∀ c ∈ cs, isAsciiBlank c = true) :
    Reader.skipBlanks cs = [] ∨ ∃ rest, Reader.skipBlanks cs = '\x0c' :: rest := by
  induction cs with
  | nil => exact .inl rfl
  | cons c cs ih =>
    have hc : Reader.isBlank c = true ∨ c = '\x0c' := by
      have hblank := h c List.mem_cons_self
      simp only [isAsciiBlank, Reader.isBlank, Bool.or_eq_true, beq_iff_eq] at hblank ⊢
      tauto
    rcases hc with hc | rfl
    · rw [Reader.skipBlanks, List.dropWhile_cons_of_pos hc]
      exact ih fun d hd => h d (List.mem_cons_of_mem _ hd)
    · exact .inr ⟨cs, rfl⟩

/-- A text of blanks does not begin with a value. -/
lemma read_blanks {cs : List Char} (h : ∀ c ∈ cs, isAsciiBlank c = true) :
    ∃ fault, Outline.read cs = (.broken fault, none) := by
  rcases skipBlanks_blanks h with hskip | ⟨rest, hskip⟩
  · refine ⟨.truncated, ?_⟩
    rw [Outline.read, Reader.value, hskip]
  · refine ⟨.malformed, ?_⟩
    rw [Outline.read, Reader.value, hskip]
    rfl

/-- A blank body holds no value. -/
lemma not_holds_of_isBlank (h : IsBlank body) : ¬ Holds body v := by
  rintro ⟨text, rfl, hv⟩
  obtain ⟨cs, heq, hcs⟩ := exists_blanks h
  obtain rfl := Utf8.encode_injective heq
  obtain ⟨fault, hread⟩ := read_blanks hcs
  rw [Value.ofText, hread] at hv
  cases hv

end Bodies

/-! ## Responses -/

/-- A response with one of the statuses of success. -/
def Succeeds (r : Http.Response) : Prop := 200 ≤ r.status.code ∧ r.status.code ≤ 299

/-- What is reported of a response: a value if it succeeds, and an error if it does not. -/
structure Reports (r : Http.Response) (result : Except Error (Outcome Value)) : Prop where
  /-- Nothing at all stands for null. -/
  noData : Succeeds r → IsBlank r.body →
    result = .ok ⟨r.status, some .null, none⟩
  data : Succeeds r → ∀ v, Holds r.body v → result = .ok ⟨r.status, some v, none⟩
  /-- Anything else is no outcome. -/
  badData : Succeeds r → ¬ IsBlank r.body → (∀ v, ¬ Holds r.body v) →
    ∃ fault, result = .error (.badBody fault)
  noError : ¬ Succeeds r → IsBlank r.body → result = .ok ⟨r.status, none, none⟩
  error : ¬ Succeeds r → ∀ v, Holds r.body v →
    result = .ok ⟨r.status, none, some v⟩
  /-- Anything else is a text, with a replacement character for each of its faults. -/
  errorText : ¬ Succeeds r → ¬ IsBlank r.body → (∀ v, ¬ Holds r.body v) →
    result = .ok ⟨r.status, none, some (.string (String.ofList (Utf8.decodeLossy r.body)))⟩

section Responses

variable {body : List UInt8}

/-- The reader reports a fault in a body that holds no value. -/
lemma readBody_eq_error (h : ∀ v, ¬ Holds body v) :
    ∃ fault, readBody Outline.toValue body = .error fault := by
  cases hread : readBody Outline.toValue body with
  | error fault => exact ⟨fault, rfl⟩
  | ok v => exact absurd (readBody_eq_ok_iff.mp hread) (h v)

/-- It does not take any other body for blank. -/
lemma isBlankBody_eq_false (h : ¬ IsBlank body) : isBlankBody body = false := by
  rw [← Bool.not_eq_true, isBlankBody_iff]
  exact h

/-- The data of a blank body are null. -/
lemma dataOf_of_isBlank (h : IsBlank body) : dataOf Outline.toValue body = .ok .null := by
  rw [dataOf, if_pos (isBlankBody_iff.mpr h)]
  rfl

/-- The data of any other body are what is read from it. -/
lemma dataOf_of_not_isBlank (h : ¬ IsBlank body) :
    dataOf Outline.toValue body = readBody Outline.toValue body := by
  rw [dataOf, isBlankBody_eq_false h]
  rfl

/-- A blank body has no error. -/
lemma errorOf_of_isBlank (h : IsBlank body) : errorOf body = none := by
  -- a body is looked at as a value first, and a blank one is found to be none
  obtain ⟨fault, hread⟩ := readBody_eq_error fun v => not_holds_of_isBlank h
  rw [errorOf, hread]
  exact if_pos (isBlankBody_iff.mpr h)

/-- The error of a body that holds a value is this value. -/
lemma errorOf_of_holds {v : Value} (h : Holds body v) : errorOf body = some v := by
  rw [errorOf, readBody_eq_ok_iff.mpr h]

/-- The error of any other body is its text. -/
lemma errorOf_of_not_holds (hblank : ¬ IsBlank body) (h : ∀ v, ¬ Holds body v) :
    errorOf body = some (.string (String.ofList (Utf8.decodeLossy body))) := by
  obtain ⟨fault, hread⟩ := readBody_eq_error h
  rw [errorOf, hread, isBlankBody_eq_false hblank]
  rfl

/-- The program takes a status for a success if it is one. -/
@[simp] lemma isSuccess_iff {r : Http.Response} : r.status.isSuccess = true ↔ Succeeds r :=
  decide_eq_true_iff

/-- A response that is no success has an error and no data. -/
lemma ofResponse_of_not_succeeds {r : Http.Response} (h : ¬ Succeeds r) :
    Outcome.ofResponse Outline.toValue r = .ok ⟨r.status, none, errorOf r.body⟩ :=
  if_neg (mt isSuccess_iff.mp h)

/-- What comes of a response is what is to be reported of it. -/
lemma reports_ofResponse (r : Http.Response) :
    Reports r (Outcome.ofResponse Outline.toValue r) where
  noData hstatus hblank := by
    rw [Outcome.ofResponse, if_pos (isSuccess_iff.mpr hstatus), dataOf_of_isBlank hblank]
  data hstatus v hv := by
    rw [Outcome.ofResponse, if_pos (isSuccess_iff.mpr hstatus),
      dataOf_of_not_isBlank fun hblank => not_holds_of_isBlank hblank hv,
      readBody_eq_ok_iff.mpr hv]
  badData hstatus hblank hv := by
    obtain ⟨fault, hread⟩ := readBody_eq_error hv
    refine ⟨fault, ?_⟩
    rw [Outcome.ofResponse, if_pos (isSuccess_iff.mpr hstatus), dataOf_of_not_isBlank hblank, hread]
  noError hstatus hblank := by
    rw [ofResponse_of_not_succeeds hstatus, errorOf_of_isBlank hblank]
  error hstatus v hv := by
    rw [ofResponse_of_not_succeeds hstatus, errorOf_of_holds hv]
  errorText hstatus hblank hv := by
    rw [ofResponse_of_not_succeeds hstatus, errorOf_of_not_holds hblank hv]

/-- Of a body that is not blank, an outcome has either a value or an error. -/
lemma Reports.data_xor_error {r : Http.Response} {result : Except Error (Outcome Value)}
    (h : Reports r result) {outcome : Outcome Value} (hresult : result = .ok outcome)
    (hblank : ¬ IsBlank r.body) :
    Xor (outcome.data.isSome = true) (outcome.error.isSome = true) := by
  subst hresult
  by_cases hv : ∃ v, Holds r.body v
  · obtain ⟨v, hv⟩ := hv
    by_cases hstatus : Succeeds r
    · obtain rfl := Except.ok.inj (h.data hstatus v hv)
      simp [Xor]
    · obtain rfl := Except.ok.inj (h.error hstatus v hv)
      simp [Xor]
  · have hnone := not_exists.mp hv
    by_cases hstatus : Succeeds r
    · obtain ⟨fault, hfault⟩ := h.badData hstatus hblank hnone
      cases hfault
    · obtain rfl := Except.ok.inj (h.errorText hstatus hblank hnone)
      simp [Xor]

end Responses

/-! ## Calls -/

section Calls

variable {α : Type} (c : Client) (network : Http.Network) (decode : Outline → Decoded α)
  (p : Procedure) (input : Input)

/-- The body of a request: the data as JSON, unless the method is the one that is used to read. -/
structure Sends (p : Procedure) (input : Input) (body : String) : Prop where
  data : ∀ data, input.data = some data → p.method ≠ "GET" → body = data.text
  empty : input.data = none ∨ p.method = "GET" → body = ""

/-- A call to a URL sends one request there and reports what comes back. -/
lemma exists_request_of_urlFor {url : Url} (h : c.urlFor p input.query = .ok url) :
    ∃ request : Http.Request, request.url = url ∧ request.method = p.method ∧
      Sends p input request.body ∧
      c.call network decode p input = ⟨[request], match network request with
        | none => .error .unanswered
        | some response => Outcome.ofResponse decode response⟩ := by
  rw [call, requestFor, h]
  refine ⟨_, rfl, rfl, ⟨fun data hdata hmethod => ?_, fun hempty => ?_⟩, rfl⟩
  · dsimp only
    rw [hdata]
    exact if_neg hmethod
  · dsimp only
    cases hdata : input.data with
    | none => rfl
    | some data => exact if_pos (hempty.resolve_left (by simp [hdata]))

/-- The URL of a procedure is made without a look at its kind. -/
lemma urlFor_ne_wrongKind {query : Option Value} {actual expected : OperationKind} :
    c.urlFor p query ≠ .error (.wrongKind actual expected) := by
  intro h
  unfold urlFor at h
  split at h
  · cases h
  · split at h
    · cases h
    · split at h
      · cases h
      · cases h

/-- A call of either kind is not refused for its kind. -/
lemma call_ne_wrongKind {actual expected : OperationKind} :
    (c.call network decode p input).result ≠ .error (.wrongKind actual expected) := by
  intro h
  cases hurl : c.urlFor p input.query with
  | error e =>
    rw [call_of_urlFor_error hurl] at h
    obtain rfl := Except.error.inj h
    exact urlFor_ne_wrongKind c p hurl
  | ok url =>
    obtain ⟨request, -, -, -, hcall⟩ := exists_request_of_urlFor c network decode p input hurl
    rw [hcall] at h
    dsimp only at h
    split at h
    · cases h
    · unfold Outcome.ofResponse at h
      split at h
      · split at h
        · cases h
        · cases h
      · cases h

end Calls

/-- A call to a procedure of the other kind is refused and sends nothing, and no other call is
refused for its kind.  A call that has a URL sends one request there, with the data unless the
method is the one that is used to read, and reports what comes back: a value or null if the response
succeeds, and an error, a text or nothing if it does not.  Of a body that is not blank, a call that
has an outcome gives a value or an error and not both. -/
theorem call_outcome (c : Client) (network : Http.Network) (p : Procedure) (input : Input) :
    (p.kind = .query →
      c.query network Outline.toValue p input = c.call network Outline.toValue p input ∧
      c.mutate network Outline.toValue p input = ⟨[], .error (.wrongKind .query .mutation)⟩) ∧
    (p.kind = .mutation →
      c.mutate network Outline.toValue p input = c.call network Outline.toValue p input ∧
      c.query network Outline.toValue p input = ⟨[], .error (.wrongKind .mutation .query)⟩) ∧
    (∀ actual expected,
      (c.call network Outline.toValue p input).result ≠ .error (.wrongKind actual expected)) ∧
    ∀ url, c.urlFor p input.query = .ok url →
      ∃ request : Http.Request,
        (c.call network Outline.toValue p input).requests = [request] ∧
        request.url = url ∧ request.method = p.method ∧ Sends p input request.body ∧
        ∀ response, network request = some response →
          Reports response (c.call network Outline.toValue p input).result ∧
          ∀ outcome, (c.call network Outline.toValue p input).result = .ok outcome →
            ¬ IsBlank response.body →
              Xor (outcome.data.isSome = true) (outcome.error.isSome = true) := by
  refine ⟨fun hkind => ⟨?_, ?_⟩, fun hkind => ⟨?_, ?_⟩, fun actual expected => ?_,
    fun url hurl => ?_⟩
  · exact if_pos hkind
  · rw [mutate, callAs, hkind]
    rfl
  · exact if_pos hkind
  · rw [query, callAs, hkind]
    rfl
  · exact call_ne_wrongKind c network Outline.toValue p input
  · obtain ⟨request, hrequest, hmethod, hbody, hcall⟩ :=
      exists_request_of_urlFor c network Outline.toValue p input hurl
    rw [hcall]
    refine ⟨request, rfl, hrequest, hmethod, hbody, fun response hresponse => ?_⟩
    rw [hresponse]
    have hreports := reports_ofResponse response
    exact ⟨hreports, fun outcome houtcome hblank => hreports.data_xor_error houtcome hblank⟩

/-- An error in a body that is neither JSON nor UTF-8 is kept as a text. -/
theorem call_outcome_of_malformed :
    let c : Client := ⟨rootBase, []⟩
    let network : Http.Network := fun _ => some ⟨⟨500⟩, none, [0x7B, 0xFF]⟩
    let call := c.call network Outline.toValue ⟨["users"], "POST"⟩ ⟨some .null, none⟩
    (∃ url, c.urlFor ⟨["users"], "POST"⟩ none = .ok url) ∧
      ∃ request, call.requests = [request] ∧ request.body = "null" ∧
        call.result = .ok ⟨⟨500⟩, none, some (.string "\x7b\uFFFD")⟩ := by
  intro c network call
  obtain ⟨url, hurl⟩ : ∃ url, c.urlFor ⟨["users"], "POST"⟩ none = .ok url :=
    ⟨_, urlFor_of_isHttp isHttp_rootBase _⟩
  have hblank : ¬ IsBlank [0x7B, 0xFF] := by
    intro h
    exact absurd (h 0x7B List.mem_cons_self) (by decide)
  have hnone (v : Value) : ¬ Holds [0x7B, 0xFF] v := by
    rintro ⟨text, heq, -⟩
    have hdecode : Utf8.decode? [0x7B, 0xFF] = none := by decide +kernel
    rw [Utf8.decode?_eq_some_iff.mpr heq] at hdecode
    cases hdecode
  obtain ⟨-, -, -, hcall⟩ := call_outcome c network ⟨["users"], "POST"⟩ ⟨some .null, none⟩
  obtain ⟨request, hrequests, -, -, hbody, hresponse⟩ := hcall url hurl
  obtain ⟨hreports, -⟩ := hresponse _ rfl
  refine ⟨⟨url, hurl⟩, request, hrequests, hbody.data _ rfl (by decide), ?_⟩
  have hstatus : ¬ Succeeds ⟨⟨500⟩, none, [0x7B, 0xFF]⟩ := fun h => absurd h.2 (by decide)
  exact hreports.errorText hstatus hblank hnone

end TypedRouter.Client
