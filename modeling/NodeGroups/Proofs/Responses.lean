import NodeGroups.Proofs.Json.Records

namespace NodeGroups

namespace Response

/-- A status of the successful class. -/
def Succeeded (status : UInt16) : Prop := 200 ≤ status.toNat ∧ status.toNat ≤ 299

/-- A body is an object with a single member, whose value is `inner`. -/
def Envelope (body : String) (inner : Json) : Prop :=
  ∃ name, Json.parse? body = some (.obj [(name, inner)])

/-- A value has an error code, an unsigned integer of 64 bits. -/
def Coded (inner : Json) (code : Nat) : Prop :=
  inner.get? "errorcode" = some (.num (.int code)) ∧ code < UInt64.size

/-- What a value with an error code says about the error. -/
def Reason (inner : Json) (message : String) : Prop :=
  inner.get? "errortext" = some (.str message) ∨
    (∀ s, inner.get? "errortext" ≠ some (.str s)) ∧ message = "unknown"

/-- The responses that count as errors of the cloud itself, with their codes and messages. -/
inductive Refusal (status : UInt16) (body : String) : UInt16 → String → Prop
  | coded {inner : Json} {code : Nat} {message : String} (envelope : Envelope body inner)
      (coded : Coded inner code) (narrow : code < UInt16.size) (reason : Reason inner message) :
      Refusal status body (UInt16.ofNat code) message
  | wide {inner : Json} {code : Nat} {message : String} (envelope : Envelope body inner)
      (coded : Coded inner code) (wide : UInt16.size ≤ code) (reason : Reason inner message) :
      Refusal status body status message
  | unreadable (unread : Json.parse? body = none) (failed : ¬ Succeeded status) :
      Refusal status body status body
  | uncoded {inner : Json} (envelope : Envelope body inner) (uncoded : ∀ code, ¬ Coded inner code)
      (failed : ¬ Succeeded status) : Refusal status body status inner.render

/-- A response that gives `v` where values are read by `item`. -/
def Gives {α : Type} (item : Json → Decode.Result α) (status : UInt16) (body : String) (v : α) :
    Prop :=
  Succeeded status ∧ ∃ inner, Envelope body inner ∧ (∀ code, ¬ Coded inner code) ∧
    item inner = .ok v

/-- What a response comes to: a value, an error of the cloud, or a failed connection, and never two
of them. -/
structure Judged {α : Type} (item : Json → Decode.Result α) (status : UInt16) (body : String)
    (result : Except Error α) : Prop where
  ok : ∀ v, result = .ok v ↔ Gives item status body v
  api : ∀ code message, result = .error (.api code message) ↔ Refusal status body code message
  connection : (∃ message, result = .error (.connection message)) ↔
    (∀ v, ¬ Gives item status body v) ∧ ∀ code message, ¬ Refusal status body code message

theorem Envelope.unique {body : String} {inner inner' : Json} (h : Envelope body inner)
    (h' : Envelope body inner') : inner' = inner := by
  obtain ⟨name, hparse⟩ := h
  obtain ⟨name', hparse'⟩ := h'
  rw [hparse] at hparse'
  cases hparse'
  rfl

theorem errorCode?_eq_some_iff {inner : Json} {code : Nat} :
    errorCode? inner = some code ↔ Coded inner code := by
  have hmax : Json.Number.wordMax = UInt64.size - 1 := rfl
  have hpos : 0 < UInt64.size := by decide
  unfold errorCode? Coded
  rw [Option.bind_eq_some_iff]
  constructor
  · intro h
    obtain ⟨j, hj, hword⟩ := h
    unfold Json.word? at hword
    split at hword
    next i =>
      rw [Option.ite_none_right_eq_some, Bool.and_eq_true, decide_eq_true_iff, decide_eq_true_iff,
        hmax] at hword
      obtain ⟨hrange, hcode⟩ := hword
      have hnat : i.toNat = code := Option.some.inj hcode
      have hi : i = (code : Int) := by omega
      rw [hi] at hj hrange
      exact ⟨hj, by omega⟩
    next => cases hword
  · intro h
    obtain ⟨hj, hlt⟩ := h
    refine ⟨_, hj, ?_⟩
    have hrange : (0 ≤ (code : Int) && (code : Int) ≤ (Json.Number.wordMax : Int)) = true := by
      rw [hmax, Bool.and_eq_true, decide_eq_true_iff, decide_eq_true_iff]
      omega
    rw [Json.word?, if_pos hrange, Int.toNat_natCast]

theorem errorCode?_eq_none_iff {inner : Json} :
    errorCode? inner = none ↔ ∀ code, ¬ Coded inner code := by
  rw [Option.eq_none_iff_forall_ne_some]
  exact forall_congr' fun code => not_congr errorCode?_eq_some_iff

theorem reason_iff {inner : Json} {message : String} :
    Reason inner message ↔ message = errorText inner := by
  unfold Reason errorText
  cases hget : inner.get? "errortext" with
  | none => simp
  | some j =>
    cases j with
    | str s => simp [Json.string?, eq_comm]
    | _ => simp [Json.string?]

theorem isSuccess_iff {status : UInt16} : isSuccess status = true ↔ Succeeded status := by
  unfold isSuccess Succeeded
  rw [Bool.and_eq_true, decide_eq_true_iff, decide_eq_true_iff, UInt16.le_iff_toNat_le,
    UInt16.lt_iff_toNat_lt]
  have h200 : (200 : UInt16).toNat = 200 := rfl
  have h300 : (300 : UInt16).toNat = 300 := rfl
  omega

theorem content_of_envelope {status : UInt16} {body : String} {inner : Json}
    (h : Envelope body inner) : (received status body).content = match errorCode? inner with
      | some code => .error (.api ((narrow? code).getD status) (errorText inner))
      | none => if isSuccess status then .ok inner else .error (.api status inner.render) := by
  obtain ⟨name, hparse⟩ := h
  rw [content, hparse]
  rfl

/-- A body is an envelope, or no JSON, or JSON of another shape. -/
theorem envelope_or (body : String) : (∃ inner, Envelope body inner) ∨ Json.parse? body = none ∨
    ∃ value, Json.parse? body = some value ∧ ∀ inner, ¬ Envelope body inner := by
  cases hparse : Json.parse? body with
  | none => exact .inr (.inl rfl)
  | some value =>
    by_cases henvelope : ∃ inner, Envelope body inner
    · exact .inl henvelope
    · exact .inr (.inr ⟨value, rfl, not_exists.mp henvelope⟩)

theorem content_of_shapeless (status : UInt16) {body : String} {value : Json}
    (hparse : Json.parse? body = some value) (h : ∀ inner, ¬ Envelope body inner) :
    (received status body).content = .error (.connection "Unexpected response format") := by
  have hcontent : (received status body).content = openEnvelope status value := by
    rw [content, hparse]
  rw [hcontent]
  unfold openEnvelope
  split
  next name inner => exact absurd ⟨name, hparse⟩ (h inner)
  next => rfl

theorem content_of_refusal {status code : UInt16} {body message : String}
    (h : Refusal status body code message) :
    (received status body).content = .error (.api code message) := by
  cases h with
  | coded envelope coded narrow reason =>
    rw [content_of_envelope envelope, errorCode?_eq_some_iff.mpr coded, reason_iff.mp reason]
    simp only [narrow?, if_pos narrow, Option.getD_some]
  | wide envelope coded wide reason =>
    rw [content_of_envelope envelope, errorCode?_eq_some_iff.mpr coded, reason_iff.mp reason]
    simp only [narrow?, if_neg (Nat.not_lt.mpr wide), Option.getD_none]
  | unreadable unread failed =>
    rw [← isSuccess_iff] at failed
    rw [content, unread]
    exact if_neg failed
  | uncoded envelope uncoded failed =>
    rw [← isSuccess_iff] at failed
    rw [content_of_envelope envelope, errorCode?_eq_none_iff.mpr uncoded]
    exact if_neg failed

theorem content_of_success {status : UInt16} {body : String} {inner : Json}
    (h : Succeeded status) (envelope : Envelope body inner) (uncoded : ∀ code, ¬ Coded inner code) :
    (received status body).content = .ok inner := by
  rw [content_of_envelope envelope, errorCode?_eq_none_iff.mpr uncoded]
  exact if_pos (isSuccess_iff.mpr h)

theorem content_of_unread {status : UInt16} {body : String} (h : Succeeded status)
    (unread : Json.parse? body = none) :
    (received status body).content = .error (.connection "Failed to parse response: <json syntax>") := by
  rw [content, unread]
  exact if_pos (isSuccess_iff.mpr h)

/-- An accepted response, and its content: under a status of success, an envelope without an error code. -/
def Accepted (r : Response) (content : Json) : Prop :=
  ∃ status body, r = .received status body ∧ Succeeded status ∧ Envelope body content ∧
    ∀ code, ¬ Coded content code

theorem Accepted.content_eq {r : Response} {v : Json} (h : r.Accepted v) : r.content = .ok v := by
  obtain ⟨status, body, rfl, hsuccess, henvelope, huncoded⟩ := h
  exact content_of_success hsuccess henvelope huncoded

theorem Accepted.ordered {r : Response} {v : Json} (h : r.Accepted v) : v.Ordered :=
  content_ordered h.content_eq

/-- A response that is received is accepted, or an error of the cloud, or cannot be read. -/
theorem received_cases (status : UInt16) (body : String) :
    (∃ inner, (received status body).Accepted inner) ∨
    (∃ code message, Refusal status body code message) ∨
    (Succeeded status ∧ Json.parse? body = none) ∨
    ∃ value, Json.parse? body = some value ∧ ∀ inner, ¬ Envelope body inner := by
  rcases envelope_or body with ⟨inner, henvelope⟩ | hunread | hother
  case inr.inr => exact .inr (.inr (.inr hother))
  case inr.inl =>
    by_cases hsuccess : Succeeded status
    · exact .inr (.inr (.inl ⟨hsuccess, hunread⟩))
    · exact .inr (.inl ⟨_, _, .unreadable hunread hsuccess⟩)
  case inl =>
    by_cases hcoded : ∃ code, Coded inner code
    · obtain ⟨code, hcode⟩ := hcoded
      have hreason : Reason inner (errorText inner) := reason_iff.mpr rfl
      by_cases hnarrow : code < UInt16.size
      · exact .inr (.inl ⟨_, _, .coded henvelope hcode hnarrow hreason⟩)
      · exact .inr (.inl ⟨_, _, .wide henvelope hcode (Nat.not_lt.mp hnarrow) hreason⟩)
    · rw [not_exists] at hcoded
      by_cases hsuccess : Succeeded status
      · exact .inl ⟨inner, status, body, rfl, hsuccess, henvelope, hcoded⟩
      · exact .inr (.inl ⟨_, _, .uncoded henvelope hcoded hsuccess⟩)

section Decoding

variable {α : Type} {command : String} {item : Json → Decode.Result α}

theorem Accepted.decode_eq {r : Response} {content : Json} (h : r.Accepted content) (command : String)
    (item : Json → Decode.Result α) : r.decode command item = (item content).mapError fun e =>
      .connection ("Failed to parse " ++ command ++ " response: " ++ e.message) := by
  rw [decode, h.content_eq]
  simp only
  cases item content <;> rfl

/-- The error of a request, by what its response is. -/
inductive Fails (command : String) (item : Json → Decode.Result α) : Response → Error → Prop
  | lost {reason : String} :
    Fails command item (.lost reason) (.connection ("HTTP request failed: " ++ reason))
  | broken {reason : String} :
    Fails command item (.broken reason) (.connection ("Failed to read response: " ++ reason))
  | refused {status code : UInt16} {body message : String}
    (refusal : Refusal status body code message) :
    Fails command item (.received status body) (.api code message)
  | unread {status : UInt16} {body : String} (success : Succeeded status)
    (unread : Json.parse? body = none) :
    Fails command item (.received status body)
      (.connection "Failed to parse response: <json syntax>")
  | shapeless {status : UInt16} {body : String} {value : Json}
    (parsed : Json.parse? body = some value) (shapeless : ∀ inner, ¬ Envelope body inner) :
    Fails command item (.received status body) (.connection "Unexpected response format")
  | unfit {r : Response} {content : Json} {e : DecodeError} (accepted : r.Accepted content)
    (unfit : item content = .error e) :
    Fails command item r
      (.connection ("Failed to parse " ++ command ++ " response: " ++ e.message))

theorem Fails.decode_eq {r : Response} {e : Error} (h : Fails command item r e) :
    r.decode command item = .error e := by
  cases h with
  | lost | broken => rfl
  | refused refusal => rw [decode, content_of_refusal refusal]
  | unread success unread => rw [decode, content_of_unread success unread]
  | shapeless parsed shapeless => rw [decode, content_of_shapeless _ parsed shapeless]
  | unfit accepted unfit =>
    rw [accepted.decode_eq, unfit]
    rfl

/-- A response gives a value or it fails. -/
theorem accepted_or_fails (command : String) (item : Json → Decode.Result α) (r : Response) :
    (∃ content v, r.Accepted content ∧ item content = .ok v) ∨ ∃ e, Fails command item r e := by
  cases r with
  | lost reason => exact .inr ⟨_, .lost⟩
  | broken reason => exact .inr ⟨_, .broken⟩
  | received status body =>
    rcases received_cases status body with
      ⟨content, haccepted⟩ | ⟨code, message, hrefusal⟩ | ⟨hsuccess, hunread⟩ | ⟨value, hparse, hother⟩
    · cases hitem : item content with
      | ok v => exact .inl ⟨content, v, haccepted, hitem⟩
      | error e => exact .inr ⟨_, .unfit haccepted hitem⟩
    · exact .inr ⟨_, .refused hrefusal⟩
    · exact .inr ⟨_, .unread hsuccess hunread⟩
    · exact .inr ⟨_, .shapeless hparse hother⟩

theorem decode_ok_iff {r : Response} {v : α} :
    r.decode command item = .ok v ↔ ∃ content, r.Accepted content ∧ item content = .ok v := by
  constructor
  · intro hok
    rcases accepted_or_fails command item r with ⟨content, w, haccepted, hitem⟩ | ⟨e, hfails⟩
    · rw [haccepted.decode_eq, hitem] at hok
      cases hok
      exact ⟨content, haccepted, hitem⟩
    · rw [hfails.decode_eq] at hok
      cases hok
  · rintro ⟨content, haccepted, hitem⟩
    rw [haccepted.decode_eq, hitem]
    rfl

theorem decode_error_iff {r : Response} {e : Error} :
    r.decode command item = .error e ↔ Fails command item r e := by
  constructor
  · intro herror
    rcases accepted_or_fails command item r with ⟨content, v, haccepted, hitem⟩ | ⟨e', hfails⟩
    · rw [haccepted.decode_eq, hitem] at herror
      cases herror
    · rw [hfails.decode_eq] at herror
      cases herror
      exact hfails
  · exact Fails.decode_eq

variable {status : UInt16} {body : String}

theorem gives_iff {v : α} : Gives item status body v ↔
    ∃ content, (received status body).Accepted content ∧ item content = .ok v := by
  constructor
  · rintro ⟨hsuccess, inner, henvelope, huncoded, hitem⟩
    exact ⟨inner, ⟨status, body, rfl, hsuccess, henvelope, huncoded⟩, hitem⟩
  · rintro ⟨inner, ⟨_, _, hreceived, hsuccess, henvelope, huncoded⟩, hitem⟩
    cases hreceived
    exact ⟨hsuccess, inner, henvelope, huncoded, hitem⟩

theorem decode_eq_ok_iff (command : String) {v : α} :
    (received status body).decode command item = .ok v ↔ Gives item status body v :=
  decode_ok_iff.trans gives_iff.symm

theorem decode_eq_api_iff (command : String) (item : Json → Decode.Result α) {code : UInt16}
    {message : String} : (received status body).decode command item = .error (.api code message) ↔
      Refusal status body code message := by
  rw [decode_error_iff]
  constructor
  · intro h
    cases h with
    | refused refusal => exact refusal
  · exact .refused

theorem decode_judged (command : String) (item : Json → Decode.Result α) (status : UInt16)
    (body : String) : Judged item status body ((received status body).decode command item) := by
  constructor
  case ok =>
    intro v
    exact decode_eq_ok_iff command
  case api =>
    intro code message
    exact decode_eq_api_iff command item
  case connection =>
    simp only [← decode_eq_ok_iff command, ← decode_eq_api_iff command item]
    cases hdecode : (received status body).decode command item with
    | ok v => simp
    | error e =>
      cases decode_error_iff.mp hdecode <;> simp

end Decoding

/-- A response that reports an error: by its status, or by an error code in an envelope. -/
def Faulty (status : UInt16) (body : String) : Prop :=
  ¬ Succeeded status ∨ ∃ inner code, Envelope body inner ∧ Coded inner code

theorem Faulty.not_gives {α : Type} {item : Json → Decode.Result α} {status : UInt16}
    {body : String} (h : Faulty status body) (v : α) : ¬ Gives item status body v := by
  intro hgives
  obtain ⟨hsuccess, inner, henvelope, huncoded, -⟩ := hgives
  rcases h with hfailed | ⟨inner', code, henvelope', hcoded⟩
  · exact hfailed hsuccess
  · rw [henvelope.unique henvelope'] at hcoded
    exact huncoded code hcoded

section Jobs

variable {r : Response} {command : String}

/-- A response that starts a job, and may name the entity that the job works on. -/
def Starts (r : Response) (entityId : Option String) (jobId : String) : Prop :=
  ∃ content, r.Accepted content ∧ JobHandle.Describes content ⟨entityId, jobId⟩

/-- A response that tells how a job stands, and its result if it has one. -/
def Tells (r : Response) (status : UInt8) (result : Option Json) : Prop :=
  ∃ content, r.Accepted content ∧ JobState.Describes content ⟨status, result⟩

theorem decode_handle_iff {entityId : Option String} {jobId : String} :
    r.decode command JobHandle.decode = .ok ⟨entityId, jobId⟩ ↔ r.Starts entityId jobId := by
  rw [decode_ok_iff]
  exact exists_congr fun content => and_congr_right fun haccepted =>
    JobHandle.decode_eq_ok_iff haccepted.ordered

theorem decode_state_iff {status : UInt8} {result : Option Json} :
    r.decode command JobState.decode = .ok ⟨status, result⟩ ↔ r.Tells status result := by
  rw [decode_ok_iff]
  exact exists_congr fun content => and_congr_right fun haccepted =>
    JobState.decode_eq_ok_iff haccepted.ordered

theorem Starts.unique {entityId entityId' : Option String} {jobId jobId' : String}
    (h : r.Starts entityId jobId) (h' : r.Starts entityId' jobId') :
    entityId' = entityId ∧ jobId' = jobId := by
  have hhandle : r.decode "" JobHandle.decode = _ := decode_handle_iff.mpr h
  cases hhandle.symm.trans (decode_handle_iff.mpr h')
  exact ⟨rfl, rfl⟩

theorem Tells.unique {status status' : UInt8} {result result' : Option Json}
    (h : r.Tells status result) (h' : r.Tells status' result') : status' = status ∧ result' = result := by
  have hstate : r.decode "" JobState.decode = _ := decode_state_iff.mpr h
  cases hstate.symm.trans (decode_state_iff.mpr h')
  exact ⟨rfl, rfl⟩

theorem Tells.ordered {status : UInt8} {v : Json} (h : r.Tells status (some v)) : v.Ordered := by
  obtain ⟨content, haccepted, hdescribes⟩ := h
  obtain ⟨field, hfields, hordered⟩ := hdescribes.exists_fields haccepted.ordered
  exact hordered _ v ((hfields.result v).mp rfl).1

end Jobs

end Response
end NodeGroups
