import SessionRecovery.Proofs.Client.Resend

/-!
# One request, exactly

A dispatch hands over one request or none, and what comes of it is told by what the network gives next. A
reply always leaves its tokens in the session, whether or not it can be read; without a reply the session
stays. Taking over the tokens of a reply tells whether it changed any, and a second time changes nothing.
-/

namespace SessionRecovery

namespace Session

variable {s : Session} {names : HeaderNames} {fields : Header.Fields}

/-- The three tokens of a session. -/
def tokens (s : Session) : String × String × String := (s.access, s.refresh, s.csrf)

/-- What taking over the tokens of a reply does to a session. -/
structure Captures (s : Session) (names : HeaderNames) (fields : Header.Fields) : Prop where
  /-- The address stays. -/
  baseUrl : (s.capture names fields).baseUrl = s.baseUrl
  /-- What the client calls itself stays. -/
  userAgent : (s.capture names fields).userAgent = s.userAgent
  /-- A change is told just when a token is another one. -/
  changes_iff : s.captureChanges names fields = true ↔ (s.capture names fields).tokens ≠ s.tokens
  /-- A second time leaves the session. -/
  again : (s.capture names fields).capture names fields = s.capture names fields
  /-- A second time tells of no change. -/
  unchanged : (s.capture names fields).captureChanges names fields = false

/-- Two sessions of one client that hold the same tokens are the same session. -/
theorem eq_iff_tokens_eq {t : Session} (hb : t.baseUrl = s.baseUrl)
    (ha : t.userAgent = s.userAgent) : t = s ↔ t.tokens = s.tokens := by
  obtain ⟨baseUrl, userAgent, access, refresh, csrf⟩ := s
  obtain ⟨baseUrl', userAgent', access', refresh', csrf'⟩ := t
  simp only at hb ha
  subst hb ha
  simp [tokens]

/-- What a reply brings replaces itself. -/
theorem capture_capture (s : Session) (names : HeaderNames) (fields : Header.Fields) :
    (s.capture names fields).capture names fields = s.capture names fields := by
  have hslot (name old : String) : (fields.nonEmptyText? name).getD
      ((fields.nonEmptyText? name).getD old) = (fields.nonEmptyText? name).getD old := by
    cases fields.nonEmptyText? name <;> rfl
  simp only [capture, hslot]

/-- Tokens are taken over in just this way, whatever their headers are called. -/
theorem captures (s : Session) (names : HeaderNames) (fields : Header.Fields) :
    s.Captures names fields where
  baseUrl := rfl
  userAgent := rfl
  changes_iff := captureChanges_iff.trans (not_congr (eq_iff_tokens_eq rfl rfl))
  again := s.capture_capture names fields
  unchanged := by
    rw [← Bool.not_eq_true, captureChanges_iff, Classical.not_not]
    exact s.capture_capture names fields

end Session

namespace Delivery

/-- A failure whose body is neither blank nor a report. -/
structure Malformed (d : Delivery) : Prop where
  /-- The status is that of a failure. -/
  failure : 400 ≤ d.status
  /-- The body has more than whitespace in it. -/
  filled : ∃ b ∈ d.body, b ∉ ([0x09, 0x0A, 0x0C, 0x0D, 0x20] : Bytes)
  /-- The body is no report. -/
  unreported : ∀ api, ApiError.decoder.read d.body ≠ .ok api

/-- A body gives a report when it is blank or holds one. -/
theorem exists_fromBody_iff {body : Bytes} : (∃ api, ApiError.fromBody body = .ok api) ↔
    (∀ b ∈ body, b ∈ ([0x09, 0x0A, 0x0C, 0x0D, 0x20] : Bytes)) ∨
      ∃ api, ApiError.decoder.read body = .ok api := by
  rw [ApiError.fromBody, ← Bytes.allBlank_iff]
  cases body.allBlank <;> simp

/-- What is not malformed can be read, and what is malformed is a text that cannot. -/
theorem ofDelivery_cases (d : Delivery) :
    (d.Malformed ∧ ∃ reason, Response.ofDelivery d = .error (.serialization reason)) ∨
    (¬ d.Malformed ∧ ∃ response, Response.ofDelivery d = .ok response) := by
  have hmalformed : d.Malformed ↔ 400 ≤ d.status ∧ ¬ ∃ api, ApiError.fromBody d.body = .ok api := by
    rw [exists_fromBody_iff, not_or]
    constructor
    · rintro ⟨hle, ⟨b, hb, hn⟩, hno⟩
      exact ⟨hle, fun hall => hn (hall b hb), fun ⟨api, h⟩ => hno api h⟩
    · rintro ⟨hle, hall, hno⟩
      simp only [Classical.not_forall] at hall
      obtain ⟨b, hb, hn⟩ := hall
      exact ⟨hle, ⟨b, hb, hn⟩, fun api h => hno ⟨api, h⟩⟩
  rw [hmalformed, Response.ofDelivery, leastFailure]
  by_cases hle : 400 ≤ d.status
  · rw [if_pos hle]
    cases ApiError.fromBody d.body with
    | error f => simp [hle, Error.ofFault]
    | ok api => simp
  · simp [hle]

end Delivery

namespace World

/-! ## What the network gives -/

/-- How waiting for the next reply ends. -/
def arrival (w : World) : Arrival :=
  match w.replies with
  | [] => .failed (.transport "no scripted reply")
  | reply :: _ =>
    if reply.interruption = .beforeReply then .interrupted
    else match reply.answer with
      | .error e => .failed e
      | .ok d => .delivered d

/-- What is handed over does not change how waiting for the next reply ends. -/
theorem arrival_of_transmit {w w' : World} {o : Outbound} {a : Arrival}
    (h : w.transmit o = (a, w')) : w.arrival = a := by
  rw [arrival]
  cases hr : w.replies with
  | nil =>
    simp only [transmit, note, hr] at h
    exact congrArg Prod.fst h
  | cons reply rest =>
    obtain ⟨answer, interruption⟩ := reply
    cases interruption <;> cases answer <;> simp only [transmit, note, hr] at h <;>
      exact congrArg Prod.fst h

/-! ## The dispatch -/

/-- A request is handed over: the caller has not given up, and the query and the headers can be built. A body
always can. -/
structure Sends (names : HeaderNames) (r : Request) (w : World) : Prop where
  /-- The caller has not given up. -/
  active : w.cancelled = false
  /-- The payload can travel in the URL, if it has to. -/
  query : ∃ query, r.query = .ok query
  /-- The headers can be built from the session. -/
  headers : ∃ fields, w.session.outboundHeaders names r.headers = .ok fields

/-- Why a dispatch receives no reply. -/
inductive Unanswered (names : HeaderNames) (r : Request) (w : World) : Error → Prop
  /-- The caller had given up. -/
  | cancelled (hc : w.cancelled = true) : Unanswered names r w .cancelled
  /-- The payload cannot travel in the URL. -/
  | query {e : Error} (hc : w.cancelled = false) (hq : r.query = .error e) : Unanswered names r w e
  /-- The headers cannot be built. -/
  | headers {query : Option String} {f : Header.Fault} (hc : w.cancelled = false)
      (hq : r.query = .ok query) (hh : w.session.outboundHeaders names r.headers = .error f) :
      Unanswered names r w (.serialization f.message)
  /-- The caller gave up before the reply arrived. -/
  | interrupted (hs : Sends names r w) (ha : w.arrival = .interrupted) :
      Unanswered names r w .cancelled
  /-- The network failed. -/
  | failed {e : Error} (hs : Sends names r w) (ha : w.arrival = .failed e) : Unanswered names r w e

/-- What one dispatch does, with the request that it hands over and the reply that it receives, as far as there
are any. -/
structure Dispatches (names : HeaderNames) (r : Request) (w : World) (x : Except Error Response)
    (w' : World) (sent : Option Outbound) (answer : Option Delivery) : Prop where
  /-- Nothing but the request is handed over. -/
  sent_eq : w'.sent = w.sent ++ sent.toList
  /-- There is a request just when the caller is there and it can be built. -/
  sends_iff : sent.isSome = true ↔ Sends names r w
  /-- The request is built from the session. -/
  built : ∀ o, sent = some o → ∃ query fields, r.query = .ok query ∧
    w.session.outboundHeaders names r.headers = .ok fields ∧
    o = ⟨r.method, withQuery (w.session.url r.path) query, fields, r.body⟩
  /-- Nothing but the reply is received. -/
  received_eq : w'.received = w.received ++ answer.toList
  /-- There is a reply when the network delivers one to the request. -/
  answer_iff : ∀ d, answer = some d ↔ Sends names r w ∧ w.arrival = .delivered d
  /-- The session takes over the tokens of the reply, whatever the result. -/
  captured : ∀ d, answer = some d → w'.session = w.session.capture names d.headers
  /-- The result tells that the reply cannot be read just when it is malformed. -/
  unread_iff : ∀ d, answer = some d →
    ((∃ reason, x = .error (.serialization reason)) ↔ d.Malformed)
  /-- Any other reply is the result, a success below the statuses of failures. -/
  read : ∀ d, answer = some d → ¬ d.Malformed → ∃ response, x = .ok response ∧
    response.status = d.status ∧ response.headers = d.headers ∧ response.body = d.body ∧
    (response.isSuccess = true ↔ d.status < 400)
  /-- Without a reply the session stays, and the result tells why there is none. -/
  unanswered : answer = none → w'.session = w.session ∧ ∃ e, Unanswered names r w e ∧ x = .error e
  /-- A result is reported last, with whether a token changed. -/
  reported : ∀ response, x = .ok response → ∃ updated,
    w'.history.getLast? = some (.reported (.dispatchResponse r.path response.status
      response.errorCode updated)) ∧
    (updated = true ↔ w'.session.tokens ≠ w.session.tokens)

variable {names : HeaderNames} {r : Request} {w w' : World} {o : Outbound} {d : Delivery}

/-- What can be built is sent. -/
theorem sends_of_outbound (hc : w.cancelled = false) (hb : w.session.outbound names r = .ok o) :
    Sends names r w := by
  obtain ⟨hquery, hheaders⟩ := Session.exists_outbound_iff.mp ⟨o, hb⟩
  exact ⟨hc, hquery, hheaders⟩

/-- What cannot be built fails for its query or for its headers. -/
theorem unanswered_of_outbound {e : Error} (hc : w.cancelled = false)
    (hb : w.session.outbound names r = .error e) : Unanswered names r w e ∧ ¬ Sends names r w := by
  rw [Session.outbound] at hb
  cases hq : r.query with
  | error e' =>
    rw [hq] at hb
    cases hb
    refine ⟨.query hc hq, ?_⟩
    rintro ⟨-, ⟨query, hquery⟩, -⟩
    cases hq.symm.trans hquery
  | ok query =>
    rw [hq] at hb
    dsimp only at hb
    cases hh : w.session.outboundHeaders names r.headers with
    | error f =>
      rw [hh] at hb
      cases hb
      refine ⟨.headers hc hq hh, ?_⟩
      rintro ⟨-, -, fields, hfields⟩
      cases hh.symm.trans hfields
    | ok fields =>
      rw [hh] at hb
      cases hb

/-- The request that is handed over is one that the caller waits for and that can be built. -/
theorem isSome_handed?_iff : (w.handed? names r).isSome = true ↔ Sends names r w := by
  constructor
  · intro h
    obtain ⟨o, ho⟩ := Option.isSome_iff_exists.mp h
    obtain ⟨hc, hb⟩ := handed?_eq_some_iff.mp ho
    exact sends_of_outbound hc hb
  · rintro ⟨hc, hquery, hheaders⟩
    obtain ⟨o, hb⟩ := Session.exists_outbound_iff.mpr ⟨hquery, hheaders⟩
    exact Option.isSome_iff_exists.mpr ⟨o, handed?_eq_some_iff.mpr ⟨hc, hb⟩⟩

/-- Where there is a reason for none, no reply is delivered to the request. -/
theorem Unanswered.not_delivered {e : Error} (h : Unanswered names r w e) :
    ¬ (Sends names r w ∧ w.arrival = .delivered d) := by
  rintro ⟨⟨hc, ⟨query, hquery⟩, ⟨fields, hfields⟩⟩, hd⟩
  cases h with
  | cancelled hc' => cases hc.symm.trans hc'
  | query _ hq => cases hquery.symm.trans hq
  | headers _ _ hh => cases hfields.symm.trans hh
  | interrupted _ ha => cases hd.symm.trans ha
  | failed _ ha => cases hd.symm.trans ha

variable {x : Except Error Response}

/-- A dispatch that fails for one of these reasons receives nothing. -/
theorem Dispatched.dispatches_unanswered {e : Error} (hd : Dispatched names r w (.error e) w')
    (hr : w'.received = w.received) (hs : w'.session = w.session) (he : Unanswered names r w e) :
    Dispatches names r w (.error e) w' (w.handed? names r) none where
  sent_eq := hd.sent_eq
  sends_iff := isSome_handed?_iff
  built _ ho := Session.outbound_eq_ok_iff.mp (handed?_eq_some_iff.mp ho).2
  received_eq := hr.trans (List.append_nil _).symm
  answer_iff _ := iff_of_false (fun h => (nomatch h)) he.not_delivered
  captured _ h := nomatch h
  unread_iff _ h := nomatch h
  read _ h := nomatch h
  unanswered _ := ⟨hs, e, he, rfl⟩
  reported _ h := nomatch h

/-- A dispatch to which a reply is delivered takes over its tokens and reads it. -/
theorem Dispatched.dispatches_answered (hd : Dispatched names r w x w') (hsends : Sends names r w)
    (ha : w.arrival = .delivered d) (hr : w'.received = w.received ++ [d])
    (hs : w'.session = w.session.capture names d.headers) (hx : x = Response.ofDelivery d)
    (hreport : ∀ response, x = .ok response → w'.history.getLast? =
      some (.reported (.dispatchResponse r.path response.status response.errorCode
        (w.session.captureChanges names d.headers)))) :
    Dispatches names r w x w' (w.handed? names r) (some d) where
  sent_eq := hd.sent_eq
  sends_iff := isSome_handed?_iff
  built _ ho := Session.outbound_eq_ok_iff.mp (handed?_eq_some_iff.mp ho).2
  received_eq := hr
  answer_iff d' := by
    rw [ha, Arrival.delivered.injEq, Option.some.injEq]
    exact (and_iff_right hsends).symm
  captured := by
    rintro _ ⟨⟩
    exact hs
  unread_iff := by
    rintro _ ⟨⟩
    rw [hx]
    obtain ⟨hm, hread⟩ | ⟨hm, response, hread⟩ := d.ofDelivery_cases
    · exact iff_of_true hread hm
    · rw [hread]
      exact iff_of_false (fun ⟨_, h⟩ => (nomatch h)) hm
  read := by
    rintro _ ⟨⟩ hm
    obtain ⟨hm', -⟩ | ⟨-, response, hread⟩ := d.ofDelivery_cases
    · exact absurd hm' hm
    · have hsuccess := Response.isSuccess_iff_of_ofDelivery hread
      refine ⟨response, hx.trans hread, ?_⟩
      obtain ⟨-, api, -, rfl⟩ | ⟨-, rfl⟩ := Response.ofDelivery_eq_ok_iff.mp hread
      · exact ⟨rfl, rfl, rfl, hsuccess⟩
      · exact ⟨rfl, rfl, rfl, hsuccess⟩
  unanswered h := nomatch h
  reported response h := by
    refine ⟨_, hreport response h, ?_⟩
    rw [hs]
    exact (w.session.captures names d.headers).changes_iff

/-- Every dispatch is one request or none, with what comes of it. -/
theorem Dispatched.exists_dispatches (hd : Dispatched names r w x w') :
    ∃ sent answer, Dispatches names r w x w' sent answer := by
  have harrival {o : Outbound} {a : Arrival} {v : World}
      (ht : (w.announced r).transmit o = (a, v)) : w.arrival = a := by
    -- announcing a request leaves the replies
    have ha : (w.announced r).arrival = a := arrival_of_transmit ht
    exact ha
  cases hd' : hd with
  | cancelled hc => exact ⟨_, none, hd.dispatches_unanswered rfl rfl (.cancelled hc)⟩
  | unbuildable hc hb =>
    exact ⟨_, none, hd.dispatches_unanswered rfl rfl (unanswered_of_outbound hc hb).1⟩
  | interrupted hc hb ht =>
    obtain ⟨hr, hs⟩ := received_of_announced ht
    exact ⟨_, none, hd.dispatches_unanswered (hr.trans (List.append_nil _)) hs
      (.interrupted (sends_of_outbound hc hb) (harrival ht))⟩
  | failed hc hb ht =>
    obtain ⟨hr, hs⟩ := received_of_announced ht
    exact ⟨_, none, hd.dispatches_unanswered
      ((received_report _ _).trans (hr.trans (List.append_nil _))) hs
      (.failed (sends_of_outbound hc hb) (harrival ht))⟩
  | @unreadable _ v d e hc hb ht hdel =>
    obtain ⟨hr, hs⟩ := received_of_announced ht
    have hcap : (v.takeTokens names d).session = w.session.capture names d.headers := by
      rw [takeTokens, hs]
    refine ⟨_, some d, hd.dispatches_answered (sends_of_outbound hc hb) (harrival ht)
      ((received_report _ _).trans hr) hcap hdel.symm ?_⟩
    rintro _ ⟨⟩
  | @answered _ v d response hc hb ht hdel =>
    obtain ⟨hr, hs⟩ := received_of_announced ht
    have hcap : (v.takeTokens names d).session = w.session.capture names d.headers := by
      rw [takeTokens, hs]
    refine ⟨_, some d, hd.dispatches_answered (sends_of_outbound hc hb) (harrival ht)
      ((received_report _ _).trans hr) hcap hdel.symm ?_⟩
    rintro _ ⟨⟩
    rw [← hs]
    exact List.getLast?_concat

/-- One request, exactly. Whatever the session, the names of headers, the request and the network, a dispatch
hands over one request just when the caller is there and it can be built; a reply leaves its tokens in the
session and is the result unless it is malformed; and without a reply the session stays and the result tells
why. Taking over the tokens of a reply changes nothing else, tells whether it changed one, and changes none a
second time. -/
theorem dispatch_exactly (names : HeaderNames) (r : Request) (w : World) :
    (∃ sent answer,
      Dispatches names r w (dispatch names r w).1 (dispatch names r w).2 sent answer) ∧
    ∀ (s : Session) (fields : Header.Fields), s.Captures names fields :=
  ⟨(dispatched_dispatch names r w).exists_dispatches, fun s fields => s.captures names fields⟩

end World

end SessionRecovery
