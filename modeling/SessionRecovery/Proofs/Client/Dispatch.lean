import SessionRecovery.Client.Call

/-!
# One dispatch

Everything that sending a request once can do, exit by exit, and what handing a request to the network
changes: the history grows by the request and by the reply if there is one, and session and provider stay.
-/

namespace SessionRecovery

/-- The reply in an occurrence. -/
def Occurrence.received? : Occurrence → Option Delivery
  | .received d => some d
  | _ => none

/-- The request in an occurrence. -/
def Occurrence.sent? : Occurrence → Option Outbound
  | .sent o => some o
  | _ => none

/-- The refresh token that was handed over in an occurrence. -/
def Occurrence.saved? : Occurrence → Option String
  | .saved token => some token
  | _ => none

namespace World

/-- The replies received so far, in order. -/
def received (w : World) : List Delivery := w.history.filterMap (·.received?)

/-- The requests handed to the network so far, in order. -/
def sent (w : World) : List Outbound := w.history.filterMap (·.sent?)

/-- The refresh tokens that the provider was given to keep so far, in order. -/
def saved (w : World) : List String := w.history.filterMap (·.saved?)

/-- How often the provider was asked for credentials so far. -/
def asked (w : World) : Nat := w.history.count .asked

/-- A report is not a reply. -/
@[simp] theorem received_report (w : World) (e : Event) : (w.report e).received = w.received := by
  simp only [received, report, note, List.filterMap_append, List.filterMap_cons,
    Occurrence.received?, List.filterMap_nil, List.append_nil]

/-- A report is not a request. -/
@[simp] theorem sent_report (w : World) (e : Event) : (w.report e).sent = w.sent := by
  simp only [sent, report, note, List.filterMap_append, List.filterMap_cons,
    Occurrence.sent?, List.filterMap_nil, List.append_nil]

/-- Keeping a refresh token is not a reply. -/
@[simp] theorem received_save (w : World) (token : String) :
    (w.save token).received = w.received := by
  simp only [received, save, List.filterMap_append, List.filterMap_cons,
    Occurrence.received?, List.filterMap_nil, List.append_nil]

/-- Keeping a refresh token is not a request. -/
@[simp] theorem sent_save (w : World) (token : String) : (w.save token).sent = w.sent := by
  simp only [sent, save, List.filterMap_append, List.filterMap_cons,
    Occurrence.sent?, List.filterMap_nil, List.append_nil]

/-- Asking for credentials is not a reply. -/
@[simp] theorem received_askCredentials (w : World) : (askCredentials w).2.received = w.received := by
  simp only [received, askCredentials, List.filterMap_append, List.filterMap_cons,
    Occurrence.received?, List.filterMap_nil, List.append_nil]

/-- Asking for credentials is not a request. -/
@[simp] theorem sent_askCredentials (w : World) : (askCredentials w).2.sent = w.sent := by
  simp only [sent, askCredentials, List.filterMap_append, List.filterMap_cons,
    Occurrence.sent?, List.filterMap_nil, List.append_nil]

/-! ## The network -/

/-- The reply of an arrival. -/
def Arrival.delivery? : Arrival → Option Delivery
  | .delivered d => some d
  | _ => none

variable {w w' : World} {o : Outbound} {arrival : Arrival}

/-- Everything that handing a request to the network changes: the replies to come, whether the caller
gave up, and the history. -/
theorem eq_of_transmit (h : w.transmit o = (arrival, w')) :
    ∃ rest cancelled, w' =
      { w with
        replies := rest
        cancelled := cancelled
        history := w.history ++ .sent o :: (arrival.delivery?.map .received).toList } := by
  rw [transmit] at h
  cases hr : w.replies with
  | nil =>
    simp only [note, hr] at h
    obtain ⟨rfl, rfl⟩ := Prod.mk.inj h
    exact ⟨[], w.cancelled, by simp [Arrival.delivery?]⟩
  | cons reply rest =>
    obtain ⟨answer, interruption⟩ := reply
    refine ⟨rest, w.cancelled || interruption ≠ .never, ?_⟩
    cases interruption <;> cases answer <;> simp only [note, hr] at h <;>
      obtain ⟨rfl, rfl⟩ := Prod.mk.inj h <;> simp [Arrival.delivery?]

/-- The network does not change the session. -/
theorem session_of_transmit (h : w.transmit o = (arrival, w')) : w'.session = w.session := by
  obtain ⟨rest, cancelled, rfl⟩ := eq_of_transmit h
  rfl

/-- The history grows by the request and by the reply if there is one. -/
theorem history_of_transmit (h : w.transmit o = (arrival, w')) :
    w'.history = w.history ++ .sent o :: (arrival.delivery?.map .received).toList := by
  obtain ⟨rest, cancelled, rfl⟩ := eq_of_transmit h
  rfl

/-- The reply of an arrival is received. -/
theorem received_of_transmit (h : w.transmit o = (arrival, w')) :
    w'.received = w.received ++ arrival.delivery?.toList := by
  rw [received, history_of_transmit h, List.filterMap_append, List.filterMap_cons]
  cases arrival <;> rfl

/-- One request is handed over. -/
theorem sent_of_transmit (h : w.transmit o = (arrival, w')) : w'.sent = w.sent ++ [o] := by
  rw [sent, history_of_transmit h, List.filterMap_append, List.filterMap_cons]
  cases arrival <;> rfl

/-! ## The dispatch -/

/-- A caller that did not give up goes on. -/
theorem ensureActive_of_active (h : w.cancelled = false) : ensureActive w = (.ok (), w) := by
  rw [ensureActive, h, if_neg Bool.false_ne_true]

/-- A caller that gave up ends the operation. -/
theorem ensureActive_of_cancelled (h : w.cancelled = true) :
    ensureActive w = (.error .cancelled, w) := by
  rw [ensureActive, h, if_pos rfl]

/-- Going on leaves the world. -/
theorem eq_of_ensureActive {x : Unit} (h : ensureActive w = (.ok x, w')) : w' = w := by
  rw [ensureActive] at h
  split at h
  · cases h
  · exact (congrArg Prod.snd h).symm

/-- The world in which a request is handed over. -/
def announced (r : Request) (w : World) : World := w.report (.dispatchSend r.method r.path)

/-- Everything that sending a request once can do: the result and the world after it. -/
inductive Dispatched (names : HeaderNames) (r : Request) (w : World) :
    Except Error Response → World → Prop
  /-- The caller had given up. -/
  | cancelled (hc : w.cancelled = true) : Dispatched names r w (.error .cancelled) w
  /-- The request cannot be built from the session. -/
  | unbuildable {e : Error} (hc : w.cancelled = false)
      (hb : w.session.outbound names r = .error e) : Dispatched names r w (.error e) w
  /-- The caller gave up before the reply arrived. -/
  | interrupted {o : Outbound} {w' : World} (hc : w.cancelled = false)
      (hb : w.session.outbound names r = .ok o)
      (ht : (w.announced r).transmit o = (.interrupted, w')) :
      Dispatched names r w (.error .cancelled) w'
  /-- The request was not answered. -/
  | failed {o : Outbound} {w' : World} {e : Error} (hc : w.cancelled = false)
      (hb : w.session.outbound names r = .ok o)
      (ht : (w.announced r).transmit o = (.failed e, w')) :
      Dispatched names r w (.error e) (w'.report (.transportFailed r.method r.path e))
  /-- The reply was a failure that could not be read. -/
  | unreadable {o : Outbound} {w' : World} {d : Delivery} {e : Error} (hc : w.cancelled = false)
      (hb : w.session.outbound names r = .ok o)
      (ht : (w.announced r).transmit o = (.delivered d, w'))
      (hd : Response.ofDelivery d = .error e) :
      Dispatched names r w (.error e)
        ((w'.takeTokens names d).report (.bodyUnreadable r.path d.status e))
  /-- The reply was read. -/
  | answered {o : Outbound} {w' : World} {d : Delivery} {response : Response}
      (hc : w.cancelled = false) (hb : w.session.outbound names r = .ok o)
      (ht : (w.announced r).transmit o = (.delivered d, w'))
      (hd : Response.ofDelivery d = .ok response) :
      Dispatched names r w (.ok response)
        ((w'.takeTokens names d).report (.dispatchResponse r.path response.status
          response.errorCode (w'.session.captureChanges names d.headers)))

/-- A caller that gave up sends nothing. -/
theorem dispatch_of_cancelled (names : HeaderNames) (r : Request) (hc : w.cancelled = true) :
    dispatch names r w = (.error .cancelled, w) := by
  rw [dispatch, Run.bind_error (ensureActive_of_cancelled hc)]

/-- What cannot be built is not sent. -/
theorem dispatch_of_unbuildable {names : HeaderNames} {r : Request} {e : Error}
    (hc : w.cancelled = false) (hb : w.session.outbound names r = .error e) :
    dispatch names r w = (.error e, w) := by
  have hbuild : build names r w = (.error e, w) := by rw [build, hb]
  rw [dispatch, Run.bind_ok (ensureActive_of_active hc), Run.bind_error hbuild]

/-- What can be built is announced, sent, and its reply is read. -/
theorem dispatch_of_built {names : HeaderNames} {r : Request} (hc : w.cancelled = false)
    (hb : w.session.outbound names r = .ok o) :
    dispatch names r w = (await r o >>= accept names r) (w.announced r) := by
  have hbuild : build names r w = (.ok o, w) := by rw [build, hb]
  have hreport : Run.change (report (.dispatchSend r.method r.path)) w = (.ok (), w.announced r) :=
    rfl
  rw [dispatch, Run.bind_ok (ensureActive_of_active hc), Run.bind_ok hbuild, Run.bind_ok hreport]

/-- Every dispatch is one of these. -/
theorem dispatched_dispatch (names : HeaderNames) (r : Request) (w : World) :
    Dispatched names r w (dispatch names r w).1 (dispatch names r w).2 := by
  cases hc : w.cancelled with
  | true =>
    rw [dispatch_of_cancelled names r hc]
    exact .cancelled hc
  | false =>
    cases hb : w.session.outbound names r with
    | error e =>
      rw [dispatch_of_unbuildable hc hb]
      exact .unbuildable hc hb
    | ok o =>
      obtain ⟨arrival, w', ht⟩ : ∃ a w', (w.announced r).transmit o = (a, w') := ⟨_, _, rfl⟩
      rw [dispatch_of_built hc hb]
      cases arrival with
      | interrupted =>
        have hawait : await r o (w.announced r) = (.error .cancelled, w') := by rw [await, ht]
        rw [Run.bind_error hawait]
        exact .interrupted hc hb ht
      | failed e =>
        have hawait : await r o (w.announced r) =
            (.error e, w'.report (.transportFailed r.method r.path e)) := by rw [await, ht]
        rw [Run.bind_error hawait]
        exact .failed hc hb ht
      | delivered d =>
        have hawait : await r o (w.announced r) = (.ok d, w') := by rw [await, ht]
        rw [Run.bind_ok hawait, accept]
        cases hd : Response.ofDelivery d with
        | error e => exact .unreadable hc hb ht hd
        | ok response => exact .answered hc hb ht hd

/-- The request that a dispatch hands to the network: none when the caller gave up or it cannot be
built. -/
def handed? (names : HeaderNames) (r : Request) (w : World) : Option Outbound :=
  if w.cancelled then none else (w.session.outbound names r).toOption

/-- A dispatch hands over at most one request, the one that the session builds. -/
theorem Dispatched.sent_eq {names : HeaderNames} {r : Request} {x : Except Error Response}
    (hd : Dispatched names r w x w') : w'.sent = w.sent ++ (w.handed? names r).toList := by
  have hnone {e : Error} (hc : w.cancelled = false) (hb : w.session.outbound names r = .error e) :
      w.handed? names r = none := by
    rw [handed?, hc, hb]
    rfl
  have hsome {o : Outbound} (hc : w.cancelled = false) (hb : w.session.outbound names r = .ok o) :
      w.handed? names r = some o := by
    rw [handed?, hc, hb]
    rfl
  have hsent {o : Outbound} {arrival : Arrival} {w' : World}
      (ht : (w.announced r).transmit o = (arrival, w')) : w'.sent = w.sent ++ [o] := by
    rw [sent_of_transmit ht, announced, sent_report]
  cases hd with
  | cancelled hc =>
    rw [handed?, hc]
    exact (List.append_nil _).symm
  | unbuildable hc hb =>
    rw [hnone hc hb]
    exact (List.append_nil _).symm
  | interrupted hc hb ht =>
    rw [hsome hc hb, hsent ht]
    rfl
  | failed hc hb ht =>
    rw [hsome hc hb, sent_report, hsent ht]
    rfl
  | unreadable hc hb ht hd =>
    have h := hsent ht
    rw [hsome hc hb, sent_report]
    exact h
  | answered hc hb ht hd =>
    have h := hsent ht
    rw [hsome hc hb, sent_report]
    exact h

/-- What becomes of a request that is handed over is received, and leaves the session. -/
theorem received_of_announced {r : Request} (ht : (w.announced r).transmit o = (arrival, w')) :
    w'.received = w.received ++ arrival.delivery?.toList ∧ w'.session = w.session := by
  have hr : (w.announced r).received = w.received := received_report w _
  rw [received_of_transmit ht, session_of_transmit ht, hr]
  exact ⟨rfl, rfl⟩

/-- A dispatch receives nothing, fails and leaves the session, or it receives one reply, takes over its
tokens and gives what the reply reads as. -/
theorem Dispatched.unanswered_or_answered {names : HeaderNames} {r : Request}
    {x : Except Error Response} (hd : Dispatched names r w x w') :
    ((∃ e, x = .error e) ∧ w'.received = w.received ∧ w'.session = w.session) ∨
    ∃ d, w'.received = w.received ++ [d] ∧ w'.session = w.session.capture names d.headers ∧
      x = Response.ofDelivery d := by
  cases hd with
  | cancelled hc => exact .inl ⟨⟨_, rfl⟩, rfl, rfl⟩
  | unbuildable hc hb => exact .inl ⟨⟨_, rfl⟩, rfl, rfl⟩
  | interrupted hc hb ht =>
    obtain ⟨hr, hs⟩ := received_of_announced ht
    exact .inl ⟨⟨_, rfl⟩, hr.trans (List.append_nil _), hs⟩
  | failed hc hb ht =>
    obtain ⟨hr, hs⟩ := received_of_announced ht
    exact .inl ⟨⟨_, rfl⟩, (received_report _ _).trans (hr.trans (List.append_nil _)), hs⟩
  | @unreadable _ w₁ d e hc hb ht hd =>
    obtain ⟨hr, hs⟩ := received_of_announced ht
    have hcap : (w₁.takeTokens names d).session = w.session.capture names d.headers := by
      rw [takeTokens, hs]
    exact .inr ⟨d, (received_report _ _).trans hr, hcap, hd.symm⟩
  | @answered _ w₁ d response hc hb ht hd =>
    obtain ⟨hr, hs⟩ := received_of_announced ht
    have hcap : (w₁.takeTokens names d).session = w.session.capture names d.headers := by
      rw [takeTokens, hs]
    exact .inr ⟨d, (received_report _ _).trans hr, hcap, hd.symm⟩

/-- A dispatch adds to the history. -/
theorem Dispatched.exists_history {names : HeaderNames} {r : Request} {x : Except Error Response}
    (hd : Dispatched names r w x w') : ∃ t, w'.history = w.history ++ t := by
  have hsent {o : Outbound} {arrival : Arrival} {w' : World}
      (ht : (w.announced r).transmit o = (arrival, w')) : ∃ t, w'.history = w.history ++ t :=
    ⟨_, (history_of_transmit ht).trans (List.append_assoc ..)⟩
  have hreport {v : World} (hv : ∃ t, v.history = w.history ++ t) (e : Event) :
      ∃ t, (v.report e).history = w.history ++ t := by
    obtain ⟨t, ht⟩ := hv
    exact ⟨t ++ [.reported e], by rw [report, note, ht, List.append_assoc]⟩
  cases hd with
  | cancelled hc => exact ⟨[], (List.append_nil _).symm⟩
  | unbuildable hc hb => exact ⟨[], (List.append_nil _).symm⟩
  | interrupted hc hb ht => exact hsent ht
  | failed hc hb ht => exact hreport (hsent ht) _
  | unreadable hc hb ht hd => exact hreport (hsent ht) _
  | answered hc hb ht hd => exact hreport (hsent ht) _

/-- A dispatch that gives an answer announced its request, handed it over, received the answer and reported
it. -/
theorem Dispatched.history_of_ok {names : HeaderNames} {r : Request} {response : Response}
    (hd : Dispatched names r w (.ok response) w') :
    ∃ o d updated, w.session.outbound names r = .ok o ∧ Response.ofDelivery d = .ok response ∧
      w'.history = w.history ++ [.reported (.dispatchSend r.method r.path), .sent o, .received d,
        .reported (.dispatchResponse r.path response.status response.errorCode updated)] := by
  cases hd with
  | @answered o w₁ d _ hc hb ht hd =>
    refine ⟨o, d, w₁.session.captureChanges names d.headers, hb, hd, ?_⟩
    simp [report, note, takeTokens, history_of_transmit ht, announced, Arrival.delivery?]

/-- A dispatch that gives an answer received it, and took over its tokens. -/
theorem Dispatched.exists_delivery {names : HeaderNames} {r : Request} {response : Response}
    (hd : Dispatched names r w (.ok response) w') :
    ∃ d, w'.received = w.received ++ [d] ∧ w'.session = w.session.capture names d.headers ∧
      Response.ofDelivery d = .ok response := by
  obtain ⟨⟨e, he⟩, -, -⟩ | ⟨d, hr, hs, hres⟩ := hd.unanswered_or_answered
  · cases he
  · exact ⟨d, hr, hs, hres.symm⟩

end World

end SessionRecovery
