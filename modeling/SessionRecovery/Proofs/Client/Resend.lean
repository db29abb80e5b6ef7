import SessionRecovery.Proofs.Client.Conversation
import SessionRecovery.Proofs.Client.Motion
import SessionRecovery.Proofs.Session.Faults

/-!
# Sending the same request again

While a call recovers, replies bring tokens and change nothing else in the session. A token that a reply
brought can be sent, and stands in the place of the caller's own header of that name. So the request can be
built whenever it is sent again, and all that may differ from the first time are its two tokens.
-/

namespace SessionRecovery

open Observation

/-- Two requests on the wire are the same but for the headers of the session's two tokens. -/
structure Outbound.Agrees (names : HeaderNames) (o o' : Outbound) : Prop where
  /-- They have one method. -/
  method : o'.method = o.method
  /-- They have one URL. -/
  url : o'.url = o.url
  /-- They have one body. -/
  body : o'.body = o.body
  /-- They have the same values under all other names. -/
  headers : ∀ n, Header.Name.parse? names.accessToken ≠ some n →
    Header.Name.parse? names.csrfToken ≠ some n → o'.headers.values n = o.headers.values n

namespace Session

/-- From one session to another, tokens were replaced by such that can be sent, and what a request is built
from stayed otherwise. -/
structure Carries (names : HeaderNames) (s s' : Session) : Prop where
  /-- The address stayed. -/
  baseUrl : s'.baseUrl = s.baseUrl
  /-- What the client calls itself stayed. -/
  userAgent : s'.userAgent = s.userAgent
  /-- The access token stayed, or there is one that can be sent. -/
  access : s'.access = s.access ∨
    s'.access ≠ "" ∧ Header.Presentable names.accessToken s'.access
  /-- The anti-forgery token stayed, or there is one that can be sent. -/
  csrf : s'.csrf = s.csrf ∨ s'.csrf ≠ "" ∧ Header.Presentable names.csrfToken s'.csrf

variable {names : HeaderNames} {s s' : Session} {r : Request} {o o' : Outbound}

/-- A session is carried to itself. -/
theorem Carries.refl (names : HeaderNames) (s : Session) : Carries names s s :=
  ⟨rfl, rfl, .inl rfl, .inl rfl⟩

/-- What is carried twice is carried. -/
theorem Carries.trans {s'' : Session} (h : Carries names s s') (h' : Carries names s' s'') :
    Carries names s s'' := by
  refine ⟨h'.baseUrl.trans h.baseUrl, h'.userAgent.trans h.userAgent, ?_, ?_⟩
  · rcases h'.access with heq | hnew
    · rw [heq]
      exact h.access
    · exact .inr hnew
  · rcases h'.csrf with heq | hnew
    · rw [heq]
      exact h.csrf
    · exact .inr hnew

/-- A token after a reply is the one before it, or was taken from the reply and can be sent. -/
theorem getD_nonEmptyText? (fields : Header.Fields) (name old : String) :
    (fields.nonEmptyText? name).getD old = old ∨ (fields.nonEmptyText? name).getD old ≠ "" ∧
      Header.Presentable name ((fields.nonEmptyText? name).getD old) := by
  cases h : fields.nonEmptyText? name with
  | none => exact .inl rfl
  | some token => exact .inr (Header.Fields.presentable_of_nonEmptyText? h)

/-- Taking over the tokens of a reply carries the session. -/
theorem carries_capture (s : Session) (names : HeaderNames) (fields : Header.Fields) :
    Carries names s (s.capture names fields) :=
  ⟨rfl, rfl, getD_nonEmptyText? fields _ _, getD_nonEmptyText? fields _ _⟩

/-- Where a token was sent, one is sent after the session was carried on. -/
theorem Carries.isSome_tokenUnder (h : Carries names s s') {n : Header.Name}
    (hn : (s.tokenUnder names n).isSome = true) : (s'.tokenUnder names n).isSome = true := by
  -- a token that is there may be replaced, but is not lost
  have haccess : s.access ≠ "" → s'.access ≠ "" := by
    rcases h.access with heq | hnew
    · rw [heq]
      exact id
    · exact fun _ => hnew.1
  have hcsrf : s.csrf ≠ "" → s'.csrf ≠ "" := by
    rcases h.csrf with heq | hnew
    · rw [heq]
      exact id
    · exact fun _ => hnew.1
  rw [tokenUnder] at hn ⊢
  split at hn
  · next hc => rw [if_pos (hc.imp_left hcsrf)]; rfl
  · split at hn
    · next ha =>
      rw [if_pos (ha.imp_left haccess)]
      split <;> rfl
    · cases hn

/-- Tokens that could be sent can be sent after the session was carried on. -/
theorem Carries.armed (h : Carries names s s') (hs : s.Armed names) : s'.Armed names where
  access hne := by
    rcases h.access with heq | hnew
    · rw [heq] at hne ⊢
      exact hs.access hne
    · exact hnew.2
  csrf hne := by
    rcases h.csrf with heq | hnew
    · rw [heq] at hne ⊢
      exact hs.csrf hne
    · exact hnew.2

/-- Headers that could be built can be built after the session was carried on. -/
theorem Carries.sendable {extra : List (String × String)} (h : Carries names s s')
    (hs : s.Sendable names extra) : s'.Sendable names extra where
  access := (h.armed ⟨hs.access, hs.csrf⟩).access
  csrf := (h.armed ⟨hs.access, hs.csrf⟩).csrf
  agent agent ha := hs.agent agent (h.userAgent ▸ ha)
  extra header hm := by
    -- a header that a token stood in for still has one in its place, whatever its own value is
    obtain ⟨n, hn, hok⟩ := hs.extra header hm
    exact ⟨n, hn, hok.imp_left h.isSome_tokenUnder⟩

/-- A request that was built consists of the query, the session's headers and the body. -/
theorem outbound_eq_ok_iff : s.outbound names r = .ok o ↔
    ∃ query headers, r.query = .ok query ∧ s.outboundHeaders names r.headers = .ok headers ∧
      o = ⟨r.method, withQuery (s.url r.path) query, headers, r.body⟩ := by
  rw [outbound]
  cases r.query with
  | error e => simp
  | ok query =>
    cases s.outboundHeaders names r.headers with
    | error f => simp
    | ok headers => simp [eq_comm]

/-- A request can be built just when its query and the session's headers can. -/
theorem exists_outbound_iff : (∃ o, s.outbound names r = .ok o) ↔
    (∃ query, r.query = .ok query) ∧ ∃ headers, s.outboundHeaders names r.headers = .ok headers := by
  constructor
  · rintro ⟨o, ho⟩
    obtain ⟨query, headers, hquery, hheaders, -⟩ := outbound_eq_ok_iff.mp ho
    exact ⟨⟨query, hquery⟩, headers, hheaders⟩
  · rintro ⟨⟨query, hquery⟩, headers, hheaders⟩
    exact ⟨_, outbound_eq_ok_iff.mpr ⟨query, headers, hquery, hheaders, rfl⟩⟩

/-- A request that could be built can be built after the session was carried on. -/
theorem Carries.exists_outbound (h : Carries names s s') (ho : s.outbound names r = .ok o) :
    ∃ o', s'.outbound names r = .ok o' := by
  obtain ⟨hquery, hheaders⟩ := exists_outbound_iff.mp ⟨o, ho⟩
  have hs := (s.exists_outboundHeaders_iff names r.headers).mp hheaders
  have hheaders' := (s'.exists_outboundHeaders_iff names r.headers).mpr (h.sendable hs)
  exact exists_outbound_iff.mpr ⟨hquery, hheaders'⟩

/-- Under every name a request carries what the session sends there. -/
theorem values_outbound (ho : s.outbound names r = .ok o) (n : Header.Name) :
    o.headers.values n = ((s.textUnder names r.headers n).map Utf8.encode).toList := by
  obtain ⟨query, headers, -, hheaders, rfl⟩ := outbound_eq_ok_iff.mp ho
  exact values_outboundHeaders hheaders n

/-- Under a name that is neither token's, sessions with one name for the client send the same. -/
theorem textUnder_eq (ha : s'.userAgent = s.userAgent) (extra : List (String × String))
    {n : Header.Name} (hn : Header.Name.parse? names.accessToken ≠ some n)
    (hn' : Header.Name.parse? names.csrfToken ≠ some n) :
    s'.textUnder names extra n = s.textUnder names extra n := by
  have hnone (s : Session) : s.tokenUnder names n = none := by
    rw [tokenUnder, if_neg fun h => hn' h.2, if_neg fun h => hn h.2]
  rw [textUnder, textUnder, hnone, hnone, agentUnder, agentUnder, ha]

/-- Sessions with one address and one name for the client build the same request but for the tokens. -/
theorem outbound_agrees (hb : s'.baseUrl = s.baseUrl) (ha : s'.userAgent = s.userAgent)
    (ho : s.outbound names r = .ok o) (ho' : s'.outbound names r = .ok o') :
    o.Agrees names o' := by
  have hvalues := values_outbound ho
  have hvalues' := values_outbound ho'
  obtain ⟨query, headers, hquery, -, rfl⟩ := outbound_eq_ok_iff.mp ho
  obtain ⟨query', headers', hquery', -, rfl⟩ := outbound_eq_ok_iff.mp ho'
  cases hquery.symm.trans hquery'
  refine ⟨rfl, ?_, rfl, fun n hn hn' => ?_⟩
  · rw [url, url, hb]
  · rw [hvalues, hvalues', textUnder_eq ha _ hn hn']

end Session

namespace World

variable {names : HeaderNames} {r : Request} {w w' : World} {o : Outbound}

/-- From one world to another, the session was carried on. -/
def Carries (names : HeaderNames) (w w' : World) : Prop := w.session.Carries names w'.session

instance (names : HeaderNames) : IsPreorder World (Carries names) where
  refl w := .refl names w.session
  trans _ _ _ := .trans

/-- Everything that a client is made of carries the session on. -/
theorem carries_moves (names : HeaderNames) : World.Moves names (Carries names) where
  dispatch r w := by
    obtain ⟨-, -, hs⟩ | ⟨d, -, hs, -⟩ := (dispatched_dispatch names r w).unanswered_or_answered
    · rw [Carries, hs]
      exact .refl names _
    · rw [Carries, hs]
      exact Session.carries_capture _ names _
  report e w := .refl names w.session
  askCredentials w _ := .refl names w.session
  save token w := .refl names w.session

/-- A request is handed to the network when the caller has not given up and it can be built. -/
theorem handed?_eq_some_iff : w.handed? names r = some o ↔
    w.cancelled = false ∧ w.session.outbound names r = .ok o := by
  rw [handed?]
  cases w.cancelled with
  | true => simp
  | false => cases w.session.outbound names r <;> simp [Except.toOption]

end World

namespace Client

/-- Requests were handed to the network from one world to another as the exchanges of a path tell, on which the
caller's request was sent in given worlds. -/
def Sends (c : Client) (r : Request) (w : World) (origins : List World) (w' : World) : Prop :=
  ∃ xs, Path c r w xs w' ∧ Exchange.origins xs = origins ∧
    w'.sent = w.sent ++ xs.filterMap (·.handed? c r)

/-- A call sends its request in the worlds that its observations tell of, and besides it the steps of
handshakes. -/
theorem sends_send (c : Client) (r : Request) (w : World) :
    c.Sends r w (origins w (c.controller.observations c.handler r w)) (c.send r w).2 := by
  obtain ⟨x, xs, -, hpath, horigins, -⟩ := c.send_path r w
  exact ⟨x :: xs, hpath, horigins, hpath.sent_eq⟩

/-- A request that is sent again is the same request. The sends of a call are dispatches of the caller's
request, the first of them in the world in which the call begins, and all that the call hands to the network is
handed over by these and by the steps of handshakes. Whenever two of them hand a request to the
network, the two have one method, one URL, one body and the same values under all names but those of the
access token and the anti-forgery token, and every request carries what its own session sends there. If the
first send hands a request over, so does every later one: none of them fails to be built. -/
theorem send_resends (c : Client) (r : Request) (w : World) :
    ∃ later, origins w (c.controller.observations c.handler r w) = w :: later ∧
      sends (c.controller.observations c.handler r w) = (w :: later).map (fun v =>
        ⟨.send r (c.dispatch r v).1, (c.dispatch r v).2⟩) ∧
      c.Sends r w (w :: later) (c.send r w).2 ∧
      (∀ v ∈ w :: later, (c.dispatch r v).2.sent = v.sent ++ (v.handed? c.names r).toList) ∧
      (∀ v ∈ w :: later, ∀ o, v.handed? c.names r = some o → ∀ n,
        o.headers.values n = ((v.session.textUnder c.names r.headers n).map Utf8.encode).toList) ∧
      (∀ v ∈ w :: later, ∀ v' ∈ w :: later, ∀ o o', v.handed? c.names r = some o →
        v'.handed? c.names r = some o' → o.Agrees c.names o') ∧
      ∀ o, w.handed? c.names r = some o → ∀ v ∈ later, ∃ o', v.handed? c.names r = some o' := by
  obtain ⟨hwalk, later, horigins, hactive⟩ := c.controller.walk_observations c.handler r w
  have hcarried : ∀ v ∈ w :: later, w.session.Carries c.names v.session := by
    intro v hv
    rw [← horigins] at hv
    exact hwalk.moves_of_mem_origins (handler_moves (World.carries_moves c.names)) hv
  refine ⟨later, horigins, ?_, ?_, ?_, ?_, ?_, ?_⟩
  · rw [← horigins]
    exact hwalk.sends_eq
  · rw [← horigins]
    exact c.sends_send r w
  · intro v _
    exact (World.dispatched_dispatch c.names r v).sent_eq
  · intro v _ o ho n
    exact Session.values_outbound (World.handed?_eq_some_iff.mp ho).2 n
  · intro v hv v' hv' o o' ho ho'
    have hcv := hcarried v hv
    have hcv' := hcarried v' hv'
    exact Session.outbound_agrees (hcv'.baseUrl.trans hcv.baseUrl.symm)
      (hcv'.userAgent.trans hcv.userAgent.symm) (World.handed?_eq_some_iff.mp ho).2
      (World.handed?_eq_some_iff.mp ho').2
  · intro o ho v hv
    obtain ⟨o', ho'⟩ := (hcarried v (List.mem_cons_of_mem w hv)).exists_outbound
      (World.handed?_eq_some_iff.mp ho).2
    exact ⟨o', World.handed?_eq_some_iff.mpr ⟨hactive v hv, ho'⟩⟩

/-- A request that is sent again after a probe carries the fresh anti-forgery token, where there was none. -/
example :
    let stale : Bytes := Utf8.encode "\x7b\"code\": \"csrf_token_invalid\"\x7d"
    let w : World := ⟨⟨"https://a", none, "t", "r", ""⟩, .inMemory none none,
      [⟨.ok ⟨403, [], stale⟩, .never⟩, ⟨.ok ⟨200, [(⟨"x-csrf"⟩, [0x63])], []⟩, .never⟩,
        ⟨.ok ⟨200, [], []⟩, .never⟩], false, []⟩
    ((ofSettings (.new "https://a")).send (.new .get "/") w).2.sent.map
      (·.headers.values ⟨"x-csrf"⟩) = [[], [], [[0x63]]] := by
  decide +kernel

end Client

end SessionRecovery
