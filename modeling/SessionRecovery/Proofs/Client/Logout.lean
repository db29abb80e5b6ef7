import SessionRecovery.Proofs.Client.Cancellation
import SessionRecovery.Proofs.Client.Custody
import SessionRecovery.Proofs.Client.Settled

/-!
# Logging out

A logout is all or nothing. If it succeeds, which takes a success as the last answer to its request, no token is
left, neither in the session nor with the provider. If it fails, on whatever path, every token that was there is
there, though recovery may have replaced it, and all that the provider was given meanwhile is what a login or an
exchange of the refresh token had just left the session with.
-/

namespace SessionRecovery

open Observation

/-! ## Tokens that stay -/

/-- One session has the address and the name of another one, and has every token that the other one has, if
perhaps another in its place. -/
structure Session.Keeps (s s' : Session) : Prop where
  /-- The address. -/
  baseUrl : s'.baseUrl = s.baseUrl
  /-- What the client calls itself. -/
  userAgent : s'.userAgent = s.userAgent
  /-- The access token. -/
  access : s.access ≠ "" → s'.access ≠ ""
  /-- The refresh token. -/
  refresh : s.refresh ≠ "" → s'.refresh ≠ ""
  /-- The anti-forgery token. -/
  csrf : s.csrf ≠ "" → s'.csrf ≠ ""

/-- Replies take nothing away. -/
theorem Session.keeps_replay (names : HeaderNames) (s : Session) (ds : List Delivery) :
    s.Keeps (s.replay names (ds.map .reply)) := by
  induction ds generalizing s with
  | nil => exact ⟨rfl, rfl, id, id, id⟩
  | cons d ds ih =>
    have hrest := ih (s.after names d)
    exact {
      baseUrl := hrest.baseUrl
      userAgent := hrest.userAgent
      access := fun h => hrest.access (Header.Fields.slotAfter_ne_empty h d.headers _)
      refresh := fun h => hrest.refresh (Header.Fields.slotAfter_ne_empty h d.headers _)
      csrf := fun h => hrest.csrf (Header.Fields.slotAfter_ne_empty h d.headers _) }

/-! ## What is given to the provider -/

/-- Some things made another world of a given one, and what the provider is given then is the refresh token of
the session there, right after a login or an exchange that ended well. -/
def Client.Earned (c : Client) (w : World) (before : List Occurrence) (x : Occurrence)
    (_ : List Occurrence) : Prop :=
  ∀ token, x = .saved token →
    ∃ v, w.Becomes c.names before v ∧ c.Concluded w v ∧ token = v.session.refresh

/-- One world became another one, and the provider was given nothing but what was earned. -/
def Client.Earns (c : Client) (w w' : World) : Prop :=
  ∃ os, w.Becomes c.names os w' ∧ Throughout (c.Earned w) [] os []

namespace Client

variable {c : Client} {w w' : World} {response : Response}

/-- Where nothing is saved, all that is saved is earned. -/
theorem earns_of_withholds (h : w.Withholds c.names w') : c.Earns w w' := by
  obtain ⟨os, hos, hall⟩ := h
  exact ⟨os, hos, .of_forall fun x hx _ _ token htoken => absurd htoken (hall x hx token)⟩

/-- Saving the session's refresh token right after a handshake that ended well is earned. -/
theorem earns_save (h : w.Withholds c.names w') (hs : c.Shakes w w') :
    c.Earns w (w'.save w'.session.refresh) := by
  obtain ⟨os, hos, hall⟩ := h
  refine ⟨os ++ [.saved w'.session.refresh], hos.trans (World.becomes_save _ _ w'),
    .append ?_ (.cons ?_ .nil)⟩
  · exact .of_forall fun x hx _ _ token htoken => absurd htoken (hall x hx token)
  · rintro token ⟨⟩
    exact ⟨w', hos, hs.concluded, rfl⟩

instance (c : Client) : IsPreorder World c.Earns where
  refl w := ⟨[], .refl c.names w, .nil⟩
  trans := by
    rintro a b d ⟨os, hos, hthrough⟩ ⟨ps, hps, hthrough'⟩
    refine ⟨os ++ ps, hos.trans hps, .append hthrough fun pre x post hsplit token htoken => ?_⟩
    obtain ⟨v, hv, hconcluded, heq⟩ := hthrough' pre x post hsplit token htoken
    exact ⟨v, hos.trans hv, hconcluded.since hos, heq⟩

/-- The primitives of recovery earn what they have the provider keep. -/
theorem handler_earns (c : Client) : c.handler.HandsOver c.Earns := by
  have hm := World.withholds_consults c.names
  exact {
    toConsults := handler_consults {
      dispatch := fun r w => earns_of_withholds (hm.dispatch r w)
      report := fun e w => earns_of_withholds (hm.report e w)
      askCredentials := fun w hc => earns_of_withholds (hm.askCredentials w hc) }
    afterLogin := fun hl =>
      earns_save ((login_moves hm.toSpeaks _).of_eq hl) (shakes_of_login hl)
    afterExchange := fun hr =>
      earns_save ((requestRefreshToken_moves hm.toSpeaks).of_eq hr)
        (shakes_of_requestRefreshToken hr) }

/-- A call with recovery takes nothing from the session. -/
theorem keeps_send (c : Client) (r : Request) (w : World) :
    w.session.Keeps (c.send r w).2.session := by
  obtain ⟨ds, -, hs⟩ := send_moves (World.tracks_moves c.names) r w
  rw [hs]
  exact Session.keeps_replay c.names w.session ds

/-- A call with recovery earns what it has the provider keep. -/
theorem earns_send (c : Client) (r : Request) (w : World) : c.Earns w (c.send r w).2 :=
  c.controller.execute_moves_handsOver c.handler_earns r w

/-! ## All or nothing -/

/-- The request that ends the session at the server. -/
def farewellRequest (c : Client) : Request := .new .post c.endpoints.logout

/-- A logout left nothing behind. -/
structure LeavesNothing (c : Client) (w : World) (response : Response) (w' : World) : Prop where
  /-- The session has lost its tokens and nothing else. -/
  session : w'.session = ⟨w.session.baseUrl, w.session.userAgent, "", "", ""⟩
  /-- The provider holds the empty token. -/
  stored : w'.provider.stored = some ""
  /-- A client that is set up with this provider has no token. -/
  restarts : ∀ (settings : Settings) (replies : List Reply) (baseUrl : String),
    settings.normalizedUrl = .ok baseUrl → ∃ c' v,
      connect settings w'.provider replies = .ok (c', v) ∧
      v.session = Session.new baseUrl settings.userAgent
  /-- The last answer to the request was this response, whose status is below that of a failure. -/
  answered : ∃ before v rest d,
    c.controller.observations c.handler c.farewellRequest w =
      before ++ ⟨.send c.farewellRequest (.ok response), v⟩ :: rest ∧
    sends rest = [] ∧ v.received.getLast? = some d ∧ d.status < leastFailure ∧
    response = ⟨d.status, d.headers, d.body, none⟩

/-- A logout took nothing away. -/
structure LeavesAll (c : Client) (w w' : World) : Prop where
  /-- Every token of the session is there. -/
  session : w.session.Keeps w'.session
  /-- The provider was given nothing but what was earned. -/
  saved : c.Earns w w'
  /-- This is what recovery handed over, each time the refresh token of the session at that moment. -/
  handed : w'.saved = w.saved ++
    (c.callHandOvers c.farewellRequest w).map (·.before.session.refresh)

/-- A provider of the empty token has none to resume with. -/
theorem exists_connect_of_stored {p : Provider} (hp : p.stored = some "") {settings : Settings}
    {baseUrl : String} (hurl : settings.normalizedUrl = .ok baseUrl) (replies : List Reply) :
    ∃ c' v, connect settings p replies = .ok (c', v) ∧
      v.session = Session.new baseUrl settings.userAgent := by
  have hnone : p.refreshToken = none := by
    rw [Provider.refreshToken, hp]
    rfl
  rw [connect, hurl]
  refine ⟨_, _, rfl, ?_⟩
  show firstSession baseUrl settings.userAgent p = _
  rw [firstSession, hnone]
  rfl

/-- A logout gives its call's answer, if that is a success, and then forgets the tokens; else it fails, and leaves
what its call leaves. -/
theorem logout_eq (c : Client) (w : World) :
    (∃ response, (c.send c.farewellRequest w).1 = .ok response ∧ response.isSuccess = true ∧
      c.logout w = (.ok response, (c.send c.farewellRequest w).2.forgotten)) ∨
    ∃ e, c.logout w = (.error e, (c.send c.farewellRequest w).2) := by
  obtain ⟨x, w', hx⟩ : ∃ x w', c.send c.farewellRequest w = (x, w') := ⟨_, _, rfl⟩
  rw [hx]
  cases x with
  | error e => exact .inr ⟨e, Run.bind_error hx⟩
  | ok response =>
    have hlogout : c.logout w = (Run.ofResult response.toResult >>= _) w' := Run.bind_ok hx
    cases hf : response.failure with
    | some api =>
      refine .inr ⟨.protocol response.status api, ?_⟩
      rw [hlogout, Response.toResult, hf]
      rfl
    | none =>
      refine .inl ⟨response, rfl, by rw [Response.isSuccess, hf]; rfl, ?_⟩
      rw [hlogout, Response.toResult, hf]
      rfl

/-- Where the call of a logout is answered by a success, nothing is left behind. -/
theorem leavesNothing_forgotten (hx : (c.send c.farewellRequest w).1 = .ok response)
    (hsuccess : response.isSuccess = true) :
    c.LeavesNothing w response (c.send c.farewellRequest w).2.forgotten := by
  have hexecute : (c.controller.execute c.handler c.farewellRequest w).1 = .ok response := hx
  obtain ⟨before, v', v, e, hobs, hsend, -, -⟩ := Controller.exists_send_of_execute hexecute
  have hdispatched := World.dispatched_dispatch c.names c.farewellRequest v'
  rw [show World.dispatch c.names c.farewellRequest v' = _ from hsend] at hdispatched
  obtain ⟨d, hreceived, -, hread⟩ := hdispatched.exists_delivery
  have hkeeps := c.keeps_send c.farewellRequest w
  refine ⟨?_, rfl, fun _ replies _ hurl => exists_connect_of_stored rfl hurl replies, ?_⟩
  · rw [← hkeeps.baseUrl, ← hkeeps.userAgent]
    rfl
  · obtain ⟨-, api, -, rfl⟩ | hstatus := Response.ofDelivery_eq_ok_iff.mp hread
    · cases hsuccess
    · refine ⟨before, v, _, d, hobs, rfl, ?_, hstatus⟩
      rw [hreceived, List.getLast?_concat]

/-- A logout is all or nothing. Under any network and provider, from any state, and whatever recovery does
meanwhile: it succeeds, and then the last answer to its request was a success, no token is left in the session,
whose address and name stay, and a client that is set up with the provider has no token; or it fails, and then
every token that the session had it has, and all that the provider was given is the refresh token that the
session had at that moment, right after a login or an exchange that ended well. -/
theorem logout_allOrNothing (c : Client) (w : World) :
    (∃ response, (c.logout w).1 = .ok response ∧ c.LeavesNothing w response (c.logout w).2) ∨
    ∃ e, (c.logout w).1 = .error e ∧ c.LeavesAll w (c.logout w).2 := by
  rcases c.logout_eq w with ⟨response, hx, hsuccess, hrun⟩ | ⟨e, hrun⟩
  · rw [hrun]
    exact .inl ⟨response, rfl, leavesNothing_forgotten hx hsuccess⟩
  · rw [hrun]
    exact .inr ⟨e, rfl, c.keeps_send c.farewellRequest w, c.earns_send c.farewellRequest w,
      c.saved_send c.farewellRequest w⟩

/-- A logout for which the refresh token has to be exchanged, and which the server then refuses for good, keeps
the token that came in exchange, in the session and with the provider. -/
example :
    let expired : Bytes := Utf8.encode "\x7b\"code\": \"token_expired\"\x7d"
    let w : World := ⟨⟨"https://a", none, "t", "r", ""⟩, .inMemory none (some "r"),
      [⟨.ok ⟨401, [], expired⟩, .never⟩,
        ⟨.ok ⟨200, [(⟨"x-auth-refresh-token"⟩, [0x73])], []⟩, .never⟩, ⟨.ok ⟨500, [], []⟩, .never⟩],
      false, []⟩
    let after := ((ofSettings (.new "https://a")).logout w).2
    after.session = ⟨"https://a", none, "t", "s", ""⟩ ∧ after.provider.stored = some "s" := by
  decide +kernel

end Client

end SessionRecovery
