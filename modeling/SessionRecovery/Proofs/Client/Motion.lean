import SessionRecovery.Client.Operation
import SessionRecovery.Proofs.Recovery.Motion

/-!
# Motion of a client

Everything that a client does is made of dispatches, questions to the provider and events, so a relation
along which these move is one along which every handshake and every call with recovery moves.
-/

namespace SessionRecovery

/-- Everything that a handshake is made of moves along a relation between worlds. -/
structure World.Speaks (names : HeaderNames) (R : World → World → Prop) : Prop where
  /-- Sending a request once. -/
  dispatch : ∀ r, Run.Moves R (World.dispatch names r)
  /-- Reporting an event. -/
  report : ∀ e w, R w (World.report e w)

/-- Everything that a client is made of but giving the provider something to keep moves along a relation
between worlds, where nobody is asked for credentials once the caller gave up. -/
structure World.Consults (names : HeaderNames) (R : World → World → Prop) : Prop extends
    World.Speaks names R where
  /-- Asking the provider for credentials. -/
  askCredentials : ∀ w : World, w.cancelled = false → R w (World.askCredentials w).2

/-- Everything that recovery is made of moves along a relation between worlds, where the provider is given
nothing to keep but the session's own refresh token. -/
structure World.Retains (names : HeaderNames) (R : World → World → Prop) : Prop extends
    World.Consults names R where
  /-- Giving the provider the session's refresh token to keep. -/
  persist : ∀ w : World, R w (w.save w.session.refresh)

/-- Everything that a client is made of moves along a relation between worlds. -/
structure World.Moves (names : HeaderNames) (R : World → World → Prop) : Prop extends
    World.Consults names R where
  /-- Giving the provider a refresh token to keep. -/
  save : ∀ token w, R w (World.save token w)

/-- Giving something to keep includes giving the session's refresh token. -/
theorem World.Moves.toRetains {names : HeaderNames} {R : World → World → Prop}
    (hm : World.Moves names R) : World.Retains names R where
  toConsults := hm.toConsults
  persist w := hm.save _ w

namespace Client

variable {R : World → World → Prop} [IsPreorder World R] {c : Client}

/-- A look at whether the caller gave up. -/
theorem ensureActive_moves : Run.Moves R World.ensureActive := by
  intro w
  rw [World.ensureActive]
  split <;> exact Std.Refl.refl w

/-- Getting an anti-forgery token moves as a dispatch does. -/
theorem updateCsrfToken_moves (hm : World.Speaks c.names R) : Run.Moves R c.updateCsrfToken :=
  .bind (hm.dispatch _) fun _ => .ofResult _

/-- Reading the salt moves as an event does. -/
theorem expectSalt_moves (hm : World.Speaks c.names R) (r : Response) :
    Run.Moves R (c.expectSalt r) := by
  rw [expectSalt]
  split
  · split
    · exact .pure _
    · exact .fail _
  · exact .bind (.change (hm.report _)) fun _ => .fail _

/-- Reading the answer to the proof moves as an event does. -/
theorem expectWelcome_moves (hm : World.Speaks c.names R) (cr : Credentials) (r : Response) :
    Run.Moves R (expectWelcome cr r) := by
  rw [expectWelcome]
  split
  · exact .bind (.change (hm.report _)) fun _ => .pure _
  · exact .bind (.change (hm.report _)) fun _ => .fail _

/-- A login moves as dispatches and events do. -/
theorem login_moves (hm : World.Speaks c.names R) (cr : Credentials) :
    Run.Moves R (c.login cr) := by
  refine .bind (.change (hm.report _)) fun _ => ?_
  refine .bind ensureActive_moves fun _ => ?_
  refine .bind (hm.dispatch _) fun challenged => ?_
  refine .bind (expectSalt_moves hm challenged) fun salt => ?_
  refine .bind ensureActive_moves fun _ => ?_
  exact .bind (hm.dispatch _) fun answered => expectWelcome_moves hm cr answered

/-- An exchange of the refresh token moves as a dispatch and an event do. -/
theorem requestRefreshToken_moves (hm : World.Speaks c.names R) :
    Run.Moves R c.requestRefreshToken := by
  refine .bind (.look _) fun token => ?_
  refine .bind (hm.dispatch _) fun response => ?_
  refine .bind (.ofResult _) fun response => ?_
  exact .bind (.change fun w => hm.report _ w) fun _ => .pure _

/-- A probe and an exchange move as dispatches and events do. -/
theorem updateTokens_moves (hm : World.Speaks c.names R) : Run.Moves R c.updateTokens :=
  .bind (updateCsrfToken_moves hm) fun _ => requestRefreshToken_moves hm

/-- The primitives of a client's recovery move as what they are made of, where nothing is saved. -/
theorem handler_consults (hm : World.Consults c.names R) : c.handler.Consults R where
  resend := hm.dispatch
  refreshCsrf := updateCsrfToken_moves hm.toSpeaks
  credentials := hm.askCredentials
  login := login_moves hm.toSpeaks
  refreshToken := requestRefreshToken_moves hm.toSpeaks
  report := hm.report

/-- The primitives of a client's recovery move as what they are made of. -/
theorem handler_retains (hm : World.Retains c.names R) : c.handler.Moves R where
  toConsults := handler_consults hm.toConsults
  persist := hm.persist

/-- The primitives of a client's recovery move as what a client is made of. -/
theorem handler_moves (hm : World.Moves c.names R) : c.handler.Moves R :=
  handler_retains hm.toRetains

/-- A call with recovery moves as what recovery is made of. -/
theorem send_retains (hm : World.Retains c.names R) (r : Request) : Run.Moves R (c.send r) :=
  fun w => c.controller.execute_moves (handler_retains hm) r w

/-- A call with recovery moves as what it is made of. -/
theorem send_moves (hm : World.Moves c.names R) (r : Request) : Run.Moves R (c.send r) :=
  send_retains hm.toRetains r

/-- Reading a value moves as the call does. -/
theorem call_moves {α : Type} (hm : World.Moves c.names R) (d : Json.Decoder α) (r : Request) :
    Run.Moves R (c.call d r) := .bind (send_moves hm r) fun _ => .ofResult _

/-- A logout moves as the call, and as forgetting the tokens does. -/
theorem logout_moves (hm : World.Moves c.names R)
    (hs : ∀ (s : Session) (w : World), R w { w with session := s }) : Run.Moves R c.logout := by
  refine .bind (send_moves hm _) fun response => ?_
  refine .bind (.ofResult _) fun response => ?_
  refine .bind (.change fun w => hs _ w) fun _ => ?_
  refine .bind (.change fun w => hm.save "" w) fun _ => ?_
  exact .bind (.change fun w => hm.report _ w) fun _ => .pure _

/-- Every operation moves as what a client is made of, and as changes of the session do. -/
theorem run_moves (hm : World.Moves c.names R)
    (hs : ∀ (s : Session) (w : World), R w { w with session := s }) (op : Operation) :
    Run.Moves R (op.run c) := by
  have respond {r : Run World Response} (hr : Run.Moves R r) : Run.Moves R (Operation.respond r) :=
    .bind hr fun _ => .pure _
  have evaluate {r : Run World Json} (hr : Run.Moves R r) : Run.Moves R (Operation.evaluate r) :=
    .bind hr fun _ => .pure _
  cases op with
  | update change => exact .bind (.change fun w => hs _ w) fun _ => .pure _
  | send request => exact send_moves hm request
  | call decoder request => exact evaluate (call_moves hm decoder request)
  | exchange decoder method path payload => exact evaluate (call_moves hm decoder _)
  | dispatch request => exact respond (hm.dispatch request)
  | login credentials => exact respond (login_moves hm.toSpeaks credentials)
  | logout => exact respond (logout_moves hm hs)
  | prepare => exact respond (updateCsrfToken_moves hm.toSpeaks)
  | updateCsrfToken => exact respond (updateCsrfToken_moves hm.toSpeaks)
  | requestRefreshToken => exact respond (requestRefreshToken_moves hm.toSpeaks)
  | updateTokens => exact respond (updateTokens_moves hm.toSpeaks)
  | confirm previous code request => exact respond (send_moves hm _)

end Client

end SessionRecovery
