import SessionRecovery.Proofs.Client.Exchange
import SessionRecovery.Proofs.Client.Outlook
import SessionRecovery.Proofs.Client.Replay

/-!
# Giving up is final

Once its caller has given up, an operation hands nothing to the network and asks nobody for credentials. It
may still hand over one refresh token for keeping: the session's after a handshake that has just ended well,
whereupon it fails, or the empty one of a logout that succeeds. An operation whose caller has given up before
it begins does nothing but report.
-/

namespace SessionRecovery

/-- The provider was not given anything to keep. -/
def Occurrence.Unsaved (x : Occurrence) : Prop := ∀ token, x ≠ .saved token

/-- An event was reported. -/
def Occurrence.IsReport (x : Occurrence) : Prop := ∃ e, x = .reported e

/-- A report saves nothing. -/
theorem Occurrence.unsaved_reported (e : Event) : Unsaved (.reported e) := fun _ h => nomatch h

/-- Speaking with the server saves nothing. -/
theorem World.allows_unsaved : Allows Occurrence.Unsaved where
  sent _ _ h := nomatch h
  received _ _ h := nomatch h
  reported := Occurrence.unsaved_reported

/-! ## Worlds on the way -/

namespace World

/-- One world became another one by some things that happened: they led from the one outlook to the other, and
the session followed the replies among them and nothing else. -/
structure Becomes (names : HeaderNames) (w : World) (os : List Occurrence) (w' : World) : Prop extends
    Reaches w os w' where
  /-- The session followed the replies. -/
  session : w'.session = w.session.replay names ((os.filterMap (·.received?)).map .reply)

variable {names : HeaderNames} {w w' w'' : World} {os ps : List Occurrence}

/-- What happened leaves no choice of the world that it made. -/
theorem Becomes.unique (h : w.Becomes names os w') (h' : w.Becomes names os w'') : w' = w'' := by
  have hhistory := h.history.trans h'.history.symm
  have houtlook := h.outlook.trans h'.outlook.symm
  have hsession := h.session.trans h'.session.symm
  cases w'
  cases w''
  cases hhistory
  cases houtlook
  cases hsession
  rfl

/-- Nothing happened. -/
theorem Becomes.refl (names : HeaderNames) (w : World) : w.Becomes names [] w := ⟨.refl w, rfl⟩

/-- Some things happened and then others. -/
theorem Becomes.trans (h : w.Becomes names os w') (h' : w'.Becomes names ps w'') :
    w.Becomes names (os ++ ps) w'' := by
  refine ⟨h.toReaches.trans h'.toReaches, ?_⟩
  rw [h'.session, h.session, List.filterMap_append, List.map_append, Session.replay_append]

/-- A report makes another world of one. -/
theorem becomes_report (names : HeaderNames) (e : Event) (w : World) :
    w.Becomes names [.reported e] (w.report e) := ⟨reaches_report e w, rfl⟩

/-- Keeping a refresh token makes another world of one. -/
theorem becomes_save (names : HeaderNames) (token : String) (w : World) :
    w.Becomes names [.saved token] (w.save token) := ⟨reaches_save token w, rfl⟩

/-- Where the session followed the replies, one world became the other by what happened. -/
theorem Reaches.becomes (h : w.Reaches os w') (ht : w.Tracks names w') : w.Becomes names os w' := by
  obtain ⟨ds, hreceived, hsession⟩ := ht
  refine ⟨h, ?_⟩
  rw [received, received, h.history, List.filterMap_append] at hreceived
  rw [hsession, List.append_cancel_left hreceived]

/-- One world became another one, and the provider was given nothing to keep meanwhile. -/
def Withholds (names : HeaderNames) (w w' : World) : Prop :=
  ∃ os, w.Becomes names os w' ∧ ∀ x ∈ os, x.Unsaved

instance (names : HeaderNames) : IsPreorder World (Withholds names) where
  refl w := ⟨[], .refl names w, fun _ h => absurd h List.not_mem_nil⟩
  trans := by
    rintro a b c ⟨os, hos, hall⟩ ⟨ps, hps, hall'⟩
    refine ⟨os ++ ps, hos.trans hps, fun x hx => ?_⟩
    exact (List.mem_append.mp hx).elim (hall x) (hall' x)

/-- Where nothing is saved and the session follows the replies, the provider is given nothing. -/
theorem Proceeds.withholds (h : w.Proceeds Occurrence.Unsaved w') (ht : w.Tracks names w') :
    w.Withholds names w' := by
  obtain ⟨os, hos, -, hall⟩ := h
  exact ⟨os, hos.becomes ht, hall⟩

/-- Nothing but handing a refresh token over gives the provider something to keep. -/
theorem withholds_consults (names : HeaderNames) : Consults names (Withholds names) := by
  have hp := proceeds_consults names allows_unsaved fun _ h => nomatch h
  have ht := (tracks_moves names).toConsults
  exact {
    dispatch := fun r w => (hp.dispatch r w).withholds (ht.dispatch r w)
    report := fun e w => (hp.report e w).withholds (ht.report e w)
    askCredentials := fun w hc => (hp.askCredentials w hc).withholds (ht.askCredentials w hc) }

end World

/-! ## Handshakes that ended well -/

/-- A login or an exchange of the refresh token leads from one world to another and ends well there. -/
structure Client.Shakes (c : Client) (u v : World) : Prop where
  /-- It is what the client does. -/
  done : ∃ response, (∃ cr, c.login cr u = (.ok response, v)) ∨
    c.requestRefreshToken u = (.ok response, v)
  /-- Its last request was answered by a success, and this was reported. -/
  last : ∃ (front : List Occurrence) (r : Request) (x : Exchange) (e : Event),
    u.Becomes c.names front x.before ∧ x.Real c r ∧
    (x.purpose = .exchange ∨ ∃ cr salt, x.purpose = .proof cr salt) ∧ x.Succeeds ∧
    v = x.after.report e

/-- Since a given world a login or an exchange of the refresh token has just ended well, which began in a world
that the given one had become. -/
def Client.Concluded (c : Client) (w v : World) : Prop :=
  ∃ earlier u, w.Becomes c.names earlier u ∧ c.Shakes u v

namespace Client

variable {c : Client} {w w' : World} {response : Response}

/-- What has just ended well since one world has done so since an earlier one. -/
theorem Concluded.since {v : World} {before : List Occurrence} (h : c.Concluded w' v)
    (hw : w.Becomes c.names before w') : c.Concluded w v := by
  obtain ⟨earlier, u, hu, hshakes⟩ := h
  exact ⟨before ++ earlier, u, hw.trans hu, hshakes⟩

/-- A handshake that begins in a world and ends well has just ended well since then. -/
theorem Shakes.concluded (h : c.Shakes w w') : c.Concluded w w' := ⟨[], w, .refl c.names w, h⟩

/-- A login that succeeds ends well. -/
theorem shakes_of_login {cr : Credentials} (h : c.login cr w = (.ok response, w')) :
    c.Shakes w w' := by
  refine ⟨⟨response, .inl ⟨cr, h⟩⟩, ?_⟩
  have hm := (World.withholds_consults c.names).toSpeaks
  rw [login, Run.bind_ok (Run.change_apply _ _)] at h
  obtain ⟨_, w₁, hactive, h⟩ := Run.exists_of_bind_ok h
  obtain ⟨challenged, w₂, hchallenge, h⟩ := Run.exists_of_bind_ok h
  obtain ⟨salt, w₃, hsalt, h⟩ := Run.exists_of_bind_ok h
  obtain ⟨_, w₄, hactive', h⟩ := Run.exists_of_bind_ok h
  obtain ⟨answered, w₅, hproof, h⟩ := Run.exists_of_bind_ok h
  have hreal : (Exchange.mk (.proof cr salt) w₄ (.ok answered) w₅).Real c (.new .get "") := hproof
  -- everything up to the proof
  have h₁ := IsTrans.trans _ _ _ (hm.report _ w) (ensureActive_moves.of_eq hactive)
  have h₂ := IsTrans.trans _ _ _ h₁ ((hm.dispatch _).of_eq hchallenge)
  have h₃ := IsTrans.trans _ _ _ h₂ ((expectSalt_moves hm challenged).of_eq hsalt)
  obtain ⟨front, hfront, -⟩ := IsTrans.trans _ _ _ h₃ (ensureActive_moves.of_eq hactive')
  rw [expectWelcome] at h
  split at h
  · next hs =>
    cases h
    exact ⟨front, _, _, _, hfront, hreal, .inr ⟨cr, salt, rfl⟩, ⟨_, rfl, hs⟩, rfl⟩
  · cases h

/-- An exchange of the refresh token that succeeds ends well. -/
theorem shakes_of_requestRefreshToken (h : c.requestRefreshToken w = (.ok response, w')) :
    c.Shakes w w' := by
  refine ⟨⟨response, .inr h⟩, ?_⟩
  rw [requestRefreshToken, Run.bind_ok (Run.look_apply _ _)] at h
  obtain ⟨answered, w₁, hexchange, h⟩ := Run.exists_of_bind_ok h
  obtain ⟨expected, w₂, hexpect, h⟩ := Run.exists_of_bind_ok h
  have hreal : (Exchange.mk .exchange w (.ok answered) w₁).Real c (.new .get "") := hexchange
  have hs : answered.expectSuccess .tokenRefresh = .ok expected := congrArg Prod.fst hexpect
  have hw : w₁ = w₂ := congrArg Prod.snd hexpect
  subst hw
  cases h
  exact ⟨[], _, _, _, .refl c.names w, hreal, .inl rfl,
    ⟨answered, rfl, Response.expectSuccess_eq_ok hs⟩, rfl⟩

end Client

namespace Handler

variable {c : Client} {operation : String} {a : Action} {s s' : World}
  {os : List (Observation World)} {x : Except Error Unit}

/-- An action saves nothing, or it goes well and the last thing it does is to save the refresh token after a
handshake that has just ended well. -/
theorem Takes.withholds_or_saves (ht : c.handler.Takes operation a s os x s') :
    s.Withholds c.names s' ∨
    x = .ok () ∧ ∃ v, s.Withholds c.names v ∧ c.Concluded s v ∧ s' = v.save v.session.refresh := by
  obtain hs | ⟨hx, u, v, r, hu, hv, hlast, rfl⟩ :=
    ht.moves_or_persists (Client.handler_consults (World.withholds_consults c.names))
  · exact .inl hs
  · have hshakes : c.Shakes u v := by
      rcases hlast with ⟨cr, hlogin⟩ | hexchange
      · exact Client.shakes_of_login hlogin
      · exact Client.shakes_of_requestRefreshToken hexchange
    obtain ⟨earlier, hbecomes, -⟩ := id hu
    exact .inr ⟨hx, v, IsTrans.trans _ _ _ hu hv, ⟨earlier, u, hbecomes, hshakes⟩, rfl⟩

end Handler

/-- What a call that began in some world saves after the caller gave up is saved duly: it is the refresh token
after a handshake that has just ended well, nothing follows but reports, and the call fails because the caller
gave up. -/
def Client.Duly (c : Client) (w : World) (result : Except Error Response) (before : List Occurrence)
    (x : Occurrence) (after : List Occurrence) : Prop :=
  ∀ token, x = .saved token → (w.outlook.follow before).cancelled = true →
    result = .error .cancelled ∧ (∀ y ∈ after, y.IsReport) ∧
    ∃ v, w.Becomes c.names before v ∧ c.Concluded w v ∧ token = v.session.refresh

/-- Where nothing is saved, all that is saved is saved duly. -/
theorem duly_of_unsaved {c : Client} {w : World} {result : Except Error Response}
    {os : List Occurrence} (h : ∀ x ∈ os, x.Unsaved) (before after : List Occurrence) :
    Throughout (c.Duly w result) before os after :=
  .of_forall fun x hx _ _ token htoken => absurd htoken (h x hx token)

/-- An action that goes well saves duly, where the call ends if the caller gave up meanwhile. -/
theorem Handler.Takes.duly {c : Client} {operation : String} {a : Action} {s s' w : World}
    {os : List (Observation World)} {before : List Occurrence}
    (ht : c.handler.Takes operation a s os (.ok ()) s') (hw : w.Becomes c.names before s)
    (result : Except Error Response) :
    ∃ later, s.Becomes c.names later s' ∧ ∀ after,
      (s'.cancelled = true → result = .error .cancelled ∧ ∀ y ∈ after, y.IsReport) →
      Throughout (c.Duly w result) before later after := by
  obtain ⟨later, hlater, hall⟩ | ⟨-, v, ⟨later, hlater, hall⟩, hv, rfl⟩ := ht.withholds_or_saves
  · exact ⟨later, hlater, fun after _ => duly_of_unsaved hall _ _⟩
  · have hreach := hw.trans hlater
    refine ⟨later ++ [.saved v.session.refresh], hlater.trans (World.becomes_save _ _ v),
      fun after hlate => .append (duly_of_unsaved hall _ _) (.cons ?_ .nil)⟩
    rintro token ⟨⟩ hgone
    rw [← hreach.outlook] at hgone
    obtain ⟨hresult, hafter⟩ := hlate (Outlook.cancelled_after hgone (.saved v.session.refresh))
    exact ⟨hresult, hafter, v, hreach, hv.since hw, rfl⟩

namespace Controller

variable {c : Client} {r : Request} {p p' : Progress} {result x : Except Error Response}
  {s t : World} {os : List (Observation World)}

/-- The beginning of an action is a report. -/
theorem Starts.becomes {response : Response} {started : World} {a : Action} {n : UInt8}
    {b : Budget} (hs : c.controller.Starts c.handler r p response s a n b started) :
    ∃ e, s.Becomes c.names [.reported e] started := by
  rw [← hs.reported]
  exact ⟨_, World.becomes_report _ _ s⟩

/-- After an answer a call saves duly. -/
theorem Course.duly (hc : c.controller.Course c.handler r p result s os x p' t) {w : World}
    {before : List Occurrence} (hw : w.Becomes c.names before s) {reports : List Occurrence}
    (hreports : ∀ y ∈ reports, y.IsReport) :
    ∃ later, s.Becomes c.names later t ∧ Throughout (c.Duly w x) before later reports := by
  have hreport {e : Event} {result : Except Error Response} {before after : List Occurrence} :
      Throughout (c.Duly w result) before [.reported e] after :=
    duly_of_unsaved (fun x hx => List.mem_singleton.mp hx ▸ Occurrence.unsaved_reported e) _ _
  induction hc generalizing before with
  | failed => exact ⟨[], .refl _ _, .nil⟩
  | settled ha => exact ⟨[], .refl _ _, .nil⟩
  | exhausted ha hne hb => exact ⟨_, World.becomes_report _ _ _, hreport⟩
  | broken hs ht =>
    obtain ⟨e, hstart⟩ := hs.becomes
    obtain ⟨later, hlater, hall⟩ | ⟨hok, -⟩ := ht.withholds_or_saves
    · exact ⟨_, (hstart.trans hlater).trans (World.becomes_report _ _ _),
        .append (.append hreport (duly_of_unsaved hall _ _)) hreport⟩
    · cases hok
  | abandoned hs ht hr hcan =>
    obtain ⟨e, hstart⟩ := hs.becomes
    obtain ⟨later, hlater, hthrough⟩ := ht.duly (hw.trans hstart) (.error .cancelled)
    subst hr
    refine ⟨_, (hstart.trans hlater).trans (World.becomes_report _ _ _),
      .append (.append hreport (hthrough _ fun _ => ⟨rfl, ?_⟩)) hreport⟩
    exact List.forall_mem_cons.mpr ⟨⟨_, rfl⟩, hreports⟩
  | @again p p' response s started s' recovered s'' t a n b os rest result result' hs ht hr hcan
      hsend hrest ih =>
    obtain ⟨e, hstart⟩ := hs.becomes
    obtain ⟨later, hlater, hthrough⟩ := ht.duly (hw.trans hstart) result'
    subst hr
    -- whoever had given up would not have sent the request again
    have hactive : s'.cancelled = false := hcan
    obtain ⟨sending, hsending, hall⟩ := ((World.withholds_consults c.names).dispatch r).of_eq hsend
    have hsent := ((hstart.trans hlater).trans (World.becomes_report _ _ s')).trans hsending
    obtain ⟨rest', hrest', hthrough'⟩ := ih (hw.trans hsent)
    refine ⟨_, hsent.trans hrest', .append (.append (.append (.append hreport
      (hthrough _ fun h => ?_)) hreport) (duly_of_unsaved hall _ _)) hthrough'⟩
    rw [hactive] at h
    cases h

end Controller

/-! ## Operations -/

/-- The caller of the operation may give up: anything but a change of the program's own. -/
def Operation.interruptible : Operation → Bool
  | .update _ => false
  | _ => true

/-- An operation that began in some world and ended with some answer may save a refresh token, between what
happened before and after it, though its caller has given up. -/
structure Operation.SavesLate (c : Client) (op : Operation) (w : World)
    (answer : Except Error Answer) (before : List Occurrence) (token : String)
    (after : List Occurrence) : Prop where
  /-- Nothing follows but reports. -/
  last : ∀ y ∈ after, y.IsReport
  /-- It is the session's after a handshake that has just ended well, and the operation fails because the caller
  gave up, or it is the empty one of a logout, which succeeds. -/
  reason :
    (Answer.failure? answer = some .cancelled ∧
      ∃ v, w.Becomes c.names before v ∧ c.Concluded w v ∧ token = v.session.refresh) ∨
    (op = .logout ∧ token = "" ∧ ∃ response, answer = .ok (.response response))

/-- What an operation saves after the caller gave up is saved duly. -/
def Operation.Duly (c : Client) (op : Operation) (w : World) (answer : Except Error Answer)
    (before : List Occurrence) (x : Occurrence) (after : List Occurrence) : Prop :=
  ∀ token, x = .saved token → (w.outlook.follow before).cancelled = true →
    op.SavesLate c w answer before token after

/-- All that an operation saves after the caller gave up is saved duly. -/
def Operation.SavesDuly (c : Client) (op : Operation) (w : World) : Prop :=
  ∃ os, w.Reaches os (op.run c w).2 ∧ Throughout (op.Duly c w (op.run c w).1) [] os []

/-- The world after some reports. -/
def World.reporting (es : List Event) (w : World) : World :=
  { w with history := w.history ++ es.map .reported }

namespace Client

variable {c : Client} {op : Operation} {w w' : World} {r : Request}

/-- A call with recovery saves duly. -/
theorem duly_send (c : Client) (r : Request) (w : World) :
    ∃ os, w.Becomes c.names os (c.send r w).2 ∧
      Throughout (c.Duly w (c.send r w).1) [] os [] := by
  obtain ⟨first, s₁, os, x, p, t, hsend, hcourse, hrun, -⟩ :=
    c.controller.course_execute c.handler r w
  obtain ⟨sending, hsending, hall⟩ := ((World.withholds_consults c.names).dispatch r).of_eq hsend
  have hlast : ∀ y ∈ [Occurrence.reported (.recoveryOutcome (Controller.outcome r p x))],
      y.IsReport := fun y hy => ⟨_, List.mem_singleton.mp hy⟩
  obtain ⟨later, hlater, hthrough⟩ := hcourse.duly hsending hlast
  rw [send, sendWithOutcome, hrun]
  refine ⟨_, (hsending.trans hlater).trans (World.becomes_report _ _ t),
    .append (.append (duly_of_unsaved hall _ _) hthrough) (duly_of_unsaved ?_ _ _)⟩
  exact fun y hy => List.mem_singleton.mp hy ▸ Occurrence.unsaved_reported _

/-- An operation that ends where a call ends, and fails where the caller gave up during the call, saves duly. -/
theorem savesDuly_of_send (hworld : (op.run c w).2 = (c.send r w).2)
    (hfail : (c.send r w).1 = .error .cancelled →
      Answer.failure? (op.run c w).1 = some .cancelled) :
    op.SavesDuly c w := by
  obtain ⟨os, hos, hthrough⟩ := c.duly_send r w
  rw [Operation.SavesDuly, hworld]
  refine ⟨os, hos.toReaches, hthrough.mono fun before x after h token hx hgone => ?_⟩
  obtain ⟨hresult, hafter, hv⟩ := h token hx hgone
  exact ⟨hafter, .inl ⟨hfail hresult, hv⟩⟩

/-- An operation that saves nothing saves duly. -/
theorem savesDuly_of_withholds (h : w.Withholds c.names (op.run c w).2) : op.SavesDuly c w := by
  obtain ⟨os, hos, hall⟩ := h
  exact ⟨os, hos.toReaches, .of_forall fun x hx _ _ token htoken => absurd htoken (hall x hx token)⟩

/-- A logout saves duly: whoever gave up during its request ends it, and what it saves itself comes last. -/
theorem savesDuly_logout (c : Client) (w : World) : Operation.SavesDuly c .logout w := by
  obtain ⟨os, hos, hthrough⟩ := c.duly_send (.new .post c.endpoints.logout) w
  obtain ⟨x, w', hx, ⟨e, he, hrun⟩ | ⟨response, response', rfl, hrun⟩⟩ := c.logout_cases w
  · have hop : Operation.run c .logout w = (.error e, w') := by
      rw [Operation.run, Operation.respond, Run.bind_error hrun]
    rw [hx] at hos hthrough
    rw [Operation.SavesDuly, hop]
    refine ⟨os, hos.toReaches, hthrough.mono fun before x after h token hx hgone => ?_⟩
    obtain ⟨hresult, hafter, hv⟩ := h token hx hgone
    rw [← he _ hresult]
    exact ⟨hafter, .inl ⟨rfl, hv⟩⟩
  · have hop : Operation.run c .logout w = (.ok (.response response'), w'.forgotten) := by
      rw [Operation.run, Operation.respond, Run.bind_ok hrun, Run.pure_apply]
    rw [hx] at hos hthrough
    rw [Operation.SavesDuly, hop]
    have hcleared := hos.toReaches.trans (World.reaches_session w'.session.clearTokens w')
    rw [List.append_nil] at hcleared
    refine ⟨_, (hcleared.trans (World.reaches_save "" _)).trans (World.reaches_report _ _),
      .append (.append ?_ (.cons ?_ .nil)) (.cons ?_ .nil)⟩
    · -- a call that was answered saved nothing late
      intro pre x post hsplit token hx hgone
      obtain ⟨hresult, -⟩ := hthrough pre x post hsplit token hx hgone
      cases hresult
    · intro token htoken _
      refine ⟨fun y hy => ⟨_, List.mem_singleton.mp hy⟩, .inr ⟨rfl, ?_, _, rfl⟩⟩
      exact (Occurrence.saved.inj htoken).symm
    · intro token htoken
      cases htoken

/-- Every operation saves duly. -/
theorem savesDuly_run (c : Client) (op : Operation) (w : World) : op.SavesDuly c w := by
  have hm := (World.withholds_consults c.names).toSpeaks
  have respond {run : Run World Response} (hr : Run.Moves (World.Withholds c.names) run) :
      w.Withholds c.names (Operation.respond run w).2 :=
    Run.Moves.bind hr (fun _ => .pure _) w
  have evaluate {d : Json.Decoder Json} {request : Request} :
      (Operation.evaluate (c.call d request) w).2 = (c.send request w).2 ∧
        ((c.send request w).1 = .error .cancelled →
          Answer.failure? (Operation.evaluate (c.call d request) w).1 = some .cancelled) := by
    obtain ⟨hworld, hfail⟩ := Run.bind_of_still (c.send request)
      (fun response => Run.ofResult (response.decode d)) (fun _ _ => rfl) w
    obtain ⟨hworld', hfail'⟩ := Run.bind_of_still (c.call d request)
      (fun value => pure (Answer.value value)) (fun _ _ => rfl) w
    exact ⟨hworld'.trans hworld,
      fun hx => congrArg Answer.failure? (hfail' _ (hfail _ hx))⟩
  cases op with
  | update change => exact ⟨[], World.reaches_session _ w, .nil⟩
  | send request =>
    have hanswer : (Operation.run c (.send request) w).1 = .ok (.summary (c.send request w).1
        (c.sendWithOutcome request w).2.1) := rfl
    refine savesDuly_of_send (r := request) rfl fun hx => ?_
    rw [hanswer, hx]
    rfl
  | call decoder request => exact savesDuly_of_send evaluate.1 evaluate.2
  | exchange decoder method path payload => exact savesDuly_of_send evaluate.1 evaluate.2
  | dispatch request => exact savesDuly_of_withholds (respond (hm.dispatch request))
  | login credentials => exact savesDuly_of_withholds (respond (login_moves hm credentials))
  | logout => exact c.savesDuly_logout w
  | prepare => exact savesDuly_of_withholds (respond (updateCsrfToken_moves hm))
  | updateCsrfToken => exact savesDuly_of_withholds (respond (updateCsrfToken_moves hm))
  | requestRefreshToken => exact savesDuly_of_withholds (respond (requestRefreshToken_moves hm))
  | updateTokens => exact savesDuly_of_withholds (respond (updateTokens_moves hm))
  | confirm previous code request =>
    obtain ⟨hworld, hfail⟩ := Run.bind_of_still (c.sendConfirmation previous code request)
      (fun response => pure (Answer.response response)) (fun _ _ => rfl) w
    exact savesDuly_of_send hworld fun hx => congrArg Answer.failure? (hfail _ hx)

/-! ## Operations of a caller who has given up -/

/-- A computation does nothing but report and fails because the caller gave up. -/
def Declines {α : Type} (run : Run World α) (w : World) : Prop :=
  ∃ es, run w = (.error .cancelled, w.reporting es)

/-- What begins with a computation that declines declines. -/
theorem Declines.bind {α β : Type} {run : Run World α} (h : Declines run w)
    (f : α → Run World β) : Declines (run >>= f) w := by
  obtain ⟨es, hes⟩ := h
  exact ⟨es, Run.bind_error hes⟩

/-- A dispatch declines, and reports nothing. -/
theorem dispatch_of_cancelled (hc : w.cancelled = true) (c : Client) (r : Request) :
    c.dispatch r w = (.error .cancelled, w) := by
  rw [dispatch, World.dispatch, Run.bind_error (World.ensureActive_of_cancelled hc)]

/-- A dispatch declines. -/
theorem declines_dispatch (hc : w.cancelled = true) (c : Client) (r : Request) :
    Declines (c.dispatch r) w := by
  refine ⟨[], ?_⟩
  rw [dispatch_of_cancelled hc, World.reporting, List.map_nil, List.append_nil]

/-- A call with recovery declines, and reports its outcome. -/
theorem declines_send (hc : w.cancelled = true) (c : Client) (r : Request) :
    Declines (c.send r) w := by
  obtain ⟨first, s₁, os, x, p, t, hsend, hcourse, hrun, -⟩ :=
    c.controller.course_execute c.handler r w
  have hfirst : (first, s₁) = (.error .cancelled, w) :=
    hsend.symm.trans (dispatch_of_cancelled hc c r)
  cases hfirst
  cases hcourse
  have hend : c.send r w = (.error .cancelled, w.report (.recoveryOutcome
      (Controller.outcome r c.controller.startProgress (.error .cancelled)))) := by
    rw [send, sendWithOutcome, hrun]
    rfl
  exact ⟨[_], hend⟩

/-- A login declines, and reports that it begins. -/
theorem declines_login (hc : w.cancelled = true) (c : Client) (cr : Credentials) :
    Declines (c.login cr) w := by
  have hc' : (w.report (.loginStart cr.login)).cancelled = true := hc
  refine ⟨[.loginStart cr.login], ?_⟩
  rw [login, Run.bind_ok (Run.change_apply _ _),
    Run.bind_error (World.ensureActive_of_cancelled hc')]
  rfl

/-- An exchange of the refresh token declines. -/
theorem declines_requestRefreshToken (hc : w.cancelled = true) (c : Client) :
    Declines c.requestRefreshToken w := by
  obtain ⟨es, hes⟩ := declines_dispatch hc c ((Request.new .post c.endpoints.refresh).withHeader
    c.names.refreshToken w.session.refresh)
  refine ⟨es, ?_⟩
  rw [requestRefreshToken, Run.bind_ok (Run.look_apply _ _), Run.bind_error hes]

/-- Every operation whose caller has given up before it begins declines. -/
theorem run_of_cancelled (hc : w.cancelled = true) (c : Client) (hop : op.interruptible = true) :
    Answer.failure? (op.run c w).1 = some .cancelled ∧
      ∃ es, (op.run c w).2 = w.reporting es := by
  have declines (h : Declines (op.run c) w) : Answer.failure? (op.run c w).1 = some .cancelled ∧
      ∃ es, (op.run c w).2 = w.reporting es := by
    obtain ⟨es, hes⟩ := h
    rw [hes]
    exact ⟨rfl, es, rfl⟩
  have hprobe : Declines c.updateCsrfToken w := (declines_dispatch hc c _).bind _
  cases op with
  | update change => cases hop
  | send request =>
    obtain ⟨es, hes⟩ := declines_send hc c request
    have hanswer : (Operation.run c (.send request) w).1 = .ok (.summary (c.send request w).1
        (c.sendWithOutcome request w).2.1) := rfl
    refine ⟨?_, es, congrArg Prod.snd hes⟩
    rw [hanswer, hes]
    rfl
  | call decoder request => exact declines (((declines_send hc c request).bind _).bind _)
  | exchange decoder method path payload =>
    exact declines (((declines_send hc c _).bind _).bind _)
  | dispatch request => exact declines ((declines_dispatch hc c request).bind _)
  | login credentials => exact declines ((declines_login hc c credentials).bind _)
  | logout => exact declines (((declines_send hc c _).bind _).bind _)
  | prepare => exact declines (hprobe.bind _)
  | updateCsrfToken => exact declines (hprobe.bind _)
  | requestRefreshToken => exact declines ((declines_requestRefreshToken hc c).bind _)
  | updateTokens => exact declines ((hprobe.bind _).bind _)
  | confirm previous code request => exact declines ((declines_send hc c _).bind _)

/-- Giving up is final. In every operation, under any network and provider, what happens leads from one outlook
to the next, so the moment at which the caller gives up shows in it. From there on the operation hands nothing
to the network and asks nobody for credentials. It may save one refresh token, after which it only reports: the
session's after a handshake that has just ended well, and then it fails because the caller gave up, or the empty
one of a logout that succeeds. An operation whose caller had given up before it began fails for this reason, and
does nothing but report: the session, the provider and the replies to come are as they were. -/
theorem run_final (c : Client) (op : Operation) (w : World) :
    ∃ os, w.Reaches os (op.run c w).2 ∧
      (∀ before x after, os = before ++ x :: after →
        (w.outlook.follow before).cancelled = true →
        ¬ x.GoesOut ∧
        ∀ token, x = .saved token → op.SavesLate c w (op.run c w).1 before token after) ∧
      (w.cancelled = true → op.interruptible = true →
        Answer.failure? (op.run c w).1 = some .cancelled ∧
        ∃ es, (op.run c w).2 = w.reporting es) := by
  obtain ⟨os, hos, hheeds, -⟩ :=
    run_moves (World.proceeds_moves c.names) (fun s w => (World.reaches_session s w).proceeds_of_nil)
      op w
  obtain ⟨os', hos', hthrough⟩ := c.savesDuly_run op w
  -- both speak of the same occurrences, those by which the history grew
  have heq : os' = os := List.append_cancel_left (hos'.history.symm.trans hos.history)
  subst heq
  refine ⟨os', hos, fun before x after hsplit hgone => ⟨?_, fun token hx => ?_⟩, fun hc hop =>
    run_of_cancelled hc c hop⟩
  · subst hsplit
    exact hheeds.not_goesOut hgone
  · have hlate := hthrough before x after hsplit token hx hgone
    rwa [List.append_nil] at hlate

/-- Whoever gives up while the exchange of the refresh token is answered still has the token saved, and fails. -/
example :
    let w : World := ⟨⟨"https://a", none, "", "r", ""⟩, .inMemory none (some "r"),
      [⟨.ok ⟨401, [], []⟩, .never⟩, ⟨.ok ⟨200, [], []⟩, .withReply⟩], false, []⟩
    let run := Operation.run (ofSettings (.new "https://a")) (.send (.new .get "/")) w
    Answer.failure? run.1 = some .cancelled ∧ run.2.sent.length = 2 ∧
      .saved "r" ∈ run.2.history := by
  decide +kernel

end Client

end SessionRecovery
