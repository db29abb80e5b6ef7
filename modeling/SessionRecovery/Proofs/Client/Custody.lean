import SessionRecovery.Proofs.Client.Cost
import SessionRecovery.Proofs.Recovery.HandOver

/-!
# The two copies of the refresh token

A client holds its refresh token twice, in its session and with the provider. Every reply may replace the
first copy, and only saving replaces the second one. So the session's copy is the provider's one followed by
the replies that were received since it was saved last, whatever was asked of the client. As no reply takes
a refresh token away, the session has one wherever the provider does.
-/

namespace SessionRecovery

open Header

namespace Provider

/-- The refresh token to resume with, where none is the empty one. -/
theorem refreshToken_getD (p : Provider) : p.refreshToken.getD "" = p.stored.getD "" := by
  rw [refreshToken]
  cases p.stored with
  | none => rfl
  | some token =>
    by_cases ht : token = ""
    · subst ht
      rfl
    · rw [Option.filter_some, if_pos (decide_eq_true ht)]

end Provider

/-! ## The refresh token along replies -/

/-- A refresh token after a reply. -/
def refreshAfter (names : HeaderNames) (token : String) (d : Delivery) : String :=
  d.headers.slotAfter names.refreshToken token

theorem refreshAfter_ne_empty {names : HeaderNames} {token : String} (h : token ≠ "")
    (d : Delivery) : refreshAfter names token d ≠ "" := Fields.slotAfter_ne_empty h d.headers _

theorem foldl_refreshAfter_ne_empty {names : HeaderNames} {token : String} (h : token ≠ "")
    (ds : List Delivery) : ds.foldl (refreshAfter names) token ≠ "" := by
  induction ds generalizing token with
  | nil => exact h
  | cons d ds ih => exact ih (refreshAfter_ne_empty h d)

theorem Session.refresh_replay (names : HeaderNames) (s : Session) (ds : List Delivery) :
    (s.replay names (ds.map .reply)).refresh = ds.foldl (refreshAfter names) s.refresh := by
  induction ds generalizing s with
  | nil => rfl
  | cons d ds ih => exact ih (s.after names d)

/-! ## Replies that are not saved -/

/-- The replies received since the provider was last given something to keep, after one occurrence more. -/
def Occurrence.outstanding (ds : List Delivery) : Occurrence → List Delivery
  | .received d => ds ++ [d]
  | .saved _ => []
  | _ => ds

/-- Where nothing is saved, every reply stays outstanding. -/
theorem Occurrence.foldl_outstanding {os : List Occurrence} (h : ∀ x ∈ os, x.saved? = none)
    (ds : List Delivery) : os.foldl outstanding ds = ds ++ os.filterMap (·.received?) := by
  induction os generalizing ds with
  | nil => exact (List.append_nil ds).symm
  | cons x os ih =>
    have hos : ∀ y ∈ os, y.saved? = none := fun y hy => h y (List.mem_cons_of_mem x hy)
    rw [List.foldl_cons, ih hos]
    cases x with
    | received d => simp [outstanding, received?]
    | saved token => cases h _ List.mem_cons_self
    | _ => rfl

/-- What spares the provider leaves it as it was. -/
theorem Outlook.provider_follow {os : List Occurrence} (h : ∀ x ∈ os, x.SparesProvider)
    (l : Outlook) : (l.follow os).provider = l.provider := by
  induction os generalizing l with
  | nil => rfl
  | cons x os ih =>
    have hspared := h x List.mem_cons_self
    have hx : (l.after x).provider = l.provider := by
      cases x with
      | sent o =>
        rw [Outlook.after]
        split <;> rfl
      | asked => exact absurd rfl hspared.1
      | saved token => cases hspared.2
      | _ => rfl
    exact (ih (fun y hy => h y (List.mem_cons_of_mem x hy)) (l.after x)).trans hx

namespace World

/-- The replies received since the provider was last given something to keep. -/
def outstanding (w : World) : List Delivery := w.history.foldl Occurrence.outstanding []

/-- The session's refresh token is the provider's one, followed by the outstanding replies. -/
def InStep (names : HeaderNames) (w : World) : Prop :=
  w.session.refresh = w.outstanding.foldl (refreshAfter names) (w.provider.stored.getD "")

/-- Where the provider has a refresh token the session has one. -/
def Backed (w : World) : Prop := w.provider.stored.getD "" ≠ "" → w.session.refresh ≠ ""

variable {names : HeaderNames} {w w' : World}

theorem InStep.backed (h : w.InStep names) : w.Backed := by
  intro hs
  rw [h]
  exact foldl_refreshAfter_ne_empty hs _

@[simp] theorem outstanding_report (w : World) (e : Event) :
    (w.report e).outstanding = w.outstanding := by
  simp [outstanding, report, note, Occurrence.outstanding]

@[simp] theorem outstanding_save (w : World) (token : String) : (w.save token).outstanding = [] := by
  simp [outstanding, save, Occurrence.outstanding]

@[simp] theorem outstanding_askCredentials (w : World) :
    (askCredentials w).2.outstanding = w.outstanding := by
  simp [outstanding, askCredentials, Occurrence.outstanding]

/-- Where the provider is spared, it is as before and every new reply stays outstanding. -/
theorem Proceeds.provider_eq (h : Proceeds Occurrence.SparesProvider w w') :
    w'.provider = w.provider ∧
      ∀ ds, w'.received = w.received ++ ds → w'.outstanding = w.outstanding ++ ds := by
  obtain ⟨os, hos, -, hall⟩ := h
  refine ⟨(congrArg Outlook.provider hos.outlook).trans (Outlook.provider_follow hall _), ?_⟩
  intro ds hds
  have hnew : os.filterMap (·.received?) = ds := by
    rw [received, received, hos.history, List.filterMap_append] at hds
    exact List.append_cancel_left hds
  rw [outstanding, hos.history, List.foldl_append,
    Occurrence.foldl_outstanding fun x hx => (hall x hx).2, hnew]
  rfl

/-- Both copies stay in step. -/
def StaysInStep (names : HeaderNames) (w w' : World) : Prop := w.InStep names → w'.InStep names

instance (names : HeaderNames) : IsPreorder World (StaysInStep names) where
  refl _ := id
  trans _ _ _ h h' hw := h' (h hw)

/-- What spares the provider, and changes the session by replies only, keeps both copies in step. -/
theorem Tracks.staysInStep (ht : Tracks names w w') (hp : Proceeds Occurrence.SparesProvider w w') :
    StaysInStep names w w' := by
  intro hw
  obtain ⟨ds, hr, hs⟩ := ht
  obtain ⟨hprovider, houtstanding⟩ := hp.provider_eq
  rw [InStep, hs, Session.refresh_replay, hw, hprovider, houtstanding ds hr, List.foldl_append]

theorem inStep_save (names : HeaderNames) (w : World) :
    (w.save w.session.refresh).InStep names := by
  rw [InStep, outstanding_save]
  rfl

theorem inStep_forgotten (names : HeaderNames) (w : World) : w.forgotten.InStep names := by
  rw [InStep, forgotten, outstanding_report, outstanding_save]
  rfl

/-- Recovery keeps both copies in step: what it saves is the session's own. -/
theorem inStep_retains (names : HeaderNames) : World.Retains names (StaysInStep names) where
  dispatch r w := (tracks_moves names).dispatch r w |>.staysInStep
    ((proceeds_speaks names allows_sparesProvider).dispatch r w)
  report e w := (tracks_moves names).report e w |>.staysInStep
    ((proceeds_speaks names allows_sparesProvider).report e w)
  askCredentials w _ := by
    intro hw
    rw [InStep, outstanding_askCredentials]
    exact hw
  persist w _ := inStep_save names w

end World

/-- A refresh token that was there is there, whatever replies are received. -/
theorem World.keepsRefresh_retains (c : Client) :
    World.Retains c.names c.handler.KeepsRefresh := by
  -- saving and asking receive nothing, so they too change the session by replies only
  have hm := World.tracks_moves c.names
  have kept {w w' : World} (ht : w.Tracks c.names w') : c.handler.KeepsRefresh w w' := by
    intro hw
    obtain ⟨ds, -, hs⟩ := ht
    have hne : w.session.refresh ≠ "" := bne_iff_ne.mp hw
    have hne' : w'.session.refresh ≠ "" := by
      rw [hs, Session.refresh_replay]
      exact foldl_refreshAfter_ne_empty hne ds
    exact bne_iff_ne.mpr hne'
  exact {
    dispatch := fun r w => kept (hm.dispatch r w)
    report := fun e w => kept (hm.report e w)
    askCredentials := fun w hc => kept (hm.askCredentials w hc)
    persist := fun w => kept (hm.save _ w) }

/-- The token that is handed over is the session's. -/
def HandOver.token (d : HandOver World) : String := d.before.session.refresh

/-- The world whose session has no tokens. -/
def World.cleared (w : World) : World := { w with session := w.session.clearTokens }

/-! ## Operations -/

namespace Operation

/-- The operation changes the session directly. -/
def edits : Operation → Bool
  | .update _ => true
  | _ => false

/-- The request that an operation sends with recovery. -/
def request? (c : Client) : Operation → Option Request
  | .send request => some request
  | .call _ request => some request
  | .exchange _ method path payload => some ((Request.new method path).withPayload payload)
  | .logout => some (.new .post c.endpoints.logout)
  | .confirm previous code request => some (c.confirmed previous code request)
  | _ => none

end Operation

namespace Client

variable {c : Client} {op : Operation} {r : Request} {w : World}

/-- An operation that sends a request with recovery leaves what the call leaves, unless it is a logout. -/
theorem run_of_request (h : op.request? c = some r) (hl : op ≠ .logout) :
    (op.run c w).2 = (c.send r w).2 := by
  have evaluated (d : Json.Decoder Json) : (Operation.evaluate (c.call d r) w).2 = (c.send r w).2 := by
    have hcall : (c.call d r w).2 = (c.send r w).2 :=
      (Run.bind_of_still _ _ (fun _ _ => rfl) w).1
    exact ((Run.bind_of_still _ _ (fun _ _ => rfl) w).1).trans hcall
  cases op with
  | send request =>
    cases h
    rfl
  | call decoder request =>
    cases h
    exact evaluated decoder
  | exchange decoder method path payload =>
    cases h
    exact evaluated decoder
  | confirm previous code request =>
    cases h
    exact (Run.bind_of_still _ _ (fun _ _ => rfl) w).1
  | logout => exact absurd rfl hl
  | _ => cases h

/-- Any other operation but a change of the session only speaks with the server. -/
theorem run_of_no_request {R : World → World → Prop} [IsPreorder World R]
    (hm : World.Speaks c.names R) (h : op.request? c = none) (he : op.edits = false) :
    R w (op.run c w).2 := by
  have respond {r : Run World Response} (hr : Run.Moves R r) : Run.Moves R (Operation.respond r) :=
    .bind hr fun _ => .pure _
  cases op with
  | dispatch request => exact respond (hm.dispatch request) w
  | login credentials => exact respond (login_moves hm credentials) w
  | prepare => exact respond (updateCsrfToken_moves hm) w
  | updateCsrfToken => exact respond (updateCsrfToken_moves hm) w
  | requestRefreshToken => exact respond (requestRefreshToken_moves hm) w
  | updateTokens => exact respond (updateTokens_moves hm) w
  | update change => cases he
  | _ => cases h

/-- A logout that gives an answer was answered by a success. -/
theorem isSuccess_of_logout {response : Response} {w' : World}
    (h : c.logout w = (.ok response, w')) : response.isSuccess = true := by
  obtain ⟨first, w₁, -, h⟩ := Run.exists_of_bind_ok h
  obtain ⟨second, w₂, hread, h⟩ := Run.exists_of_bind_ok h
  obtain ⟨-, w₃, -, h⟩ := Run.exists_of_bind_ok h
  obtain ⟨-, w₄, -, h⟩ := Run.exists_of_bind_ok h
  obtain ⟨-, w₅, -, h⟩ := Run.exists_of_bind_ok h
  cases h
  have hresult : first.toResult = .ok response := congrArg Prod.fst hread
  rw [Response.toResult] at hresult
  cases hf : first.failure with
  | some api =>
    rw [hf] at hresult
    cases hresult
  | none =>
    rw [hf] at hresult
    cases hresult
    rw [Response.isSuccess, hf]
    rfl

/-- A logout fails, and leaves what its call leaves, or is answered by a success, and forgets the tokens. -/
theorem run_logout (c : Client) (w : World) :
    (∃ e, Operation.run c .logout w =
      (.error e, (c.send (.new .post c.endpoints.logout) w).2)) ∨
    ∃ response, response.isSuccess = true ∧ Operation.run c .logout w =
      (.ok (.response response), (c.send (.new .post c.endpoints.logout) w).2.forgotten) := by
  obtain ⟨x, w', hx, ⟨e, -, hrun⟩ | ⟨-, response, -, hrun⟩⟩ := c.logout_cases w
  · refine .inl ⟨e, ?_⟩
    rw [hx, Operation.run, Operation.respond, Run.bind_error hrun]
  · refine .inr ⟨response, isSuccess_of_logout hrun, ?_⟩
    rw [hx, Operation.run, Operation.respond, Run.bind_ok hrun, Run.pure_apply]

section Moves

variable {R : World → World → Prop} [IsPreorder World R] {turns : List (Bool × Operation)}

/-- Every operation but a change of the session moves as what recovery is made of, and as forgetting the
tokens does. -/
theorem run_retains (hm : World.Retains c.names R) (hf : ∀ v : World, R v v.forgotten)
    (he : op.edits = false) : R w (op.run c w).2 := by
  cases hr : op.request? c with
  | none => exact run_of_no_request hm.toSpeaks hr he
  | some r =>
    by_cases hl : op = .logout
    · subst hl
      rcases c.run_logout w with ⟨e, hrun⟩ | ⟨response, -, hrun⟩
      · rw [hrun]
        exact send_retains hm _ w
      · rw [hrun]
        exact IsTrans.trans _ _ _ (send_retains hm _ w) (hf _)
    · rw [run_of_request hr hl]
      exact send_retains hm r w

/-- Operations that do not change the session move as each of them does, and as their beginnings do. -/
theorem perform_retains (hm : World.Retains c.names R) (hf : ∀ v : World, R v v.forgotten)
    (hb : ∀ b, ∀ v : World, R v (v.begin b)) (he : ∀ t ∈ turns, t.2.edits = false) :
    R w (c.perform turns w) := by
  induction turns generalizing w with
  | nil => exact Std.Refl.refl w
  | cons t ts ih =>
    have hturn : R w (c.turn t w).2 :=
      IsTrans.trans _ _ _ (hb t.1 w) (run_retains hm hf (he t List.mem_cons_self))
    exact IsTrans.trans _ _ _ hturn (ih fun u hu => he u (List.mem_cons_of_mem t hu))

end Moves

/-- Both copies are in step after any operations but changes of the session. -/
theorem inStep_perform {turns : List (Bool × Operation)} (hw : w.InStep c.names)
    (he : ∀ t ∈ turns, t.2.edits = false) : (c.perform turns w).InStep c.names :=
  perform_retains (World.inStep_retains c.names) (fun v _ => World.inStep_forgotten c.names v)
    (fun _ _ hv => hv) he hw

/-- A client begins with both copies in step. -/
theorem inStep_connect {settings : Settings} {provider : Provider} {replies : List Reply}
    (h : connect settings provider replies = .ok (c, w)) :
    c = ofSettings settings ∧ w.InStep settings.headers ∧
      w.session.refresh = provider.stored.getD "" := by
  rw [connect] at h
  split at h
  · cases h
  · cases h
    exact ⟨rfl, provider.refreshToken_getD, provider.refreshToken_getD⟩

/-- The session's refresh token is the one that a restarted client resumes with, followed by the replies that
were received since it was saved last. So the two agree whenever no such reply brought another one, but a
token that arrived outside of recovery, or after it, is not saved. -/
theorem refresh_perform {settings : Settings} {provider : Provider} {replies : List Reply}
    {c : Client} {w : World} (h : connect settings provider replies = .ok (c, w))
    (proof : String → String → String) {turns : List (Bool × Operation)}
    (he : ∀ t ∈ turns, t.2.edits = false) {later : List Reply} {restarted : Client × World}
    (hr : connect settings (({ c with proof } : Client).perform turns w).provider later =
      .ok restarted) :
    (({ c with proof } : Client).perform turns w).session.refresh =
      (({ c with proof } : Client).perform turns w).outstanding.foldl
        (refreshAfter settings.headers) restarted.2.session.refresh := by
  obtain ⟨rfl, hw, -⟩ := inStep_connect h
  obtain ⟨-, -, hresumed⟩ := inStep_connect (c := restarted.1) (w := restarted.2) hr
  rw [hresumed]
  exact inStep_perform (c := { ofSettings settings with proof }) hw he

/-- A reply that brings another refresh token. -/
def rotation : Reply := ⟨.ok ⟨200, [(⟨"x-auth-refresh-token"⟩, [0x73])], []⟩, .never⟩

/-- A client that resumes with a stored refresh token, which the server is going to replace. -/
def rotating : Client × World :=
  (ofSettings (.new "https://a"), World.report (.clientCreated "https://a" true)
    ⟨⟨"https://a", none, "", "r", ""⟩, .inMemory none (some "r"), [rotation], false, []⟩)

theorem connect_rotating :
    connect (.new "https://a") (.inMemory none (some "r")) [rotation] = .ok rotating := by
  have hurl : (Settings.new "https://a").normalizedUrl = .ok "https://a" := by decide +kernel
  rw [connect, hurl]
  rfl

/-- Exchanging the refresh token on request succeeds, and yet a restarted client resumes with the old one. -/
theorem exchange_not_saved :
    connect (.new "https://a") (.inMemory none (some "r")) [rotation] = .ok rotating ∧
    Answer.succeeded (rotating.1.turn (false, .requestRefreshToken) rotating.2).1 = true ∧
    (rotating.1.turn (false, .requestRefreshToken) rotating.2).2.session.refresh = "s" ∧
    (rotating.1.turn (false, .requestRefreshToken) rotating.2).2.provider.refreshToken = some "r" :=
  ⟨connect_rotating, by decide +kernel, by decide +kernel, by decide +kernel⟩

/-- After that exchange the restarted client resumes with the old token, and the outstanding reply leads
from it to the session's token. -/
theorem refresh_perform_rotating :
    ∃ restarted, connect (.new "https://a")
        (rotating.1.perform [(false, .requestRefreshToken)] rotating.2).provider [] =
        .ok restarted ∧
      restarted.2.session.refresh = "r" ∧
      (rotating.1.perform [(false, .requestRefreshToken)] rotating.2).session.refresh =
        (rotating.1.perform [(false, .requestRefreshToken)] rotating.2).outstanding.foldl
          (refreshAfter .standard) "r" := by
  have hurl : (Settings.new "https://a").normalizedUrl = .ok "https://a" := by decide +kernel
  -- the provider that was reached is named, so that only its token is ever computed
  obtain ⟨provider, hp⟩ : ∃ p,
      p = (rotating.1.perform [(false, .requestRefreshToken)] rotating.2).provider := ⟨_, rfl⟩
  have hstored : provider.refreshToken = some "r" := by
    rw [hp]
    decide +kernel
  obtain ⟨restarted, hr⟩ : ∃ restarted,
      connect (.new "https://a") provider [] = .ok restarted := by
    rw [connect, hurl]
    exact ⟨_, rfl⟩
  have hresumed : restarted.2.session.refresh = "r" := by
    rw [(inStep_connect (c := restarted.1) (w := restarted.2) hr).2.2, ← Provider.refreshToken_getD,
      hstored]
    rfl
  rw [hp] at hr
  refine ⟨restarted, hr, hresumed, ?_⟩
  have he : ∀ t ∈ [(false, Operation.requestRefreshToken)], t.2.edits = false := by decide
  have hlaw := refresh_perform connect_rotating passwordProof he hr
  rw [hresumed] at hlaw
  exact hlaw

/-! ## Saving -/

/-- The hand-overs of a call with recovery. -/
def callHandOvers (c : Client) (r : Request) (w : World) : List (HandOver World) :=
  Observation.handOvers .none w (c.controller.observations c.handler r w)

/-- What a logout hands over besides its call: if it succeeds, the provider is given the empty token, once the
session has forgotten its own. -/
def farewell (c : Client) (answer : Except Error Answer) (op : Operation) (w : World) :
    List (HandOver World) :=
  match op with
  | .logout =>
    if Answer.succeeded answer then
      [⟨.none, (c.send (.new .post c.endpoints.logout) w).2.cleared⟩]
    else []
  | _ => []

/-- Everything that an operation hands over to the provider, in order. -/
def handOvers (c : Client) (t : Bool × Operation) (w : World) : List (HandOver World) :=
  ((t.2.request? c).map fun r => c.callHandOvers r (w.begin t.1)).getD [] ++
    c.farewell (c.turn t w).1 t.2 (w.begin t.1)

/-- What is handed over in one turn of a client takes no refresh token away from the provider, but for the
last thing that a logout does. -/
structure Safe (op : Operation) (answer : Except Error Answer) (d : HandOver World) : Prop where
  /-- Recovery hands over where the session has a token if the provider has one. -/
  backed : d.action ≠ .none → d.before.Backed
  /-- Then the session has one if the provider has. -/
  backed_after : (d.before.save d.token).Backed
  /-- An exchange hands over a token. -/
  exchanged : d.action = .refreshToken → d.token ≠ ""
  /-- Only a logout whose request succeeded takes a token away. -/
  erased : d.before.provider.stored.getD "" ≠ "" → d.token = "" →
    op = .logout ∧ d.action = .none ∧
      ∃ response, answer = .ok (.response response) ∧ response.isSuccess = true

/-- Each primitive of recovery saves nothing, but for handing the session's refresh token over. -/
theorem saved_of_shows {c : Client} {r : Request} {w : World} {o : Observation World}
    (ho : c.handler.Shows r w o) :
    o.after.saved = w.saved ++ if o.deed.primitive? = some .persist then [w.session.refresh] else [] := by
  have spared {w' : World} (h : w.Proceeds Occurrence.SparesProvider w') :
      w'.saved = w.saved ++ [] := h.provider_spared.2.trans (List.append_nil _).symm
  have hm := c.speaks_sparingly
  rw [ho.after_eq]
  obtain ⟨deed, after⟩ := o
  cases deed with
  | send r' result => exact spared (hm.dispatch r' w)
  | csrf result => exact spared (updateCsrfToken_moves hm w)
  | credentials result => exact (World.saved_askCredentials w).trans (List.append_nil _).symm
  | login cr result => exact spared (login_moves hm cr w)
  | refresh result => exact spared (requestRefreshToken_moves hm w)
  | persist => exact World.saved_save w _
  | report e => exact (World.saved_report w e).trans (List.append_nil _).symm

/-- What is saved along a walk is what is handed over. -/
theorem saved_of_walk {c : Client} {r : Request} {w w' : World} {os : List (Observation World)}
    (hw : c.handler.Walk r w os w') (a : Action) :
    w'.saved = w.saved ++ (Observation.handOvers a w os).map HandOver.token := by
  induction hw generalizing a with
  | nil => exact (List.append_nil _).symm
  | @cons s t o os ho _ ih =>
    rw [ih (o.deed.started?.getD a), saved_of_shows ho, Observation.handOvers, List.append_assoc]
    split <;> rfl

/-- What a call with recovery saves is what it hands over. -/
theorem saved_send (c : Client) (r : Request) (w : World) :
    (c.send r w).2.saved = w.saved ++ (c.callHandOvers r w).map HandOver.token :=
  saved_of_walk (c.controller.walk_observations c.handler r w).1 .none

/-- What an operation saves is what it hands over. -/
theorem saved_turn (c : Client) {t : Bool × Operation} (he : t.2.edits = false) (w : World) :
    (c.turn t w).2.saved = w.saved ++ (c.handOvers t w).map HandOver.token := by
  obtain ⟨b, op⟩ := t
  have hbegin : (w.begin b).saved = w.saved := rfl
  rw [turn, handOvers, ← hbegin]
  dsimp only
  cases hr : op.request? c with
  | none =>
    have hspared := (run_of_no_request (w := w.begin b) c.speaks_sparingly hr he).provider_spared
    rw [hspared.2]
    cases op with
    | logout => cases hr
    | _ => exact (List.append_nil _).symm
  | some r =>
    by_cases hl : op = .logout
    · subst hl
      cases hr
      rcases c.run_logout (w.begin b) with ⟨e, hrun⟩ | ⟨response, -, hrun⟩
      · simp [turn, hrun, farewell, Answer.succeeded, saved_send]
      · -- the call hands over its tokens first; the farewell starts from where it ended
        obtain ⟨v, hv⟩ : ∃ v, (c.send (.new .post c.endpoints.logout) (w.begin b)).2 = v := ⟨_, rfl⟩
        have hcall := c.saved_send (.new .post c.endpoints.logout) (w.begin b)
        have hsaved : v.forgotten.saved = v.saved ++ [HandOver.token ⟨.none, v.cleared⟩] :=
          v.saved_forgotten
        rw [hv] at hcall hrun
        simp [turn, hrun, farewell, Answer.succeeded, hv, hsaved, hcall]
    · rw [run_of_request hr hl, saved_send]
      cases op with
      | logout => exact absurd rfl hl
      | _ => simp [farewell]

/-- What a call hands over is safe. -/
theorem safe_of_mem_callHandOvers {d : HandOver World} (hw : w.InStep c.names)
    (hd : d ∈ c.callHandOvers r w) (answer : Except Error Answer) : Safe op answer d := by
  obtain ⟨hstep, -, hexchanged⟩ := c.controller.warranted_observations
    (handler_retains (World.keepsRefresh_retains c)) (handler_retains (World.inStep_retains c.names)) hd
  have hbacked : d.before.Backed := (hstep hw).backed
  have htoken (ha : d.action = .refreshToken) : d.token ≠ "" := bne_iff_ne.mp (hexchanged ha)
  exact ⟨fun _ => hbacked, (World.inStep_save c.names d.before).backed, htoken,
    fun hs he => absurd he (hbacked hs)⟩

/-- What a logout hands over besides its call takes the token away only after its request succeeded. -/
theorem safe_of_mem_farewell {d : HandOver World} {b : Bool}
    (hd : d ∈ c.farewell (c.turn (b, op) w).1 op (w.begin b)) :
    Safe op (c.turn (b, op) w).1 d := by
  cases op with
  | logout =>
    rcases c.run_logout (w.begin b) with ⟨e, hrun⟩ | ⟨response, hsuccess, hrun⟩
    · simp [turn, hrun, farewell, Answer.succeeded] at hd
    · have hanswer : (c.turn (b, .logout) w).1 = .ok (.response response) := congrArg Prod.fst hrun
      rw [hanswer, farewell, Answer.succeeded, if_pos rfl, List.mem_singleton] at hd
      subst hd
      exact ⟨fun ha => absurd rfl ha, fun hs => absurd rfl hs, Action.noConfusion,
        fun _ _ => ⟨rfl, rfl, response, hanswer, hsuccess⟩⟩
  | _ => exact absurd hd List.not_mem_nil

/-- Everything that a turn hands over is safe where both copies are in step. -/
theorem safe_of_mem_handOvers {d : HandOver World} {t : Bool × Operation}
    (hw : w.InStep c.names) (hd : d ∈ c.handOvers t w) : Safe t.2 (c.turn t w).1 d := by
  have hbegin : (w.begin t.1).InStep c.names := hw
  rw [handOvers, List.mem_append] at hd
  rcases hd with hd | hd
  · cases hr : t.2.request? c with
    | none =>
      rw [hr] at hd
      exact absurd hd List.not_mem_nil
    | some r =>
      rw [hr] at hd
      exact safe_of_mem_callHandOvers hbegin hd _
  · exact safe_of_mem_farewell hd

/-- Recovery never takes a stored refresh token away. Whatever is asked of a client that was set up with some
settings, short of changing its session directly, and whatever the network and the provider do: between the
operations the session has a refresh token if the provider has one, and everything that the next operation
saves is safe. -/
theorem custody_perform {settings : Settings} {provider : Provider} {replies : List Reply}
    {c : Client} {w : World} (h : connect settings provider replies = .ok (c, w))
    (proof : String → String → String) {turns : List (Bool × Operation)}
    (he : ∀ t ∈ turns, t.2.edits = false) :
    let client : Client := { c with proof }
    let reached := client.perform turns w
    reached.Backed ∧ ∀ t : Bool × Operation, t.2.edits = false →
      (client.turn t reached).2.saved =
        reached.saved ++ (client.handOvers t reached).map HandOver.token ∧
      ∀ d ∈ client.handOvers t reached, Safe t.2 (client.turn t reached).1 d := by
  intro client reached
  obtain ⟨rfl, hw, -⟩ := inStep_connect h
  have hreached : reached.InStep client.names := inStep_perform hw he
  refine ⟨hreached.backed, fun t ht => ⟨client.saved_turn ht reached, fun d hd => ?_⟩⟩
  exact safe_of_mem_handOvers hreached hd

/-- The replies of a server that finds the access token expired, gives another refresh token in exchange, and
then does what is asked. -/
def expiring : List Reply :=
  [⟨.ok ⟨401, [], Utf8.encode "\x7b\"code\":\"token_expired\",\"message\":\"\"\x7d"⟩, .never⟩, rotation,
    ⟨.ok ⟨200, [], []⟩, .never⟩, ⟨.ok ⟨200, [], []⟩, .never⟩]

/-- A client recovers by an exchange, which saves the new token, and then logs out, which takes it away. -/
theorem custody_perform_expiring :
    connect (.new "https://a") (.inMemory none (some "r")) expiring =
      .ok (rotating.1, { rotating.2 with replies := expiring }) ∧
    ∃ reached, rotating.1.perform [(false, .send (.new .get "/"))]
        { rotating.2 with replies := expiring } = reached ∧
      reached.Backed ∧ reached.saved = ["s"] ∧
      (rotating.1.turn (false, .logout) reached).2.saved = ["s", ""] ∧
      ∀ d ∈ rotating.1.handOvers (false, .logout) reached,
        Safe .logout (rotating.1.turn (false, .logout) reached).1 d := by
  have hurl : (Settings.new "https://a").normalizedUrl = .ok "https://a" := by decide +kernel
  have h : connect (.new "https://a") (.inMemory none (some "r")) expiring =
      .ok (rotating.1, { rotating.2 with replies := expiring }) := by
    rw [connect, hurl]
    rfl
  have he : ∀ t ∈ [(false, Operation.send (.new .get "/"))], t.2.edits = false := by decide
  obtain ⟨hbacked, hnext⟩ := custody_perform h passwordProof he
  exact ⟨h, _, rfl, hbacked, by decide +kernel, by decide +kernel, (hnext (false, .logout) rfl).2⟩

end Client

end SessionRecovery
