import SessionRecovery.Proofs.Client.Replay
import SessionRecovery.Proofs.Run
import SessionRecovery.Proofs.Recovery.Lockstep
import SessionRecovery.Proofs.Session.Alike

/-!
# Two clients in lockstep

Everything that a client does is made of dispatches, questions to the provider, events and saving. Where these
keep two worlds related, whose sessions differ at most in the values of their tokens, every operation does. How
far requests, replies, credentials and errors of the two may differ is a parameter, and the two clients may be
set up differently as long as what they send stays within it.
-/

namespace SessionRecovery

open Header

/-- Two replies differ at most in the texts of headers, none of which is empty in one of them only. -/
structure Response.Alike (x y : Response) : Prop where
  /-- The statuses. -/
  status : y.status = x.status
  /-- The bodies. -/
  body : y.body = x.body
  /-- The failures. -/
  failure : y.failure = x.failure
  /-- The headers that carry a text. -/
  texts : ∀ name, (y.headers.nonEmptyText? name).isSome = (x.headers.nonEmptyText? name).isSome

namespace Response

variable {x y : Response}

theorem Alike.refl (x : Response) : x.Alike x := ⟨rfl, rfl, rfl, fun _ => rfl⟩

theorem Alike.isSuccess (h : x.Alike y) : y.isSuccess = x.isSuccess := by
  rw [Response.isSuccess, Response.isSuccess, h.failure]

theorem Alike.errorCode (h : x.Alike y) : y.errorCode = x.errorCode := by
  rw [Response.errorCode, Response.errorCode, h.failure]

theorem Alike.stepError (h : x.Alike y) (step : Step) : y.stepError step = x.stepError step := by
  rw [Response.stepError, Response.stepError, h.failure, h.status]

theorem Alike.expectSuccess {A : Response → Response → Prop} (h : x.Alike y) (ha : A x y)
    (step : Step) : Agree A (x.expectSuccess step) (y.expectSuccess step) := by
  rw [Response.expectSuccess, Response.expectSuccess, h.isSuccess, h.stepError]
  split
  · exact .ok ha
  · exact .error _

theorem Alike.toResult {A : Response → Response → Prop} (h : x.Alike y) (ha : A x y) :
    Agree A x.toResult y.toResult := by
  rw [Response.toResult, Response.toResult, h.failure, h.status]
  cases x.failure with
  | none => exact .ok ha
  | some api => exact .error _

theorem Alike.decode {α : Type} (h : x.Alike y) (d : Json.Decoder α) : y.decode d = x.decode d := by
  rw [Response.decode, Response.decode, h.failure, h.status, h.body]

/-- Where a header carries a text, both carry one, and both can be sent. -/
theorem Alike.nonEmptyText? (h : x.Alike y) (name : String) :
    x.headers.nonEmptyText? name = none ∧ y.headers.nonEmptyText? name = none ∨
    ∃ t u, x.headers.nonEmptyText? name = some t ∧ y.headers.nonEmptyText? name = some u ∧
      (Writable u ↔ Writable t) := by
  have hsome := h.texts name
  cases hx : x.headers.nonEmptyText? name with
  | none =>
    rw [hx] at hsome
    have hy : ¬ (y.headers.nonEmptyText? name).isSome = true := by
      rw [hsome]
      exact Bool.false_ne_true
    exact .inl ⟨rfl, Option.not_isSome_iff_eq_none.mp hy⟩
  | some t =>
    rw [hx] at hsome
    obtain ⟨u, hu⟩ := Option.isSome_iff_exists.mp hsome
    have ht := (Fields.presentable_of_nonEmptyText? hx).2.writable
    have hu' := (Fields.presentable_of_nonEmptyText? hu).2.writable
    exact .inr ⟨t, u, rfl, hu, iff_of_true hu' ht⟩

end Response

/-- Events, saving and changes of the session keep two worlds related, whose callers give up together and
whose sessions are alike. -/
structure World.Accords (R : World → World → Prop) : Prop where
  /-- Reporting the same event. -/
  report : ∀ e {w v}, R w v → R (World.report e w) (World.report e v)
  /-- The callers give up together. -/
  cancelled : ∀ {w v}, R w v → v.cancelled = w.cancelled
  /-- The sessions. -/
  session : ∀ {w v}, R w v → w.session.Alike v.session
  /-- Giving the providers the refresh tokens to keep. -/
  persist : ∀ {w v : World}, R w v → R (w.save w.session.refresh) (v.save v.session.refresh)
  /-- Forgetting the tokens of the sessions. -/
  clear : ∀ {w v : World}, R w v →
    R { w with session := w.session.clearTokens } { v with session := v.session.clearTokens }
  /-- Forgetting the tokens of the providers. -/
  erase : ∀ {w v : World}, R w v → R (w.save "") (v.save "")

/-- How far two runs may differ. -/
structure Leeway where
  /-- In the requests that they send. -/
  request : Request → Request → Prop
  /-- In the replies that they get. -/
  response : Response → Response → Prop
  /-- In the credentials that they are given. -/
  credentials : Credentials → Credentials → Prop

/-- The exchange of a refresh token, as a request. -/
def Client.renewal (c : Client) (token : String) : Request :=
  (Request.new .post c.endpoints.refresh).withHeader c.names.refreshToken token

/-- Everything that two clients are made of, apart from logins, goes in lockstep and stays within the leeway. -/
structure Client.Lockstep (c d : Client) (L : Leeway) (E : Error → Error → Prop)
    (R : World → World → Prop) : Prop extends World.Accords R where
  /-- Errors may differ in their words. -/
  indistinct : Error.Indistinct E
  /-- Reporting errors that are related. -/
  complain : ∀ (k : Error → Event) {e f w v}, E e f → R w v →
    R (World.report (k e) w) (World.report (k f) v)
  /-- The paths of handshakes. -/
  endpoints : d.endpoints = c.endpoints
  /-- What decides over recovery. -/
  controller : d.controller = c.controller
  /-- Replies differ at most in the texts of headers. -/
  alike : ∀ {x y}, L.response x y → x.Alike y
  /-- Salts are read from both replies or from none. -/
  salted : ∀ {x y}, L.response x y → (d.salt? y).isSome = (c.salt? x).isSome
  /-- Requests are called the same. -/
  named : ∀ {r q}, L.request r q → q.operation = r.operation
  /-- The same request may be sent. -/
  same : ∀ r, L.request r r
  /-- The same may be asked to log in. -/
  challenge : ∀ login, L.request (c.challenge login) (d.challenge login)
  /-- The refresh tokens of the sessions may be exchanged. -/
  renewal : ∀ {w v}, R w v →
    L.request (c.renewal w.session.refresh) (d.renewal v.session.refresh)
  /-- Requests that may be sent may be confirmed. -/
  confirmed : ∀ {x y r q} code, L.response x y → L.request r q →
    L.request (c.confirmed x code r) (d.confirmed y code q)
  /-- Sending. -/
  dispatch : ∀ {r q}, L.request r q → Run.Lockstep R E L.response (c.dispatch r) (d.dispatch q)
  /-- Asking for credentials. -/
  askCredentials : Run.Lockstep R Eq L.credentials World.askCredentials World.askCredentials

/-- Logins with credentials within the leeway go in lockstep. -/
def Client.LoginLockstep (c d : Client) (L : Leeway) (E : Error → Error → Prop)
    (R : World → World → Prop) : Prop :=
  ∀ {cr cr'}, L.credentials cr cr' → Run.Lockstep R E L.response (c.login cr) (d.login cr')

/-- Callers that give up together go on together. -/
theorem World.ensureActive_couples {R : World → World → Prop}
    (hc : ∀ {w v}, R w v → v.cancelled = w.cancelled) :
    Run.Couples R (fun _ _ => True) World.ensureActive World.ensureActive := by
  intro w v hwv
  rw [World.ensureActive, World.ensureActive, hc hwv]
  split
  · exact ⟨.error _, hwv⟩
  · exact ⟨.ok trivial, hwv⟩

namespace Client

variable {c d : Client} {L : Leeway} {E : Error → Error → Prop} {R : World → World → Prop}

/-- The first step of a login, which gets the salt. -/
def opening (c : Client) (login : String) : Run World String := do
  Run.change (World.report (.loginStart login))
  World.ensureActive
  let challenged ← c.dispatch (c.challenge login)
  let salt ← c.expectSalt challenged
  World.ensureActive
  pure salt

/-- The second request of a login, which proves who wants in. -/
def proving (c : Client) (cr : Credentials) (salt : String) : Request :=
  (c.challenge cr.login).withHeader c.names.loginProof (c.proof cr.password salt)

/-- The second step of a login, which answers with the proof. -/
def closing (c : Client) (cr : Credentials) (salt : String) : Run World Response := do
  let answered ← c.dispatch (c.proving cr salt)
  expectWelcome cr answered

/-- A login consists of its two steps. -/
theorem login_eq (c : Client) (cr : Credentials) :
    c.login cr = c.opening cr.login >>= c.closing cr := by
  simp only [opening, bind_assoc, pure_bind]
  rfl

namespace Lockstep

/-! ## Handshakes -/

theorem ensureActive (hm : Lockstep c d L E R) :
    Run.Lockstep R E (fun _ _ => True) World.ensureActive World.ensureActive :=
  (World.ensureActive_couples hm.cancelled).lockstep hm.indistinct.refl

theorem updateCsrfToken (hm : Lockstep c d L E R) :
    Run.Lockstep R E L.response c.updateCsrfToken d.updateCsrfToken := by
  rw [Client.updateCsrfToken, Client.updateCsrfToken, hm.endpoints]
  refine .bind (hm.dispatch (hm.same _)) fun _ _ hxy => ?_
  exact .ofResult (((hm.alike hxy).expectSuccess hxy _).tally hm.indistinct.refl)

/-- Salts are read from both replies or from none. -/
theorem expectSalt (hm : Lockstep c d L E R) {x y : Response} (hxy : L.response x y) :
    Run.Lockstep R E (fun t u => c.salt? x = some t ∧ d.salt? y = some u) (c.expectSalt x)
      (d.expectSalt y) := by
  have ha := hm.alike hxy
  have hsalted := hm.salted hxy
  rw [Client.expectSalt, Client.expectSalt, ha.errorCode, hm.controller, ha.status, ha.stepError]
  split
  · cases hx : c.salt? x <;> cases hy : d.salt? y <;> rw [hx, hy] at hsalted
    · exact .fail (hm.indistinct.refl _)
    · cases hsalted
    · cases hsalted
    · exact .pure ⟨rfl, rfl⟩
  · exact .bind (.change fun w v => hm.report _) fun _ _ _ => .fail (hm.indistinct.refl _)

theorem expectWelcome (hm : Lockstep c d L E R) {cr cr' : Credentials} (hcr : cr'.login = cr.login)
    {x y : Response} (hxy : L.response x y) :
    Run.Lockstep R E L.response (Client.expectWelcome cr x) (Client.expectWelcome cr' y) := by
  have ha := hm.alike hxy
  rw [Client.expectWelcome, Client.expectWelcome, ha.isSuccess, ha.status, ha.errorCode, ha.stepError, hcr]
  split
  · exact .bind (.change fun w v => hm.report _) fun _ _ _ => .pure hxy
  · exact .bind (.change fun w v => hm.report _) fun _ _ _ => .fail (hm.indistinct.refl _)

theorem opening (hm : Lockstep c d L E R) (login : String) :
    Run.Lockstep R E (fun t u => ∃ x y, L.response x y ∧ c.salt? x = some t ∧ d.salt? y = some u)
      (c.opening login) (d.opening login) := by
  refine .bind (.change fun w v => hm.report _) fun _ _ _ => ?_
  refine .bind hm.ensureActive fun _ _ _ => ?_
  refine .bind (hm.dispatch (hm.challenge login)) fun x y hxy => ?_
  refine .bind (hm.expectSalt hxy) fun t u htu => ?_
  exact .bind hm.ensureActive fun _ _ _ => .pure ⟨x, y, hxy, htu⟩

/-- Logins under one name end alike when their proofs may be sent. -/
theorem login (hm : Lockstep c d L E R) {cr cr' : Credentials} (hcr : cr'.login = cr.login)
    (hproof : ∀ {x y t u}, L.response x y → c.salt? x = some t → d.salt? y = some u →
      L.request (c.proving cr t) (d.proving cr' u)) :
    Run.Lockstep R E L.response (c.login cr) (d.login cr') := by
  rw [login_eq, login_eq, hcr]
  refine .bind (hm.opening cr.login) fun t u htu => ?_
  obtain ⟨x, y, hxy, ht, hu⟩ := htu
  exact .bind (hm.dispatch (hproof hxy ht hu)) fun x y hxy => hm.expectWelcome hcr hxy

theorem requestRefreshToken (hm : Lockstep c d L E R) :
    Run.Lockstep R E L.response c.requestRefreshToken d.requestRefreshToken := by
  have hlook : Run.Lockstep R E (fun t u => L.request (c.renewal t) (d.renewal u))
      (Run.look (·.session.refresh)) (Run.look (·.session.refresh)) :=
    .look fun w v => hm.renewal
  refine .bind hlook fun t u htu => ?_
  refine .bind (hm.dispatch htu) fun x y hxy => ?_
  refine .bind (.ofResult (((hm.alike hxy).expectSuccess hxy _).tally hm.indistinct.refl)) fun x y hxy => ?_
  refine .bind (.change fun w v hwv => ?_) fun _ _ _ => .pure hxy
  rw [(hm.session hwv).access.size]
  exact hm.report _ hwv

theorem updateTokens (hm : Lockstep c d L E R) :
    Run.Lockstep R E L.response c.updateTokens d.updateTokens :=
  .bind hm.updateCsrfToken fun _ _ _ => hm.requestRefreshToken

/-! ## Calls -/

theorem handler (hm : Lockstep c d L E R) (hlogin : LoginLockstep c d L E R) {r q : Request}
    (hr : L.request r q) : Handler.Lockstep R E L.response L.credentials c.handler d.handler r q where
  indistinct := hm.indistinct
  resend := hm.dispatch hr
  credentials := hm.askCredentials
  login _ _ hcr := hlogin hcr
  refreshToken := hm.requestRefreshToken
  persist _ _ := hm.persist
  cancelled _ _ := hm.cancelled
  report k e f w v he hwv := by
    rw [hm.named hr]
    exact hm.complain (k r.operation) he hwv
  select codes w v x y hwv hxy := (hm.session hwv).select codes (hm.alike hxy).failure
  answer _ _ hxy := ⟨(hm.alike hxy).status, (hm.alike hxy).failure⟩

/-- Calls of requests within the leeway end alike, with the same outcome. -/
theorem sendWithOutcome (hm : Lockstep c d L E R) (hlogin : LoginLockstep c d L E R) {r q : Request}
    (hr : L.request r q) {w v : World} (hwv : R w v) :
    Tally E L.response (c.sendWithOutcome r w).1 (d.sendWithOutcome q v).1 ∧
    (d.sendWithOutcome q v).2.1 = (c.sendWithOutcome r w).2.1 ∧
    R (c.sendWithOutcome r w).2.2 (d.sendWithOutcome q v).2.2 := by
  have hh := hm.handler hlogin hr
  have hprobe : Run.Lockstep R E L.response c.handler.refreshCsrf d.handler.refreshCsrf := hm.updateCsrfToken
  obtain ⟨hresult, houtcome, hend⟩ := Controller.execute_lockstep hh c.handler.moves_anywhere
    d.handler.moves_anywhere c.controller hwv (hh.recoverLockstep hprobe _ _)
  rw [Client.sendWithOutcome, Client.sendWithOutcome, hm.controller]
  refine ⟨hresult, houtcome.trans ?_, hend⟩
  rw [hm.named hr]
  rfl

theorem send (hm : Lockstep c d L E R) (hlogin : LoginLockstep c d L E R) {r q : Request}
    (hr : L.request r q) : Run.Lockstep R E L.response (c.send r) (d.send q) := fun w v hwv => by
  obtain ⟨hresult, -, hend⟩ := hm.sendWithOutcome hlogin hr hwv
  exact ⟨hresult, hend⟩

theorem call {α : Type} (hm : Lockstep c d L E R) (hlogin : LoginLockstep c d L E R)
    (decoder : Json.Decoder α) {r q : Request} (hr : L.request r q) :
    Run.Lockstep R E (fun a b => b = a) (c.call decoder r) (d.call decoder q) :=
  .bind (hm.send hlogin hr) fun _ _ hxy =>
    .ofResult (.of_eq hm.indistinct.refl ((hm.alike hxy).decode decoder))

theorem logout (hm : Lockstep c d L E R) (hlogin : LoginLockstep c d L E R) :
    Run.Lockstep R E L.response c.logout d.logout := by
  rw [Client.logout, Client.logout, hm.endpoints]
  refine .bind (hm.send hlogin (hm.same _)) fun x y hxy => ?_
  refine .bind (.ofResult (((hm.alike hxy).toResult hxy).tally hm.indistinct.refl)) fun x y hxy => ?_
  refine .bind (.change fun w v => hm.clear) fun _ _ _ => ?_
  refine .bind (.change fun w v => hm.erase) fun _ _ _ => ?_
  exact .bind (.change fun w v => hm.report _) fun _ _ _ => .pure hxy

end Lockstep

end Client

/-! ## Operations -/

/-- Two operations that do alike in related worlds: the same one, about requests, replies and credentials
within the leeway, or changes that keep the worlds related. -/
inductive Operation.Coupled (L : Leeway) (R : World → World → Prop) : Operation → Operation → Prop
  /-- Changes of the sessions. -/
  | update {change change' : Session → Session}
      (h : ∀ w v : World, R w v →
        R { w with session := change w.session } { v with session := change' v.session }) :
      Coupled L R (.update change) (.update change')
  /-- Calls. -/
  | send {r q : Request} (h : L.request r q) : Coupled L R (.send r) (.send q)
  /-- Calls whose answer is read. -/
  | call (d : Json.Decoder Json) {r q : Request} (h : L.request r q) :
      Coupled L R (.call d r) (.call d q)
  /-- Calls with a payload. -/
  | exchange (d : Json.Decoder Json) (method : Method) (path : String) (payload : Json) :
      Coupled L R (.exchange d method path payload) (.exchange d method path payload)
  /-- Dispatches. -/
  | dispatch {r q : Request} (h : L.request r q) : Coupled L R (.dispatch r) (.dispatch q)
  /-- Logins. -/
  | login {cr cr' : Credentials} (h : L.credentials cr cr') : Coupled L R (.login cr) (.login cr')
  /-- Logouts. -/
  | logout : Coupled L R .logout .logout
  /-- Probes before any other request. -/
  | prepare : Coupled L R .prepare .prepare
  /-- Probes. -/
  | updateCsrfToken : Coupled L R .updateCsrfToken .updateCsrfToken
  /-- Exchanges. -/
  | requestRefreshToken : Coupled L R .requestRefreshToken .requestRefreshToken
  /-- Probes and exchanges. -/
  | updateTokens : Coupled L R .updateTokens .updateTokens
  /-- Confirmations. -/
  | confirm {previous previous' : Response} (hp : L.response previous previous') (code : String)
      {r q : Request} (h : L.request r q) :
      Coupled L R (.confirm previous code r) (.confirm previous' code q)

/-- Two answers differ at most in their replies and in the errors that they tell, which are related. -/
inductive Answer.Lockstep (E : Error → Error → Prop) (A : Response → Response → Prop) :
    Answer → Answer → Prop
  /-- Nothing. -/
  | done : Lockstep E A .done .done
  /-- Replies. -/
  | response {x y : Response} (h : A x y) : Lockstep E A (.response x) (.response y)
  /-- Results with their outcome. -/
  | summary {x y : Except Error Response} (h : Tally E A x y) (outcome : Outcome) :
      Lockstep E A (.summary x outcome) (.summary y outcome)
  /-- Values. -/
  | value (j : Json) : Lockstep E A (.value j) (.value j)

namespace Client

variable {c d : Client} {L : Leeway} {E : Error → Error → Prop} {R : World → World → Prop}

/-- Operations that are coupled go in lockstep. -/
theorem Lockstep.run (hm : Lockstep c d L E R) (hlogin : LoginLockstep c d L E R) {op op' : Operation}
    (hop : op.Coupled L R op') :
    Run.Lockstep R E (Answer.Lockstep E L.response) (op.run c) (op'.run d) := by
  have respond {r q : Run World Response} (h : Run.Lockstep R E L.response r q) :
      Run.Lockstep R E (Answer.Lockstep E L.response) (Operation.respond r) (Operation.respond q) :=
    .bind h fun _ _ hxy => .pure (.response hxy)
  have evaluate {r q : Run World Json} (h : Run.Lockstep R E (fun a b => b = a) r q) :
      Run.Lockstep R E (Answer.Lockstep E L.response) (Operation.evaluate r) (Operation.evaluate q) :=
    .bind h fun a b hab => by
      subst hab
      exact .pure (.value b)
  cases hop with
  | update h => exact .bind (.change h) fun _ _ _ => .pure .done
  | @send r q h =>
    intro w v hwv
    obtain ⟨hresult, houtcome, hend⟩ := hm.sendWithOutcome hlogin h hwv
    have hsummary : Answer.Lockstep E L.response
        (.summary (c.sendWithOutcome r w).1 (c.sendWithOutcome r w).2.1)
        (.summary (d.sendWithOutcome q v).1 (d.sendWithOutcome q v).2.1) := by
      rw [houtcome]
      exact .summary hresult _
    exact ⟨.ok hsummary, hend⟩
  | call decoder h => exact evaluate (hm.call hlogin decoder h)
  | exchange decoder method path payload => exact evaluate (hm.call hlogin decoder (hm.same _))
  | dispatch h => exact respond (hm.dispatch h)
  | login h => exact respond (hlogin h)
  | logout => exact respond (hm.logout hlogin)
  | prepare => exact respond hm.updateCsrfToken
  | updateCsrfToken => exact respond hm.updateCsrfToken
  | requestRefreshToken => exact respond hm.requestRefreshToken
  | updateTokens => exact respond hm.updateTokens
  | confirm hp code h => exact respond (hm.send hlogin (hm.confirmed code hp h))

end Client

end SessionRecovery
