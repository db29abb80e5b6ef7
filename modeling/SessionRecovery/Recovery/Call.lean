import SessionRecovery.Recovery.Budget
import SessionRecovery.Credentials
import SessionRecovery.Event
import SessionRecovery.Run

/-!
# Recovery

A call that recovers from authentication failures, for whatever handler stands between it and the network.
-/

/-! ## Handlers

What recovery needs from a client: to send the request, to take the steps of the handshakes, to look at
the session, to learn whether the caller gave up, and to report. Recovery is stated for any handler. A
traced handler does what another one does and notes every call and every event in order. -/

namespace SessionRecovery

/-- The primitives of recovery over a state. -/
structure Handler (σ : Type) where
  /-- Sends the request once. -/
  resend : Request → Run σ Response
  /-- The session. -/
  session : σ → Session
  /-- Gets a fresh anti-forgery token. -/
  refreshCsrf : Run σ Response
  /-- Asks for the credentials. -/
  credentials : Run σ Credentials
  /-- Logs in. -/
  login : Credentials → Run σ Response
  /-- Exchanges the refresh token. -/
  refreshToken : Run σ Response
  /-- Hands the refresh token over for keeping. -/
  persist : σ → σ
  /-- The caller gave up. -/
  cancelled : σ → Bool
  /-- Reports an event. -/
  report : Event → σ → σ

/-- A call of a primitive. -/
inductive HandlerCall where
  /-- The request was sent. -/
  | send (method : Method) (path : String)
  /-- A fresh anti-forgery token was asked for. -/
  | csrf
  /-- The credentials were asked for. -/
  | credentials
  /-- A login was tried. -/
  | login (credentials : Credentials)
  /-- The refresh token was exchanged. -/
  | refresh
  /-- The refresh token was handed over. -/
  | persist (token : String)
  deriving DecidableEq

/-- The words for a call. -/
def HandlerCall.text : HandlerCall → String
  | .send method path => "send " ++ method.text ++ " " ++ path
  | .csrf => "csrf"
  | .credentials => "credentials"
  | .login c => "login " ++ c.login
  | .refresh => "refresh"
  | .persist token => "persist " ++ token

/-- A call or an event, as it was noted. -/
inductive Note where
  /-- A call. -/
  | call (c : HandlerCall)
  /-- An event. -/
  | event (e : Event)
  deriving DecidableEq

/-- The call in a note. -/
def Note.call? : Note → Option HandlerCall
  | .call c => some c
  | .event _ => none

/-- The event in a note. -/
def Note.event? : Note → Option Event
  | .call _ => none
  | .event e => some e

namespace Handler

/-- Notes a call and then makes it. -/
def noting {σ α : Type} (c : HandlerCall) (r : Run σ α) : Run (σ × List Note) α := fun s =>
  let (x, s') := r s.1
  (x, s', s.2 ++ [.call c])

/-- The handler that also notes every call and every event. -/
def traced {σ : Type} (h : Handler σ) : Handler (σ × List Note) where
  resend request := noting (.send request.method request.path) (h.resend request)
  session s := h.session s.1
  refreshCsrf := noting .csrf h.refreshCsrf
  credentials := noting .credentials h.credentials
  login c := noting (.login c) (h.login c)
  refreshToken := noting .refresh h.refreshToken
  persist s := (h.persist s.1, s.2 ++ [.call (.persist (h.session s.1).refresh)])
  cancelled s := h.cancelled s.1
  report e s := (h.report e s.1, s.2 ++ [.event e])

/-- Fails once the caller gave up. -/
def ensureActive {σ : Type} (h : Handler σ) : Run σ Unit := fun s =>
  if h.cancelled s then (.error .cancelled, s) else (.ok (), s)

end Handler

/-! ## One call with recovery

A request is sent, and for as long as the reply asks for an action that the budget still allows, the
action is taken and the request is sent again. The call ends with the last reply when it asks for
nothing, with the error of a send or of an action, or when an action is exhausted. -/

/-- What decides over recovery. -/
structure Controller where
  /-- How often each action may be taken. -/
  limits : RecoveryLimits
  /-- The meaning of error codes. -/
  codes : ErrorCodes
  deriving DecidableEq

/-- Whoever cannot give credentials has none available, unless the caller gave up. -/
def Error.asCredentialsUnavailable : Error → Error
  | .credentialsUnavailable reason => .credentialsUnavailable reason
  | .cancelled => .cancelled
  | e => .credentialsUnavailable e.message

/-- How far a call has come. -/
structure Progress where
  /-- What is left. -/
  budget : Budget
  /-- The actions taken, in order. -/
  actions : List Action
  /-- How often the request was sent. -/
  requestsSent : UInt8
  deriving DecidableEq

/-- One more, up to the greatest number. -/
def saturatingSucc (n : UInt8) : UInt8 := if n = 255 then 255 else n + 1

namespace Handler

variable {σ : Type}

/-- Asks for the credentials. -/
def availableCredentials (h : Handler σ) : Run σ Credentials := fun s =>
  match h.credentials s with
  | (.ok c, s') => (.ok c, s')
  | (.error e, s') => (.error e.asCredentialsUnavailable, s')

/-- Gets a fresh anti-forgery token for a login, which may do without one: a failure is reported and
forgotten, unless the caller gave up. -/
def tryRefreshCsrf (h : Handler σ) (operation : String) : Run σ Unit := fun s =>
  match h.refreshCsrf s with
  | (.ok _, s') => (.ok (), s')
  | (.error .cancelled, s') => (.error .cancelled, s')
  | (.error e, s') => (.ok (), h.report (.bestEffortFailed operation .csrfProbe e) s')

/-- Takes an action. -/
def recover (h : Handler σ) (operation : String) : Action → Run σ Unit
  | .none => pure ()
  | .refreshCsrf => do
    h.ensureActive
    let _ ← h.refreshCsrf
  | .login => do
    h.ensureActive
    let credentials ← h.availableCredentials
    h.ensureActive
    h.tryRefreshCsrf operation
    h.ensureActive
    let _ ← h.login credentials
    Run.change h.persist
  | .refreshToken => do
    h.ensureActive
    let _ ← h.refreshToken
    Run.change h.persist

end Handler

namespace Controller

variable {σ : Type}

/-- Goes on after a reply: ends with it, or takes the action it asks for and sends the request again. -/
def continueAfter (c : Controller) (h : Handler σ) (request : Request) (p : Progress)
    (result : Except Error Response) (s : σ) : Except Error Response × Progress × σ :=
  match result with
  | .error e => (.error e, p, s)
  | .ok response =>
    let action := Action.select c.codes (h.session s) response
    if _ha : action = .none then (.ok response, p, s)
    else
      match _hb : p.budget.consume action with
      | .error e =>
        (.error e, p,
          h.report (.recoveryExhausted request.operation action (c.limits.limitFor action)) s)
      | .ok (attempt, budget) =>
        let started := h.report (.recoveryStart request.operation action attempt response.status
          response.errorCode) s
        let taken : Progress := ⟨budget, p.actions ++ [action], p.requestsSent⟩
        match h.recover request.operation action started with
        | (.error e, s') =>
          (.error e, taken, h.report (.recoveryFailure request.operation action e) s')
        | (.ok (), s') =>
          let recovered := h.report (.recoverySuccess request.operation action) s'
          if h.cancelled recovered then (.error .cancelled, taken, recovered)
          else
            let (result', s'') := h.resend request recovered
            continueAfter c h request
              ⟨budget, p.actions ++ [action], saturatingSucc p.requestsSent⟩ result' s''
termination_by p.budget.remaining
decreasing_by exact Budget.remaining_consume _ha _hb

/-- The progress of a call that has sent its request once. -/
def startProgress (c : Controller) : Progress := ⟨.full c.limits, [], 1⟩

/-- The call was answered by a success. -/
def succeeded : Except Error Response → Bool
  | .ok response => response.isSuccess
  | .error _ => false

/-- Sends a request with recovery, and reports the outcome. -/
def execute (c : Controller) (h : Handler σ) (request : Request) (s : σ) :
    Except Error Response × Outcome × σ :=
  let (first, s₁) := h.resend request s
  let (result, p, s₂) := c.continueAfter h request c.startProgress first s₁
  let outcome : Outcome := ⟨request.operation, p.actions, p.requestsSent, succeeded result⟩
  (result, outcome, h.report (.recoveryOutcome outcome) s₂)

end Controller

end SessionRecovery

/-! ## Scripted handlers

A handler whose answers are fixed in advance: every primitive takes the next answer of a list of its own.
An answer may give the caller's cancellation, change the session, and fail or be a reply, in this order. -/

namespace SessionRecovery

/-- Changes of tokens; what is absent stays. -/
structure TokenEdit where
  /-- The access token. -/
  access : Option String
  /-- The refresh token. -/
  refresh : Option String
  /-- The anti-forgery token. -/
  csrf : Option String
  deriving DecidableEq

/-- The session with its tokens edited. -/
def Session.edit (s : Session) (e : TokenEdit) : Session :=
  { s with
    access := e.access.getD s.access
    refresh := e.refresh.getD s.refresh
    csrf := e.csrf.getD s.csrf }

/-- An answer of a script. -/
structure Scripted (α : Type) where
  /-- The caller gives up meanwhile. -/
  interrupts : Bool
  /-- What happens to the tokens. -/
  edit : TokenEdit
  /-- The answer. -/
  answer : Except Error α

/-- The empty success that stands after the end of a script. -/
def emptyDelivery : Delivery := ⟨200, [], [0x7B, 0x7D]⟩

/-- The state of a script. -/
structure Script where
  /-- The session. -/
  session : Session
  /-- The caller gave up. -/
  cancelled : Bool
  /-- Answers to the request. -/
  replies : List (Scripted Delivery)
  /-- Answers to requests for an anti-forgery token. -/
  csrf : List (Scripted Delivery)
  /-- Answers to requests for credentials. -/
  credentials : List (Scripted Credentials)
  /-- Answers to logins. -/
  login : List (Scripted Delivery)
  /-- Answers to exchanges of the refresh token. -/
  refresh : List (Scripted Delivery)

namespace Script

/-- Applies an answer to the state. -/
def apply {α : Type} (s : Script) (a : Scripted α) : Script :=
  { s with cancelled := s.cancelled || a.interrupts, session := s.session.edit a.edit }

/-- Reads a scripted reply. -/
def reply (a : Scripted Delivery) : Except Error Response := a.answer.bind Response.ofDelivery

/-- The next answer of a list, and the state after it. -/
def next (list : Script → List (Scripted Delivery))
    (put : List (Scripted Delivery) → Script → Script) : Run Script Response := fun s =>
  match list s with
  | [] => (Response.ofDelivery emptyDelivery, s)
  | a :: rest => (reply a, (put rest s).apply a)

/-- The handler of scripts. -/
def handler : Handler Script where
  resend _ := next (·.replies) fun rest s => { s with replies := rest }
  session s := s.session
  refreshCsrf := next (·.csrf) fun rest s => { s with csrf := rest }
  credentials s :=
    match s.credentials with
    | [] => (.ok ⟨"alice", "secret"⟩, s)
    | a :: rest => (a.answer, { s with credentials := rest }.apply a)
  login _ := next (·.login) fun rest s => { s with login := rest }
  refreshToken := next (·.refresh) fun rest s => { s with refresh := rest }
  persist s := s
  cancelled s := s.cancelled
  report _ s := s

end Script

end SessionRecovery
