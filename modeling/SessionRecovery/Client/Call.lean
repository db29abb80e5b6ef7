import SessionRecovery.Client.World
import SessionRecovery.Recovery.Call
import SessionRecovery.Settings.Basic

/-!
# Handshakes and calls

How a client gets its tokens, and what a program does with it.
-/

/-! ## Handshakes

How a client gets its tokens: a probe for the anti-forgery token, a login in two steps, and the exchange
of the refresh token. The tokens arrive in the headers of the replies. -/

namespace SessionRecovery

/-- A client: everything about it that does not change. -/
structure Client where
  /-- The names of headers. -/
  names : HeaderNames
  /-- The paths of handshakes. -/
  endpoints : Endpoints
  /-- What decides over recovery. -/
  controller : Controller
  /-- The proof of a password for a salt. -/
  proof : String → String → String

/-- The error of a refused step; a reply that is no failure gets a report of its own. -/
def Response.stepError (r : Response) (step : Step) : Error :=
  match r.failure with
  | some api => .authRecovery step r.status api
  | none =>
    .authRecovery step r.status (.new "unexpected_response"
      ("unexpected HTTP " ++ toString r.status ++ " during " ++ step.text))

/-- A success stays, and a failure is the refusal of a step. -/
def Response.expectSuccess (step : Step) (r : Response) : Except Error Response :=
  if r.isSuccess then .ok r else .error (r.stepError step)

namespace Client

/-- Sends a request once, without recovery. -/
def dispatch (c : Client) (r : Request) : Run World Response := World.dispatch c.names r

/-- Gets a fresh anti-forgery token. -/
def updateCsrfToken (c : Client) : Run World Response := do
  let response ← c.dispatch (.new .get c.endpoints.status)
  Run.ofResult (response.expectSuccess .csrfProbe)

/-- Gets a first anti-forgery token, before any other request. -/
def prepare (c : Client) : Run World Response := c.updateCsrfToken

/-- The first request of a login, which names who wants in. -/
def challenge (c : Client) (login : String) : Request :=
  (Request.new .post c.endpoints.login).withHeader c.names.loginName login

/-- The salt in the answer to a challenge. -/
def salt? (c : Client) (r : Response) : Option String := r.headers.nonEmptyText? c.names.loginSalt

/-- Reads the salt from the answer to a challenge. -/
def expectSalt (c : Client) (r : Response) : Run World String :=
  if c.controller.codes.isCredentialsRequired r.errorCode then
    match c.salt? r with
    | some salt => pure salt
    | none =>
      Run.fail (.authRecovery .loginChallenge r.status
        (.new "missing_salt" "login challenge carried no salt"))
  else do
    Run.change (World.report (.unexpectedChallenge r.status r.errorCode))
    Run.fail (r.stepError .loginChallenge)

/-- Reads the answer to the proof. -/
def expectWelcome (credentials : Credentials) (r : Response) : Run World Response :=
  if r.isSuccess then do
    Run.change (World.report (.loginSuccess credentials.login))
    pure r
  else do
    Run.change (World.report (.loginRejected r.status r.errorCode))
    Run.fail (r.stepError .loginProof)

/-- Logs in: names who wants in, gets a salt, and answers with the proof of the password. -/
def login (c : Client) (credentials : Credentials) : Run World Response := do
  Run.change (World.report (.loginStart credentials.login))
  World.ensureActive
  let challenged ← c.dispatch (c.challenge credentials.login)
  let salt ← c.expectSalt challenged
  World.ensureActive
  let answered ← c.dispatch ((c.challenge credentials.login).withHeader c.names.loginProof
    (c.proof credentials.password salt))
  expectWelcome credentials answered

/-- Exchanges the refresh token for a new access token. -/
def requestRefreshToken (c : Client) : Run World Response := do
  let token ← Run.look (·.session.refresh)
  let response ← c.dispatch ((Request.new .post c.endpoints.refresh).withHeader
    c.names.refreshToken token)
  let response ← Run.ofResult (response.expectSuccess .tokenRefresh)
  Run.change fun w => w.report (.tokenRefreshed (Utf8.size w.session.access))
  pure response

/-- Gets a fresh anti-forgery token and exchanges the refresh token. -/
def updateTokens (c : Client) : Run World Response := do
  let _ ← c.updateCsrfToken
  c.requestRefreshToken

/-- The primitives of recovery. -/
def handler (c : Client) : Handler World where
  resend := c.dispatch
  session w := w.session
  refreshCsrf := c.updateCsrfToken
  credentials := World.askCredentials
  login := c.login
  refreshToken := c.requestRefreshToken
  persist w := w.save w.session.refresh
  cancelled w := w.cancelled
  report := World.report

end Client

/-! ## Calls

What a program does with a client: it connects, sends requests that recover from authentication failures,
reads values from the replies, confirms requests by a code, and logs out. -/

namespace Client

/-- The client of given settings. -/
def ofSettings (s : Settings) : Client :=
  ⟨s.headers, s.endpoints, ⟨s.recovery, s.errorCodes⟩, passwordProof⟩

/-- The session that a client begins with: it resumes with the provider's refresh token. -/
def firstSession (baseUrl : String) (userAgent : Option String) (p : Provider) : Session :=
  { Session.new baseUrl userAgent with refresh := p.refreshToken.getD "" }

/-- Sets up a client and what it works on. -/
def connect (s : Settings) (provider : Provider) (replies : List Reply) :
    Except Error (Client × World) :=
  match s.normalizedUrl with
  | .error e => .error e
  | .ok baseUrl =>
    let session := firstSession baseUrl s.userAgent provider
    .ok (ofSettings s, World.report (.clientCreated session.baseUrl session.hasRefresh)
      ⟨session, provider, replies, false, []⟩)

/-- Sends a request with recovery; gives also the outcome. -/
def sendWithOutcome (c : Client) (r : Request) (w : World) :
    Except Error Response × Outcome × World :=
  c.controller.execute c.handler r w

/-- Sends a request with recovery. A failure that asks for no action is a reply like any other. -/
def send (c : Client) (r : Request) : Run World Response := fun w =>
  let (result, _, w') := c.sendWithOutcome r w
  (result, w')

/-- Sends a request with recovery and reads the value in the body of a success. -/
def call {α : Type} (c : Client) (d : Json.Decoder α) (r : Request) : Run World α := do
  let response ← c.send r
  Run.ofResult (response.decode d)

/-- Sends a payload with recovery and reads the value in the body of a success. -/
def exchange {α : Type} (c : Client) (d : Json.Decoder α) (method : Method) (path : String)
    (payload : Json) : Run World α :=
  c.call d ((Request.new method path).withPayload payload)

/-- Ends the session at the server, and forgets all tokens, the stored one included. -/
def logout (c : Client) : Run World Response := do
  let response ← c.send (.new .post c.endpoints.logout)
  let response ← Run.ofResult response.toResult
  Run.change fun w => { w with session := w.session.clearTokens }
  Run.change (World.save "")
  Run.change (World.report .logoutSuccess)
  pure response

/-- The request with a confirmation: the code, and the token that the reply to be confirmed carried. -/
def confirmed (c : Client) (previous : Response) (code : String) (r : Request) : Request :=
  let withCode := r.withHeader c.names.smsCode code
  match previous.headers.nonEmptyText? c.names.smsToken with
  | some token => withCode.withHeader c.names.smsToken token
  | none => withCode

/-- Sends a request again with a confirmation. -/
def sendConfirmation (c : Client) (previous : Response) (code : String) (r : Request) :
    Run World Response :=
  c.send (c.confirmed previous code r)

end Client

end SessionRecovery
