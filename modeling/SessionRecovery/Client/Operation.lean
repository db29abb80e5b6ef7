import SessionRecovery.Client.Call
import SessionRecovery.Recovery.Call

/-!
# Operations

Everything that a program can ask of a client, as data, so that a sequence of operations can be run and
spoken about.
-/

namespace SessionRecovery

/-- Something that a program asks of a client. -/
inductive Operation where
  /-- Change the session in any way. -/
  | update (change : Session → Session)
  /-- Send a request. -/
  | send (request : Request)
  /-- Send a request and read a value. -/
  | call (decoder : Json.Decoder Json) (request : Request)
  /-- Send a payload and read a value. -/
  | exchange (decoder : Json.Decoder Json) (method : Method) (path : String) (payload : Json)
  /-- Send a request once, without recovery. -/
  | dispatch (request : Request)
  /-- Log in. -/
  | login (credentials : Credentials)
  /-- Log out. -/
  | logout
  /-- Get a first anti-forgery token. -/
  | prepare
  /-- Get a fresh anti-forgery token. -/
  | updateCsrfToken
  /-- Exchange the refresh token. -/
  | requestRefreshToken
  /-- Get a fresh anti-forgery token and exchange the refresh token. -/
  | updateTokens
  /-- Send a request again with a confirmation. -/
  | confirm (previous : Response) (code : String) (request : Request)

/-- What an operation gives. -/
inductive Answer where
  /-- Nothing. -/
  | done
  /-- A reply. -/
  | response (r : Response)
  /-- A reply, and the outcome of the call. -/
  | summary (result : Except Error Response) (outcome : Outcome)
  /-- A value. -/
  | value (j : Json)

/-- The reply that an answer carries. -/
def Answer.response? : Answer → Option Response
  | .response r => some r
  | .summary (.ok r) _ => some r
  | _ => none

namespace Operation

/-- Edits the tokens. -/
def edit (tokens : TokenEdit) : Operation := .update (·.edit tokens)

/-- Gives the reply of a run. -/
def respond (r : Run World Response) : Run World Answer := do
  let response ← r
  pure (.response response)

/-- Gives the value of a run. -/
def evaluate (r : Run World Json) : Run World Answer := do
  let value ← r
  pure (.value value)

/-- Runs an operation. -/
def run (c : Client) : Operation → Run World Answer
  | .update change => do
    Run.change fun w => { w with session := change w.session }
    pure .done
  | .send request => fun w =>
    let (result, outcome, w') := c.sendWithOutcome request w
    (.ok (.summary result outcome), w')
  | .call decoder request => evaluate (c.call decoder request)
  | .exchange decoder method path payload => evaluate (c.exchange decoder method path payload)
  | .dispatch request => respond (c.dispatch request)
  | .login credentials => respond (c.login credentials)
  | .logout => respond c.logout
  | .prepare => respond c.prepare
  | .updateCsrfToken => respond c.updateCsrfToken
  | .requestRefreshToken => respond c.requestRefreshToken
  | .updateTokens => respond c.updateTokens
  | .confirm previous code request => respond (c.sendConfirmation previous code request)

end Operation

end SessionRecovery
