import SessionRecovery.Json.Decoder
import SessionRecovery.Decimal

/-!
# Errors

What goes wrong: the report of a server about a failure, what can be done about one, and the errors in which an
operation ends.
-/

/-! ## Error bodies

The report that a server sends in the body of a failure: a code for the program, a message for the
reader, and details. A body of nothing but whitespace is the empty report. -/

namespace SessionRecovery

/-- The report of a failure. -/
structure ApiError where
  /-- What happened, for the program. -/
  code : String
  /-- What happened, for the reader. -/
  message : String
  /-- Anything more. -/
  details : String
  deriving DecidableEq

namespace ApiError

/-- The report that says nothing. -/
def empty : ApiError := ⟨"", "", ""⟩

/-- A report without details. -/
def new (code message : String) : ApiError := ⟨code, message, ""⟩

/-- The report in one line. -/
def text (e : ApiError) : String :=
  if e.code = "" then
    if e.message = "" then "<no error body>" else e.message
  else if e.message = "" then e.code
  else e.code ++ ": " ++ e.message

/-- The report as a value, with all members. -/
def toJson (e : ApiError) : Json :=
  .obj [("code", .str e.code), ("message", .str e.message), ("details", .str e.details)]

/-- Reads a report; absent members are empty. -/
def decoder : Json.Decoder ApiError :=
  .record "ApiError" empty
    [.text "code" fun s e => { e with code := s },
     .text "message" fun s e => { e with message := s },
     .text "details" fun s e => { e with details := s }]

/-- The report in a body. -/
def fromBody (body : Bytes) : Except Json.Fault ApiError :=
  if body.allBlank then .ok empty else decoder.read body

end ApiError

/-! ## Recovery actions

What a client can do about an authentication failure, and the steps of the handshakes that do it. -/

/-- What to do about a reply. -/
inductive Action where
  /-- Nothing: the reply stands. -/
  | none
  /-- Get a fresh anti-forgery token. -/
  | refreshCsrf
  /-- Log in with the credentials. -/
  | login
  /-- Exchange the refresh token for a new access token. -/
  | refreshToken
  deriving DecidableEq

/-- The word for an action. -/
def Action.text : Action → String
  | .none => "none"
  | .refreshCsrf => "refresh_csrf"
  | .login => "login"
  | .refreshToken => "refresh_token"

/-- A request of a handshake. -/
inductive Step where
  /-- The probe that yields an anti-forgery token. -/
  | csrfProbe
  /-- The first request of a login, which asks for a salt. -/
  | loginChallenge
  /-- The second request of a login, which carries the proof. -/
  | loginProof
  /-- The exchange of the refresh token. -/
  | tokenRefresh
  deriving DecidableEq

/-- The word for a step. -/
def Step.text : Step → String
  | .csrfProbe => "csrf_probe"
  | .loginChallenge => "login_challenge"
  | .loginProof => "login_proof"
  | .tokenRefresh => "token_refresh"

/-! ## Errors of operations

Every way in which an operation of the client fails, the kind that callers branch on, and the words
for the reader. -/

/-- The kinds of errors that callers tell apart. -/
inductive ErrorKind where
  /-- The server was not reached or did not answer in time. -/
  | transport
  /-- A text could not be read or a request not be built. -/
  | serialization
  /-- The server refused the request. -/
  | protocol
  /-- A handshake was refused. -/
  | authRecovery
  /-- There is nobody to log in as. -/
  | credentialsUnavailable
  /-- The caller gave up. -/
  | cancelled
  /-- The client is set up wrongly. -/
  | config
  deriving DecidableEq

/-- The word for a kind. -/
def ErrorKind.text : ErrorKind → String
  | .transport => "transport"
  | .serialization => "serialization"
  | .protocol => "protocol"
  | .authRecovery => "auth_recovery"
  | .credentialsUnavailable => "credentials_unavailable"
  | .cancelled => "cancelled"
  | .config => "config"

/-- Why an operation failed. -/
inductive Error where
  /-- The request was not answered. -/
  | transport (reason : String)
  /-- The answer did not come in time. -/
  | timeout (limit : Duration)
  /-- A text could not be read, or a request not be built. -/
  | serialization (reason : String)
  /-- The server refused the request, and no recovery applied. -/
  | protocol (status : UInt16) (api : ApiError)
  /-- An action was needed once more than it is allowed. -/
  | recoveryExhausted (action : Action) (attempts : UInt8)
  /-- A handshake was refused at a step. -/
  | authRecovery (step : Step) (status : UInt16) (api : ApiError)
  /-- There is nobody to log in as. -/
  | credentialsUnavailable (reason : String)
  /-- The caller gave up. -/
  | cancelled
  /-- The settings are wrong. -/
  | config (reason : String)
  /-- A file could not be read. -/
  | io (reason : String)
  deriving DecidableEq

namespace Error

/-- The kind of an error. -/
def kind : Error → ErrorKind
  | .transport _ => .transport
  | .timeout _ => .transport
  | .serialization _ => .serialization
  | .protocol _ _ => .protocol
  | .recoveryExhausted _ _ => .protocol
  | .authRecovery _ _ _ => .authRecovery
  | .credentialsUnavailable _ => .credentialsUnavailable
  | .cancelled => .cancelled
  | .config _ => .config
  | .io _ => .config

/-- The words of an error. -/
def message : Error → String
  | .transport reason => "transport error: " ++ reason
  | .timeout limit => "request timed out after " ++ limit.text
  | .serialization reason => "serialization error: " ++ reason
  | .protocol status api => "HTTP " ++ toString status ++ ": " ++ api.text
  | .recoveryExhausted action attempts =>
    action.text ++ " recovery exceeded " ++ toString attempts ++ " attempt(s)"
  | .authRecovery step status api =>
    step.text ++ " failed with HTTP " ++ toString status ++ ": " ++ api.text
  | .credentialsUnavailable reason => "credentials unavailable: " ++ reason
  | .cancelled => "operation cancelled"
  | .config reason => "config error: " ++ reason
  | .io reason => "io error: " ++ reason

/-- The status that an error carries. -/
def status? : Error → Option UInt16
  | .protocol status _ => some status
  | .authRecovery _ status _ => some status
  | _ => none

/-- The server's report that an error carries. -/
def api? : Error → Option ApiError
  | .protocol _ api => some api
  | .authRecovery _ _ api => some api
  | _ => none

/-- A text that is not JSON of the wanted shape. -/
def ofFault (f : Json.Fault) : Error := .serialization f.message

end Error

end SessionRecovery
