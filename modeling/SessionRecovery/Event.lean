import SessionRecovery.Request.Basic
import SessionRecovery.Error

/-!
# Events

What a client reports while it works: requests and replies, recoveries and handshakes. An event has a
level, a name and named fields, and never carries a token or a password.
-/

namespace SessionRecovery

/-- The summary of one call. -/
structure Outcome where
  /-- What was asked. -/
  operation : String
  /-- The actions taken, in order. -/
  actions : List Action
  /-- How often the request was sent; counting stops at the greatest number. -/
  requestsSent : UInt8
  /-- The call ended with a success of the server. -/
  success : Bool
  deriving DecidableEq

/-- Some action was taken. -/
def Outcome.recovered (o : Outcome) : Bool := !o.actions.isEmpty

/-- How much an event matters. -/
inductive Level where
  /-- For the curious. -/
  | debug
  /-- Ordinary. -/
  | info
  /-- Unexpected. -/
  | warn
  /-- Something ended badly. -/
  | error
  deriving DecidableEq

/-- The word for a level. -/
def Level.text : Level → String
  | .debug => "DEBUG"
  | .info => "INFO"
  | .warn => "WARN"
  | .error => "ERROR"

/-- Something that a client reports. -/
inductive Event where
  /-- A client is ready; it resumes when it starts with a refresh token. -/
  | clientCreated (baseUrl : String) (resumed : Bool)
  /-- A request is handed to the transport. -/
  | dispatchSend (method : Method) (path : String)
  /-- A request was not answered. -/
  | transportFailed (method : Method) (path : String) (error : Error)
  /-- The body of a failure could not be read. -/
  | bodyUnreadable (path : String) (status : UInt16) (error : Error)
  /-- A reply was read. -/
  | dispatchResponse (path : String) (status : UInt16) (code : String) (tokensUpdated : Bool)
  /-- An action begins. -/
  | recoveryStart (operation : String) (action : Action) (attempt : UInt8) (status : UInt16)
      (code : String)
  /-- An action succeeded. -/
  | recoverySuccess (operation : String) (action : Action)
  /-- An action failed. -/
  | recoveryFailure (operation : String) (action : Action) (error : Error)
  /-- An action may not be taken once more. -/
  | recoveryExhausted (operation : String) (action : Action) (attempts : UInt8)
  /-- A step failed that need not succeed. -/
  | bestEffortFailed (operation : String) (step : Step) (error : Error)
  /-- A call ended. -/
  | recoveryOutcome (outcome : Outcome)
  /-- A login begins. -/
  | loginStart (login : String)
  /-- The answer to a login was no challenge. -/
  | unexpectedChallenge (status : UInt16) (code : String)
  /-- The proof of a login was refused. -/
  | loginRejected (status : UInt16) (code : String)
  /-- A login succeeded. -/
  | loginSuccess (login : String)
  /-- The refresh token was exchanged; the length of the access token is in bytes. -/
  | tokenRefreshed (accessTokenLength : Nat)
  /-- A logout succeeded. -/
  | logoutSuccess
  deriving DecidableEq

namespace Event

/-- How much the event matters. -/
def level : Event → Level
  | .dispatchSend .. => .debug
  | .dispatchResponse .. => .debug
  | .clientCreated .. => .info
  | .recoverySuccess .. => .info
  | .recoveryOutcome .. => .info
  | .loginStart .. => .info
  | .loginSuccess .. => .info
  | .tokenRefreshed .. => .info
  | .logoutSuccess => .info
  | .transportFailed .. => .warn
  | .bodyUnreadable .. => .warn
  | .recoveryStart .. => .warn
  | .bestEffortFailed .. => .warn
  | .unexpectedChallenge .. => .warn
  | .loginRejected .. => .warn
  | .recoveryFailure .. => .error
  | .recoveryExhausted .. => .error

/-- The name of the event. -/
def name : Event → String
  | .clientCreated .. => "client.created"
  | .dispatchSend .. => "dispatch.send"
  | .transportFailed .. => "dispatch.transport_failed"
  | .bodyUnreadable .. => "dispatch.error_body_unparseable"
  | .dispatchResponse .. => "dispatch.response"
  | .recoveryStart .. => "recovery.start"
  | .recoverySuccess .. => "recovery.success"
  | .recoveryFailure .. => "recovery.failure"
  | .recoveryExhausted .. => "recovery.exhausted"
  | .bestEffortFailed .. => "recovery.best_effort_failed"
  | .recoveryOutcome .. => "recovery.outcome"
  | .loginStart .. => "login.start"
  | .unexpectedChallenge .. => "login.unexpected_challenge"
  | .loginRejected .. => "login.rejected"
  | .loginSuccess .. => "login.success"
  | .tokenRefreshed .. => "token.refreshed"
  | .logoutSuccess => "logout.success"

/-- The fields of the event. -/
def fields : Event → List (String × Json)
  | .clientCreated baseUrl resumed => [("base_url", .str baseUrl), ("resumed", .bool resumed)]
  | .dispatchSend method path => [("method", .str method.text), ("path", .str path)]
  | .transportFailed method path error =>
    [("method", .str method.text), ("path", .str path), ("error", .str error.message)]
  | .bodyUnreadable path status error =>
    [("path", .str path), ("status", .ofNat status.toNat), ("error", .str error.message)]
  | .dispatchResponse path status code tokensUpdated =>
    [("path", .str path), ("status", .ofNat status.toNat), ("code", .str code),
      ("tokens_updated", .bool tokensUpdated)]
  | .recoveryStart operation action attempt status code =>
    [("operation", .str operation), ("action", .str action.text),
      ("attempt", .ofNat attempt.toNat), ("status", .ofNat status.toNat), ("code", .str code)]
  | .recoverySuccess operation action =>
    [("operation", .str operation), ("action", .str action.text)]
  | .recoveryFailure operation action error =>
    [("operation", .str operation), ("action", .str action.text), ("kind", .str error.kind.text),
      ("error", .str error.message)]
  | .recoveryExhausted operation action attempts =>
    [("operation", .str operation), ("action", .str action.text),
      ("attempts", .ofNat attempts.toNat)]
  | .bestEffortFailed operation step error =>
    [("operation", .str operation), ("step", .str step.text), ("error", .str error.message)]
  | .recoveryOutcome o =>
    [("operation", .str o.operation),
      ("actions", .str (",".intercalate (o.actions.map Action.text))),
      ("requests_sent", .ofNat o.requestsSent.toNat), ("success", .bool o.success)]
  | .loginStart login => [("login", .str login)]
  | .unexpectedChallenge status code =>
    [("status", .ofNat status.toNat), ("code", .str code)]
  | .loginRejected status code => [("status", .ofNat status.toNat), ("code", .str code)]
  | .loginSuccess login => [("login", .str login)]
  | .tokenRefreshed length => [("access_token_len", .ofNat length)]
  | .logoutSuccess => []

end Event

end SessionRecovery
