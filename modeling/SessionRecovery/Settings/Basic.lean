import SessionRecovery.Error
import SessionRecovery.Decimal
import SessionRecovery.Text.Character
import SessionRecovery.Url.Basic

/-!
# Settings

What a client has to know about its server: the address, the names of the headers that carry tokens, the
paths of the handshakes, the meaning of error codes, and how often each recovery may be tried for one
call. Everything but the address has a default.
-/

namespace SessionRecovery

/-- The names of the headers that carry tokens and handshakes. -/
structure HeaderNames where
  /-- The access token, both ways. -/
  accessToken : String
  /-- The refresh token, both ways. -/
  refreshToken : String
  /-- The anti-forgery token, both ways. -/
  csrfToken : String
  /-- The login name, to the server. -/
  loginName : String
  /-- The salt of a login, from the server. -/
  loginSalt : String
  /-- The proof of the password, to the server. -/
  loginProof : String
  /-- The code of a confirmation, to the server. -/
  smsCode : String
  /-- The token of a confirmation, both ways. -/
  smsToken : String
  deriving DecidableEq

/-- The names used unless others are set. -/
def HeaderNames.standard : HeaderNames :=
  ⟨"x-auth-access-token", "x-auth-refresh-token", "x-csrf", "x-auth-login", "x-auth-login-salt",
    "x-auth-login-phash", "x-auth-sms-code", "x-auth-sms-token"⟩

/-- The paths of the handshakes. -/
structure Endpoints where
  /-- Logging in, in two requests. -/
  login : String
  /-- Logging out. -/
  logout : String
  /-- Exchanging the refresh token. -/
  refresh : String
  /-- The probe that yields an anti-forgery token. -/
  status : String
  deriving DecidableEq

/-- The paths used unless others are set. -/
def Endpoints.standard : Endpoints :=
  ⟨"/auth/login", "/auth/logout", "/auth/refresh", "/status/check"⟩

/-- The error codes of the server, by what they ask for. -/
structure ErrorCodes where
  /-- The anti-forgery token is stale. -/
  csrfInvalid : List String
  /-- A login challenge: credentials are wanted. -/
  credentialsRequired : String
  /-- A login was refused. -/
  loginFailed : String
  /-- The access token has to be exchanged. -/
  refreshRequired : List String
  /-- A new login is needed. -/
  reloginRequired : List String
  deriving DecidableEq

namespace ErrorCodes

/-- The codes used unless others are set. -/
def standard : ErrorCodes :=
  ⟨["csrf_token_required", "csrf_token_invalid", "csrf_token_expired"], "credentials_required",
    "login_failed", ["token_expired"],
    ["session_expired", "refresh_token_invalid", "token_invalid"]⟩

/-- The code says that the anti-forgery token is stale. -/
def isCsrf (codes : ErrorCodes) (code : String) : Bool := codes.csrfInvalid.contains code

/-- The code says that a new login is needed. -/
def isRelogin (codes : ErrorCodes) (code : String) : Bool := codes.reloginRequired.contains code

/-- The code says that the access token has to be exchanged. -/
def isRefresh (codes : ErrorCodes) (code : String) : Bool := codes.refreshRequired.contains code

/-- The code says that a login was refused; the empty code never does. -/
def isLoginFailed (codes : ErrorCodes) (code : String) : Bool :=
  code != "" && code == codes.loginFailed

/-- The code asks for credentials; the empty code never does. -/
def isCredentialsRequired (codes : ErrorCodes) (code : String) : Bool :=
  code != "" && code == codes.credentialsRequired

end ErrorCodes

/-- How often each action may be taken for one call. -/
structure RecoveryLimits where
  /-- Fresh anti-forgery tokens. -/
  csrfRefreshes : UInt8
  /-- Logins. -/
  logins : UInt8
  /-- Exchanges of the refresh token. -/
  tokenRefreshes : UInt8
  deriving DecidableEq

/-- The limits used unless others are set. -/
def RecoveryLimits.standard : RecoveryLimits := ⟨3, 2, 3⟩

/-- The limit of an action. -/
def RecoveryLimits.limitFor (l : RecoveryLimits) : Action → UInt8
  | .none => 0
  | .refreshCsrf => l.csrfRefreshes
  | .login => l.logins
  | .refreshToken => l.tokenRefreshes

/-- The settings of a client. -/
structure Settings where
  /-- The address of the server, as it was given. -/
  baseUrl : String
  /-- What the client calls itself. -/
  userAgent : Option String
  /-- How many seconds an answer may take. -/
  timeoutSeconds : Option Nat
  /-- The names of headers. -/
  headers : HeaderNames
  /-- The paths of handshakes. -/
  endpoints : Endpoints
  /-- The meaning of error codes. -/
  errorCodes : ErrorCodes
  /-- The limits of recovery. -/
  recovery : RecoveryLimits
  deriving DecidableEq

namespace Settings

/-- The settings for an address, everything else by default. -/
def new (baseUrl : String) : Settings :=
  ⟨baseUrl, none, none, .standard, .standard, .standard, .standard⟩

/-- How long an answer may take. -/
def timeout (s : Settings) : Option Duration := s.timeoutSeconds.map Duration.ofSeconds

end Settings

end SessionRecovery

/-! ## The address of the server

The text that all paths follow: the address without blanks around it and without slashes at its end, with
a scheme in front where it names none. The text is checked to be a URL and kept as it is written. -/

namespace SessionRecovery.Settings

/-- A text begins with another one. -/
def startsWith (front : List Char) (cs : List Char) : Bool := front.isPrefixOf cs

/-- The schemes that an address may name, in these letters. -/
def namesScheme (cs : List Char) : Bool :=
  startsWith "http://".toList cs || startsWith "https://".toList cs

/-- The address without blanks around it and slashes at its end. -/
def trimmedUrl (s : String) : List Char :=
  Text.dropEndWhile (· == '/') (Text.trimChars s.toList)

/-- The address with a scheme. -/
def withScheme (cs : List Char) : List Char :=
  if namesScheme cs then cs else "https://".toList ++ cs

/-- The text that all paths follow. -/
def normalizeUrl (address : String) : Except Error String :=
  match trimmedUrl address with
  | [] => .error (.config "base_url must not be empty")
  | cs =>
    let base := String.ofList (withScheme cs)
    match Url.parse base with
    | .ok _ => .ok base
    | .error f => .error (.config ("Invalid base URL '" ++ base ++ "': " ++ f.message))

/-- The text that all paths follow. -/
def normalizedUrl (s : Settings) : Except Error String := normalizeUrl s.baseUrl

end SessionRecovery.Settings
