import SessionRecovery.Settings.Basic
import SessionRecovery.Error

/-!
# Settings in a document

Settings as a JSON text. Only the address is required; every member that is absent, also inside a section
that is present, keeps its default.
-/

namespace SessionRecovery

open Json (Decoder)

/-- Reads names of headers. -/
def HeaderNames.decoder : Decoder HeaderNames :=
  .record "HeaderNames" .standard
    [.text "access_token" fun s n => { n with accessToken := s },
     .text "refresh_token" fun s n => { n with refreshToken := s },
     .text "csrf_token" fun s n => { n with csrfToken := s },
     .text "login_name" fun s n => { n with loginName := s },
     .text "login_salt" fun s n => { n with loginSalt := s },
     .text "login_proof" fun s n => { n with loginProof := s },
     .text "sms_code" fun s n => { n with smsCode := s },
     .text "sms_token" fun s n => { n with smsToken := s }]

/-- Reads paths of handshakes. -/
def Endpoints.decoder : Decoder Endpoints :=
  .record "Endpoints" .standard
    [.text "login" fun s e => { e with login := s },
     .text "logout" fun s e => { e with logout := s },
     .text "refresh" fun s e => { e with refresh := s },
     .text "status" fun s e => { e with status := s }]

/-- Reads the meaning of error codes. -/
def ErrorCodes.decoder : Decoder ErrorCodes :=
  .record "ErrorCodes" .standard
    [.texts "csrf_invalid" fun xs c => { c with csrfInvalid := xs },
     .text "credentials_required" fun s c => { c with credentialsRequired := s },
     .text "login_failed" fun s c => { c with loginFailed := s },
     .texts "refresh_required" fun xs c => { c with refreshRequired := xs },
     .texts "relogin_required" fun xs c => { c with reloginRequired := xs }]

/-- Reads limits of recovery. -/
def RecoveryLimits.decoder : Decoder RecoveryLimits :=
  .record "RecoveryLimits" .standard
    [.nat "max_csrf_refreshes" 8 fun n l => { l with csrfRefreshes := n.toUInt8 },
     .nat "max_logins" 8 fun n l => { l with logins := n.toUInt8 },
     .nat "max_token_refreshes" 8 fun n l => { l with tokenRefreshes := n.toUInt8 }]

/-- Reads settings; the address is required. -/
def Settings.decoder : Decoder Settings :=
  .record "ClientConfig" (.new "")
    [⟨"base_url", true, Decoder.string.map fun s c => { c with baseUrl := s }⟩,
     ⟨"user_agent", false, Decoder.string.optional.map fun s c => { c with userAgent := s }⟩,
     ⟨"timeout_secs", false,
      (Decoder.nat 64).optional.map fun n c => { c with timeoutSeconds := n }⟩,
     ⟨"headers", false, HeaderNames.decoder.map fun h c => { c with headers := h }⟩,
     ⟨"endpoints", false, Endpoints.decoder.map fun e c => { c with endpoints := e }⟩,
     ⟨"error_codes", false, ErrorCodes.decoder.map fun e c => { c with errorCodes := e }⟩,
     ⟨"recovery", false, RecoveryLimits.decoder.map fun l c => { c with recovery := l }⟩]

/-- A file that may be there or not. -/
inductive File where
  /-- There is no such file. -/
  | absent
  /-- The file holds bytes. -/
  | content (bytes : Bytes)

/-- The settings in a file. -/
def Settings.ofFile : File → Except Error Settings
  | .absent => .error (.io "No such file or directory (os error 2)")
  | .content bytes =>
    match Utf8.decode? bytes with
    | none => .error (.io "stream did not contain valid UTF-8")
    | some _ => (decoder.read bytes).mapError Error.ofFault

end SessionRecovery
