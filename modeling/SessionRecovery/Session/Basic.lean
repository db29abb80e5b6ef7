import SessionRecovery.Settings.Basic
import SessionRecovery.Header
import SessionRecovery.Error

/-!
# Sessions

The tokens and the identity that a client holds between calls. A session says which headers an outbound
request carries, and takes over the tokens that a reply brings.
-/

namespace SessionRecovery

/-- The tokens and the identity of one client; an empty token is none. -/
structure Session where
  /-- The address that all paths follow. -/
  baseUrl : String
  /-- What the client calls itself, never empty. -/
  userAgent : Option String
  /-- The access token. -/
  access : String
  /-- The refresh token. -/
  refresh : String
  /-- The anti-forgery token. -/
  csrf : String
  deriving DecidableEq

namespace Session

/-- A session without tokens; an empty name of the client is none. -/
def new (baseUrl : String) (userAgent : Option String) : Session :=
  ⟨baseUrl, userAgent.filter (· ≠ ""), "", "", ""⟩

/-- There is an access token. -/
def hasAccess (s : Session) : Bool := s.access != ""

/-- There is a refresh token. -/
def hasRefresh (s : Session) : Bool := s.refresh != ""

/-- The session without its tokens. -/
def clearTokens (s : Session) : Session := { s with access := "", refresh := "", csrf := "" }

/-- The URL of a path. -/
def url (s : Session) (path : String) : String := s.baseUrl ++ path

/-! ## Outbound headers -/

/-- The name that a text spells. -/
def headerName (text : String) : Except Header.Fault Header.Name :=
  match Header.Name.parse? text with
  | some n => .ok n
  | none => .error (.name text)

/-- The value that sends a text. -/
def headerValue (text : String) : Except Header.Fault Bytes :=
  match Header.value? text with
  | some v => .ok v
  | none => .error .value

/-- Sets a token under a configured name, if there is a token. -/
def putToken (fields : Header.Fields) (name token : String) :
    Except Header.Fault Header.Fields :=
  if token = "" then .ok fields
  else do
    let n ← headerName name
    let v ← headerValue token
    .ok (fields.set n v)

/-- The headers of the session's tokens. -/
def tokenHeaders (s : Session) (names : HeaderNames) : Except Header.Fault Header.Fields := do
  let fields ← putToken [] names.accessToken s.access
  putToken fields names.csrfToken s.csrf

/-- The name of the header in which a client says what it is. -/
def userAgentName : Header.Name := ⟨"user-agent"⟩

/-- Sets what the client calls itself. -/
def putUserAgent (fields : Header.Fields) : Option String → Except Header.Fault Header.Fields
  | none => .ok fields
  | some agent => (headerValue agent).map (fields.set userAgentName ·)

/-- Sets one header after another, except those under protected names. -/
def putExtra (guarded : List Header.Name) :
    Header.Fields → List (String × String) → Except Header.Fault Header.Fields
  | fields, [] => .ok fields
  | fields, (name, value) :: rest => do
    let n ← headerName name
    if n ∈ guarded then putExtra guarded fields rest
    else
      let v ← headerValue value
      putExtra guarded (fields.set n v) rest

/-- The headers of an outbound request: the tokens, what the client calls itself, and then the caller's
own headers, none of which takes the place of a token. -/
def outboundHeaders (s : Session) (names : HeaderNames) (extra : List (String × String)) :
    Except Header.Fault Header.Fields := do
  let tokens ← s.tokenHeaders names
  let fields ← putUserAgent tokens s.userAgent
  putExtra (tokens.map (·.1)) fields extra

/-! ## Captured tokens -/

/-- The session after a reply with given headers: each token whose header has a first value that is
readable and not empty is replaced by it. -/
def capture (s : Session) (names : HeaderNames) (fields : Header.Fields) : Session :=
  { s with
    access := (fields.nonEmptyText? names.accessToken).getD s.access
    refresh := (fields.nonEmptyText? names.refreshToken).getD s.refresh
    csrf := (fields.nonEmptyText? names.csrfToken).getD s.csrf }

/-- A header brings a token that differs from the one that is there. -/
def renews (fields : Header.Fields) (name token : String) : Bool :=
  match fields.nonEmptyText? name with
  | some brought => token != brought
  | none => false

/-- Capturing the headers changes a token. -/
def captureChanges (s : Session) (names : HeaderNames) (fields : Header.Fields) : Bool :=
  renews fields names.accessToken s.access || renews fields names.refreshToken s.refresh ||
    renews fields names.csrfToken s.csrf

/-- A header brings another token just when the token is another one after it. -/
theorem renews_iff {fields : Header.Fields} {name token : String} :
    renews fields name token = true ↔ (fields.nonEmptyText? name).getD token ≠ token := by
  rw [renews]
  cases fields.nonEmptyText? name with
  | none => simp
  | some brought => simp only [bne_iff_ne, Option.getD_some, ne_comm]

/-- Capturing changes a token just when the session is another one after it. -/
theorem captureChanges_iff {s : Session} {names : HeaderNames} {fields : Header.Fields} :
    s.captureChanges names fields = true ↔ s.capture names fields ≠ s := by
  obtain ⟨baseUrl, userAgent, access, refresh, csrf⟩ := s
  simp only [captureChanges, Bool.or_eq_true, renews_iff, capture, ne_eq, Session.mk.injEq, true_and,
    Classical.not_and_iff_not_or_not, or_assoc]

end Session

end SessionRecovery
