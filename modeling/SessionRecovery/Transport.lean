import SessionRecovery.Client.World
import SessionRecovery.Url.Basic

/-!
# The transport

How a request fares on a connection: the headers it carries unless the caller set them, and what is made
of a connection that cannot be opened, breaks off, stays silent or answers.
-/

namespace SessionRecovery.Transport

/-- What a connection does with a request. -/
inductive Connection where
  /-- It cannot be opened. -/
  | refused
  /-- It ends before any answer. -/
  | dropped
  /-- It gives no answer. -/
  | silent
  /-- It gives an answer to what it receives, which may end too early. -/
  | answered (serve : Outbound → Delivery) (complete : Bool)

/-- The media type of values. -/
def jsonType : Bytes := Utf8.encode "application/json"

/-- Sets a header unless there is one of its name. -/
def orSet (fields : Header.Fields) (name : Header.Name) (value : Bytes) : Header.Fields :=
  match fields.get? name with
  | some _ => fields
  | none => fields.set name value

/-- The headers that a request carries: what it accepts, and what its body is, if it has one. -/
def fullHeaders (r : Outbound) : Header.Fields :=
  let fields := orSet r.headers ⟨"accept"⟩ jsonType
  if r.body.isSome then orSet fields ⟨"content-type"⟩ jsonType else fields

/-- The longest URL that a request may have, in characters of its text. -/
def longestUrl : Nat := 65534

/-- The marks that a host may hold and the head of a request may not. -/
def unsendableMarks : List Char := ['"', '\x60', '\x7b', '\x7d']

/-- A request may be sent to a URL: it is that of a web server, it is not too long, and its host can stand
in the head of a request. -/
def isSendable (url : Url) : Bool :=
  url.scheme.isWeb && url.render.length ≤ longestUrl &&
    url.host?.all fun host => host.text.all (!unsendableMarks.contains ·)

/-- The error of a request that cannot be sent to its URL. -/
def buildError (url : Url) : Error :=
  .transport ("builder error for url (" ++ url.render ++ ")")

/-- The error of a request that was not answered. -/
def sendError (url : Url) : Error :=
  .transport ("error sending request for url (" ++ url.render ++ ")")

/-- What becomes of a request on a connection, under a time limit. A silent connection with no limit
ends only when it is given up. -/
def exchange (limit : Option Duration) (connection : Connection) (r : Outbound) :
    Except Error Delivery :=
  match Url.parse r.url with
  | .error _ => .error (.transport "builder error")
  | .ok url =>
    let url := url.withoutUser
    if !isSendable url then .error (buildError url)
    else match connection, limit with
      | .silent, some d => .error (.timeout d)
      | .silent, none => .error (sendError url)
      | .refused, _ => .error (sendError url)
      | .dropped, _ => .error (sendError url)
      | .answered serve true, _ => .ok (serve { r with headers := fullHeaders r })
      | .answered _ false, _ => .error (.transport "error decoding response body")

end SessionRecovery.Transport
