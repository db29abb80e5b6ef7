import SessionRecovery.Request.Query
import SessionRecovery.Response
import SessionRecovery.Session.Basic
import SessionRecovery.Credentials
import SessionRecovery.Event
import SessionRecovery.Run

/-!
# What a client works on

The session, the provider of credentials, the replies that the network is going to give, whether the
caller has given up, and the history of everything that happened. The replies are fixed in advance and
are given in order, whatever is asked, so every behaviour of a network in one run is some list of them.
-/

namespace SessionRecovery

/-- A request as it goes over the wire. -/
structure Outbound where
  /-- The method. -/
  method : Method
  /-- The URL. -/
  url : String
  /-- The headers. -/
  headers : Header.Fields
  /-- The body, if there is one. -/
  body : Option Bytes
  deriving DecidableEq

/-- The text with a query added: after a question mark, or an ampersand where there is one already. -/
def withQuery (url : String) : Option String → String
  | none => url
  | some q => if '?' ∈ url.toList then url ++ "&" ++ q else url ++ "?" ++ q

/-- The request as a session sends it. -/
def Session.outbound (s : Session) (names : HeaderNames) (r : Request) : Except Error Outbound :=
  match r.query with
  | .error e => .error e
  | .ok query =>
    match s.outboundHeaders names r.headers with
    | .error f => .error (.serialization f.message)
    | .ok headers => .ok ⟨r.method, withQuery (s.url r.path) query, headers, r.body⟩

/-- When the caller gives up while a request is under way. -/
inductive Interruption where
  /-- Not at all. -/
  | never
  /-- Just as the reply arrives, which is still taken. -/
  | withReply
  /-- Before the reply arrives, which is lost. -/
  | beforeReply
  deriving DecidableEq

/-- What the network gives for one request. -/
structure Reply where
  /-- A delivery, or why there is none. -/
  answer : Except Error Delivery
  /-- When the caller gives up. -/
  interruption : Interruption

/-- Something that happened. -/
inductive Occurrence where
  /-- A request was handed to the network. -/
  | sent (request : Outbound)
  /-- A reply was received. -/
  | received (delivery : Delivery)
  /-- The provider was asked for credentials. -/
  | asked
  /-- The provider was given a refresh token to keep. -/
  | saved (token : String)
  /-- An event was reported. -/
  | reported (event : Event)
  deriving DecidableEq

/-- The event in an occurrence. -/
def Occurrence.event? : Occurrence → Option Event
  | .reported e => some e
  | _ => none

/-- What a client works on. -/
structure World where
  /-- The session. -/
  session : Session
  /-- The provider of credentials. -/
  provider : Provider
  /-- The replies that are still to come. -/
  replies : List Reply
  /-- The caller of the running operation gave up. -/
  cancelled : Bool
  /-- Everything that happened, in order. -/
  history : List Occurrence

namespace World

/-- Notes that something happened. -/
def note (w : World) (o : Occurrence) : World := { w with history := w.history ++ [o] }

/-- Reports an event. -/
def report (e : Event) (w : World) : World := w.note (.reported e)

/-- The world at the beginning of an operation, whose caller may have given up already. -/
def begin (w : World) (cancelled : Bool) : World := { w with cancelled := cancelled }

/-- Fails once the caller gave up. -/
def ensureActive : Run World Unit := fun w =>
  if w.cancelled then (.error .cancelled, w) else (.ok (), w)

/-- How waiting for a reply ends. -/
inductive Arrival where
  /-- The caller gave up first. -/
  | interrupted
  /-- There is no reply. -/
  | failed (error : Error)
  /-- The reply is there. -/
  | delivered (delivery : Delivery)
  deriving DecidableEq

/-- Hands a request to the network and waits for what it gives. -/
def transmit (request : Outbound) (w : World) : Arrival × World :=
  let w := w.note (.sent request)
  match w.replies with
  | [] => (.failed (.transport "no scripted reply"), w)
  | reply :: rest =>
    let w := { w with replies := rest }
    match reply.interruption with
    | .beforeReply => (.interrupted, { w with cancelled := true })
    | interruption =>
      let w := { w with cancelled := w.cancelled || interruption = .withReply }
      match reply.answer with
      | .error e => (.failed e, w)
      | .ok d => (.delivered d, w.note (.received d))

/-- Asks the provider for credentials. -/
def askCredentials : Run World Credentials := fun w =>
  let (provision, provider) := w.provider.ask
  (provision.answer,
    { w with
      provider
      cancelled := w.cancelled || provision.interrupts
      history := w.history ++ [.asked] })

/-- Gives the provider a refresh token to keep. -/
def save (token : String) (w : World) : World :=
  let (interrupted, provider) := w.provider.save token
  { w with
    provider
    cancelled := w.cancelled || interrupted
    history := w.history ++ [.saved token] }

end World

end SessionRecovery

/-! ## One request, one reply

A request is built from the session and sent once. Whatever the reply says, the tokens in its headers are
taken over before anything else is done with it. -/

namespace SessionRecovery.World

/-- The request as the session sends it. -/
def build (names : HeaderNames) (r : Request) : Run World Outbound := fun w =>
  (w.session.outbound names r, w)

/-- Sends a request and waits; reports when there is no reply. -/
def await (r : Request) (outbound : Outbound) : Run World Delivery := fun w =>
  match w.transmit outbound with
  | (.interrupted, w) => (.error .cancelled, w)
  | (.failed e, w) => (.error e, w.report (.transportFailed r.method r.path e))
  | (.delivered d, w) => (.ok d, w)

/-- Takes over the tokens of a reply. -/
def takeTokens (names : HeaderNames) (d : Delivery) (w : World) : World :=
  { w with session := w.session.capture names d.headers }

/-- Takes over the tokens of a reply and reads it. -/
def accept (names : HeaderNames) (r : Request) (d : Delivery) : Run World Response := fun w =>
  let updated := w.session.captureChanges names d.headers
  let w := w.takeTokens names d
  match Response.ofDelivery d with
  | .error e => (.error e, w.report (.bodyUnreadable r.path d.status e))
  | .ok response =>
    (.ok response,
      w.report (.dispatchResponse r.path response.status response.errorCode updated))

/-- Sends a request once, without recovery. -/
def dispatch (names : HeaderNames) (r : Request) : Run World Response := do
  ensureActive
  let outbound ← build names r
  Run.change (report (.dispatchSend r.method r.path))
  let delivery ← await r outbound
  accept names r delivery

end SessionRecovery.World
