import SessionRecovery.Json.Decoder

/-!
# Requests

The description of one call, independent of any session, so that it can be sent again after a
handshake and be stored as text.
-/

namespace SessionRecovery

/-- The methods of a call. -/
inductive Method where
  /-- Read. -/
  | get
  /-- Create. -/
  | post
  /-- Replace. -/
  | put
  /-- Change. -/
  | patch
  /-- Remove. -/
  | delete
  deriving DecidableEq

namespace Method

/-- The word for a method. -/
def text : Method → String
  | .get => "GET"
  | .post => "POST"
  | .put => "PUT"
  | .patch => "PATCH"
  | .delete => "DELETE"

/-- Every method under its word. -/
def words : List (String × Method) :=
  [("GET", .get), ("POST", .post), ("PUT", .put), ("PATCH", .patch), ("DELETE", .delete)]

/-- The payload travels in the query instead of the body. -/
def usesQuery : Method → Bool
  | .get => true
  | .delete => true
  | _ => false

end Method

/-- The description of a call. -/
structure Request where
  /-- The method. -/
  method : Method
  /-- What stands after the base URL. -/
  path : String
  /-- The value to send. -/
  payload : Option NormalJson
  /-- Headers of the caller's own, later ones before earlier ones of the same name. -/
  headers : List (String × String)

namespace Request

/-- A call without payload and headers. -/
def new (method : Method) (path : String) : Request := ⟨method, path, none, []⟩

/-- The call with a payload, in place of any it had. -/
def withPayload (r : Request) (j : Json) : Request := { r with payload := some (.of j) }

/-- The call with one more header. -/
def withHeader (r : Request) (name value : String) : Request :=
  { r with headers := r.headers ++ [(name, value)] }

/-- A header as a value. -/
def headerJson (h : String × String) : Json := .arr [.str h.1, .str h.2]

/-- The description as a value: the payload and the headers only where there are some. -/
def toJson (r : Request) : Json :=
  .obj (("method", .str r.method.text) :: ("path", .str r.path) ::
    (match r.payload with
      | some p => [("payload", p.value)]
      | none => []) ++
    (match r.headers with
      | [] => []
      | hs => [("headers", .arr (hs.map headerJson))]))

/-- The members of a description; method and path are required. -/
def fields : List (Json.Decoder.Field Request) :=
  [⟨"method", true, (Json.Decoder.oneOf Method.words).map fun m r => { r with method := m }⟩,
   ⟨"path", true, Json.Decoder.string.map fun s r => { r with path := s }⟩,
   ⟨"payload", false, Json.Decoder.any.optional.map fun p r => { r with payload := p }⟩,
   ⟨"headers", false,
    (Json.Decoder.string.pair Json.Decoder.string).list.map fun hs r => { r with headers := hs }⟩]

/-- Reads a description. -/
def decoder : Json.Decoder Request := .record "RequestDescriptor" (new .get "") fields

/-- The description in a text. -/
def parse (bs : Bytes) : Except Json.Fault Request := decoder.read bs

/-- The text of a description. -/
def render (r : Request) : String := r.toJson.render

/-- Reading the text of the description gives the same description. -/
def replays (r : Request) : Bool :=
  match parse (Utf8.encode r.render) with
  | .ok again => again.render == r.render
  | .error _ => false

/-- What a log calls the request. -/
def operation (r : Request) : String := r.method.text ++ " " ++ r.path

end Request

end SessionRecovery
