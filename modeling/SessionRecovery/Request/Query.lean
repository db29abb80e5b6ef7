import SessionRecovery.Request.Basic
import SessionRecovery.Error

/-!
# Queries

The payload of a reading or removing call travels in the URL. Its members become pairs of texts, keys
in ascending order and a list's items one after another, and the pairs are percent-encoded. Reading the
query back gives the pairs.
-/

namespace SessionRecovery.Query

/-- The bytes that stand for themselves. -/
def isUnreserved (b : UInt8) : Bool :=
  Bytes.isDigit b || Bytes.isLetter b || b == 0x2D || b == 0x5F || b == 0x2E || b == 0x7E

/-- One byte, encoded. -/
def encodeByte (b : UInt8) : List Char :=
  if isUnreserved b then [Char.ofNat b.toNat]
  else ['%', Bytes.upperHexDigit (b.toNat / 16), Bytes.upperHexDigit (b.toNat % 16)]

/-- A text, encoded byte by byte. -/
def encode (s : String) : List Char := (Utf8.encode s).flatMap encodeByte

/-- The value of a hexadecimal digit. -/
def hexValue? (c : Char) : Option Nat :=
  if c.toNat < 0x80 then Bytes.hexValue? (UInt8.ofNat c.toNat) else none

/-- The bytes of an encoded text. -/
def decodeBytes : List Char → Option Bytes
  | [] => some []
  | '%' :: h :: l :: rest => do
    let high ← hexValue? h
    let low ← hexValue? l
    let bs ← decodeBytes rest
    some (UInt8.ofNat (high * 16 + low) :: bs)
  | c :: rest => do
    if c = '%' ∨ 0x80 ≤ c.toNat then none
    else
      let bs ← decodeBytes rest
      some (UInt8.ofNat c.toNat :: bs)

/-- The text of an encoded text. -/
def decode (cs : List Char) : Option String := (decodeBytes cs).bind Utf8.decode?

/-- Why a payload cannot travel in a URL. -/
inductive Fault where
  /-- The payload is neither an object nor null. -/
  | payload (kind : String)
  /-- A member, or an item of a member, is an array or an object. -/
  | parameter (key kind : String)
  deriving DecidableEq

/-- The words of a fault. -/
def Fault.message : Fault → String
  | .payload kind => "query payload must be an object, got " ++ kind
  | .parameter key kind => "query parameter '" ++ key ++ "' cannot be " ++ kind

/-- The words for the type of a value. -/
def kindWords : Json → String
  | .null => "null"
  | .bool _ => "a boolean"
  | .num _ => "a number"
  | .str _ => "a string"
  | .arr _ => "an array"
  | .obj _ => "an object"

/-- The text of a scalar; null has none. -/
def scalar (key : String) : Json → Except Fault (Option String)
  | .null => .ok none
  | .str s => .ok (some s)
  | .bool b => .ok (some (Json.bool b).render)
  | .num n => .ok (some (Json.num n).render)
  | j => .error (.parameter key (kindWords j))

/-- The values that a member contributes. -/
def memberValues : Json → List Json
  | .arr items => items
  | j => [j]

/-- The pairs of the values of one key. -/
def valuePairs (key : String) : List Json → Except Fault (List (String × String))
  | [] => .ok []
  | j :: rest => do
    let text ← scalar key j
    let pairs ← valuePairs key rest
    .ok (match text with
      | some s => (key, s) :: pairs
      | none => pairs)

/-- The pairs of the members of an object. -/
def memberPairs : List (String × Json) → Except Fault (List (String × String))
  | [] => .ok []
  | (key, j) :: rest => do
    let here ← valuePairs key (memberValues j)
    let pairs ← memberPairs rest
    .ok (here ++ pairs)

/-- The pairs of a payload. -/
def pairs : Json → Except Fault (List (String × String))
  | .null => .ok []
  | .obj ms => memberPairs ms
  | j => .error (.payload (kindWords j))

/-- One encoded pair. -/
def renderPair (p : String × String) : List Char := encode p.1 ++ '=' :: encode p.2

/-- The encoded pairs, separated by ampersands. -/
def render (ps : List (String × String)) : List Char :=
  List.intercalate ['&'] (ps.map renderPair)

/-- The query of a payload; without pairs there is none. -/
def ofPayload (j : Json) : Except Fault (Option String) :=
  (pairs j).map fun ps => if ps.isEmpty then none else some (String.ofList (render ps))

end SessionRecovery.Query

namespace SessionRecovery.Request

/-- The query of a call whose method carries its payload in the URL. -/
def query (r : Request) : Except Error (Option String) :=
  match r.payload with
  | some p =>
    if r.method.usesQuery then
      (Query.ofPayload p.value).mapError fun f => .serialization f.message
    else .ok none
  | none => .ok none

/-- The body of a call whose method carries its payload there; without a payload the body is null. -/
def body (r : Request) : Option Bytes :=
  if r.method.usesQuery then none
  else match r.payload with
    | some p => some p.value.bytes
    | none => some Json.null.bytes

end SessionRecovery.Request
