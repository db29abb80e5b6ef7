import SessionRecovery.Error
import SessionRecovery.Header

/-!
# Responses

A reply of the server. A status of 400 or more is a failure, whose body has to be a report or blank; the
body of any other reply is kept unread until a caller asks for a value of some type.
-/

namespace SessionRecovery

/-- What came over the wire for one request. -/
structure Delivery where
  /-- The status. -/
  status : UInt16
  /-- The headers. -/
  headers : Header.Fields
  /-- The body. -/
  body : Bytes
  deriving DecidableEq

/-- A delivery whose failure, if it is one, has been read. -/
structure Response where
  /-- The status. -/
  status : UInt16
  /-- The headers. -/
  headers : Header.Fields
  /-- The body. -/
  body : Bytes
  /-- The report, on a failure only. -/
  failure : Option ApiError
  deriving DecidableEq

/-- The least status of a failure. -/
def leastFailure : UInt16 := 400

namespace Response

/-- Reads a delivery. -/
def ofDelivery (d : Delivery) : Except Error Response :=
  if leastFailure ≤ d.status then
    match ApiError.fromBody d.body with
    | .error f => .error (.ofFault f)
    | .ok api => .ok ⟨d.status, d.headers, d.body, some api⟩
  else .ok ⟨d.status, d.headers, d.body, none⟩

/-- The server did what was asked. -/
def isSuccess (r : Response) : Bool := r.failure.isNone

/-- What is read from a delivery: a failure with its report, or anything else without one. -/
theorem ofDelivery_eq_ok_iff {d : Delivery} {r : Response} : ofDelivery d = .ok r ↔
    (leastFailure ≤ d.status ∧ ∃ api, ApiError.fromBody d.body = .ok api ∧
      r = ⟨d.status, d.headers, d.body, some api⟩) ∨
    (d.status < leastFailure ∧ r = ⟨d.status, d.headers, d.body, none⟩) := by
  rw [ofDelivery, ← UInt16.not_le]
  by_cases hle : leastFailure ≤ d.status
  · cases ApiError.fromBody d.body <;> simp [hle, eq_comm]
  · simp [hle, eq_comm]

/-- Whatever was read from a delivery is a success just below the least status of a failure. -/
theorem isSuccess_iff_of_ofDelivery {d : Delivery} {r : Response} (h : ofDelivery d = .ok r) :
    r.isSuccess = true ↔ r.status < leastFailure := by
  obtain ⟨hle, api, -, rfl⟩ | ⟨hlt, rfl⟩ := ofDelivery_eq_ok_iff.mp h
  · simp [isSuccess, hle]
  · simp [isSuccess, hlt]

/-- The code of a failure, empty on success. -/
def errorCode (r : Response) : String :=
  match r.failure with
  | some api => api.code
  | none => ""

/-- The first value of a header, as readable text. -/
def header? (r : Response) (name : String) : Option String := r.headers.text? name

/-- The null value, which a blank body stands for. -/
def nullText : Bytes := [0x6E, 0x75, 0x6C, 0x6C]

/-- The value in the body of a success. -/
def decode {α : Type} (d : Json.Decoder α) (r : Response) : Except Error α :=
  match r.failure with
  | some api => .error (.protocol r.status api)
  | none => (d.read (if r.body.allBlank then nullText else r.body)).mapError Error.ofFault

/-- A failure as an error. -/
def toResult (r : Response) : Except Error Response :=
  match r.failure with
  | some api => .error (.protocol r.status api)
  | none => .ok r

end Response

end SessionRecovery
