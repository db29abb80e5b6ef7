import SessionRecovery.Json.Scanner

/-!
# Reading JSON values

A value is read from the front of a sequence of bytes, in one pass: the first fault in reading order is
the one reported. Arrays and objects may nest as deep as an allowance permits. A value that nobody asks
for is skipped instead: its words are checked, but its texts are not decoded, its numbers have no range
and its nesting is not limited.
-/

namespace SessionRecovery.Json

/-- The allowance of a whole text: arrays and objects nest at most this deep. -/
def fullAllowance : Nat := 127

/-! ## Separators -/

/-- Goes to the next item of an array: nothing when the closing bracket stands next. -/
def nextItem (first : Bool) (bs : Bytes) : Except Fault (Option Bytes) :=
  match skipGap bs with
  | [] => .error .endInArray
  | b :: rest =>
    if b = 0x5D then .ok none
    else if first then .ok (some (b :: rest))
    else if b = 0x2C then
      match skipGap rest with
      | [] => .error .endInValue
      | c :: rest => if c = 0x5D then .error .trailingComma else .ok (some (c :: rest))
    else .error .commaOrEndOfArray

/-- Reads the closing bracket of an array. -/
def closeArray (bs : Bytes) : Except Fault Bytes :=
  match skipGap bs with
  | [] => .error .endInArray
  | b :: rest =>
    if b = 0x5D then .ok rest
    else if b = 0x2C then
      match skipGap rest with
      | [] => .error .trailing
      | c :: _ => if c = 0x5D then .error .trailingComma else .error .trailing
    else .error .trailing

/-- Goes behind the opening quote of the next member of an object: nothing when the closing brace stands
next. -/
def nextMember (first : Bool) (bs : Bytes) : Except Fault (Option Bytes) :=
  match skipGap bs with
  | [] => .error .endInObject
  | b :: rest =>
    if b = 0x7D then .ok none
    else if first then
      if b = 0x22 then .ok (some rest) else .error .name
    else if b = 0x2C then
      match skipGap rest with
      | [] => .error .endInValue
      | c :: rest =>
        if c = 0x22 then .ok (some rest)
        else if c = 0x7D then .error .trailingComma
        else .error .name
    else .error .commaOrEndOfObject

/-- Reads the closing brace of an object. -/
def closeObject (bs : Bytes) : Except Fault Bytes :=
  match skipGap bs with
  | [] => .error .endInObject
  | b :: rest =>
    if b = 0x7D then .ok rest
    else if b = 0x2C then .error .trailingComma
    else .error .trailing

/-- Reads the colon between a name and its value. -/
def colon (bs : Bytes) : Except Fault Bytes :=
  match skipGap bs with
  | [] => .error .endInObject
  | b :: rest => if b = 0x3A then .ok rest else .error .colon

/-! ## Values -/

/-- The items of an array, read after its bracket. Every item takes a byte, so the number of bytes left
bounds the steps. -/
def items {α : Type} (read : Bytes → Except Fault (α × Bytes)) :
    Nat → Bool → Bytes → Except Fault (List α × Bytes)
  | 0, _, _ => .error .endInArray
  | steps + 1, first, bs =>
    match nextItem first bs with
    | .error f => .error f
    | .ok none =>
      match closeArray bs with
      | .error f => .error f
      | .ok rest => .ok ([], rest)
    | .ok (some bs) =>
      match read bs with
      | .error f => .error f
      | .ok (x, rest) =>
        match items read steps false rest with
        | .error f => .error f
        | .ok (xs, rest) => .ok (x :: xs, rest)

/-- The members of an object, read after its brace. -/
def members {α : Type} (read : Bytes → Except Fault (α × Bytes)) :
    Nat → Bool → Bytes → Except Fault (List (String × α) × Bytes)
  | 0, _, _ => .error .endInObject
  | steps + 1, first, bs =>
    match nextMember first bs with
    | .error f => .error f
    | .ok none =>
      match closeObject bs with
      | .error f => .error f
      | .ok rest => .ok ([], rest)
    | .ok (some bs) =>
      match text bs with
      | .error f => .error f
      | .ok (name, rest) =>
        match colon rest with
        | .error f => .error f
        | .ok rest =>
          match read rest with
          | .error f => .error f
          | .ok (x, rest) =>
            match members read steps false rest with
            | .error f => .error f
            | .ok (xs, rest) => .ok ((name, x) :: xs, rest)

/-- Gives a value to what is left after a word. -/
def giving {α : Type} (x : α) (rest : Except Fault Bytes) : Except Fault (α × Bytes) :=
  rest.map fun r => (x, r)

/-- Reads a value whose arrays and objects are read by the given readers, from behind their opening
bracket or brace. -/
def valueWith (array object : Bytes → Except Fault (Json × Bytes)) (bs : Bytes) :
    Except Fault (Json × Bytes) :=
  match skipGap bs with
  | [] => .error .endInValue
  | b :: rest =>
    if b = 0x6E then giving .null (literal nullTail rest)
    else if b = 0x74 then giving (.bool true) (literal trueTail rest)
    else if b = 0x66 then giving (.bool false) (literal falseTail rest)
    else if b = 0x2D then (number true rest).map fun r => (.num r.1, r.2)
    else if Bytes.isDigit b then (number false (b :: rest)).map fun r => (.num r.1, r.2)
    else if b = 0x22 then (text rest).map fun r => (.str r.1, r.2)
    else if b = 0x5B then array rest
    else if b = 0x7B then object rest
    else .error .value

/-- Reads a value whose arrays and objects nest at most as deep as the allowance. -/
def value : Nat → Bytes → Except Fault (Json × Bytes)
  | 0, bs => valueWith (fun _ => .error .nesting) (fun _ => .error .nesting) bs
  | allowance + 1, bs =>
    valueWith
      (fun rest => (items (value allowance) (rest.length + 1) true rest).map
        fun r => (.arr r.1, r.2))
      (fun rest => (members (value allowance) (rest.length + 1) true rest).map
        fun r => (.obj r.1, r.2))
      bs

/-- Nothing but blanks may follow a whole text. -/
def finish {α : Type} (r : α × Bytes) : Except Fault α :=
  match skipGap r.2 with
  | [] => .ok r.1
  | _ :: _ => .error .trailing

/-- The value of a whole text, with members as they are written. -/
def parse (bs : Bytes) : Except Fault Json := (value fullAllowance bs).bind finish

/-! ## Skipped values -/

/-- Skips an escape, after its backslash. -/
def skipEscape : Bytes → Except Fault Bytes
  | [] => .error .endInText
  | e :: rest =>
    match shortEscape? e with
    | some _ => .ok rest
    | none =>
      if e = 0x75 then
        match hexFour rest with
        | .error f => .error f
        | .ok (_, rest) => .ok rest
      else .error .escape

/-- Skipping an escape shortens the input. -/
theorem skipEscape_length {bs rest : Bytes} (h : skipEscape bs = .ok rest) :
    rest.length < bs.length := by
  unfold skipEscape at h
  split at h
  · cases h
  · split at h
    · cases h
      simp
    · split at h
      · split at h
        · cases h
        · next hfour =>
          have := hexFour_length hfour
          cases h
          simp only [List.length_cons]
          omega
      · cases h

/-- Skips a quoted text, after its opening quote. -/
def skipText (bs : Bytes) : Except Fault Bytes :=
  match bs with
  | [] => .error .endInText
  | b :: rest =>
    if b = 0x22 then .ok rest
    else if b = 0x5C then
      match _h : skipEscape rest with
      | .error f => .error f
      | .ok rest' => skipText rest'
    else if b < 0x20 then .error .control
    else skipText rest
termination_by bs.length
decreasing_by
  · have := skipEscape_length _h
    simp only [List.length_cons]
    omega
  · simp

/-- Skips digits, of which there has to be one. -/
def skipDigits (bs : Bytes) : Except Fault Bytes :=
  match dropDigits bs with
  | (0, _) => .error .number
  | (_ + 1, rest) => .ok rest

/-- Skips the exponent of a number, if there is one. -/
def skipExponent (bs : Bytes) : Except Fault Bytes :=
  match bs with
  | [] => .ok []
  | b :: rest =>
    if b = 0x65 ∨ b = 0x45 then
      match rest with
      | [] => .error .number
      | c :: after => if c = 0x2B ∨ c = 0x2D then skipDigits after else skipDigits (c :: after)
    else .ok (b :: rest)

/-- Skips the fraction of a number, if there is one, and its exponent. -/
def skipFraction (bs : Bytes) : Except Fault Bytes :=
  match bs with
  | [] => .ok []
  | b :: rest =>
    if b = 0x2E then (skipDigits rest).bind skipExponent else skipExponent (b :: rest)

/-- Skips a number, after its sign. -/
def skipNumber (bs : Bytes) : Except Fault Bytes :=
  match bs with
  | [] => .error .number
  | b :: rest =>
    if b = 0x30 then
      match rest with
      | [] => .ok []
      | c :: after => if Bytes.isDigit c then .error .number else skipFraction (c :: after)
    else if Bytes.isDigit b then skipFraction (dropDigits rest).2
    else .error .number

/-- Skips the items of an array that has at least one more. -/
def skipItems (skip : Bytes → Except Fault Bytes) : Nat → Bytes → Except Fault Bytes
  | 0, _ => .error .endInArray
  | steps + 1, bs =>
    match skip bs with
    | .error f => .error f
    | .ok rest =>
      match skipGap rest with
      | [] => .error .endInArray
      | b :: rest =>
        if b = 0x2C then skipItems skip steps rest
        else if b = 0x5D then .ok rest
        else .error .commaOrEndOfArray

/-- Skips the members of an object that has at least one more. -/
def skipMembers (skip : Bytes → Except Fault Bytes) : Nat → Bytes → Except Fault Bytes
  | 0, _ => .error .endInObject
  | steps + 1, bs =>
    match skipGap bs with
    | [] => .error .endInObject
    | b :: rest =>
      if b ≠ 0x22 then .error .name
      else match ((skipText rest).bind colon).bind skip with
        | .error f => .error f
        | .ok rest =>
          match skipGap rest with
          | [] => .error .endInObject
          | b :: rest =>
            if b = 0x2C then skipMembers skip steps rest
            else if b = 0x7D then .ok rest
            else .error .commaOrEndOfObject

/-- Skips a value, given how to skip what is inside an array or object, and a bound of the items or
members there. -/
def skipWith (inner : Bytes → Except Fault Bytes) (steps : Nat) (bs : Bytes) :
    Except Fault Bytes :=
  match skipGap bs with
  | [] => .error .endInValue
  | b :: rest =>
    if b = 0x6E then literal nullTail rest
    else if b = 0x74 then literal trueTail rest
    else if b = 0x66 then literal falseTail rest
    else if b = 0x2D then skipNumber rest
    else if Bytes.isDigit b then skipNumber (b :: rest)
    else if b = 0x22 then skipText rest
    else if b = 0x5B then
      match skipGap rest with
      | [] => .error .endInArray
      | c :: rest =>
        if c = 0x5D then .ok rest else skipItems inner steps (c :: rest)
    else if b = 0x7B then
      match skipGap rest with
      | [] => .error .endInObject
      | c :: rest =>
        if c = 0x7D then .ok rest else skipMembers inner steps (c :: rest)
    else .error .value

/-- Skips a value that nests at most as deep as the bound, with at most as many items or members at one
level. -/
def skipValueWithin : Nat → Bytes → Except Fault Bytes
  | 0, bs => skipWith (fun _ => .error .nesting) 0 bs
  | bound + 1, bs => skipWith (skipValueWithin bound) (bound + 1) bs

/-- Skips a value. Each level of nesting and each item takes a byte, so the number of bytes bounds both
and nothing is refused for its size. -/
def skipValue (bs : Bytes) : Except Fault Bytes := skipValueWithin bs.length bs

end SessionRecovery.Json
