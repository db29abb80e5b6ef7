import SessionRecovery.Json.Reader
import SessionRecovery.Json.Normal

/-!
# Decoders

A decoder reads values of one type, either from the bytes of a text, in one pass, or from a value that
has been read before. Records accept an object with their members in any order, or an array with them
in the record's order; members of other names are skipped.
-/

namespace SessionRecovery.Json

/-- How to read a type, with the allowance of nesting and the bytes, or from a value. -/
structure Decoder (α : Type) where
  /-- Reads from the front of the bytes. -/
  fromText : Nat → Bytes → Except Fault (α × Bytes)
  /-- Reads from a value in normal form. -/
  fromValue : Json → Except Fault α

/-- What stands at the front of the bytes, read far enough to be named; a fault of its own comes
first. -/
def mismatch (expected : String) (bs : Bytes) : Fault :=
  match skipGap bs with
  | [] => .endInValue
  | b :: rest =>
    if b = 0x5B then .type .array expected
    else if b = 0x7B then .type .object expected
    else match valueWith (fun _ => .error .value) (fun _ => .error .value) (b :: rest) with
      | .error f => f
      | .ok (j, _) => .type j.found expected

namespace Decoder

/-- Reads a whole text. -/
def read {α : Type} (d : Decoder α) (bs : Bytes) : Except Fault α :=
  (d.fromText fullAllowance bs).bind finish

/-- Applies a function to what is read. -/
def map {α β : Type} (f : α → β) (d : Decoder α) : Decoder β :=
  ⟨fun n bs => (d.fromText n bs).map fun r => (f r.1, r.2), fun j => (d.fromValue j).map f⟩

/-- Any value, in normal form. -/
def any : Decoder NormalJson :=
  ⟨fun n bs => (value n bs).map fun r => (.of r.1, r.2), fun j => .ok (.of j)⟩

/-- The null value. -/
def unit : Decoder Unit where
  fromText _ bs :=
    match skipGap bs with
    | [] => .error .endInValue
    | b :: rest =>
      if b = 0x6E then giving () (literal nullTail rest) else .error (mismatch "unit" bs)
  fromValue
    | .null => .ok ()
    | j => .error (.type j.found "unit")

/-- A truth value. -/
def bool : Decoder Bool where
  fromText _ bs :=
    match skipGap bs with
    | [] => .error .endInValue
    | b :: rest =>
      if b = 0x74 then giving true (literal trueTail rest)
      else if b = 0x66 then giving false (literal falseTail rest)
      else .error (mismatch "a boolean" bs)
  fromValue
    | .bool b => .ok b
    | j => .error (.type j.found "a boolean")

/-- A text. -/
def string : Decoder String where
  fromText _ bs :=
    match skipGap bs with
    | [] => .error .endInValue
    | b :: rest => if b = 0x22 then text rest else .error (mismatch "a string" bs)
  fromValue
    | .str s => .ok s
    | j => .error (.type j.found "a string")

/-- A number as a natural number of the given width. -/
def natOf (bits : Nat) (n : Number) : Except Fault Nat :=
  let expected := "u" ++ toString bits
  match n with
  | .int w =>
    if 0 ≤ w.val ∧ w.val.toNat < Nat.pow 2 bits then .ok w.val.toNat
    else .error (.outside (.num n) expected)
  | .float _ => .error (.type (.num n) expected)

/-- A natural number of the given width in bits. -/
def nat (bits : Nat) : Decoder Nat where
  fromText _ bs :=
    match skipGap bs with
    | [] => .error .endInValue
    | b :: rest =>
      if b = 0x2D then
        (number true rest).bind fun r => (natOf bits r.1).map fun n => (n, r.2)
      else if Bytes.isDigit b then
        (number false (b :: rest)).bind fun r => (natOf bits r.1).map fun n => (n, r.2)
      else .error (mismatch ("u" ++ toString bits) bs)
  fromValue
    | .num n => natOf bits n
    | j => .error (.type j.found ("u" ++ toString bits))

/-- A value that may be absent: null stands for nothing. -/
def optional {α : Type} (d : Decoder α) : Decoder (Option α) where
  fromText n bs :=
    match skipGap bs with
    | [] => .error .endInValue
    | b :: rest =>
      if b = 0x6E then giving none (literal nullTail rest)
      else (d.fromText n bs).map fun r => (some r.1, r.2)
  fromValue
    | .null => .ok none
    | j => (d.fromValue j).map some

/-- An array of values of one type. -/
def list {α : Type} (d : Decoder α) : Decoder (List α) where
  fromText n bs :=
    match skipGap bs with
    | [] => .error .endInValue
    | b :: rest =>
      if b = 0x5B then
        match n with
        | 0 => .error .nesting
        | n + 1 => items (d.fromText n) (rest.length + 1) true rest
      else .error (mismatch "a sequence" bs)
  fromValue
    | .arr js => js.mapM d.fromValue
    | j => .error (.type j.found "a sequence")

/-- An object whose values are all of one type; of a repeated name the last value stands. -/
def dictionary {α : Type} (d : Decoder α) : Decoder (List (String × α)) where
  fromText n bs :=
    match skipGap bs with
    | [] => .error .endInValue
    | b :: rest =>
      if b = 0x7B then
        match n with
        | 0 => .error .nesting
        | n + 1 =>
          (members (d.fromText n) (rest.length + 1) true rest).map fun r => (collect r.1, r.2)
      else .error (mismatch "a map" bs)
  fromValue
    | .obj ms => (ms.mapM fun m => (d.fromValue m.2).map fun x => (m.1, x)).map collect
    | j => .error (.type j.found "a map")

/-- The next item of an array that has to have one more, at a given place. -/
def itemAt {α : Type} (d : Decoder α) (n place : Nat) (expected : String) (bs : Bytes) :
    Except Fault (α × Bytes) :=
  match nextItem (place = 0) bs with
  | .error f => .error f
  | .ok none => .error (.length place expected)
  | .ok (some bs) => d.fromText n bs

/-- The words for an array of two items. -/
def pairWords : String := "a tuple of size 2"

/-- The words for an array that is too long. -/
def fewerWords : String := "fewer elements in array"

/-- An array of exactly two values. -/
def pair {α β : Type} (d : Decoder α) (e : Decoder β) : Decoder (α × β) where
  fromText n bs :=
    match skipGap bs with
    | [] => .error .endInValue
    | b :: rest =>
      if b = 0x5B then
        match n with
        | 0 => .error .nesting
        | n + 1 => do
          let (x, rest) ← itemAt d n 0 pairWords rest
          let (y, rest) ← itemAt e n 1 pairWords rest
          giving (x, y) (closeArray rest)
      else .error (mismatch pairWords bs)
  fromValue
    | .arr [] => .error (.length 0 pairWords)
    | .arr [j] => do
      let _ ← d.fromValue j
      .error (.length 1 pairWords)
    | .arr (j :: k :: rest) => do
      let x ← d.fromValue j
      let y ← e.fromValue k
      if rest.isEmpty then .ok (x, y) else .error (.length (rest.length + 2) fewerWords)
    | j => .error (.type j.found pairWords)

/-- The meaning of a word. -/
def meaning {α : Type} (words : List (String × α)) (word : String) : Except Fault α :=
  match words.find? (·.1 = word) with
  | some m => .ok m.2
  | none => .error (.variant word (words.map (·.1)))

/-- One of several words, as a text or as the name of the only member, null, of an object. -/
def oneOf {α : Type} (words : List (String × α)) : Decoder α where
  fromText n bs :=
    match skipGap bs with
    | [] => .error .endInValue
    | b :: rest =>
      if b = 0x22 then
        (text rest).bind fun r => (meaning words r.1).map fun x => (x, r.2)
      else if b = 0x7B then
        if n = 0 then .error .nesting
        else do
          match ← nextMember true rest with
          | none => .error .value
          | some inner =>
            let (word, rest) ← text inner
            let x ← meaning words word
            let rest ← colon rest
            let ((), rest) ← unit.fromText n rest
            match skipGap rest with
            | [] => .error .endInObject
            | b :: rest => if b = 0x7D then .ok (x, rest) else .error .value
      else .error .value
  fromValue
    | .str s => meaning words s
    | .obj [(word, j)] => do
      let x ← meaning words word
      let () ← unit.fromValue j
      .ok x
    | .obj _ => .error (.outside .object "map with a single key")
    | j => .error (.type j.found "string or map")

/-! ## Records -/

/-- A member of a record. -/
structure Field (σ : Type) where
  /-- Its name. -/
  name : String
  /-- The record cannot be read without it. -/
  required : Bool
  /-- Reads the member, and says how it changes the record. -/
  update : Decoder (σ → σ)

/-- A member that is a text. -/
def Field.text {σ : Type} (name : String) (put : String → σ → σ) : Field σ :=
  ⟨name, false, string.map put⟩

/-- A member that is a list of texts. -/
def Field.texts {σ : Type} (name : String) (put : List String → σ → σ) : Field σ :=
  ⟨name, false, string.list.map put⟩

/-- A member that is a natural number of a given width. -/
def Field.nat {σ : Type} (name : String) (bits : Nat) (put : Nat → σ → σ) : Field σ :=
  ⟨name, false, (Decoder.nat bits).map put⟩

/-- The words for a record. -/
def recordWords (title : String) : String := "struct " ++ title

/-- The words for a record given as an array. -/
def recordItemsWords (title : String) (count : Nat) : String :=
  recordWords title ++ " with " ++ toString count ++ " elements"

/-- The first required member that has not been seen. -/
def missing? {σ : Type} (fields : List (Field σ)) (seen : List String) : Option String :=
  (fields.find? fun f => f.required && !seen.contains f.name).map (·.name)

/-- Reads a record from the items of an array, after its bracket and up to its end. Members beyond the
last item keep their defaults. -/
def recordItems {σ : Type} (n : Nat) (expected : String) :
    List (Field σ) → Nat → Bool → σ → Bytes → Except Fault (σ × Bytes)
  | [], _, _, s, bs => .ok (s, bs)
  | f :: fields, place, first, s, bs =>
    match nextItem first bs with
    | .error e => .error e
    | .ok none =>
      if f.required then .error (.length place expected)
      else recordItems n expected fields (place + 1) first s bs
    | .ok (some bs) =>
      match f.update.fromText n bs with
      | .error e => .error e
      | .ok (g, rest) => recordItems n expected fields (place + 1) false (g s) rest

/-- Reads a record from the members of an object, after its brace and up to its end. -/
def recordMembers {σ : Type} (n : Nat) (fields : List (Field σ)) :
    Nat → List String → Bool → σ → Bytes → Except Fault (σ × Bytes)
  | 0, _, _, _, _ => .error .endInObject
  | steps + 1, seen, first, s, bs =>
    match nextMember first bs with
    | .error e => .error e
    | .ok none =>
      match missing? fields seen with
      | some name => .error (.missing name)
      | none => .ok (s, bs)
    | .ok (some bs) =>
      match text bs with
      | .error e => .error e
      | .ok (name, rest) =>
        match fields.find? (·.name = name) with
        | none =>
          match (colon rest).bind skipValue with
          | .error e => .error e
          | .ok rest => recordMembers n fields steps seen false s rest
        | some f =>
          if seen.contains name then .error (.duplicate name)
          else match (colon rest).bind (f.update.fromText n) with
            | .error e => .error e
            | .ok (g, rest) => recordMembers n fields steps (name :: seen) false (g s) rest

/-- Reads a record from the items of an array; gives also the items left over. -/
def recordItemValues {σ : Type} (expected : String) :
    List (Field σ) → Nat → σ → List Json → Except Fault (σ × List Json)
  | [], _, s, js => .ok (s, js)
  | f :: fields, place, s, [] =>
    if f.required then .error (.length place expected)
    else recordItemValues expected fields (place + 1) s []
  | f :: fields, place, s, j :: js =>
    match f.update.fromValue j with
    | .error e => .error e
    | .ok g => recordItemValues expected fields (place + 1) (g s) js

/-- Reads a record from members. -/
def recordMemberValues {σ : Type} (fields : List (Field σ)) :
    List String → σ → List (String × Json) → Except Fault σ
  | seen, s, [] =>
    match missing? fields seen with
    | some name => .error (.missing name)
    | none => .ok s
  | seen, s, (name, j) :: ms =>
    match fields.find? (·.name = name) with
    | none => recordMemberValues fields seen s ms
    | some f =>
      if seen.contains name then .error (.duplicate name)
      else match f.update.fromValue j with
        | .error e => .error e
        | .ok g => recordMemberValues fields (name :: seen) (g s) ms

/-- A record with its members, starting from the record of all defaults. -/
def record {σ : Type} (title : String) (start : σ) (fields : List (Field σ)) : Decoder σ where
  fromText n bs :=
    match skipGap bs with
    | [] => .error .endInValue
    | b :: rest =>
      if b = 0x5B then
        match n with
        | 0 => .error .nesting
        | n + 1 =>
          (recordItems n (recordItemsWords title fields.length) fields 0 true start rest).bind
            fun r => giving r.1 (closeArray r.2)
      else if b = 0x7B then
        match n with
        | 0 => .error .nesting
        | n + 1 =>
          (recordMembers n fields (rest.length + 1) [] true start rest).bind
            fun r => giving r.1 (closeObject r.2)
      else .error (mismatch (recordWords title) bs)
  fromValue
    | .arr js =>
      (recordItemValues (recordItemsWords title fields.length) fields 0 start js).bind fun r =>
        if r.2.isEmpty then .ok r.1 else .error (.length js.length fewerWords)
    | .obj ms => recordMemberValues fields [] start ms
    | j => .error (.type j.found (recordWords title))

end Decoder

end SessionRecovery.Json
