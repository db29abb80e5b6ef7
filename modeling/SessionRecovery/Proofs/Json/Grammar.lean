import SessionRecovery.Json.Scanner

/-!
# JSON texts

What a JSON text is, without regard to how it is read: a value in one of its spellings, with any blanks
between the words. Every rule says what stands in front of a rest. Characters between quotes may be written as
they are or by an escape, and the same value has many texts; a number is kept as it is written.

Half a surrogate pair may stand alone between quotes, but no text has such a spelling.
-/

namespace SessionRecovery.Json

/-! ## Blanks and digits -/

/-- Blanks stand in front of a rest. -/
def Gap (input rest : Bytes) : Prop := ∃ blanks, input = blanks ++ rest ∧ ∀ b ∈ blanks, isGap b = true

theorem Gap.refl (bs : Bytes) : Gap bs bs := ⟨[], rfl, List.forall_mem_nil _⟩

/-- One digit or more. -/
def IsDigits (bs : Bytes) : Prop := bs ≠ [] ∧ ∀ b ∈ bs, Bytes.isDigit b = true

/-- The code point that four hexadecimal digits name. -/
def fourHex? (a b c d : UInt8) : Option Nat := do
  let w ← Bytes.hexValue? a
  let x ← Bytes.hexValue? b
  let y ← Bytes.hexValue? c
  let z ← Bytes.hexValue? d
  some (((w * 16 + x) * 16 + y) * 16 + z)

/-! ## Numbers -/

/-- The part of a number in front of its point: no zero stands in front of other digits. -/
inductive IsInteger : Bytes → Prop where
  /-- Zero. -/
  | zero : IsInteger [0x30]
  /-- A digit above zero and any others. -/
  | digits {b : UInt8} {bs : Bytes} (hb : Bytes.isDigit b = true) (hne : b ≠ 0x30)
      (hbs : ∀ c ∈ bs, Bytes.isDigit c = true) : IsInteger (b :: bs)

/-- The part of a number from its point on, if it has one. -/
inductive IsFraction : Bytes → Prop where
  /-- No point. -/
  | absent : IsFraction []
  /-- A point and digits. -/
  | present {bs : Bytes} (h : IsDigits bs) : IsFraction (0x2E :: bs)

/-- The exponent of a number, if it has one. -/
inductive IsExponent : Bytes → Prop where
  /-- No exponent. -/
  | absent : IsExponent []
  /-- The letter in either case, perhaps a sign, and digits. -/
  | present {letter : UInt8} {sign bs : Bytes} (hletter : letter = 0x65 ∨ letter = 0x45)
      (hsign : sign = [] ∨ sign = [0x2B] ∨ sign = [0x2D]) (h : IsDigits bs) :
      IsExponent (letter :: (sign ++ bs))

/-- A number. -/
inductive IsNumber : Bytes → Prop where
  /-- Perhaps a sign, and the parts. -/
  | parts {sign integer fraction exponent : Bytes} (hsign : sign = [] ∨ sign = [0x2D])
      (hinteger : IsInteger integer) (hfraction : IsFraction fraction)
      (hexponent : IsExponent exponent) :
      IsNumber (sign ++ (integer ++ (fraction ++ exponent)))

/-! ## Texts -/

/-- The escapes of one letter, with the characters that they stand for. -/
def letterEscapes : List (UInt8 × Char) :=
  [(0x22, '"'), (0x5C, '\\'), (0x2F, '/'), (0x62, '\x08'), (0x66, '\x0C'), (0x6E, '\n'),
   (0x72, '\x0D'), (0x74, '\t')]

/-- The code point is the first half of a surrogate pair. -/
def IsHigh (n : Nat) : Prop := 0xD800 ≤ n ∧ n ≤ 0xDBFF

/-- The code point is the second half of a surrogate pair. -/
def IsLow (n : Nat) : Prop := 0xDC00 ≤ n ∧ n ≤ 0xDFFF

/-- The code point that a surrogate pair stands for. -/
def paired (high low : Nat) : Nat := (high - 0xD800) * 0x400 + (low - 0xDC00) + 0x10000

/-- An escape of the second half of a pair stands in front. -/
def BeginsLow (input : Bytes) : Prop :=
  ∃ a b c d more n, input = 0x5C :: 0x75 :: a :: b :: c :: d :: more ∧ fourHex? a b c d = some n ∧
    IsLow n

/-- Characters and a closing quote stand in front of a rest. What they spell is nothing if half a surrogate
pair stands alone among them. -/
inductive Quoted (rest : Bytes) : Option (List Char) → Bytes → Prop where
  /-- The closing quote. -/
  | close : Quoted rest (some []) (0x22 :: rest)
  /-- A character as it is. -/
  | plain {c : Char} {spelled : Option (List Char)} {input : Bytes} (hquote : c ≠ '"')
      (hslash : c ≠ '\\') (hcontrol : 0x20 ≤ c.toNat) (h : Quoted rest spelled input) :
      Quoted rest (spelled.map (c :: ·)) (String.utf8EncodeChar c ++ input)
  /-- An escape of one letter. -/
  | letter {e : UInt8} {c : Char} {spelled : Option (List Char)} {input : Bytes}
      (he : (e, c) ∈ letterEscapes) (h : Quoted rest spelled input) :
      Quoted rest (spelled.map (c :: ·)) (0x5C :: e :: input)
  /-- The escape of a code point. -/
  | code {a b c d : UInt8} {n : Nat} {spelled : Option (List Char)} {input : Bytes}
      (hn : fourHex? a b c d = some n) (hhigh : ¬ IsHigh n) (hlow : ¬ IsLow n)
      (h : Quoted rest spelled input) :
      Quoted rest (spelled.map (Char.ofNat n :: ·)) (0x5C :: 0x75 :: a :: b :: c :: d :: input)
  /-- The escapes of a pair. -/
  | pair {a b c d a' b' c' d' : UInt8} {high low : Nat} {spelled : Option (List Char)} {input : Bytes}
      (hn : fourHex? a b c d = some high) (hhigh : IsHigh high)
      (hn' : fourHex? a' b' c' d' = some low) (hlow : IsLow low) (h : Quoted rest spelled input) :
      Quoted rest (spelled.map (Char.ofNat (paired high low) :: ·))
        (0x5C :: 0x75 :: a :: b :: c :: d :: 0x5C :: 0x75 :: a' :: b' :: c' :: d' :: input)
  /-- The second half of a pair alone. -/
  | loneLow {a b c d : UInt8} {n : Nat} {spelled : Option (List Char)} {input : Bytes}
      (hn : fourHex? a b c d = some n) (hlow : IsLow n) (h : Quoted rest spelled input) :
      Quoted rest none (0x5C :: 0x75 :: a :: b :: c :: d :: input)
  /-- The first half of a pair alone. -/
  | loneHigh {a b c d : UInt8} {n : Nat} {spelled : Option (List Char)} {input : Bytes}
      (hn : fourHex? a b c d = some n) (hhigh : IsHigh n) (hnext : ¬ BeginsLow input)
      (h : Quoted rest spelled input) :
      Quoted rest none (0x5C :: 0x75 :: a :: b :: c :: d :: input)

/-! ## Values -/

/-- What a JSON text says. -/
inductive Tree where
  /-- The null value. -/
  | null
  /-- A truth value. -/
  | bool (b : Bool)
  /-- A number, as it is written. -/
  | number (digits : Bytes)
  /-- What stands between quotes, nothing if no text has that spelling. -/
  | text (spelled : Option String)
  /-- An array. -/
  | array (items : List Tree)
  /-- An object, with its members as they are written. -/
  | object (members : List (Option String × Tree))

/-- The word for a truth value. -/
def boolWord (b : Bool) : Bytes := if b then 0x74 :: trueTail else 0x66 :: falseTail

/-- What may stand in front of a rest: a value, or what is left of an array or an object that goes on. -/
inductive Phrase where
  /-- A value. -/
  | value (t : Tree)
  /-- Items, and the end of their array. -/
  | items (ts : List Tree)
  /-- Members, and the end of their object. -/
  | members (ms : List (Option String × Tree))

/-- The name of a member stands in front of its value, with a colon between them. -/
def Named (name : Option String) (input value : Bytes) : Prop :=
  ∃ spelled quoted colon after, name = spelled.map String.ofList ∧ Gap input (0x22 :: quoted) ∧
    Quoted colon spelled quoted ∧ Gap colon (0x3A :: after) ∧ Gap after value

/-- A phrase stands in front of a rest. -/
inductive Reads : Phrase → Bytes → Bytes → Prop where
  /-- The null value. -/
  | null {rest : Bytes} : Reads (.value .null) (0x6E :: nullTail ++ rest) rest
  /-- A truth value. -/
  | bool (b : Bool) {rest : Bytes} : Reads (.value (.bool b)) (boolWord b ++ rest) rest
  /-- A number. -/
  | number {digits rest : Bytes} (h : IsNumber digits) :
      Reads (.value (.number digits)) (digits ++ rest) rest
  /-- A text. -/
  | text {spelled : Option (List Char)} {input rest : Bytes} (h : Quoted rest spelled input) :
      Reads (.value (.text (spelled.map String.ofList))) (0x22 :: input) rest
  /-- An array without items. -/
  | emptyArray {input rest : Bytes} (h : Gap input (0x5D :: rest)) :
      Reads (.value (.array [])) (0x5B :: input) rest
  /-- An array with items. -/
  | array {ts : List Tree} {input rest : Bytes} (h : Reads (.items ts) input rest) :
      Reads (.value (.array ts)) (0x5B :: input) rest
  /-- An object without members. -/
  | emptyObject {input rest : Bytes} (h : Gap input (0x7D :: rest)) :
      Reads (.value (.object [])) (0x7B :: input) rest
  /-- An object with members. -/
  | object {ms : List (Option String × Tree)} {input rest : Bytes} (h : Reads (.members ms) input rest) :
      Reads (.value (.object ms)) (0x7B :: input) rest
  /-- The last item. -/
  | lastItem {t : Tree} {input front back rest : Bytes} (hfront : Gap input front)
      (h : Reads (.value t) front back) (hback : Gap back (0x5D :: rest)) :
      Reads (.items [t]) input rest
  /-- An item and others. -/
  | item {t : Tree} {ts : List Tree} {input front back more rest : Bytes} (hfront : Gap input front)
      (h : Reads (.value t) front back) (hback : Gap back (0x2C :: more))
      (hmore : Reads (.items ts) more rest) : Reads (.items (t :: ts)) input rest
  /-- The last member. -/
  | lastMember {name : Option String} {t : Tree} {input front back rest : Bytes}
      (hname : Named name input front) (h : Reads (.value t) front back)
      (hback : Gap back (0x7D :: rest)) : Reads (.members [(name, t)]) input rest
  /-- A member and others. -/
  | member {name : Option String} {t : Tree} {ms : List (Option String × Tree)}
      {input front back more rest : Bytes} (hname : Named name input front)
      (h : Reads (.value t) front back) (hback : Gap back (0x2C :: more))
      (hmore : Reads (.members ms) more rest) : Reads (.members ((name, t) :: ms)) input rest

/-- A whole text of a value. -/
def IsText (t : Tree) (body : Bytes) : Prop :=
  ∃ front back, Gap body front ∧ Reads (.value t) front back ∧ Gap back []

end SessionRecovery.Json
