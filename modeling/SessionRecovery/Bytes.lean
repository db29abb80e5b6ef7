/-!
# Bytes and text

Bodies, header values and files are sequences of bytes, and some of these stand for texts.
-/

/-! ## Byte sequences

The type of all of them, the classes of bytes that text formats share, and the reading and writing of
hexadecimal digits. -/

namespace SessionRecovery

/-- A sequence of bytes, first byte first. -/
abbrev Bytes := List UInt8

namespace Bytes

/-- An ASCII decimal digit. -/
def isDigit (b : UInt8) : Bool := 0x30 ≤ b && b ≤ 0x39

/-- An ASCII letter of either case. -/
def isLetter (b : UInt8) : Bool := (0x41 ≤ b && b ≤ 0x5A) || (0x61 ≤ b && b ≤ 0x7A)

/-- The value of a decimal digit; meaningful for digits only. -/
def digitValue (b : UInt8) : Nat := b.toNat - 0x30

/-- The value of a hexadecimal digit of either case. -/
def hexValue? (b : UInt8) : Option Nat :=
  if isDigit b then some (b.toNat - 0x30)
  else if 0x61 ≤ b && b ≤ 0x66 then some (b.toNat - 0x61 + 10)
  else if 0x41 ≤ b && b ≤ 0x46 then some (b.toNat - 0x41 + 10)
  else none

/-- The lower-case hexadecimal digit of a value below sixteen. -/
def hexDigit (n : Nat) : Char := Char.ofNat (if n < 10 then 0x30 + n else 0x61 + (n - 10))

/-- The upper-case hexadecimal digit of a value below sixteen. -/
def upperHexDigit (n : Nat) : Char := Char.ofNat (if n < 10 then 0x30 + n else 0x41 + (n - 10))

/-- ASCII whitespace: tab, line feed, form feed, carriage return and space. -/
def isBlank (b : UInt8) : Bool :=
  b == 0x09 || b == 0x0A || b == 0x0C || b == 0x0D || b == 0x20

/-- The sequence holds nothing but ASCII whitespace; the empty one does. -/
def allBlank (bs : Bytes) : Bool := bs.all isBlank

/-- A sequence is blank when each of its bytes is whitespace. -/
theorem allBlank_iff {bs : Bytes} :
    bs.allBlank = true ↔ ∀ b ∈ bs, b ∈ ([0x09, 0x0A, 0x0C, 0x0D, 0x20] : Bytes) := by
  simp [allBlank, isBlank, or_assoc]

end Bytes

end SessionRecovery

/-! ## UTF-8

Text and its bytes. Encoding is defined on every text; decoding accepts exactly the well-formed
sequences: no overlong form, no surrogate, nothing above the last code point. -/

namespace SessionRecovery.Utf8

/-- The UTF-8 bytes of a list of characters. -/
def encodeChars (cs : List Char) : Bytes := cs.flatMap String.utf8EncodeChar

/-- The UTF-8 bytes of a text. -/
def encode (s : String) : Bytes := encodeChars s.toList

/-- A continuation byte. -/
def isTail (b : UInt8) : Bool := 0x80 ≤ b && b ≤ 0xBF

/-- The six payload bits of a continuation byte. -/
def tailBits (b : UInt8) : Nat := b.toNat - 0x80

/-- A two-byte form: the lead excludes the overlong spellings of ASCII. -/
def isPair (a b : UInt8) : Bool := 0xC2 ≤ a && a ≤ 0xDF && isTail b

/-- A three-byte form: neither overlong nor a surrogate. -/
def isTriple (a b c : UInt8) : Bool :=
  0xE0 ≤ a && a ≤ 0xEF && isTail b && isTail c &&
    (a != 0xE0 || 0xA0 ≤ b) && (a != 0xED || b ≤ 0x9F)

/-- A four-byte form: neither overlong nor beyond the last code point. -/
def isQuad (a b c d : UInt8) : Bool :=
  0xF0 ≤ a && a ≤ 0xF4 && isTail b && isTail c && isTail d &&
    (a != 0xF0 || 0x90 ≤ b) && (a != 0xF4 || b ≤ 0x8F)

/-- Puts the character with a given code point before a decoded text. -/
def push (code : Nat) (rest : Option (List Char)) : Option (List Char) :=
  rest.map (Char.ofNat code :: ·)

/-- The characters of a well-formed sequence of bytes. -/
def decodeChars : Bytes → Option (List Char)
  | [] => some []
  | a :: r₁ =>
    if a < 0x80 then push a.toNat (decodeChars r₁)
    else match r₁ with
      | [] => none
      | b :: r₂ =>
        if isPair a b then push ((a.toNat - 0xC0) * 0x40 + tailBits b) (decodeChars r₂)
        else match r₂ with
          | [] => none
          | c :: r₃ =>
            if isTriple a b c then
              push (((a.toNat - 0xE0) * 0x40 + tailBits b) * 0x40 + tailBits c) (decodeChars r₃)
            else match r₃ with
              | [] => none
              | d :: r₄ =>
                if isQuad a b c d then
                  push ((((a.toNat - 0xF0) * 0x40 + tailBits b) * 0x40 + tailBits c) * 0x40
                    + tailBits d) (decodeChars r₄)
                else none

/-- The text of a well-formed sequence of bytes. -/
def decode? (bs : Bytes) : Option String := (decodeChars bs).map String.ofList

/-- The number of bytes that a text takes. -/
def size (s : String) : Nat := (encode s).length

end SessionRecovery.Utf8
