import SessionRecovery.Json.Fault

/-!
# The words of a JSON text

Blanks, literals, quoted texts and numbers, each read from the front of a sequence of bytes; the rest
of the bytes is handed on. A quoted text is decoded only after its closing quote, so of two faults in
it the one in its escapes comes first.
-/

namespace SessionRecovery.Json

/-- Blanks between the words: space, line feed, tab and carriage return. -/
def isGap (b : UInt8) : Bool := b == 0x20 || b == 0x0A || b == 0x09 || b == 0x0D

theorem isGap_iff {b : UInt8} :
    isGap b = true ↔ b = 0x20 ∨ b = 0x0A ∨ b = 0x09 ∨ b = 0x0D := by
  simp only [isGap, Bool.or_eq_true, beq_iff_eq, or_assoc]

/-- No digit is a blank. -/
theorem isGap_of_isDigit {b : UInt8} (h : Bytes.isDigit b = true) : isGap b = false := by
  refine Bool.eq_false_iff.mpr fun hgap => ?_
  rcases isGap_iff.mp hgap with rfl | rfl | rfl | rfl <;> exact absurd h (by decide)

/-- The bytes after the blanks in front. -/
def skipGap (bs : Bytes) : Bytes := bs.dropWhile isGap

/-- Reads the rest of a literal. -/
def literal : Bytes → Bytes → Except Fault Bytes
  | [], bs => .ok bs
  | _ :: _, [] => .error .endInValue
  | w :: word, b :: bs => if b = w then literal word bs else .error .ident

/-- The literal `null` without its first letter. -/
def nullTail : Bytes := [0x75, 0x6C, 0x6C]

/-- The literal `true` without its first letter. -/
def trueTail : Bytes := [0x72, 0x75, 0x65]

/-- The literal `false` without its first letter. -/
def falseTail : Bytes := [0x61, 0x6C, 0x73, 0x65]

/-! ## Quoted texts -/

/-- Four hexadecimal digits. -/
def hexFour : Bytes → Except Fault (Nat × Bytes)
  | a :: b :: c :: d :: rest =>
    match Bytes.hexValue? a, Bytes.hexValue? b, Bytes.hexValue? c, Bytes.hexValue? d with
    | some w, some x, some y, some z => .ok (((w * 16 + x) * 16 + y) * 16 + z, rest)
    | _, _, _, _ => .error .escape
  | _ => .error .endInText

/-- The bytes of the character with a given code point. -/
def codePointBytes (n : Nat) : Bytes := String.utf8EncodeChar (Char.ofNat n)

/-- The second half of a surrogate pair whose first half has been read. -/
def lowSurrogate (high : Nat) : Bytes → Except Fault (Bytes × Bytes)
  | [] => .error .endInText
  | [b] => if b = 0x5C then .error .endInText else .error .hexEnd
  | b :: u :: rest =>
    if b ≠ 0x5C ∨ u ≠ 0x75 then .error .hexEnd
    else match hexFour rest with
      | .error f => .error f
      | .ok (low, rest) =>
        if 0xDC00 ≤ low ∧ low ≤ 0xDFFF then
          .ok (codePointBytes ((high - 0xD800) * 0x400 + (low - 0xDC00) + 0x10000), rest)
        else .error .loneSurrogate

/-- The byte that an escape of one letter stands for. -/
def shortEscape? (e : UInt8) : Option UInt8 :=
  if e = 0x22 ∨ e = 0x5C ∨ e = 0x2F then some e
  else if e = 0x62 then some 0x08
  else if e = 0x66 then some 0x0C
  else if e = 0x6E then some 0x0A
  else if e = 0x72 then some 0x0D
  else if e = 0x74 then some 0x09
  else none

/-- The bytes that an escape stands for, read after its backslash. -/
def escape : Bytes → Except Fault (Bytes × Bytes)
  | [] => .error .endInText
  | e :: rest =>
    match shortEscape? e with
    | some b => .ok ([b], rest)
    | none =>
      if e = 0x75 then
        match hexFour rest with
        | .error f => .error f
        | .ok (n, rest) =>
          if 0xDC00 ≤ n ∧ n ≤ 0xDFFF then .error .loneSurrogate
          else if 0xD800 ≤ n ∧ n ≤ 0xDBFF then lowSurrogate n rest
          else .ok (codePointBytes n, rest)
      else .error .escape

/-- Reading four digits shortens the input. -/
theorem hexFour_length {bs rest : Bytes} {n : Nat} (h : hexFour bs = .ok (n, rest)) :
    rest.length < bs.length := by
  unfold hexFour at h
  split at h
  · split at h
    · cases h
      simp only [List.length_cons]
      omega
    · cases h
  · cases h

/-- Reading the second half of a pair shortens the input. -/
theorem lowSurrogate_length {high : Nat} {bs out rest : Bytes}
    (h : lowSurrogate high bs = .ok (out, rest)) : rest.length < bs.length := by
  unfold lowSurrogate at h
  split at h
  · cases h
  · split at h <;> cases h
  · split at h
    · cases h
    · split at h
      · cases h
      · next hfour =>
        have := hexFour_length hfour
        split at h
        · simp only [Except.ok.injEq, Prod.mk.injEq] at h
          simp only [← h.2, List.length_cons]
          omega
        · cases h

/-- Reading an escape shortens the input. -/
theorem escape_length {bs out rest : Bytes} (h : escape bs = .ok (out, rest)) :
    rest.length < bs.length := by
  unfold escape at h
  split at h
  · cases h
  · split at h
    · simp only [Except.ok.injEq, Prod.mk.injEq] at h
      simp [← h.2]
    · split at h
      · split at h
        · cases h
        · next hfour =>
          have := hexFour_length hfour
          split at h
          · cases h
          · split at h
            · have := lowSurrogate_length h
              simp only [List.length_cons]
              omega
            · simp only [Except.ok.injEq, Prod.mk.injEq] at h
              simp only [← h.2, List.length_cons]
              omega
      · cases h

/-- The bytes of a quoted text with its escapes replaced, read after the opening quote. -/
def rawText (bs : Bytes) : Except Fault (Bytes × Bytes) :=
  match bs with
  | [] => .error .endInText
  | b :: rest =>
    if b = 0x22 then .ok ([], rest)
    else if b = 0x5C then
      match _h : escape rest with
      | .error f => .error f
      | .ok (out, rest') =>
        match rawText rest' with
        | .error f => .error f
        | .ok (more, rest'') => .ok (out ++ more, rest'')
    else if b < 0x20 then .error .control
    else match rawText rest with
      | .error f => .error f
      | .ok (more, rest') => .ok (b :: more, rest')
termination_by bs.length
decreasing_by
  · have := escape_length _h
    simp only [List.length_cons]
    omega
  · simp

/-- A quoted text, read after the opening quote. -/
def text (bs : Bytes) : Except Fault (String × Bytes) :=
  match rawText bs with
  | .error f => .error f
  | .ok (raw, rest) =>
    match Utf8.decode? raw with
    | none => .error .codePoint
    | some s => .ok (s, rest)

/-! ## Numbers -/

/-- Takes digits into a significand for as long as it fits a 64-bit word; gives the significand, the
number of digits taken and the rest. -/
def takeDigits (significand : Nat) : Bytes → Nat × Nat × Bytes
  | [] => (significand, 0, [])
  | b :: rest =>
    if Bytes.isDigit b ∧ significand * 10 + Bytes.digitValue b < 0x10000000000000000 then
      let (s, count, rest') := takeDigits (significand * 10 + Bytes.digitValue b) rest
      (s, count + 1, rest')
    else (significand, 0, b :: rest)

/-- Drops digits; gives their number and the rest. -/
def dropDigits : Bytes → Nat × Bytes
  | [] => (0, [])
  | b :: rest =>
    if Bytes.isDigit b then
      let (count, rest') := dropDigits rest
      (count + 1, rest')
    else (0, b :: rest)

/-- The value of the digits in front, and the rest. -/
def digitsValue (acc : Nat) : Bytes → Nat × Bytes
  | [] => (acc, [])
  | b :: rest =>
    if Bytes.isDigit b then digitsValue (acc * 10 + Bytes.digitValue b) rest else (acc, b :: rest)

/-- A power of ten up to the greatest in range. -/
def powerOfTen (n : Nat) : Float := Float.ofScientific 1 false n

/-- Divides by a power of ten, at most the greatest in range at a time. -/
def shrink (x : Float) (power : Nat) : Float :=
  if power ≤ 308 then x / powerOfTen power
  else if x == 0.0 then x
  else shrink (x / powerOfTen 308) (power - 308)
termination_by power
decreasing_by omega

/-- The value of `significand · 10 ^ exponent`: the significand is rounded first and then multiplied or
divided by a power of ten, each step rounding once. Nothing when the result is beyond the range. -/
def scaled? (significand : Nat) (exponent : Int) : Option Float :=
  let x := significand.toUInt64.toFloat
  if exponent < 0 then some (shrink x exponent.natAbs)
  else if exponent ≤ 308 then
    let y := x * powerOfTen exponent.natAbs
    if y.isInf then none else some y
  else if significand = 0 then some x
  else none

/-- The value of a number with a fraction, an exponent, or more digits than fit a word. -/
def floatOf (negative : Bool) (significand : Nat) (exponent : Int) : Except Fault Number :=
  match scaled? significand exponent with
  | none => .error .range
  | some x => .ok (.float (if negative then -x else x))

/-- The value of an integer whose digits fit a word: zero with a sign, and what is below the signed
range, is a floating-point number. -/
def intOf (negative : Bool) (significand : Nat) : Number :=
  match (if negative ∧ significand = 0 then none
    else Word64.ofInt? (if negative then -(significand : Int) else significand)) with
  | some w => .int w
  | none =>
    .float (if negative then -significand.toUInt64.toFloat else significand.toUInt64.toFloat)

/-- Reads the exponent of a number, after its letter, on top of the exponent so far. -/
def exponentPart (negative : Bool) (significand : Nat) (exponent : Int) (bs : Bytes) :
    Except Fault (Number × Bytes) :=
  let (down, digits) : Bool × Bytes := match bs with
    | 0x2B :: rest => (false, rest)
    | 0x2D :: rest => (true, rest)
    | other => (false, other)
  match digits with
  | [] => .error .endInValue
  | b :: _ =>
    if Bytes.isDigit b then
      let (size, rest) := digitsValue 0 digits
      match floatOf negative significand (if down then exponent - size else exponent + size) with
      | .error f => .error f
      | .ok n => .ok (n, rest)
    else .error .number

/-- Reads what follows the fraction. -/
def afterFraction (negative : Bool) (significand : Nat) (exponent : Int) (bs : Bytes) :
    Except Fault (Number × Bytes) :=
  match bs with
  | 0x65 :: rest => exponentPart negative significand exponent rest
  | 0x45 :: rest => exponentPart negative significand exponent rest
  | rest =>
    match floatOf negative significand exponent with
    | .error f => .error f
    | .ok n => .ok (n, rest)

/-- Reads the fraction of a number, after its point; `skipped` is the number of integer digits that did
not fit the significand. -/
def fractionPart (negative : Bool) (significand skipped : Nat) (bs : Bytes) :
    Except Fault (Number × Bytes) :=
  let (s, taken, rest) := takeDigits significand bs
  let (dropped, rest) := dropDigits rest
  if taken + dropped = 0 then
    match rest with
    | [] => .error .endInValue
    | _ :: _ => .error .number
  else afterFraction negative s ((skipped : Int) - taken) rest

/-- Reads what follows the digits before the point. -/
def afterDigits (negative : Bool) (significand skipped : Nat) (bs : Bytes) :
    Except Fault (Number × Bytes) :=
  match bs with
  | 0x2E :: rest => fractionPart negative significand skipped rest
  | 0x65 :: rest => exponentPart negative significand skipped rest
  | 0x45 :: rest => exponentPart negative significand skipped rest
  | rest =>
    if skipped = 0 then .ok (intOf negative significand, rest)
    else match floatOf negative significand skipped with
      | .error f => .error f
      | .ok n => .ok (n, rest)

/-- A number, read after its sign. -/
def number (negative : Bool) (bs : Bytes) : Except Fault (Number × Bytes) :=
  match bs with
  | [] => .error .endInValue
  | b :: rest =>
    if b = 0x30 then
      match rest with
      | [] => afterDigits negative 0 0 rest
      | c :: _ => if Bytes.isDigit c then .error .number else afterDigits negative 0 0 rest
    else if Bytes.isDigit b then
      let (s, _, rest) := takeDigits (Bytes.digitValue b) rest
      let (skipped, rest) := dropDigits rest
      afterDigits negative s skipped rest
    else .error .number

end SessionRecovery.Json
