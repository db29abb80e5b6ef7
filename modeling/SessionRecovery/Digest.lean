import SessionRecovery.Bytes

/-!
# Digests

The tag of a message under a key, and its text.
-/

/-! ## The 256-bit secure hash

A message is padded to whole blocks of sixty-four bytes, each block drives sixty-four rounds over
eight words, and the last eight words are the tag. The chaining state is a structure of eight words,
so every tag has thirty-two bytes whatever the message. -/

namespace SessionRecovery.Sha256

/-- The chaining state: eight words. -/
structure State where
  /-- First word. -/
  a : UInt32
  /-- Second word. -/
  b : UInt32
  /-- Third word. -/
  c : UInt32
  /-- Fourth word. -/
  d : UInt32
  /-- Fifth word. -/
  e : UInt32
  /-- Sixth word. -/
  f : UInt32
  /-- Seventh word. -/
  g : UInt32
  /-- Eighth word. -/
  h : UInt32
  deriving DecidableEq

/-- The state before the first block. -/
def State.start : State :=
  ⟨0x6a09e667, 0xbb67ae85, 0x3c6ef372, 0xa54ff53a, 0x510e527f, 0x9b05688c, 0x1f83d9ab, 0x5be0cd19⟩

/-- The constants of the sixty-four rounds. -/
def roundConstants : List UInt32 :=
  [0x428a2f98, 0x71374491, 0xb5c0fbcf, 0xe9b5dba5, 0x3956c25b, 0x59f111f1, 0x923f82a4, 0xab1c5ed5,
   0xd807aa98, 0x12835b01, 0x243185be, 0x550c7dc3, 0x72be5d74, 0x80deb1fe, 0x9bdc06a7, 0xc19bf174,
   0xe49b69c1, 0xefbe4786, 0x0fc19dc6, 0x240ca1cc, 0x2de92c6f, 0x4a7484aa, 0x5cb0a9dc, 0x76f988da,
   0x983e5152, 0xa831c66d, 0xb00327c8, 0xbf597fc7, 0xc6e00bf3, 0xd5a79147, 0x06ca6351, 0x14292967,
   0x27b70a85, 0x2e1b2138, 0x4d2c6dfc, 0x53380d13, 0x650a7354, 0x766a0abb, 0x81c2c92e, 0x92722c85,
   0xa2bfe8a1, 0xa81a664b, 0xc24b8b70, 0xc76c51a3, 0xd192e819, 0xd6990624, 0xf40e3585, 0x106aa070,
   0x19a4c116, 0x1e376c08, 0x2748774c, 0x34b0bcb5, 0x391c0cb3, 0x4ed8aa4a, 0x5b9cca4f, 0x682e6ff3,
   0x748f82ee, 0x78a5636f, 0x84c87814, 0x8cc70208, 0x90befffa, 0xa4506ceb, 0xbef9a3f7, 0xc67178f2]

/-- Rotation of a word to the right. -/
def rotate (x n : UInt32) : UInt32 := (x >>> n) ||| (x <<< (32 - n))

/-- The mixing of the first word in a round. -/
def mixFirst (x : UInt32) : UInt32 := rotate x 2 ^^^ rotate x 13 ^^^ rotate x 22

/-- The mixing of the fifth word in a round. -/
def mixFifth (x : UInt32) : UInt32 := rotate x 6 ^^^ rotate x 11 ^^^ rotate x 25

/-- The mixing of the second oldest word of the schedule. -/
def spreadOld (x : UInt32) : UInt32 := rotate x 7 ^^^ rotate x 18 ^^^ (x >>> 3)

/-- The mixing of the second newest word of the schedule. -/
def spreadNew (x : UInt32) : UInt32 := rotate x 17 ^^^ rotate x 19 ^^^ (x >>> 10)

/-- The next `count` words of the schedule, from the sixteen latest, oldest first. -/
def extend : Nat → List UInt32 → List UInt32
  | 0, _ => []
  | count + 1, window =>
    let next := spreadNew (window.getD 14 0) + window.getD 9 0 + spreadOld (window.getD 1 0)
      + window.getD 0 0
    window.getD 0 0 :: extend count (window.drop 1 ++ [next])

/-- The sixty-four words that a block of sixteen words contributes. -/
def schedule (block : List UInt32) : List UInt32 := extend 64 block

/-- One round, with its constant and its schedule word. -/
def round (s : State) (k w : UInt32) : State :=
  let choice := (s.e &&& s.f) ^^^ ((~~~ s.e) &&& s.g)
  let majority := (s.a &&& s.b) ^^^ (s.a &&& s.c) ^^^ (s.b &&& s.c)
  let t₁ := s.h + mixFifth s.e + choice + k + w
  let t₂ := mixFirst s.a + majority
  ⟨t₁ + t₂, s.a, s.b, s.c, s.d + t₁, s.e, s.f, s.g⟩

/-- Word-wise sum of two states. -/
def State.add (s t : State) : State :=
  ⟨s.a + t.a, s.b + t.b, s.c + t.c, s.d + t.d, s.e + t.e, s.f + t.f, s.g + t.g, s.h + t.h⟩

/-- The state after one block. -/
def compress (s : State) (block : List UInt32) : State :=
  s.add ((roundConstants.zip (schedule block)).foldl (fun t kw => round t kw.1 kw.2) s)

/-- The big-endian word of four bytes. -/
def word (a b c d : UInt8) : UInt32 :=
  (a.toUInt32 <<< 24) ||| (b.toUInt32 <<< 16) ||| (c.toUInt32 <<< 8) ||| d.toUInt32

/-- The big-endian words of a sequence whose length is a multiple of four. -/
def words : Bytes → List UInt32
  | a :: b :: c :: d :: rest => word a b c d :: words rest
  | _ => []

/-- The big-endian bytes of a word. -/
def wordBytes (w : UInt32) : Bytes :=
  [(w >>> 24).toUInt8, (w >>> 16).toUInt8, (w >>> 8).toUInt8, w.toUInt8]

/-- The eight big-endian bytes of a number below 2^64. -/
def lengthBytes (n : Nat) : Bytes :=
  wordBytes (n / Nat.pow 2 32).toUInt32 ++ wordBytes n.toUInt32

/-- The message, a one bit, zeros, and the message's length in bits, in whole blocks. -/
def pad (message : Bytes) : Bytes :=
  message ++ 0x80 :: List.replicate ((119 - message.length % 64) % 64) 0 ++
    lengthBytes (8 * message.length)

/-- Folds `count` blocks of sixteen words into the state. -/
def absorb : Nat → State → List UInt32 → State
  | 0, s, _ => s
  | count + 1, s, ws => absorb count (compress s (ws.take 16)) (ws.drop 16)

/-- The bytes of a state, first word first. -/
def State.bytes (s : State) : Bytes :=
  [s.a, s.b, s.c, s.d, s.e, s.f, s.g, s.h].flatMap wordBytes

/-- The tag of a message. -/
def digest (message : Bytes) : Bytes :=
  let ws := words (pad message)
  (absorb (ws.length / 16) State.start ws).bytes

/-- Every tag has thirty-two bytes. -/
theorem length_digest (message : Bytes) : (digest message).length = 32 := rfl

end SessionRecovery.Sha256

/-! ## Keyed tags

A message authenticated under a key: the key fills one block, longer keys are hashed first, and the
hash is applied twice with two paddings of that block. -/

namespace SessionRecovery.Hmac

/-- The block size of the hash, in bytes. -/
def blockSize : Nat := 64

/-- The key as one block: hashed when it is longer than a block, then filled up with zeros. -/
def keyBlock (key : Bytes) : Bytes :=
  let short := if key.length > blockSize then Sha256.digest key else key
  short ++ List.replicate (blockSize - short.length) 0

/-- Every byte of a block combined with one mask. -/
def mask (block : Bytes) (m : UInt8) : Bytes := block.map (· ^^^ m)

/-- The tag of a message under a key. -/
def tag (key message : Bytes) : Bytes :=
  let block := keyBlock key
  Sha256.digest (mask block 0x5c ++ Sha256.digest (mask block 0x36 ++ message))

end SessionRecovery.Hmac

/-! ## Base64

The padded standard alphabet, written and read. Three bytes make four characters; a last group of
one or two bytes is filled up with equals signs. Reading accepts exactly such texts. -/

namespace SessionRecovery.Base64

/-- The character of a six-bit value. -/
def symbol (n : Nat) : Char :=
  if n < 26 then Char.ofNat (0x41 + n)
  else if n < 52 then Char.ofNat (0x61 + (n - 26))
  else if n < 62 then Char.ofNat (0x30 + (n - 52))
  else if n = 62 then '+'
  else '/'

/-- The six-bit value of a character of the alphabet. -/
def value? (c : Char) : Option Nat :=
  if 'A' ≤ c ∧ c ≤ 'Z' then some (c.toNat - 0x41)
  else if 'a' ≤ c ∧ c ≤ 'z' then some (c.toNat - 0x61 + 26)
  else if '0' ≤ c ∧ c ≤ '9' then some (c.toNat - 0x30 + 52)
  else if c = '+' then some 62
  else if c = '/' then some 63
  else none

/-- The characters of a sequence of bytes. -/
def encode : Bytes → List Char
  | [] => []
  | [a] =>
    let n := a.toNat * 16
    [symbol (n / 64), symbol (n % 64), '=', '=']
  | [a, b] =>
    let n := (a.toNat * 256 + b.toNat) * 4
    [symbol (n / 4096), symbol (n / 64 % 64), symbol (n % 64), '=']
  | a :: b :: c :: rest =>
    let n := (a.toNat * 256 + b.toNat) * 256 + c.toNat
    symbol (n / 262144) :: symbol (n / 4096 % 64) :: symbol (n / 64 % 64) :: symbol (n % 64)
      :: encode rest

/-- The bytes of a padded text; the unused bits of a last group have to be zero. -/
def decode : List Char → Option Bytes
  | [] => some []
  | [p, q, '=', '='] => do
    let n := (← value? p) * 64 + (← value? q)
    if n % 16 = 0 then some [(n / 16).toUInt8] else none
  | [p, q, r, '='] => do
    let n := ((← value? p) * 64 + (← value? q)) * 64 + (← value? r)
    if n % 4 = 0 then some [(n / 1024).toUInt8, (n / 4).toUInt8] else none
  | p :: q :: r :: s :: rest => do
    let n := (((← value? p) * 64 + (← value? q)) * 64 + (← value? r)) * 64 + (← value? s)
    let tail ← decode rest
    some ((n / 65536).toUInt8 :: (n / 256).toUInt8 :: n.toUInt8 :: tail)
  | _ => none

end SessionRecovery.Base64
