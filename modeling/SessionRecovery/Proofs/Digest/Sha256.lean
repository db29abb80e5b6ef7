import Mathlib.Data.List.GetD
import Mathlib.Data.Nat.Find
import Mathlib.Data.Nat.NthRoot.Defs
import Mathlib.Data.Nat.Prime.Basic
import SessionRecovery.Digest
import SessionRecovery.Proofs.Digest.Bits

/-!
# The hash and the keyed tag

Both are defined on digit strings here, as they are laid down, and proved to be what is computed on bytes.
-/

/-! ## The hash of a digit string

The hash as it is laid down for messages of any number of binary digits: the message is padded with the fewest
zeros that make whole blocks of 512 digits, the schedule of a block is a recurrence, and the constants come
from the roots of the first primes. The tag of a sequence of bytes is the tag of its digits, whatever its
length. -/

namespace SessionRecovery.Sha256

open Bits

namespace Standard

/-! ### The laid down hash -/

/-- The parity of three rotations of a word. -/
def mix (x : BitVec 32) (i j k : Nat) : BitVec 32 :=
  x.rotateRight i ^^^ x.rotateRight j ^^^ x.rotateRight k

/-- The parity of two rotations and a shift of a word. -/
def spread (x : BitVec 32) (i j k : Nat) : BitVec 32 :=
  x.rotateRight i ^^^ x.rotateRight j ^^^ x >>> k

/-- Each digit of the first word chooses between those of the others. -/
def choice (x y z : BitVec 32) : BitVec 32 := (x &&& y) ^^^ (~~~x &&& z)

/-- The digits that most of three words have. -/
def majority (x y z : BitVec 32) : BitVec 32 := (x &&& y) ^^^ (x &&& z) ^^^ (y &&& z)

/-- The first sixty-four primes. -/
def primes : List Nat := (List.range 312).filter Nat.Prime

/-- The first thirty-two digits of a root of a number behind its point. -/
def fraction (degree n : Nat) : BitVec 32 :=
  .ofNat 32 (Nat.nthRoot degree (n * 2 ^ (32 * degree)))

/-- The chaining value before the first block, from the square roots of the first eight primes. -/
def start : List (BitVec 32) := (primes.take 8).map (fraction 2)

/-- The constants of the rounds, from the cube roots of the first sixty-four primes. -/
def constants : List (BitVec 32) := primes.map (fraction 3)

/-- The words of a block, and after them each from four earlier ones. -/
def schedule (block : Nat → BitVec 32) (t : Nat) : BitVec 32 :=
  if t < 16 then block t
  else spread (schedule block (t - 2)) 17 19 10 + schedule block (t - 7) +
    spread (schedule block (t - 15)) 7 18 3 + schedule block (t - 16)
termination_by t

/-- One round on the eight working words. -/
def round (k w : BitVec 32) : List (BitVec 32) → List (BitVec 32)
  | [a, b, c, d, e, f, g, h] =>
    let t₁ := h + mix e 6 11 25 + choice e f g + k + w
    let t₂ := mix a 2 13 22 + majority a b c
    [t₁ + t₂, a, b, c, d + t₁, e, f, g]
  | other => other

/-- The chaining value after one more block. -/
def compress (chain : List (BitVec 32)) (block : Nat → BitVec 32) : List (BitVec 32) :=
  chain.zipWith (· + ·)
    ((constants.zip ((List.range 64).map (schedule block))).foldl (fun v kw => round kw.1 kw.2 v) chain)

/-- Some number of zeros fills up a block but for its last sixty-four digits. -/
theorem exists_zeros (length : Nat) : ∃ zeros, (length + 1 + zeros) % 512 = 448 :=
  ⟨(959 - length % 512) % 512, by omega⟩

/-- The least number of zeros that fills up a block but for its last sixty-four digits. -/
def zeros (length : Nat) : Nat := Nat.find (exists_zeros length)

/-- The message, a one, zeros, and the message's length in sixty-four digits. -/
def pad (message : List Bool) : List Bool :=
  message ++ true :: List.replicate (zeros message.length) false ++ digits 64 message.length

/-- The tag of a message: the digits of the chaining value after all blocks of the padded message. -/
def digest (message : List Bool) : List Bool :=
  ((List.range ((pad message).length / 512)).foldl (fun chain i => compress chain fun j =>
    .ofNat 32 (numberAt (pad message) (512 * i + 32 * j) 32)) start).flatMap fun w => digits 32 w.toNat

end Standard

/-- The words of a state. -/
def State.words (s : State) : List (BitVec 32) :=
  [s.a, s.b, s.c, s.d, s.e, s.f, s.g, s.h].map UInt32.toBitVec

/-! ### Words -/

/-- A rotation by less than a word is a rotation of its digits. -/
theorem toBitVec_rotate (x : UInt32) {n : UInt32} (h : 0 < n.toNat ∧ n.toNat < 32) :
    (rotate x n).toBitVec = x.toBitVec.rotateRight n.toNat := by
  have hright : (n.toBitVec % 32).toNat = n.toNat := Nat.mod_eq_of_lt h.2
  have hleft : ((32 - n).toBitVec % 32).toNat = 32 - n.toNat := by
    have hle : n ≤ 32 := UInt32.le_iff_toNat_le.mpr h.2.le
    have hsub : (32 - n).toNat = 32 - n.toNat := UInt32.toNat_sub_of_le _ _ hle
    have hlt : (32 - n).toNat < 32 := by omega
    exact (Nat.mod_eq_of_lt hlt).trans hsub
  rw [rotate, UInt32.toBitVec_or, UInt32.toBitVec_shiftRight, UInt32.toBitVec_shiftLeft,
    BitVec.rotateRight_def, Nat.mod_eq_of_lt h.2, BitVec.ushiftRight_eq', BitVec.shiftLeft_eq',
    hright, hleft]

/-- Three rotations of a word are mixed digit by digit. -/
theorem toBitVec_mix (x : UInt32) {i j k : UInt32} (hi : 0 < i.toNat ∧ i.toNat < 32)
    (hj : 0 < j.toNat ∧ j.toNat < 32) (hk : 0 < k.toNat ∧ k.toNat < 32) :
    (rotate x i ^^^ rotate x j ^^^ rotate x k).toBitVec =
      Standard.mix x.toBitVec i.toNat j.toNat k.toNat := by
  rw [UInt32.toBitVec_xor, UInt32.toBitVec_xor, toBitVec_rotate x hi, toBitVec_rotate x hj,
    toBitVec_rotate x hk, Standard.mix]

/-- Two rotations and a shift of a word are mixed digit by digit. -/
theorem toBitVec_spread (x : UInt32) {i j k : UInt32} (hi : 0 < i.toNat ∧ i.toNat < 32)
    (hj : 0 < j.toNat ∧ j.toNat < 32) (hk : k.toNat < 32) :
    (rotate x i ^^^ rotate x j ^^^ (x >>> k)).toBitVec =
      Standard.spread x.toBitVec i.toNat j.toNat k.toNat := by
  have hshift : (k.toBitVec % 32).toNat = k.toNat := Nat.mod_eq_of_lt hk
  rw [UInt32.toBitVec_xor, UInt32.toBitVec_xor, toBitVec_rotate x hi, toBitVec_rotate x hj,
    UInt32.toBitVec_shiftRight, BitVec.ushiftRight_eq', hshift, Standard.spread]

/-- The mix of the first working word. -/
theorem toBitVec_mixFirst (x : UInt32) :
    (mixFirst x).toBitVec = Standard.mix x.toBitVec 2 13 22 :=
  toBitVec_mix x (by decide) (by decide) (by decide)

/-- The mix of the fifth working word. -/
theorem toBitVec_mixFifth (x : UInt32) :
    (mixFifth x).toBitVec = Standard.mix x.toBitVec 6 11 25 :=
  toBitVec_mix x (by decide) (by decide) (by decide)

/-- The spread of the older word of the schedule. -/
theorem toBitVec_spreadOld (x : UInt32) :
    (spreadOld x).toBitVec = Standard.spread x.toBitVec 7 18 3 :=
  toBitVec_spread x (by decide) (by decide) (by decide)

/-- The spread of the newer word of the schedule. -/
theorem toBitVec_spreadNew (x : UInt32) :
    (spreadNew x).toBitVec = Standard.spread x.toBitVec 17 19 10 :=
  toBitVec_spread x (by decide) (by decide) (by decide)

/-- Primes are found by their least factors. -/
theorem Standard.primes_eq :
    primes = (List.range 312).filter fun n => 2 ≤ n ∧ n.minFac = n :=
  List.filter_congr fun _ _ => decide_eq_decide.mpr Nat.prime_def_minFac

/-- The constants that are listed are those of the roots. -/
theorem map_roundConstants : roundConstants.map UInt32.toBitVec = Standard.constants := by
  rw [Standard.constants, Standard.primes_eq]
  decide +kernel

/-- The state that is listed is that of the roots. -/
theorem words_start : State.start.words = Standard.start := by
  rw [Standard.start, Standard.primes_eq]
  decide +kernel

/-! ### Blocks -/

/-- Sixteen words of the schedule in succession. -/
def window (block : Nat → BitVec 32) (first : Nat) : List UInt32 :=
  (List.range 16).map fun j => .ofBitVec (Standard.schedule block (first + j))

/-- After the words of the block, each word of the schedule comes from the sixteen before it. -/
theorem schedule_add_sixteen (block : Nat → BitVec 32) (t : Nat) :
    Standard.schedule block (t + 16) = Standard.spread (Standard.schedule block (t + 14)) 17 19 10 +
      Standard.schedule block (t + 9) + Standard.spread (Standard.schedule block (t + 1)) 7 18 3 +
      Standard.schedule block t := by
  rw [Standard.schedule, if_neg (by omega)]
  rfl

/-- The next word moves the window on. -/
theorem window_succ (block : Nat → BitVec 32) (first : Nat) :
    (window block first).drop 1 ++ [.ofBitVec (Standard.schedule block (first + 16))] =
      window block (first + 1) := by
  have hmove (j : Nat) : first + 1 + j = first + (j + 1) := by omega
  simp only [window, hmove]
  rfl

/-- Extending a window gives the words of the schedule from its first one on. -/
theorem extend_window (block : Nat → BitVec 32) (count first : Nat) :
    extend count (window block first) =
      (List.range count).map fun t => .ofBitVec (Standard.schedule block (first + t)) := by
  induction count generalizing first with
  | zero => rfl
  | succ count ih =>
    have hnext : spreadNew (.ofBitVec (Standard.schedule block (first + 14))) +
        .ofBitVec (Standard.schedule block (first + 9)) +
        spreadOld (.ofBitVec (Standard.schedule block (first + 1))) +
        .ofBitVec (Standard.schedule block first) =
        .ofBitVec (Standard.schedule block (first + 16)) := by
      rw [← UInt32.toBitVec_inj, UInt32.toBitVec_add, UInt32.toBitVec_add, UInt32.toBitVec_add,
        toBitVec_spreadNew, toBitVec_spreadOld, schedule_add_sixteen]
    have hmove (t : Nat) : first + 1 + t = first + (t + 1) := by omega
    have hstep : extend (count + 1) (window block first) =
        .ofBitVec (Standard.schedule block first) :: extend count (window block (first + 1)) := by
      rw [← window_succ, ← hnext]
      rfl
    rw [hstep, ih, List.range_succ_eq_map, List.map_cons, List.map_map]
    simp only [hmove]
    rfl

/-- A block drives its rounds with the words of its schedule. -/
theorem map_schedule (block : Nat → BitVec 32) :
    (schedule ((List.range 16).map fun j => .ofBitVec (block j))).map UInt32.toBitVec =
      (List.range 64).map (Standard.schedule block) := by
  have hfirst : (List.range 16).map (fun j => UInt32.ofBitVec (block j)) = window block 0 := by
    refine List.map_congr_left fun j hj => ?_
    rw [Nat.zero_add, Standard.schedule, if_pos (List.mem_range.mp hj)]
  rw [schedule, hfirst, extend_window, List.map_map]
  simp only [Nat.zero_add]
  rfl

/-- One round changes the words of the state as it is laid down. -/
theorem words_round (s : State) (k w : UInt32) :
    (round s k w).words = Standard.round k.toBitVec w.toBitVec s.words := by
  simp only [round, State.words, List.map_cons, List.map_nil, UInt32.toBitVec_add, UInt32.toBitVec_xor,
    UInt32.toBitVec_and, UInt32.toBitVec_not, toBitVec_mixFirst, toBitVec_mixFifth]
  rfl

/-- One block changes the words of the state as it is laid down. -/
theorem words_compress (s : State) (block : Nat → BitVec 32) :
    (compress s ((List.range 16).map fun j => .ofBitVec (block j))).words =
      Standard.compress s.words block := by
  have hrounds : ((roundConstants.zip (schedule ((List.range 16).map fun j =>
      .ofBitVec (block j)))).foldl (fun t kw => round t kw.1 kw.2) s).words =
      (Standard.constants.zip ((List.range 64).map (Standard.schedule block))).foldl
        (fun v kw => Standard.round kw.1 kw.2 v) s.words := by
    rw [← map_roundConstants, ← map_schedule, List.zip_map, List.foldl_map]
    exact (List.foldl_hom State.words fun t kw => (words_round t kw.1 kw.2).symm).symm
  rw [Standard.compress, ← hrounds]
  rfl

/-- All blocks change the words of the state as it is laid down. -/
theorem words_absorb (count : Nat) (s : State) {ws : List UInt32} (h : 16 * count ≤ ws.length) :
    (absorb count s ws).words = (List.range count).foldl (fun chain i =>
      Standard.compress chain fun j => (ws.getD (16 * i + j) 0).toBitVec) s.words := by
  induction count generalizing s ws with
  | zero => rfl
  | succ count ih =>
    have hblock : ws.take 16 = (List.range 16).map fun j => .ofBitVec (ws.getD j 0).toBitVec := by
      refine List.ext_getElem (by simp; omega) fun j hj _ => ?_
      rw [List.getElem_take, List.getElem_map, List.getElem_range, List.getD_eq_getElem]
    have hplace (i j : Nat) : (ws.drop 16).getD (16 * i + j) 0 = ws.getD (16 * (i + 1) + j) 0 := by
      rw [List.getD_eq_getElem?_getD, List.getElem?_drop, List.getD_eq_getElem?_getD]
      congr 2
      omega
    rw [absorb, ih _ (by rw [List.length_drop]; omega), hblock, words_compress,
      List.range_succ_eq_map, List.foldl_cons, List.foldl_map]
    simp only [hplace, Nat.mul_zero, Nat.zero_add, Nat.succ_eq_add_one]

/-! ### Words and bytes -/

/-- A byte keeps its value at any of the four places of a word. -/
theorem toNat_placed (b : UInt8) {k : UInt32} (hk : k.toNat ≤ 24) :
    (b.toUInt32 <<< k).toNat = b.toNat * 2 ^ k.toNat := by
  have hpow : 2 ^ k.toNat ≤ 2 ^ 24 := Nat.pow_le_pow_right Nat.two_pos hk
  have hfits : b.toNat * 2 ^ k.toNat < 2 ^ 32 := by
    have hb := Nat.mul_le_mul (Nat.le_of_lt_succ b.toNat_lt) hpow
    omega
  have hplace : k.toNat % 32 = k.toNat := Nat.mod_eq_of_lt (by omega)
  rw [UInt32.toNat_shiftLeft, UInt8.toNat_toUInt32, hplace, Nat.shiftLeft_eq, Nat.mod_eq_of_lt hfits]

/-- A word is spelled by its four bytes. -/
theorem toNat_word (a b c d : UInt8) :
    (word a b c d).toNat = ((a.toNat * 2 ^ 8 + b.toNat) * 2 ^ 8 + c.toNat) * 2 ^ 8 + d.toNat := by
  have hb := b.toNat_lt
  have hc := c.toNat_lt
  have hd := d.toNat_lt
  -- what stands below a byte fits into the digits that its place leaves free
  have hlow : c.toNat * 2 ^ 8 ||| d.toNat = c.toNat * 2 ^ 8 + d.toNat := by
    rw [← Nat.shiftLeft_eq, Nat.shiftLeft_add_eq_or_of_lt hd]
  have hmiddle : b.toNat * 2 ^ 16 ||| (c.toNat * 2 ^ 8 + d.toNat) =
      b.toNat * 2 ^ 16 + (c.toNat * 2 ^ 8 + d.toNat) := by
    rw [← Nat.shiftLeft_eq, Nat.shiftLeft_add_eq_or_of_lt (by omega)]
  have hhigh : a.toNat * 2 ^ 24 ||| (b.toNat * 2 ^ 16 + (c.toNat * 2 ^ 8 + d.toNat)) =
      a.toNat * 2 ^ 24 + (b.toNat * 2 ^ 16 + (c.toNat * 2 ^ 8 + d.toNat)) := by
    rw [← Nat.shiftLeft_eq, Nat.shiftLeft_add_eq_or_of_lt (by omega)]
  have hword : (word a b c d).toNat =
      a.toNat * 2 ^ 24 ||| (b.toNat * 2 ^ 16 ||| (c.toNat * 2 ^ 8 ||| d.toNat)) := by
    rw [word, UInt32.toNat_or, UInt32.toNat_or, UInt32.toNat_or, toNat_placed a (by decide),
      toNat_placed b (by decide), toNat_placed c (by decide), UInt8.toNat_toUInt32, Nat.or_assoc,
      Nat.or_assoc]
    rfl
  rw [hword, hlow, hmiddle, hhigh]
  omega

/-- The words of a sequence of bytes have its digits, where no byte is left over. -/
theorem flatMap_words {bs : Bytes} (h : bs.length % 4 = 0) :
    (words bs).flatMap (fun w => digits 32 w.toNat) = ofBytes bs := by
  induction bs using words.induct with
  | case1 a b c d rest ih =>
    have hrest : rest.length % 4 = 0 := by
      simp only [List.length_cons] at h
      omega
    rw [words, List.flatMap_cons, ih hrest, toNat_word, digits_mul_add 24 _ d.toNat_lt,
      digits_mul_add 16 _ c.toNat_lt, digits_mul_add 8 _ b.toNat_lt]
    simp only [ofBytes_cons, List.append_assoc]
  | case2 bs hshort =>
    -- fewer than four bytes make no word, so there are none
    rcases bs with _ | ⟨a, _ | ⟨b, _ | ⟨c, _ | ⟨d, rest⟩⟩⟩⟩
    · rfl
    · cases h
    · cases h
    · cases h
    · exact absurd rfl (hshort a b c d rest)

/-- Every four bytes make a word. -/
theorem length_words {bs : Bytes} (h : bs.length % 4 = 0) : 4 * (words bs).length = bs.length := by
  have hbits := length_flatMap_of_width (fun w : UInt32 => length_digits 32 w.toNat) (words bs)
  rw [flatMap_words h, length_ofBytes] at hbits
  omega

/-- The words of a string stand at the places of their own digits, and behind the last one there is zero. -/
theorem numberAt_words (ws : List UInt32) (i : Nat) :
    numberAt (ws.flatMap fun w => digits 32 w.toNat) (32 * i) 32 = (ws.getD i 0).toNat := by
  rw [numberAt]
  by_cases hi : i < ws.length
  · have hfits : ws[i].toNat < 2 ^ 32 := ws[i].toNat_lt
    rw [take_drop_flatMap (fun w : UInt32 => length_digits 32 w.toNat) ws hi, value_digits,
      List.getD_eq_getElem _ _ hi, Nat.mod_eq_of_lt hfits]
  · have hlength := length_flatMap_of_width (fun w : UInt32 => length_digits 32 w.toNat) ws
    rw [List.drop_eq_nil_of_le (by omega), List.getD_eq_default _ _ (by omega)]
    rfl

/-- The bytes of a word have its digits. -/
theorem ofBytes_wordBytes (w : UInt32) : ofBytes (wordBytes w) = digits 32 w.toNat := by
  have hbyte (k : UInt32) :
      digits 8 (w >>> k).toUInt8.toNat = digits 8 (w.toNat / 2 ^ (k.toNat % 32)) := by
    rw [UInt32.toNat_toUInt8, UInt32.toNat_shiftRight, Nat.shiftRight_eq_div_pow]
    exact digits_mod 8 _
  have hlast : digits 8 w.toUInt8.toNat = digits 8 w.toNat := digits_mod 8 _
  rw [wordBytes, ofBytes_cons, ofBytes_cons, ofBytes_cons, ofBytes_cons, hbyte, hbyte, hbyte, hlast,
    ofBytes_nil, List.append_nil, digits_add 8 24, digits_add 8 16, digits_add 8 8]
  rfl

/-- The bytes of a length have its lowest sixty-four digits. -/
theorem ofBytes_lengthBytes (n : Nat) : ofBytes (lengthBytes n) = digits 64 n := by
  have hword (m : Nat) : digits 32 m.toUInt32.toNat = digits 32 m := digits_mod 32 m
  rw [lengthBytes, ofBytes_append, ofBytes_wordBytes, ofBytes_wordBytes, hword, hword]
  exact (digits_add 32 32 n).symm

/-! ### Messages of bytes -/

/-- A message of whole bytes is filled up with whole zero bytes behind the byte that has the one. -/
theorem zeros_of_bytes (count : Nat) :
    Standard.zeros (8 * count) = 7 + 8 * ((119 - count % 64) % 64) := by
  rw [Standard.zeros, Nat.find_eq_iff]
  exact ⟨by omega, fun fewer _ => by omega⟩

/-- Padding bytes pads their digits. -/
theorem ofBytes_pad (message : Bytes) : ofBytes (pad message) = Standard.pad (ofBytes message) := by
  have hone : digits 8 (0x80 : UInt8).toNat = true :: List.replicate 7 false := by decide
  rw [pad, ofBytes_append, ofBytes_append, ofBytes_cons, hone, ofBytes_zeros, ofBytes_lengthBytes,
    List.cons_append, List.replicate_append_replicate, Standard.pad, length_ofBytes, zeros_of_bytes]

/-- A padded message consists of whole blocks. -/
theorem length_pad (message : Bytes) : (pad message).length % 64 = 0 := by
  have hlast : (lengthBytes (8 * message.length)).length = 8 := rfl
  rw [pad, List.length_append, List.length_append, List.length_cons, List.length_replicate, hlast]
  omega

/-- The bytes of a state have the digits of its words. -/
theorem ofBytes_bytes (s : State) : ofBytes s.bytes = s.words.flatMap fun w => digits 32 w.toNat := by
  simp only [State.bytes, List.flatMap_cons, List.flatMap_nil, ofBytes_append, ofBytes_wordBytes, ofBytes_nil]
  rfl

/-- The tag of a sequence of bytes is the tag of its digits. -/
theorem ofBytes_digest (message : Bytes) :
    ofBytes (digest message) = Standard.digest (ofBytes message) := by
  have hwhole := length_pad message
  have hwords : (words (pad message)).flatMap (fun w => digits 32 w.toNat) =
      Standard.pad (ofBytes message) := by
    rw [flatMap_words (by omega), ofBytes_pad]
  have hcount : (words (pad message)).length / 16 = (Standard.pad (ofBytes message)).length / 512 := by
    have hlength : 4 * (words (pad message)).length = (pad message).length := length_words (by omega)
    rw [← ofBytes_pad, length_ofBytes]
    omega
  have hblock (i j : Nat) : BitVec.ofNat 32 (numberAt (Standard.pad (ofBytes message)) (512 * i + 32 * j) 32) =
      ((words (pad message)).getD (16 * i + j) 0).toBitVec := by
    have hplace : 512 * i + 32 * j = 32 * (16 * i + j) := by omega
    rw [hplace, ← hwords, numberAt_words, ← UInt32.toNat_toBitVec, BitVec.ofNat_toNat, BitVec.setWidth_eq]
  rw [digest, ofBytes_bytes, words_absorb _ _ (by omega), hcount, words_start, Standard.digest]
  simp only [hblock]

end SessionRecovery.Sha256

/-! ## Keyed tags of digit strings

The keyed tag as it is laid down over the hash of digit strings: the key fills one block of 512 digits, where a
longer one is hashed first, and the hash is taken twice, each time under the block combined with one byte
repeated. The keyed tag of bytes is that of their digits, for keys and messages of any length. -/

namespace SessionRecovery.Hmac

open Bits

namespace Standard

/-- A block of one byte repeated. -/
def mask (m : Nat) : List Bool := (List.replicate 64 (digits 8 m)).flatten

/-- The key as one block: itself, or its tag where it is longer than a block, and zeros behind it. -/
def keyBlock (key : List Bool) : List Bool :=
  let short := if 512 < key.length then Sha256.Standard.digest key else key
  short ++ List.replicate (512 - short.length) false

/-- The tag of a message under a key. -/
def tag (key message : List Bool) : List Bool :=
  Sha256.Standard.digest (List.zipWith xor (keyBlock key) (mask 0x5c) ++
    Sha256.Standard.digest (List.zipWith xor (keyBlock key) (mask 0x36) ++ message))

end Standard

/-- A key becomes one block, however long it is. -/
theorem length_keyBlock (key : Bytes) : (keyBlock key).length = blockSize := by
  rw [keyBlock]
  split
  · rw [List.length_append, List.length_replicate, Sha256.length_digest]
    rfl
  · next hshort =>
    rw [List.length_append, List.length_replicate]
    omega

/-- The block of a key is the block of its digits. -/
theorem ofBytes_keyBlock (key : Bytes) :
    ofBytes (keyBlock key) = Standard.keyBlock (ofBytes key) := by
  have hfill (short : Bytes) : ofBytes (short ++ List.replicate (blockSize - short.length) 0) =
      ofBytes short ++ List.replicate (512 - (ofBytes short).length) false := by
    have hzeros : 8 * (blockSize - short.length) = 512 - 8 * short.length := by
      rw [blockSize]
      omega
    rw [ofBytes_append, ofBytes_zeros, length_ofBytes, hzeros]
  have hlong : 512 < (ofBytes key).length ↔ key.length > blockSize := by
    rw [length_ofBytes, blockSize]
    omega
  rw [keyBlock, hfill, Standard.keyBlock]
  by_cases h : key.length > blockSize
  · rw [if_pos h, if_pos (hlong.mpr h), Sha256.ofBytes_digest]
  · rw [if_neg h, if_neg (mt hlong.mp h)]

/-- Combining bytes with one byte combines their digits with its digits, again and again. -/
theorem ofBytes_mask (block : Bytes) (m : UInt8) : ofBytes (mask block m) =
    List.zipWith xor (ofBytes block) (List.replicate block.length (digits 8 m.toNat)).flatten := by
  induction block with
  | nil => rfl
  | cons b rest ih =>
    have hfirst : digits 8 (b ^^^ m).toNat = List.zipWith xor (digits 8 b.toNat) (digits 8 m.toNat) := by
      rw [UInt8.toNat_xor, digits_xor]
    have hwidth : (digits 8 b.toNat).length = (digits 8 m.toNat).length := by
      rw [length_digits, length_digits]
    have hmask : mask (b :: rest) m = (b ^^^ m) :: mask rest m := rfl
    rw [hmask, ofBytes_cons, ih, hfirst, ofBytes_cons, List.length_cons, List.replicate_succ,
      List.flatten_cons, List.zipWith_append hwidth]

/-- The keyed tag of a sequence of bytes is the keyed tag of its digits. -/
theorem ofBytes_tag (key message : Bytes) :
    ofBytes (tag key message) = Standard.tag (ofBytes key) (ofBytes message) := by
  have hblock (m : UInt8) : ofBytes (mask (keyBlock key) m) =
      List.zipWith xor (Standard.keyBlock (ofBytes key)) (Standard.mask m.toNat) := by
    rw [ofBytes_mask, ofBytes_keyBlock, length_keyBlock]
    rfl
  rw [tag, Sha256.ofBytes_digest, ofBytes_append, hblock, Sha256.ofBytes_digest, ofBytes_append, hblock]
  rfl

/-- Every keyed tag has thirty-two bytes. -/
theorem length_tag (key message : Bytes) : (tag key message).length = 32 := Sha256.length_digest _

end SessionRecovery.Hmac
