import Mathlib.Data.List.GetD
import SessionRecovery.Digest
import SessionRecovery.Proofs.Digest.Bits

/-!
# Base64 of digit strings

The text as it is laid down for any digit string: zeros fill up the last six digits, every six digits are one
character of the alphabet, and equals signs fill up the last four characters. The text of bytes is that of their
digits, and it is the only text that is read as these bytes.
-/

namespace SessionRecovery.Base64

open Bits

namespace Standard

/-- The sixty-four characters, each at the place of the number that it stands for. -/
def alphabet : List Char :=
  "ABCDEFGHIJKLMNOPQRSTUVWXYZabcdefghijklmnopqrstuvwxyz0123456789+/".toList

/-- The digits with zeros behind them, so that none of six is missing. -/
def filled (ds : List Bool) : List Bool :=
  ds ++ List.replicate ((6 - ds.length % 6) % 6) false

/-- The characters of the digits, six for each. -/
def symbols (ds : List Bool) : List Char :=
  (List.range ((filled ds).length / 6)).map fun i => alphabet.getD (numberAt (filled ds) (6 * i) 6) '='

/-- The characters of the digits, with equals signs behind them, so that none of four is missing. -/
def text (ds : List Bool) : List Char :=
  symbols ds ++ List.replicate ((4 - (symbols ds).length % 4) % 4) '='

end Standard

variable {bs : Bytes} {cs : List Char}

/-! ## Characters -/

theorem alphabet_eq : Standard.alphabet = (List.range 64).map symbol := by decide

/-- The characters of the alphabet stand for the numbers of their places. -/
theorem getD_alphabet (m : Nat) : Standard.alphabet.getD (m % 64) '=' = symbol (m % 64) := by
  have hm : m % 64 < 64 := Nat.mod_lt m (by decide)
  rw [alphabet_eq, List.getD_eq_getElem _ _ (by simpa using hm), List.getElem_map, List.getElem_range]

theorem symbol_mem (m : Nat) : symbol (m % 64) ∈ Standard.alphabet := by
  rw [alphabet_eq]
  exact List.mem_map_of_mem (List.mem_range.mpr (Nat.mod_lt m (by decide)))

/-! ## Writing -/

/-- Whole groups of six digits in front leave as many missing behind. -/
theorem filled_append {ds rest : List Bool} (h : ds.length % 6 = 0) :
    Standard.filled (ds ++ rest) = ds ++ Standard.filled rest := by
  have hmissing : (ds ++ rest).length % 6 = rest.length % 6 := by
    rw [List.length_append]
    omega
  rw [Standard.filled, Standard.filled, hmissing, List.append_assoc]

/-- Zeros are put where digits are missing. -/
theorem filled_eq {ds : List Bool} (missing : Nat) (hlt : missing < 6)
    (h : (ds.length + missing) % 6 = 0) : Standard.filled ds = ds ++ digits missing 0 := by
  have hcount : (6 - ds.length % 6) % 6 = missing := by omega
  rw [Standard.filled, hcount, digits_zero]

/-- Digits that were written six by six are read six by six. -/
theorem symbols_of_filled {ds : List Bool} {ms : List Nat}
    (h : Standard.filled ds = ms.flatMap (digits 6)) :
    Standard.symbols ds = ms.map fun m => symbol (m % 64) := by
  have hlength : (Standard.filled ds).length / 6 = ms.length := by
    rw [h, length_flatMap_of_width (length_digits 6)]
    omega
  rw [Standard.symbols, hlength]
  refine List.ext_getElem (by simp) fun i hi hi' => ?_
  have hplace : i < ms.length := by simpa using hi
  rw [List.getElem_map, List.getElem_range, List.getElem_map, h, numberAt,
    take_drop_flatMap (length_digits 6) ms hplace, value_digits]
  exact getD_alphabet _

/-- The text of bytes shows their digits six by six, and equals signs behind them. -/
theorem exists_sextets (bs : Bytes) : ∃ ms : List Nat,
    Standard.filled (ofBytes bs) = ms.flatMap (digits 6) ∧
      encode bs = ms.map (fun m => symbol (m % 64)) ++ List.replicate ((4 - ms.length % 4) % 4) '=' := by
  -- the digits of a group are those of one number, which is cut anew into sixes
  induction bs using encode.induct with
  | case1 => exact ⟨[], rfl, rfl⟩
  | case2 a =>
    have ha := a.toNat_lt
    refine ⟨[a.toNat * 16 / 64, a.toNat * 16], ?_, ?_⟩
    · have hzeros : Standard.filled (ofBytes [a]) = digits 8 a.toNat ++ digits 4 0 := by
        rw [filled_eq 4 (by decide) (by rw [length_ofBytes, List.length_singleton]),
          ofBytes_cons, ofBytes_nil, List.append_nil]
      rw [hzeros, ← digits_mul_add 8 a.toNat (Nat.two_pow_pos 4), Nat.add_zero, digits_add 6 6]
      rfl
    · have hfirst : a.toNat * 16 / 64 % 64 = a.toNat * 16 / 64 := by omega
      rw [List.map_cons, hfirst]
      rfl
  | case3 a b =>
    have ha := a.toNat_lt
    have hb := b.toNat_lt
    obtain ⟨n, hn⟩ : ∃ n, (a.toNat * 256 + b.toNat) * 4 = n := ⟨_, rfl⟩
    refine ⟨[n / 4096, n / 64, n], ?_, ?_⟩
    · have hzeros : Standard.filled (ofBytes [a, b]) =
          digits 8 a.toNat ++ digits 8 b.toNat ++ digits 2 0 := by
        rw [filled_eq 2 (by decide) (by rw [length_ofBytes, List.length_cons,
          List.length_singleton]), ofBytes_cons, ofBytes_cons, ofBytes_nil, List.append_nil]
      rw [hzeros, ← digits_mul_add 8 a.toNat hb, ← digits_mul_add 16 _ (Nat.two_pow_pos 2),
        Nat.add_zero, digits_add 6 12, digits_add 6 6, ← hn]
      rfl
    · have hfirst : n / 4096 % 64 = n / 4096 := by omega
      rw [List.map_cons, hfirst, encode, hn]
      rfl
  | case4 a b c rest ih =>
    have ha := a.toNat_lt
    have hb := b.toNat_lt
    have hc := c.toNat_lt
    obtain ⟨ms, hfilled, htext⟩ := ih
    obtain ⟨n, hn⟩ : ∃ n, (a.toNat * 256 + b.toNat) * 256 + c.toNat = n := ⟨_, rfl⟩
    refine ⟨[n / 262144, n / 4096, n / 64, n] ++ ms, ?_, ?_⟩
    · have hgroup : ofBytes (a :: b :: c :: rest) = digits 24 n ++ ofBytes rest := by
        rw [ofBytes_cons, ofBytes_cons, ofBytes_cons, ← List.append_assoc, ← digits_mul_add 8 _ hb,
          ← List.append_assoc, ← digits_mul_add 16 _ hc, ← hn]
        rfl
      rw [hgroup, filled_append (by rw [length_digits]), hfilled, digits_add 6 18, digits_add 6 12,
        digits_add 6 6, List.flatMap_append]
      rfl
    · have hfirst : n / 262144 % 64 = n / 262144 := by omega
      have hlength : ([n / 262144, n / 4096, n / 64, n] ++ ms).length % 4 = ms.length % 4 := by
        rw [List.length_append]
        exact Nat.add_mod_left 4 ms.length
      rw [encode, hn, htext, hlength, List.map_append, List.map_cons, hfirst]
      rfl

/-- The text of bytes is the text of their digits. -/
theorem text_ofBytes (bs : Bytes) : Standard.text (ofBytes bs) = encode bs := by
  obtain ⟨ms, hfilled, htext⟩ := exists_sextets bs
  rw [Standard.text, symbols_of_filled hfilled, List.length_map, htext]

/-- The text of bytes: one character of the alphabet for every six of their digits or fewer, and equals signs
that fill up the last four characters. -/
theorem exists_symbols (bs : Bytes) : ∃ symbols : List Char, symbols.length = (8 * bs.length + 5) / 6 ∧
    (∀ ch ∈ symbols, ch ∈ Standard.alphabet) ∧
      encode bs = symbols ++ List.replicate ((4 - symbols.length % 4) % 4) '=' := by
  obtain ⟨ms, hfilled, htext⟩ := exists_sextets bs
  have hlength : 6 * ms.length = (Standard.filled (ofBytes bs)).length := by
    rw [hfilled, length_flatMap_of_width (length_digits 6)]
  rw [Standard.filled, List.length_append, List.length_replicate, length_ofBytes] at hlength
  refine ⟨ms.map fun m => symbol (m % 64), ?_, ?_, ?_⟩
  · rw [List.length_map]
    omega
  · intro ch hch
    obtain ⟨m, -, rfl⟩ := List.mem_map.mp hch
    exact symbol_mem m
  · rw [List.length_map, htext]

/-! ## Reading -/

/-- Every character of the alphabet is read as its number. -/
theorem value?_symbol : ∀ n < 64, value? (symbol n) = some n := by decide

/-- A character that is read stands for its number. -/
theorem symbol_of_value? {ch : Char} {n : Nat} (h : value? ch = some n) : n < 64 ∧ symbol n = ch := by
  have hback {m : Nat} (hm : m = ch.toNat) : Char.ofNat m = ch := by rw [hm, Char.ofNat_toNat]
  have hle {c d : Char} : c ≤ d ↔ c.toNat ≤ d.toNat := UInt32.le_iff_toNat_le
  have hcodes : 'A'.toNat = 65 ∧ 'Z'.toNat = 90 ∧ 'a'.toNat = 97 ∧ 'z'.toNat = 122 ∧ '0'.toNat = 48 ∧
    '9'.toNat = 57 := by decide
  simp only [value?, hle, hcodes] at h
  rw [symbol]
  split at h
  · obtain rfl := Option.some.inj h
    rw [if_pos (by omega), hback (by omega)]
    exact ⟨by omega, rfl⟩
  split at h
  · obtain rfl := Option.some.inj h
    rw [if_neg (by omega), if_pos (by omega), hback (by omega)]
    exact ⟨by omega, rfl⟩
  split at h
  · obtain rfl := Option.some.inj h
    rw [if_neg (by omega), if_neg (by omega), if_pos (by omega), hback (by omega)]
    exact ⟨by omega, rfl⟩
  split at h
  · next hplus =>
    obtain rfl := Option.some.inj h
    exact ⟨by decide, hplus.symm⟩
  split at h
  · next hslash =>
    obtain rfl := Option.some.inj h
    exact ⟨by decide, hslash.symm⟩
  · cases h

/-- The equals sign stands for no number. -/
theorem symbol_ne {n : Nat} (h : n < 64) : symbol n ≠ '=' := by
  intro heq
  have hread := value?_symbol n h
  rw [heq] at hread
  cases hread

/-- A number is cut down to a byte. -/
theorem toUInt8_eq {n : Nat} {b : UInt8} (h : n % 256 = b.toNat) : n.toUInt8 = b :=
  UInt8.toNat_inj.mp (UInt8.toNat_ofNat'.trans h)

/-- What was written is read back. -/
theorem decode_encode (bs : Bytes) : decode (encode bs) = some bs := by
  induction bs using encode.induct with
  | case1 => rfl
  | case2 a =>
    have ha := a.toNat_lt
    obtain ⟨n, hn⟩ : ∃ n, a.toNat * 16 = n := ⟨_, rfl⟩
    have hp := value?_symbol (n / 64) (by omega)
    have hq := value?_symbol (n % 64) (by omega)
    have hnumber : n / 64 * 64 + n % 64 = n := by omega
    have hfirst : (n / 16).toUInt8 = a := toUInt8_eq (by omega)
    simp only [encode, hn, decode, hp, hq, Option.bind_eq_bind, Option.bind_some, hnumber]
    rw [if_pos (by omega), hfirst]
  | case3 a b =>
    have ha := a.toNat_lt
    have hb := b.toNat_lt
    obtain ⟨n, hn⟩ : ∃ n, (a.toNat * 256 + b.toNat) * 4 = n := ⟨_, rfl⟩
    have hp := value?_symbol (n / 4096) (by omega)
    have hq := value?_symbol (n / 64 % 64) (by omega)
    have hr := value?_symbol (n % 64) (by omega)
    have hnumber : (n / 4096 * 64 + n / 64 % 64) * 64 + n % 64 = n := by omega
    have hfirst : (n / 1024).toUInt8 = a := toUInt8_eq (by omega)
    have hsecond : (n / 4).toUInt8 = b := toUInt8_eq (by omega)
    rw [encode, hn, decode.eq_3 _ _ _ (symbol_ne (by omega))]
    simp only [hp, hq, hr, Option.bind_eq_bind, Option.bind_some, hnumber]
    rw [if_pos (by omega), hfirst, hsecond]
  | case4 a b c rest ih =>
    have ha := a.toNat_lt
    have hb := b.toNat_lt
    have hc := c.toNat_lt
    obtain ⟨n, hn⟩ : ∃ n, (a.toNat * 256 + b.toNat) * 256 + c.toNat = n := ⟨_, rfl⟩
    have hp := value?_symbol (n / 262144) (by omega)
    have hq := value?_symbol (n / 4096 % 64) (by omega)
    have hr := value?_symbol (n / 64 % 64) (by omega)
    have hs := value?_symbol (n % 64) (by omega)
    have hnumber : ((n / 262144 * 64 + n / 4096 % 64) * 64 + n / 64 % 64) * 64 + n % 64 = n := by omega
    have hfirst : (n / 65536).toUInt8 = a := toUInt8_eq (by omega)
    have hsecond : (n / 256).toUInt8 = b := toUInt8_eq (by omega)
    have hthird : n.toUInt8 = c := toUInt8_eq (by omega)
    -- the last character is no equals sign, so this is not read as a last group
    have hlast : symbol (n % 64) ≠ '=' := symbol_ne (by omega)
    rw [encode, hn, decode.eq_4 _ _ _ _ _ (fun _ h _ => hlast h) (fun h _ => hlast h)]
    simp only [hp, hq, hr, hs, ih, Option.bind_eq_bind, Option.bind_some, hnumber, hfirst, hsecond, hthird]

/-- Whatever is read was written. -/
theorem encode_of_decode (h : decode cs = some bs) : encode bs = cs := by
  induction cs using decode.induct generalizing bs with
  | case1 =>
    obtain rfl := Option.some.inj h
    rfl
  | case2 p q =>
    simp only [decode, Option.bind_eq_bind, Option.bind_eq_some_iff] at h
    obtain ⟨m, hm, k, hk, h⟩ := h
    obtain ⟨hm, rfl⟩ := symbol_of_value? hm
    obtain ⟨hk, rfl⟩ := symbol_of_value? hk
    split at h
    · next hwhole =>
      obtain rfl := Option.some.inj h
      have hbyte : ((m * 64 + k) / 16).toUInt8.toNat = (m * 64 + k) / 16 :=
        UInt8.toNat_ofNat'.trans (Nat.mod_eq_of_lt (by omega))
      have hp : (m * 64 + k) / 16 * 16 / 64 = m := by omega
      have hq : (m * 64 + k) / 16 * 16 % 64 = k := by omega
      simp only [encode, hbyte, hp, hq]
    · cases h
  | case3 p q r hr =>
    rw [decode.eq_3 _ _ _ hr] at h
    simp only [Option.bind_eq_bind, Option.bind_eq_some_iff] at h
    obtain ⟨m, hm, k, hk, l, hl, h⟩ := h
    obtain ⟨hm, rfl⟩ := symbol_of_value? hm
    obtain ⟨hk, rfl⟩ := symbol_of_value? hk
    obtain ⟨hl, rfl⟩ := symbol_of_value? hl
    split at h
    · next hwhole =>
      obtain rfl := Option.some.inj h
      obtain ⟨n, hn⟩ : ∃ n, (m * 64 + k) * 64 + l = n := ⟨_, rfl⟩
      have hfirst : (n / 1024).toUInt8.toNat = n / 1024 % 256 := UInt8.toNat_ofNat'
      have hsecond : (n / 4).toUInt8.toNat = n / 4 % 256 := UInt8.toNat_ofNat'
      have hnumber : (n / 1024 % 256 * 256 + n / 4 % 256) * 4 = n := by omega
      have hp : n / 4096 = m := by omega
      have hq : n / 64 % 64 = k := by omega
      have hr : n % 64 = l := by omega
      simp only [hn, encode, hfirst, hsecond, hnumber, hp, hq, hr]
    · cases h
  | case4 p q r s rest hr hs ih =>
    rw [decode.eq_4 _ _ _ _ _ hr hs] at h
    simp only [Option.bind_eq_bind, Option.bind_eq_some_iff] at h
    obtain ⟨m, hm, k, hk, l, hl, j, hj, bs', hbs, h⟩ := h
    obtain ⟨hm, rfl⟩ := symbol_of_value? hm
    obtain ⟨hk, rfl⟩ := symbol_of_value? hk
    obtain ⟨hl, rfl⟩ := symbol_of_value? hl
    obtain ⟨hj, rfl⟩ := symbol_of_value? hj
    obtain rfl := Option.some.inj h
    obtain ⟨n, hn⟩ : ∃ n, ((m * 64 + k) * 64 + l) * 64 + j = n := ⟨_, rfl⟩
    have hfirst : (n / 65536).toUInt8.toNat = n / 65536 % 256 := UInt8.toNat_ofNat'
    have hsecond : (n / 256).toUInt8.toNat = n / 256 % 256 := UInt8.toNat_ofNat'
    have hthird : n.toUInt8.toNat = n % 256 := UInt8.toNat_ofNat'
    have hnumber : (n / 65536 % 256 * 256 + n / 256 % 256) * 256 + n % 256 = n := by omega
    have hp : n / 262144 = m := by omega
    have hq : n / 4096 % 64 = k := by omega
    have hr : n / 64 % 64 = l := by omega
    have hs : n % 64 = j := by omega
    simp only [hn, encode, hfirst, hsecond, hthird, hnumber, hp, hq, hr, hs, ih hbs]
  | case5 cs hnil htwo hthree hfour =>
    rw [decode.eq_5 _ hnil htwo hthree hfour] at h
    cases h

/-- The bytes of a text are those that are written as it, and there are no others. -/
theorem decode_eq_some_iff : decode cs = some bs ↔ cs = encode bs :=
  ⟨fun h => (encode_of_decode h).symm, fun h => h ▸ decode_encode bs⟩

end SessionRecovery.Base64
