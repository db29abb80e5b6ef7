import SessionRecovery.Json.Scanner
import SessionRecovery.Proofs.Text.Utf8

/-!
# Words read back

The scanner undoes the printer on the words of a text: a quoted text is read back character by character,
whatever follows its closing quote, and an integer digit by digit, up to the byte that ends a value.
-/

namespace SessionRecovery.Json

open Utf8

/-! ## What ends a value -/

/-- What may follow a value: nothing, a comma, or the end of an array or object. -/
def Delimited : Bytes → Prop
  | [] => True
  | b :: _ => b = 0x2C ∨ b = 0x5D ∨ b = 0x7D

/-- Nothing is skipped where no blank stands. -/
theorem skipGap_cons {b : UInt8} (hb : isGap b = false) (rest : Bytes) :
    skipGap (b :: rest) = b :: rest := by
  rw [skipGap, List.dropWhile_cons, hb]
  rfl

/-! ## Quoted texts -/

/-- Between quotes, written bytes stand for others, whatever follows them. -/
def Spells (written meant : Bytes) : Prop :=
  ∀ rest, rawText (written ++ rest) = (rawText rest).map fun r => (meant ++ r.1, r.2)

theorem Spells.nil : Spells [] [] := fun rest => by
  cases h : rawText rest <;> simp [h, Except.map]

theorem Spells.append {written more meant others : Bytes} (h : Spells written meant)
    (k : Spells more others) : Spells (written ++ more) (meant ++ others) := fun rest => by
  rw [List.append_assoc, h, k]
  cases rawText rest <;> simp [Except.map]

theorem rawText_quote (rest : Bytes) : rawText (0x22 :: rest) = .ok ([], rest) := by
  rw [rawText.eq_def]
  rfl

/-- An escape stands for what it is read as. -/
theorem Spells.escape {written meant : Bytes}
    (h : ∀ rest, Json.escape (written ++ rest) = .ok (meant, rest)) :
    Spells (0x5C :: written) meant := fun rest => by
  rw [List.cons_append, rawText.eq_def]
  dsimp only
  rw [if_neg (by decide), if_pos rfl]
  split
  · next hread => cases (h rest).symm.trans hread
  · next hread =>
    cases (h rest).symm.trans hread
    cases rawText rest <;> rfl

/-- A byte that is neither a control, a quote nor a backslash stands for itself. -/
theorem Spells.byte {b : UInt8} (hcontrol : ¬ b < 0x20) (hquote : b ≠ 0x22) (hslash : b ≠ 0x5C) :
    Spells [b] [b] := fun rest => by
  rw [List.singleton_append, rawText.eq_def]
  dsimp only
  rw [if_neg hquote, if_neg hslash, if_neg hcontrol]
  cases rawText rest <;> rfl

/-- Bytes that are neither controls nor quotes nor backslashes stand for themselves. -/
theorem Spells.bytes {bs : Bytes} (h : ∀ b ∈ bs, ¬ b < 0x20 ∧ b ≠ 0x22 ∧ b ≠ 0x5C) :
    Spells bs bs := by
  induction bs with
  | nil => exact .nil
  | cons b bs ih =>
    obtain ⟨hcontrol, hquote, hslash⟩ := h b List.mem_cons_self
    have hrest : Spells bs bs := ih fun c hc => h c (List.mem_cons_of_mem _ hc)
    exact (Spells.byte hcontrol hquote hslash).append hrest

/-- A hexadecimal digit is one byte, which has its value. -/
theorem hexDigit_read : ∀ n < 0x10,
    String.utf8EncodeChar (Bytes.hexDigit n) = [UInt8.ofNat (Bytes.hexDigit n).toNat] ∧
      Bytes.hexValue? (UInt8.ofNat (Bytes.hexDigit n).toNat) = some n := by
  decide

/-- A control is read back from its code point. -/
theorem spells_control {c : Char} (h : c.toNat < 0x20) :
    Spells (encodeChars ['\\', 'u', '0', '0', Bytes.hexDigit (c.toNat / 16),
      Bytes.hexDigit (c.toNat % 16)]) (String.utf8EncodeChar c) := by
  obtain ⟨hhigh, hhighValue⟩ := hexDigit_read (c.toNat / 16) (by omega)
  obtain ⟨hlow, hlowValue⟩ := hexDigit_read (c.toNat % 16) (by omega)
  have hcode : ((0 * 16 + 0) * 16 + c.toNat / 16) * 16 + c.toNat % 16 = c.toNat := by omega
  have hzero : Bytes.hexValue? 0x30 = some 0 := by decide
  have hchars : encodeChars ['\\', 'u', '0', '0', Bytes.hexDigit (c.toNat / 16),
      Bytes.hexDigit (c.toNat % 16)] =
      0x5C :: [0x75, 0x30, 0x30, UInt8.ofNat (Bytes.hexDigit (c.toNat / 16)).toNat,
        UInt8.ofNat (Bytes.hexDigit (c.toNat % 16)).toNat] := by
    simp only [encodeChars_cons, encodeChars_nil, hhigh, hlow]
    rfl
  rw [hchars]
  refine .escape fun rest => ?_
  have hfour : hexFour ([0x30, 0x30, UInt8.ofNat (Bytes.hexDigit (c.toNat / 16)).toNat,
      UInt8.ofNat (Bytes.hexDigit (c.toNat % 16)).toNat] ++ rest) = .ok (c.toNat, rest) := by
    simp only [List.cons_append, List.nil_append, hexFour, hzero, hhighValue, hlowValue, hcode]
  have hshort : shortEscape? 0x75 = none := by decide
  -- a control is far below the surrogates
  have hlone : ¬ (0xDC00 ≤ c.toNat ∧ c.toNat ≤ 0xDFFF) := by omega
  have hpair : ¬ (0xD800 ≤ c.toNat ∧ c.toNat ≤ 0xDBFF) := by omega
  rw [List.cons_append]
  simp only [escape, hshort, hfour, if_true, if_neg hlone, if_neg hpair, codePointBytes,
    Char.ofNat_toNat]

/-- An escape of one letter is read back as its byte. -/
theorem spells_short {c letter : Char} {e b : UInt8} (hletter : String.utf8EncodeChar letter = [e])
    (hc : String.utf8EncodeChar c = [b]) (h : shortEscape? e = some b) :
    Spells (encodeChars ['\\', letter]) (String.utf8EncodeChar c) := by
  have hslash : String.utf8EncodeChar '\\' = [0x5C] := by decide
  rw [encodeChars_cons, encodeChars_cons, encodeChars_nil, hslash, hletter, hc]
  exact .escape fun rest => by simp [escape, h]

/-- The bytes of a character that needs no escape need none. -/
theorem plain_of_mem_utf8EncodeChar {c : Char} (hquote : c ≠ '"') (hslash : c ≠ '\\')
    (hcontrol : ¬ c.toNat < 0x20) :
    ∀ b ∈ String.utf8EncodeChar c, ¬ b < 0x20 ∧ b ≠ 0x22 ∧ b ≠ 0x5C := by
  have hcode {d : Char} (hd : c ≠ d) : c.toNat ≠ d.toNat := fun h => hd (Char.toNat_inj.mp h)
  have hquoteCode : c.toNat ≠ 0x22 := hcode hquote
  have hslashCode : c.toNat ≠ 0x5C := hcode hslash
  intro b hb
  simp only [UInt8.lt_iff_toNat_lt, ne_eq, ← UInt8.toNat_inj, UInt8.reduceToNat]
  by_cases hascii : c.toNat < 0x80
  · have hval : (UInt8.ofNat c.toNat).toNat = c.toNat := toNat_ofNat (by omega)
    rw [utf8EncodeChar_ascii hascii] at hb
    rw [List.mem_singleton.mp hb, hval]
    exact ⟨hcontrol, hquoteCode, hslashCode⟩
  · have hfar := le_of_mem_utf8EncodeChar (by omega) b hb
    simp only [UInt8.le_iff_toNat_le, UInt8.reduceToNat] at hfar
    omega

/-- A character that needs no escape is read back from itself. -/
theorem spells_plain {c : Char} (hquote : c ≠ '"') (hslash : c ≠ '\\')
    (hcontrol : ¬ c.toNat < 0x20) : Spells (encodeChars [c]) (String.utf8EncodeChar c) := by
  rw [encodeChars_cons, encodeChars_nil, List.append_nil]
  exact .bytes (plain_of_mem_utf8EncodeChar hquote hslash hcontrol)

/-- What is written for a character is read back as the character. -/
theorem spells_charText (c : Char) :
    Spells (encodeChars (charText c)) (String.utf8EncodeChar c) := by
  rw [charText]
  split
  · next h => subst h; exact spells_short (e := 0x22) (b := 0x22) rfl rfl rfl
  split
  · next h => subst h; exact spells_short (e := 0x5C) (b := 0x5C) rfl rfl rfl
  split
  · next h => subst h; exact spells_short (e := 0x62) (b := 0x08) rfl rfl rfl
  split
  · next h => subst h; exact spells_short (e := 0x66) (b := 0x0C) rfl rfl rfl
  split
  · next h => subst h; exact spells_short (e := 0x6E) (b := 0x0A) rfl rfl rfl
  split
  · next h => subst h; exact spells_short (e := 0x72) (b := 0x0D) rfl rfl rfl
  split
  · next h => subst h; exact spells_short (e := 0x74) (b := 0x09) rfl rfl rfl
  split
  · next h => exact spells_control h
  · next hquote hslash _ _ _ _ _ hcontrol => exact spells_plain hquote hslash hcontrol

theorem spells_flatMap_charText (cs : List Char) :
    Spells (encodeChars (cs.flatMap charText)) (encodeChars cs) := by
  induction cs with
  | nil => exact .nil
  | cons c cs ih =>
    rw [List.flatMap_cons, encodeChars_append, encodeChars_cons]
    exact (spells_charText c).append ih

/-- A text is read back from behind its opening quote. -/
theorem text_chars (s : String) (rest : Bytes) :
    text (encodeChars (s.toList.flatMap charText) ++ 0x22 :: rest) = .ok (s, rest) := by
  have hdecode : decode? (encodeChars s.toList) = some s := decode?_encode s
  rw [text, spells_flatMap_charText, rawText_quote]
  simp only [Except.map, List.append_nil, hdecode]

/-- The bytes of a quoted text begin with its quote, and the text is read back behind it. -/
theorem textChars_eq (s : String) (rest : Bytes) :
    encodeChars (textChars s) ++ rest =
      0x22 :: (encodeChars (s.toList.flatMap charText) ++ 0x22 :: rest) := by
  have hquote : String.utf8EncodeChar '"' = [0x22] := by decide
  rw [textChars, List.cons_append, encodeChars_cons, encodeChars_append, encodeChars_cons,
    encodeChars_nil, hquote, List.append_nil, List.append_assoc, List.append_assoc]
  rfl

/-! ## Integers -/

/-- A decimal digit is one byte, of the same value. -/
theorem digit_byte {c : Char} (h : c.isDigit = true) :
    String.utf8EncodeChar c = [UInt8.ofNat c.toNat] ∧
      (UInt8.ofNat c.toNat).toNat = c.toNat ∧
      Bytes.isDigit (UInt8.ofNat c.toNat) = true ∧
      Bytes.digitValue (UInt8.ofNat c.toNat) = c.toNat - '0'.toNat := by
  obtain ⟨hlow, hhigh⟩ : '0'.toNat ≤ c.toNat ∧ c.toNat ≤ '9'.toNat := Char.isDigit_iff_toNat.mp h
  have hzero : '0'.toNat = 0x30 := rfl
  have hnine : '9'.toNat = 0x39 := rfl
  have hval : (UInt8.ofNat c.toNat).toNat = c.toNat := toNat_ofNat (by omega)
  refine ⟨utf8EncodeChar_ascii (by omega), hval, ?_, ?_⟩
  · simp only [Bytes.isDigit, Bool.and_eq_true, decide_eq_true_eq, UInt8.le_iff_toNat_le, hval,
      UInt8.reduceToNat]
    omega
  · rw [Bytes.digitValue, hval, hzero]

/-- Reading more digits makes no number smaller. -/
theorem le_ofDigitChars (cs : List Char) (n : Nat) : n ≤ Nat.ofDigitChars 10 cs n := by
  induction cs generalizing n with
  | nil => exact Nat.le_refl n
  | cons c cs ih =>
    rw [Nat.ofDigitChars_cons]
    exact Nat.le_trans (by omega) (ih _)

/-- A number above zero is not written with a zero in front. -/
theorem head_toDigits_ne {n : Nat} (hn : 0 < n) : ∀ c ∈ (Nat.toDigits 10 n).head?, c ≠ '0' := by
  induction n using Nat.strongRecOn with
  | ind n ih =>
    rw [Nat.toDigits_eq_if (by decide)]
    split
    · next hlt =>
      rintro c ⟨⟩ hc
      have hvalue := Nat.toNat_digitChar_sub_48_of_lt_ten hlt
      rw [hc] at hvalue
      exact absurd hvalue (Nat.ne_of_lt hn)
    · next hge =>
      rw [List.head?_append, Option.or_of_isSome (by simp [Nat.toDigits_ne_nil])]
      exact ih (n / 10) (by omega) (by omega)

theorem Delimited.not_digit {b : UInt8} {rest : Bytes} (h : Delimited (b :: rest)) :
    Bytes.isDigit b = false := by
  rcases h with rfl | rfl | rfl <;> decide

/-- Digits are taken up to the end of the value while they fit. -/
theorem takeDigits_digits {cs : List Char} (hcs : ∀ c ∈ cs, c.isDigit = true) {n : Nat}
    (hfits : Nat.ofDigitChars 10 cs n < 0x10000000000000000) {rest : Bytes} (hrest : Delimited rest) :
    takeDigits n (encodeChars cs ++ rest) = (Nat.ofDigitChars 10 cs n, cs.length, rest) := by
  induction cs generalizing n with
  | nil =>
    cases rest with
    | nil => rfl
    | cons b rest =>
      rw [encodeChars_nil, List.nil_append, takeDigits, if_neg (by simp [hrest.not_digit])]
      rfl
  | cons c cs ih =>
    obtain ⟨hbyte, -, hdigit, hvalue⟩ := digit_byte (hcs c List.mem_cons_self)
    rw [Nat.ofDigitChars_cons, Nat.mul_comm] at hfits
    have hhere := Nat.lt_of_le_of_lt (le_ofDigitChars cs _) hfits
    have htake := ih (fun d hd => hcs d (List.mem_cons_of_mem _ hd)) hfits
    rw [encodeChars_cons, hbyte, List.singleton_append, List.cons_append, takeDigits, hvalue,
      if_pos ⟨hdigit, hhere⟩, htake, Nat.ofDigitChars_cons, Nat.mul_comm]
    rfl

theorem dropDigits_of_delimited {rest : Bytes} (h : Delimited rest) :
    dropDigits rest = (0, rest) := by
  cases rest with
  | nil => rfl
  | cons b rest => rw [dropDigits, h.not_digit, if_neg Bool.false_ne_true]

theorem afterDigits_of_delimited (negative : Bool) (n : Nat) {rest : Bytes} (h : Delimited rest) :
    afterDigits negative n 0 rest = .ok (intOf negative n, rest) := by
  cases rest with
  | nil => rfl
  | cons b rest => rcases h with rfl | rfl | rfl <;> rfl

/-- The digits of a number of at most 64 bits are read back. -/
theorem number_natChars (negative : Bool) {n : Nat} (hn : n < 0x10000000000000000) {rest : Bytes}
    (hrest : Delimited rest) :
    number negative (encodeChars (Decimal.natChars n) ++ rest) = .ok (intOf negative n, rest) := by
  rw [Decimal.natChars]
  by_cases hzero : n = 0
  · subst hzero
    have hread := afterDigits_of_delimited negative 0 hrest
    rw [Nat.toDigits_zero]
    show number negative (0x30 :: rest) = _
    cases rest with
    | nil => exact hread
    | cons b rest => simpa only [number, if_true, hrest.not_digit, Bool.false_eq_true, if_false]
  · have hdigits : ∀ c ∈ Nat.toDigits 10 n, c.isDigit = true := fun c hc =>
      Nat.isDigit_of_mem_toDigits (by decide) (by decide) hc
    have hvalue : Nat.ofDigitChars 10 (Nat.toDigits 10 n) 0 = n := Nat.ofDigitChars_ten_toDigits
    have hhead := head_toDigits_ne (Nat.pos_of_ne_zero hzero)
    cases hcs : Nat.toDigits 10 n with
    | nil => exact absurd hcs Nat.toDigits_ne_nil
    | cons c cs =>
      rw [hcs] at hdigits hvalue hhead
      obtain ⟨hbyte, hval, hdigit, hfirst⟩ := digit_byte (hdigits c List.mem_cons_self)
      have hne : UInt8.ofNat c.toNat ≠ 0x30 := fun heq => by
        rw [heq] at hval
        exact hhead c rfl (Char.toNat_inj.mp hval.symm)
      have hrestDigits : ∀ d ∈ cs, d.isDigit = true := fun d hd =>
        hdigits d (List.mem_cons_of_mem _ hd)
      rw [Nat.ofDigitChars_cons, Nat.mul_zero, Nat.zero_add, ← hfirst] at hvalue
      have htake := takeDigits_digits hrestDigits (by rw [hvalue]; exact hn) hrest
      rw [hvalue] at htake
      rw [encodeChars_cons, hbyte, List.singleton_append, List.cons_append]
      simp only [number, if_neg hne, if_pos hdigit, htake, dropDigits_of_delimited hrest]
      exact afterDigits_of_delimited negative n hrest

/-- A word is what its sign and its size say. -/
theorem intOf_word (w : Word64) : intOf (decide (w.val < 0)) w.val.natAbs = .int w := by
  obtain ⟨i, hlow, hhigh⟩ := w
  have hsign : ¬ (i < 0 ∧ i.natAbs = 0) := by omega
  have hback : (if i < 0 then -(i.natAbs : Int) else i.natAbs) = i := by split <;> omega
  have hword : Word64.ofInt? i = some ⟨i, hlow, hhigh⟩ := dif_pos ⟨hlow, hhigh⟩
  simp only [intOf, decide_eq_true_eq, hsign, if_false, hback, hword]

/-- The size of a word takes at most 64 bits. -/
theorem natAbs_word_lt (w : Word64) : w.val.natAbs < 0x10000000000000000 := by
  obtain ⟨i, hlow, hhigh⟩ := w
  show i.natAbs < 0x10000000000000000
  omega

end SessionRecovery.Json
