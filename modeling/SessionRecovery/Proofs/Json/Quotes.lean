import SessionRecovery.Json.Reader
import SessionRecovery.Proofs.Json.Grammar
import SessionRecovery.Proofs.Json.Words

/-!
# Texts between quotes

The scanner reads what stands between quotes as the characters that it spells, however they are written, and
refuses it when half a surrogate pair stands alone. Skipping goes over it in both cases.
-/

namespace SessionRecovery.Json

open Utf8

variable {rest input : Bytes} {spelled : Option (List Char)}

/-- What is left of a result when nobody asks for the fault. -/
theorem toOption_map {ε α β : Type} (f : α → β) (x : Except ε α) :
    (x.map f).toOption = x.toOption.map f := by
  cases x <;> rfl

theorem toOption_bind {ε α β : Type} (x : Except ε α) (f : α → Except ε β) :
    (x.bind f).toOption = x.toOption.bind fun a => (f a).toOption := by
  cases x <;> rfl

/-! ## Escapes -/

/-- Four hexadecimal digits are read as the code point that they name. -/
theorem hexFour_eq {a b c d : UInt8} {n : Nat} (h : fourHex? a b c d = some n) (rest : Bytes) :
    hexFour (a :: b :: c :: d :: rest) = .ok (n, rest) := by
  simp only [fourHex?, Option.bind_eq_bind, Option.bind_eq_some_iff, Option.some.injEq] at h
  obtain ⟨w, hw, x, hx, y, hy, z, hz, rfl⟩ := h
  simp only [hexFour, hw, hx, hy, hz]

/-- An escape of one letter is read as the only byte of its character. -/
theorem letterEscapes_read {e : UInt8} {c : Char} (h : (e, c) ∈ letterEscapes) :
    e ≠ 0x75 ∧ ∃ b, shortEscape? e = some b ∧ String.utf8EncodeChar c = [b] := by
  have hall : letterEscapes.all (fun p => p.1 != 0x75 &&
      shortEscape? p.1 == some (UInt8.ofNat p.2.toNat) &&
      String.utf8EncodeChar p.2 == [UInt8.ofNat p.2.toNat]) = true := by decide
  have hread := List.all_eq_true.mp hall _ h
  simp only [Bool.and_eq_true, bne_iff_ne, beq_iff_eq] at hread
  exact ⟨hread.1.1, _, hread.1.2, hread.2⟩

/-- The letter of the escape of a code point is none of the others. -/
theorem shortEscape?_code : shortEscape? 0x75 = none := by decide

theorem escape_letter {e b : UInt8} (h : shortEscape? e = some b) (rest : Bytes) :
    escape (e :: rest) = .ok ([b], rest) := by
  simp only [escape, h]

section

variable {a b c d : UInt8} {n : Nat} (hn : fourHex? a b c d = some n)

include hn

theorem escape_code (hhigh : ¬ IsHigh n) (hlow : ¬ IsLow n) (rest : Bytes) :
    escape (0x75 :: a :: b :: c :: d :: rest) = .ok (codePointBytes n, rest) := by
  simp only [escape, shortEscape?_code, if_true, hexFour_eq hn]
  exact (if_neg hlow).trans (if_neg hhigh)

theorem escape_high (hhigh : IsHigh n) (rest : Bytes) :
    escape (0x75 :: a :: b :: c :: d :: rest) = lowSurrogate n rest := by
  have hlow : ¬ (0xDC00 ≤ n ∧ n ≤ 0xDFFF) := fun h => by
    have := hhigh.2
    omega
  simp only [escape, shortEscape?_code, if_true, hexFour_eq hn]
  exact (if_neg hlow).trans (if_pos hhigh)

theorem escape_low (hlow : IsLow n) (rest : Bytes) :
    escape (0x75 :: a :: b :: c :: d :: rest) = .error .loneSurrogate := by
  simp only [escape, shortEscape?_code, if_true, hexFour_eq hn]
  exact if_pos hlow

theorem lowSurrogate_low (high : Nat) (hlow : IsLow n) (rest : Bytes) :
    lowSurrogate high (0x5C :: 0x75 :: a :: b :: c :: d :: rest) =
      .ok (codePointBytes (paired high n), rest) := by
  simp only [lowSurrogate, ne_eq, not_true_eq_false, or_false, if_false, hexFour_eq hn]
  exact if_pos hlow

theorem lowSurrogate_other (high : Nat) (hlow : ¬ IsLow n) (rest : Bytes) :
    lowSurrogate high (0x5C :: 0x75 :: a :: b :: c :: d :: rest) = .error .loneSurrogate := by
  simp only [lowSurrogate, ne_eq, not_true_eq_false, or_false, if_false, hexFour_eq hn]
  exact if_neg hlow

theorem skipEscape_code (rest : Bytes) :
    skipEscape (0x75 :: a :: b :: c :: d :: rest) = .ok rest := by
  simp only [skipEscape, shortEscape?_code, if_true, hexFour_eq hn]

end

/-- Nothing but the escape of a code point is the second half of a pair. -/
theorem lowSurrogate_hexEnd (high : Nat) {b u : UInt8} (h : b ≠ 0x5C ∨ u ≠ 0x75) (rest : Bytes) :
    lowSurrogate high (b :: u :: rest) = .error .hexEnd := by
  rw [lowSurrogate, if_pos h]

/-- Nothing but an escape is the second half of a pair. -/
theorem lowSurrogate_error_of_ne (high : Nat) {b : UInt8} (h : b ≠ 0x5C) (rest : Bytes) :
    lowSurrogate high (b :: rest) = .error .hexEnd := by
  cases rest with
  | nil => rw [lowSurrogate, if_neg h]
  | cons u rest => exact lowSurrogate_hexEnd high (.inl h) rest

/-! ## Reading -/

/-- A fault in an escape is one of the text around it. -/
theorem rawText_escape_error {f : Fault} (h : escape input = .error f) :
    rawText (0x5C :: input) = .error f := by
  rw [rawText.eq_def]
  dsimp only
  rw [if_neg (by decide), if_pos rfl]
  split
  · next hread => rw [← hread, h]
  · next hread => cases h.symm.trans hread

/-- One more character in front of a text is read in front of it. -/
theorem Spells.toOption_cons {written : Bytes} {c : Char} (h : Spells written (String.utf8EncodeChar c))
    (ih : (rawText input).toOption = spelled.map fun cs => (encodeChars cs, rest)) :
    (rawText (written ++ input)).toOption =
      (spelled.map (c :: ·)).map fun cs => (encodeChars cs, rest) := by
  rw [h, toOption_map, ih, Option.map_map, Option.map_map]
  rfl

/-- No second half of a pair is read where none stands. -/
theorem Quoted.lowSurrogate_error (h : Quoted rest spelled input) (hnext : ¬ BeginsLow input)
    (high : Nat) : ∃ f, lowSurrogate high input = .error f := by
  cases h with
  | close => exact ⟨_, lowSurrogate_error_of_ne high (by decide) rest⟩
  | @plain c spelled input hquote hslash hcontrol h =>
    have hplain := plain_of_mem_utf8EncodeChar hquote hslash (by omega)
    cases hbytes : String.utf8EncodeChar c with
    | nil => exact absurd hbytes String.utf8EncodeChar_ne_nil
    | cons b bs =>
      rw [hbytes] at hplain
      exact ⟨_, lowSurrogate_error_of_ne high (hplain b List.mem_cons_self).2.2 _⟩
  | letter he h => exact ⟨_, lowSurrogate_hexEnd high (.inr (letterEscapes_read he).1) _⟩
  | code hn hhigh hlow h => exact ⟨_, lowSurrogate_other hn high hlow _⟩
  | pair hn hhigh hn' hlow h =>
    refine ⟨_, lowSurrogate_other hn high (fun hlow => ?_) _⟩
    have := hhigh.2
    have := hlow.1
    omega
  | loneLow hn hlow h => exact absurd ⟨_, _, _, _, _, _, rfl, hn, hlow⟩ hnext
  | loneHigh hn hhigh _ h =>
    refine ⟨_, lowSurrogate_other hn high (fun hlow => ?_) _⟩
    have := hhigh.2
    have := hlow.1
    omega

/-- What stands between quotes is read as what it spells. -/
theorem Quoted.rawText_eq (h : Quoted rest spelled input) :
    (rawText input).toOption = spelled.map fun cs => (encodeChars cs, rest) := by
  induction h with
  | close =>
    rw [rawText_quote]
    rfl
  | @plain c spelled input hquote hslash hcontrol h ih =>
    have hspells := spells_plain hquote hslash (by omega)
    rw [encodeChars_cons, encodeChars_nil, List.append_nil] at hspells
    exact hspells.toOption_cons ih
  | @letter e c spelled input he h ih =>
    obtain ⟨-, b, hb, hc⟩ := letterEscapes_read he
    have hspells : Spells [0x5C, e] (String.utf8EncodeChar c) := by
      rw [hc]
      exact .escape fun rest => escape_letter hb rest
    exact hspells.toOption_cons ih
  | @code a b c d n spelled input hn hhigh hlow h ih =>
    have hspells : Spells [0x5C, 0x75, a, b, c, d] (String.utf8EncodeChar (Char.ofNat n)) :=
      .escape fun rest => escape_code hn hhigh hlow rest
    exact hspells.toOption_cons ih
  | @pair a b c d a' b' c' d' high low spelled input hn hhigh hn' hlow h ih =>
    have hspells : Spells [0x5C, 0x75, a, b, c, d, 0x5C, 0x75, a', b', c', d']
        (String.utf8EncodeChar (Char.ofNat (paired high low))) :=
      .escape fun rest => (escape_high hn hhigh _).trans (lowSurrogate_low hn' high hlow rest)
    exact hspells.toOption_cons ih
  | loneLow hn hlow h ih =>
    rw [rawText_escape_error (escape_low hn hlow _)]
    rfl
  | loneHigh hn hhigh hnext h ih =>
    obtain ⟨f, hf⟩ := h.lowSurrogate_error hnext _
    rw [rawText_escape_error ((escape_high hn hhigh _).trans hf)]
    rfl

/-- What stands between quotes is decoded to the text that it spells. -/
theorem Quoted.text_eq (h : Quoted rest spelled input) :
    (text input).toOption = spelled.map fun cs => (String.ofList cs, rest) := by
  have hraw := h.rawText_eq
  rw [text]
  cases hread : rawText input with
  | error f =>
    rw [hread] at hraw
    cases spelled with
    | none => rfl
    | some cs => cases hraw
  | ok r =>
    rw [hread] at hraw
    cases spelled with
    | none => cases hraw
    | some cs =>
      cases Option.some.inj hraw
      simp only [decode?, decodeChars_encodeChars, Option.map_some]
      rfl

/-! ## Skipping -/

theorem skipText_quote (rest : Bytes) : skipText (0x22 :: rest) = .ok rest := by
  rw [skipText.eq_def]
  rfl

/-- An escape is skipped as a whole. -/
theorem skipText_escape {rest : Bytes} (h : skipEscape input = .ok rest) :
    skipText (0x5C :: input) = skipText rest := by
  rw [skipText.eq_def]
  dsimp only
  rw [if_neg (by decide), if_pos rfl]
  split
  · next hread => cases h.symm.trans hread
  · next hread =>
    cases h.symm.trans hread
    rfl

/-- Bytes that need no escape are skipped. -/
theorem skipText_bytes {bs : Bytes} (h : ∀ b ∈ bs, ¬ b < 0x20 ∧ b ≠ 0x22 ∧ b ≠ 0x5C)
    (input : Bytes) : skipText (bs ++ input) = skipText input := by
  induction bs with
  | nil => rfl
  | cons b bs ih =>
    obtain ⟨hcontrol, hquote, hslash⟩ := h b List.mem_cons_self
    rw [List.cons_append, skipText.eq_def]
    dsimp only
    rw [if_neg hquote, if_neg hslash, if_neg hcontrol, ih fun c hc => h c (List.mem_cons_of_mem _ hc)]

/-- What stands between quotes is skipped whether it spells a text or not. -/
theorem Quoted.skipText_eq (h : Quoted rest spelled input) : skipText input = .ok rest := by
  induction h with
  | close => exact skipText_quote rest
  | plain hquote hslash hcontrol h ih =>
    rw [skipText_bytes (plain_of_mem_utf8EncodeChar hquote hslash (by omega)), ih]
  | @letter e c spelled input he h ih =>
    obtain ⟨-, b, hb, -⟩ := letterEscapes_read he
    have hskip : skipEscape (e :: input) = .ok input := by
      simp only [skipEscape, hb]
    rw [skipText_escape hskip, ih]
  | code hn _ _ h ih => rw [skipText_escape (skipEscape_code hn _), ih]
  | pair hn _ hn' _ h ih =>
    rw [skipText_escape (skipEscape_code hn _), skipText_escape (skipEscape_code hn' _), ih]
  | loneLow hn _ h ih => rw [skipText_escape (skipEscape_code hn _), ih]
  | loneHigh hn _ _ h ih => rw [skipText_escape (skipEscape_code hn _), ih]

/-! ## Texts without escapes -/

/-- A character that may stand between quotes as it is. -/
def isPlain (c : Char) : Bool := c != '"' && c != '\\' && decide (0x20 ≤ c.toNat)

/-- Characters that need no escape spell themselves. -/
theorem quoted_plain {cs : List Char} (h : cs.all isPlain = true) (rest : Bytes) :
    Quoted rest (some cs) (encodeChars cs ++ 0x22 :: rest) := by
  induction cs with
  | nil => exact .close
  | cons c cs ih =>
    rw [List.all_cons, Bool.and_eq_true] at h
    obtain ⟨hc, hcs⟩ := h
    simp only [isPlain, Bool.and_eq_true, bne_iff_ne, decide_eq_true_eq] at hc
    rw [encodeChars_cons, List.append_assoc]
    exact .plain hc.1.1 hc.1.2 hc.2 (ih hcs)

/-- A text that needs no escape stands between quotes as it is. -/
theorem Reads.plain {s : String} (h : s.toList.all isPlain = true) (rest : Bytes) :
    Reads (.value (.text (some s))) (0x22 :: (encode s ++ 0x22 :: rest)) rest := by
  have hreads := Reads.text (quoted_plain h rest)
  rwa [Option.map_some, String.ofList_toList] at hreads

/-- A name that needs no escape stands between quotes as it is. -/
theorem Named.plain {s : String} (h : s.toList.all isPlain = true) (value : Bytes) :
    Named (some s) (0x22 :: (encode s ++ 0x22 :: 0x3A :: value)) value :=
  ⟨some s.toList, _, _, _, by rw [Option.map_some, String.ofList_toList], .refl _, quoted_plain h _,
    .refl _, .refl _⟩

end SessionRecovery.Json
