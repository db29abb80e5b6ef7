import SessionRecovery.Bytes

/-!
# UTF-8 there and back

Decoding undoes encoding, character by character: whatever follows the bytes of a character is decoded as it
would be without them. Encoding undoes decoding too, so a text is decoded from its own bytes and no others.
-/

namespace SessionRecovery.Utf8

@[simp] theorem encodeChars_nil : encodeChars [] = [] := rfl

@[simp] theorem encodeChars_cons (c : Char) (cs : List Char) :
    encodeChars (c :: cs) = String.utf8EncodeChar c ++ encodeChars cs := List.flatMap_cons

@[simp] theorem encodeChars_append (cs ds : List Char) :
    encodeChars (cs ++ ds) = encodeChars cs ++ encodeChars ds := List.flatMap_append

/-- An ASCII character takes one byte. -/
theorem utf8EncodeChar_ascii {c : Char} (h : c.toNat < 0x80) :
    String.utf8EncodeChar c = [UInt8.ofNat c.toNat] := by
  have hval : c.val.toNat = c.toNat := rfl
  rw [String.utf8EncodeChar, hval, if_pos (by omega)]

/-- The bytes of a character beyond ASCII are all beyond ASCII. -/
theorem le_of_mem_utf8EncodeChar {c : Char} (h : 0x80 ≤ c.toNat) :
    ∀ b ∈ String.utf8EncodeChar c, 0x80 ≤ b := by
  have hval : c.val.toNat = c.toNat := rfl
  have hbyte {n : Nat} (hn : 0x80 ≤ n) (hlt : n < 0x100) : (0x80 : UInt8) ≤ UInt8.ofNat n := by
    rw [UInt8.le_iff_toNat_le, UInt8.toNat_ofNat', Nat.mod_eq_of_lt hlt]
    exact hn
  intro b hb
  rw [String.utf8EncodeChar, hval, if_neg (by omega)] at hb
  split at hb
  · simp only [List.mem_cons, List.not_mem_nil, or_false] at hb
    rcases hb with rfl | rfl <;> exact hbyte (by omega) (by omega)
  split at hb
  · simp only [List.mem_cons, List.not_mem_nil, or_false] at hb
    rcases hb with rfl | rfl | rfl <;> exact hbyte (by omega) (by omega)
  · simp only [List.mem_cons, List.not_mem_nil, or_false] at hb
    rcases hb with rfl | rfl | rfl | rfl <;> exact hbyte (by omega) (by omega)

/-- A small number is the value of its byte. -/
theorem toNat_ofNat {n : Nat} (hn : n < 0x100) : (UInt8.ofNat n).toNat = n := by
  rw [UInt8.toNat_ofNat', Nat.mod_eq_of_lt hn]

/-- What a continuation byte carries. -/
theorem tailBits_eq {b : UInt8} {n : Nat} (h : b.toNat = n + 0x80) : tailBits b = n := by
  unfold tailBits
  omega

/-- A code point of one byte. -/
theorem decodeChars_one {v : Nat} (h : v ≤ 0x7F) (rest : Bytes) :
    decodeChars (UInt8.ofNat v :: rest) = push v (decodeChars rest) := by
  have ha : (UInt8.ofNat v).toNat = v := toNat_ofNat (by omega)
  have hlow : UInt8.ofNat v < 0x80 := by
    simp only [UInt8.lt_iff_toNat_lt, ha, UInt8.reduceToNat]
    omega
  rw [decodeChars.eq_def]
  dsimp only
  rw [if_pos hlow, ha]

/-- A code point of two bytes. -/
theorem decodeChars_two {v : Nat} (hlow : 0x80 ≤ v) (hhigh : v ≤ 0x7FF) (rest : Bytes) :
    decodeChars (UInt8.ofNat (v / 64 % 32 + 192) :: UInt8.ofNat (v % 64 + 128) :: rest) =
      push v (decodeChars rest) := by
  have ha : (UInt8.ofNat (v / 64 % 32 + 192)).toNat = v / 64 % 32 + 192 := toNat_ofNat (by omega)
  have hb : (UInt8.ofNat (v % 64 + 128)).toNat = v % 64 + 128 := toNat_ofNat (by omega)
  generalize UInt8.ofNat (v / 64 % 32 + 192) = a at ha ⊢
  generalize UInt8.ofNat (v % 64 + 128) = b at hb ⊢
  have hlead : ¬ a < 0x80 := by
    simp only [UInt8.lt_iff_toNat_lt, ha, UInt8.reduceToNat]
    omega
  have hpair : isPair a b = true := by
    simp only [isPair, isTail, Bool.and_eq_true, decide_eq_true_eq, UInt8.le_iff_toNat_le, ha, hb,
      UInt8.reduceToNat]
    omega
  have hcode : (a.toNat - 0xC0) * 0x40 + tailBits b = v := by
    have htail := tailBits_eq hb
    omega
  rw [decodeChars.eq_def]
  dsimp only
  rw [if_neg hlead, if_pos hpair, hcode]

/-- A code point of three bytes, no surrogate. -/
theorem decodeChars_three {v : Nat} (hlow : 0x800 ≤ v) (hhigh : v ≤ 0xFFFF)
    (hvalid : v < 0xD800 ∨ 0xDFFF < v) (rest : Bytes) :
    decodeChars (UInt8.ofNat (v / 4096 % 16 + 224) :: UInt8.ofNat (v / 64 % 64 + 128) ::
      UInt8.ofNat (v % 64 + 128) :: rest) = push v (decodeChars rest) := by
  have ha : (UInt8.ofNat (v / 4096 % 16 + 224)).toNat = v / 4096 % 16 + 224 :=
    toNat_ofNat (by omega)
  have hb : (UInt8.ofNat (v / 64 % 64 + 128)).toNat = v / 64 % 64 + 128 := toNat_ofNat (by omega)
  have hc : (UInt8.ofNat (v % 64 + 128)).toNat = v % 64 + 128 := toNat_ofNat (by omega)
  generalize UInt8.ofNat (v / 4096 % 16 + 224) = a at ha ⊢
  generalize UInt8.ofNat (v / 64 % 64 + 128) = b at hb ⊢
  generalize UInt8.ofNat (v % 64 + 128) = c at hc ⊢
  have hlead : ¬ a < 0x80 := by
    simp only [UInt8.lt_iff_toNat_lt, ha, UInt8.reduceToNat]
    omega
  have hpair : ¬ isPair a b = true := by
    simp only [isPair, isTail, Bool.and_eq_true, decide_eq_true_eq, UInt8.le_iff_toNat_le, ha, hb,
      UInt8.reduceToNat]
    omega
  have htriple : isTriple a b c = true := by
    simp only [isTriple, isTail, Bool.and_eq_true, Bool.or_eq_true, bne_iff_ne, ne_eq,
      decide_eq_true_eq, UInt8.le_iff_toNat_le, ← UInt8.toNat_inj, ha, hb, hc, UInt8.reduceToNat]
    omega
  have hcode : ((a.toNat - 0xE0) * 0x40 + tailBits b) * 0x40 + tailBits c = v := by
    have htails := And.intro (tailBits_eq hb) (tailBits_eq hc)
    omega
  rw [decodeChars.eq_def]
  dsimp only
  rw [if_neg hlead, if_neg hpair, if_pos htriple, hcode]

/-- A code point of four bytes, up to the last one. -/
theorem decodeChars_four {v : Nat} (hlow : 0x10000 ≤ v) (hhigh : v < 0x110000) (rest : Bytes) :
    decodeChars (UInt8.ofNat (v / 262144 % 8 + 240) :: UInt8.ofNat (v / 4096 % 64 + 128) ::
      UInt8.ofNat (v / 64 % 64 + 128) :: UInt8.ofNat (v % 64 + 128) :: rest) =
      push v (decodeChars rest) := by
  have ha : (UInt8.ofNat (v / 262144 % 8 + 240)).toNat = v / 262144 % 8 + 240 :=
    toNat_ofNat (by omega)
  have hb : (UInt8.ofNat (v / 4096 % 64 + 128)).toNat = v / 4096 % 64 + 128 :=
    toNat_ofNat (by omega)
  have hc : (UInt8.ofNat (v / 64 % 64 + 128)).toNat = v / 64 % 64 + 128 := toNat_ofNat (by omega)
  have hd : (UInt8.ofNat (v % 64 + 128)).toNat = v % 64 + 128 := toNat_ofNat (by omega)
  generalize UInt8.ofNat (v / 262144 % 8 + 240) = a at ha ⊢
  generalize UInt8.ofNat (v / 4096 % 64 + 128) = b at hb ⊢
  generalize UInt8.ofNat (v / 64 % 64 + 128) = c at hc ⊢
  generalize UInt8.ofNat (v % 64 + 128) = d at hd ⊢
  have hlead : ¬ a < 0x80 := by
    simp only [UInt8.lt_iff_toNat_lt, ha, UInt8.reduceToNat]
    omega
  have hpair : ¬ isPair a b = true := by
    simp only [isPair, isTail, Bool.and_eq_true, decide_eq_true_eq, UInt8.le_iff_toNat_le, ha, hb,
      UInt8.reduceToNat]
    omega
  have htriple : ¬ isTriple a b c = true := by
    simp only [isTriple, isTail, Bool.and_eq_true, Bool.or_eq_true, bne_iff_ne, ne_eq,
      decide_eq_true_eq, UInt8.le_iff_toNat_le, ← UInt8.toNat_inj, ha, hb, hc, UInt8.reduceToNat]
    omega
  have hquad : isQuad a b c d = true := by
    simp only [isQuad, isTail, Bool.and_eq_true, Bool.or_eq_true, bne_iff_ne, ne_eq,
      decide_eq_true_eq, UInt8.le_iff_toNat_le, ← UInt8.toNat_inj, ha, hb, hc, hd,
      UInt8.reduceToNat]
    omega
  have hcode : (((a.toNat - 0xF0) * 0x40 + tailBits b) * 0x40 + tailBits c) * 0x40 + tailBits d =
      v := by
    have htails := And.intro (tailBits_eq hb) (And.intro (tailBits_eq hc) (tailBits_eq hd))
    omega
  rw [decodeChars.eq_def]
  dsimp only
  rw [if_neg hlead, if_neg hpair, if_neg htriple, if_pos hquad, hcode]

/-- The bytes of one character are decoded to it. -/
theorem decodeChars_utf8EncodeChar (c : Char) (rest : Bytes) :
    decodeChars (String.utf8EncodeChar c ++ rest) = (decodeChars rest).map (c :: ·) := by
  have hval : c.val.toNat = c.toNat := rfl
  -- a character is no surrogate, and there is a last one
  have hvalid : c.toNat < 0xD800 ∨ 0xDFFF < c.toNat ∧ c.toNat < 0x110000 := c.valid
  have hpush : push c.toNat (decodeChars rest) = (decodeChars rest).map (c :: ·) := by
    rw [push, Char.ofNat_toNat]
  rw [String.utf8EncodeChar, hval, ← hpush]
  split
  · exact decodeChars_one (by omega) rest
  split
  · exact decodeChars_two (by omega) (by omega) rest
  split
  · exact decodeChars_three (by omega) (by omega) (by omega) rest
  · exact decodeChars_four (by omega) (by omega) rest

/-- Decoding undoes encoding. -/
theorem decodeChars_encodeChars (cs : List Char) : decodeChars (encodeChars cs) = some cs := by
  induction cs with
  | nil => rfl
  | cons c cs ih => rw [encodeChars_cons, decodeChars_utf8EncodeChar, ih, Option.map_some]

/-- A text is decoded from its bytes. -/
theorem decode?_encode (s : String) : decode? (encode s) = some s := by
  rw [decode?, encode, decodeChars_encodeChars, Option.map_some, String.ofList_toList]

/-! ### Well-formed sequences -/

/-- The code point of a character. -/
theorem toNat_ofNat_char {v : Nat} (h : v < 0xD800 ∨ 0xDFFF < v ∧ v < 0x110000) :
    (Char.ofNat v).toNat = v := by
  have hvalid : v.isValidChar := h
  rw [Char.ofNat, dif_pos hvalid]
  rfl

/-- One byte is that of its character. -/
theorem utf8EncodeChar_one {a : UInt8} (h : a < 0x80) :
    String.utf8EncodeChar (Char.ofNat a.toNat) = [a] := by
  simp only [UInt8.lt_iff_toNat_lt, UInt8.reduceToNat] at h
  have hcode : (Char.ofNat a.toNat).toNat = a.toNat := toNat_ofNat_char (by omega)
  rw [utf8EncodeChar_ascii (by omega), hcode, UInt8.ofNat_toNat]

/-- Two bytes are those of their character. -/
theorem utf8EncodeChar_two {a b : UInt8} (h : isPair a b = true) :
    String.utf8EncodeChar (Char.ofNat ((a.toNat - 0xC0) * 0x40 + tailBits b)) = [a, b] := by
  simp only [isPair, isTail, Bool.and_eq_true, decide_eq_true_eq, UInt8.le_iff_toNat_le,
    UInt8.reduceToNat] at h
  have htail : tailBits b = b.toNat - 0x80 := rfl
  generalize hv : (a.toNat - 0xC0) * 0x40 + tailBits b = v
  have hcode : (Char.ofNat v).val.toNat = v := toNat_ofNat_char (by omega)
  rw [String.utf8EncodeChar, hcode, if_neg (by omega), if_pos (by omega)]
  simp only [List.cons.injEq, and_true, ← UInt8.toNat_inj]
  rw [toNat_ofNat (by omega), toNat_ofNat (by omega)]
  omega

/-- Three bytes are those of their character. -/
theorem utf8EncodeChar_three {a b c : UInt8} (h : isTriple a b c = true) :
    String.utf8EncodeChar
      (Char.ofNat (((a.toNat - 0xE0) * 0x40 + tailBits b) * 0x40 + tailBits c)) = [a, b, c] := by
  simp only [isTriple, isTail, Bool.and_eq_true, Bool.or_eq_true, bne_iff_ne, ne_eq, decide_eq_true_eq,
    UInt8.le_iff_toNat_le, ← UInt8.toNat_inj, UInt8.reduceToNat] at h
  have htails : tailBits b = b.toNat - 0x80 ∧ tailBits c = c.toNat - 0x80 := ⟨rfl, rfl⟩
  generalize hv : ((a.toNat - 0xE0) * 0x40 + tailBits b) * 0x40 + tailBits c = v
  have hcode : (Char.ofNat v).val.toNat = v := toNat_ofNat_char (by omega)
  rw [String.utf8EncodeChar, hcode, if_neg (by omega), if_neg (by omega), if_pos (by omega)]
  simp only [List.cons.injEq, and_true, ← UInt8.toNat_inj]
  rw [toNat_ofNat (by omega), toNat_ofNat (by omega), toNat_ofNat (by omega)]
  omega

/-- Four bytes are those of their character. -/
theorem utf8EncodeChar_four {a b c d : UInt8} (h : isQuad a b c d = true) :
    String.utf8EncodeChar (Char.ofNat ((((a.toNat - 0xF0) * 0x40 + tailBits b) * 0x40 +
      tailBits c) * 0x40 + tailBits d)) = [a, b, c, d] := by
  simp only [isQuad, isTail, Bool.and_eq_true, Bool.or_eq_true, bne_iff_ne, ne_eq, decide_eq_true_eq,
    UInt8.le_iff_toNat_le, ← UInt8.toNat_inj, UInt8.reduceToNat] at h
  have htails : tailBits b = b.toNat - 0x80 ∧ tailBits c = c.toNat - 0x80 ∧
      tailBits d = d.toNat - 0x80 := ⟨rfl, rfl, rfl⟩
  generalize hv : (((a.toNat - 0xF0) * 0x40 + tailBits b) * 0x40 + tailBits c) * 0x40 +
    tailBits d = v
  have hcode : (Char.ofNat v).val.toNat = v := toNat_ofNat_char (by omega)
  rw [String.utf8EncodeChar, hcode, if_neg (by omega), if_neg (by omega), if_neg (by omega)]
  simp only [List.cons.injEq, and_true, ← UInt8.toNat_inj]
  rw [toNat_ofNat (by omega), toNat_ofNat (by omega), toNat_ofNat (by omega),
    toNat_ofNat (by omega)]
  omega

/-- Bytes in front of a rest that are those of a character. -/
theorem eq_encodeChars_of_push {v : Nat} {front rest : Bytes} {cs : List Char}
    (hfront : String.utf8EncodeChar (Char.ofNat v) = front)
    (ih : ∀ {ds}, decodeChars rest = some ds → rest = encodeChars ds)
    (h : push v (decodeChars rest) = some cs) : front ++ rest = encodeChars cs := by
  obtain ⟨ds, hds, rfl⟩ := Option.map_eq_some_iff.mp h
  rw [encodeChars_cons, hfront, ← ih hds]

/-- Bytes that are decoded are the encoding of what they are decoded to. -/
theorem eq_encodeChars_of_decodeChars {bs : Bytes} {cs : List Char} (h : decodeChars bs = some cs) :
    bs = encodeChars cs := by
  fun_induction decodeChars bs generalizing cs with
  | case1 =>
    cases h
    rfl
  | case2 a rest hone ih => exact eq_encodeChars_of_push (utf8EncodeChar_one hone) ih h
  | case4 a _ b rest htwo ih => exact eq_encodeChars_of_push (utf8EncodeChar_two htwo) ih h
  | case6 a _ b _ c rest hthree ih => exact eq_encodeChars_of_push (utf8EncodeChar_three hthree) ih h
  | case8 a _ b _ c _ d rest hfour ih => exact eq_encodeChars_of_push (utf8EncodeChar_four hfour) ih h
  | _ => cases h

/-- A text is decoded from its own bytes and no others. -/
theorem decode?_eq_some_iff {bs : Bytes} {s : String} : decode? bs = some s ↔ bs = encode s := by
  constructor
  · intro h
    obtain ⟨cs, hcs, rfl⟩ := Option.map_eq_some_iff.mp h
    rw [encode, String.toList_ofList]
    exact eq_encodeChars_of_decodeChars hcs
  · rintro rfl
    exact decode?_encode s

end SessionRecovery.Utf8

/-! ## The order of texts

Texts are compared by their code points, and so are the bytes that stand for them: the lead byte of a longer
form is above that of a shorter one, and within one form the bits go from the highest to the lowest. -/

namespace SessionRecovery.Utf8

/-- Bytes are in order when their first is below, or is the same and the others are in order. -/
theorem cons_lt_cons {m n : Nat} {xs ys : Bytes} (hn : n < 0x100) (hle : m ≤ n)
    (h : m = n → xs < ys) : UInt8.ofNat m :: xs < UInt8.ofNat n :: ys := by
  rcases Nat.lt_or_eq_of_le hle with hlt | rfl
  · refine .rel ?_
    rw [UInt8.lt_iff_toNat_lt, toNat_ofNat (by omega), toNat_ofNat hn]
    exact hlt
  · exact .cons (h rfl)

/-- The bytes of a lower character are below those of a higher one, whatever follows. -/
theorem utf8EncodeChar_append_lt {c d : Char} (h : c < d) (xs ys : Bytes) :
    String.utf8EncodeChar c ++ xs < String.utf8EncodeChar d ++ ys := by
  have hc : c.val.toNat = c.toNat := rfl
  have hd : d.val.toNat = d.toNat := rfl
  have hlt : c.toNat < d.toNat := h
  have hvalid : d.toNat < 0xD800 ∨ 0xDFFF < d.toNat ∧ d.toNat < 0x110000 := d.valid
  have hlast : d.toNat < 0x110000 := by omega
  rw [String.utf8EncodeChar, String.utf8EncodeChar, hc, hd]
  generalize c.toNat = v at hlt
  generalize d.toNat = w at hlt hlast
  split
  · split
    · exact cons_lt_cons (by omega) (by omega) fun _ => by omega
    split
    · exact cons_lt_cons (by omega) (by omega) fun _ => by omega
    split
    · exact cons_lt_cons (by omega) (by omega) fun _ => by omega
    · exact cons_lt_cons (by omega) (by omega) fun _ => by omega
  split
  · rw [if_neg (by omega)]
    split
    · exact cons_lt_cons (by omega) (by omega) fun _ =>
        cons_lt_cons (by omega) (by omega) fun _ => by omega
    split
    · exact cons_lt_cons (by omega) (by omega) fun _ => by omega
    · exact cons_lt_cons (by omega) (by omega) fun _ => by omega
  split
  · rw [if_neg (by omega), if_neg (by omega)]
    split
    · exact cons_lt_cons (by omega) (by omega) fun _ =>
        cons_lt_cons (by omega) (by omega) fun _ =>
          cons_lt_cons (by omega) (by omega) fun _ => by omega
    · exact cons_lt_cons (by omega) (by omega) fun _ => by omega
  · rw [if_neg (by omega), if_neg (by omega), if_neg (by omega)]
    exact cons_lt_cons (by omega) (by omega) fun _ =>
      cons_lt_cons (by omega) (by omega) fun _ =>
        cons_lt_cons (by omega) (by omega) fun _ =>
          cons_lt_cons (by omega) (by omega) fun _ => by omega

/-- The bytes of lower characters are below those of higher ones. -/
theorem encodeChars_lt_encodeChars {cs ds : List Char} (h : cs < ds) :
    encodeChars cs < encodeChars ds := by
  induction h with
  | @nil d ds =>
    obtain ⟨b, bs, hbytes⟩ := List.exists_cons_of_ne_nil (String.utf8EncodeChar_ne_nil (c := d))
    rw [encodeChars_cons, hbytes]
    exact .nil
  | rel hlt => exact utf8EncodeChar_append_lt hlt _ _
  | cons _ ih => exact List.append_left_lt ih

/-- The bytes of a lower text are below those of a higher one. -/
theorem encode_lt_encode {s t : String} (h : s < t) : encode s < encode t :=
  encodeChars_lt_encodeChars (String.lt_iff.mp h)

end SessionRecovery.Utf8
