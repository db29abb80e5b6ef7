import SessionRecovery.Proofs.Json.Grammar
import SessionRecovery.Proofs.Text.Utf8

/-!
# Texts are characters

Every JSON text is a sequence of characters: what is not between quotes is ASCII, and so is every escape, and
between quotes stand characters otherwise.
-/

namespace SessionRecovery.Json

open Utf8

variable {input middle rest : Bytes}

/-- Characters stand in front of a rest. -/
def Spans (input rest : Bytes) : Prop := ∃ cs, input = encodeChars cs ++ rest

namespace Spans

theorem refl (bs : Bytes) : Spans bs bs := ⟨[], rfl⟩

theorem trans (h : Spans input middle) (h' : Spans middle rest) : Spans input rest := by
  obtain ⟨cs, rfl⟩ := h
  obtain ⟨ds, rfl⟩ := h'
  exact ⟨cs ++ ds, by rw [encodeChars_append, List.append_assoc]⟩

/-- A character in front of characters. -/
theorem char (c : Char) (h : Spans input rest) : Spans (String.utf8EncodeChar c ++ input) rest := by
  obtain ⟨cs, rfl⟩ := h
  exact ⟨c :: cs, by rw [encodeChars_cons, List.append_assoc]⟩

/-- An ASCII byte in front of characters. -/
theorem cons {b : UInt8} (hb : b < 0x80) (h : Spans input rest) : Spans (b :: input) rest := by
  have hchar := h.char (Char.ofNat b.toNat)
  rwa [utf8EncodeChar_one hb] at hchar

/-- ASCII bytes in front of characters. -/
theorem append {bs : Bytes} (hbs : ∀ b ∈ bs, b < 0x80) (h : Spans input rest) :
    Spans (bs ++ input) rest := by
  induction bs with
  | nil => exact h
  | cons b bs ih => exact cons (hbs b List.mem_cons_self) (ih fun c hc => hbs c (List.mem_cons_of_mem _ hc))

end Spans

/-! ## Words -/

theorem Gap.spans (h : Gap input rest) : Spans input rest := by
  obtain ⟨blanks, rfl, hblanks⟩ := h
  refine .append (fun b hb => ?_) (.refl rest)
  rcases isGap_iff.mp (hblanks b hb) with rfl | rfl | rfl | rfl <;> decide

/-- Blanks and an ASCII byte in front of characters. -/
theorem Gap.spans_cons {b : UInt8} (h : Gap input (b :: middle)) (hb : b < 0x80)
    (hrest : Spans middle rest) : Spans input rest :=
  h.spans.trans (.cons hb hrest)

/-- Bytes are ASCII if each of them is found to be. -/
theorem ascii_of_all {bs : Bytes} (h : bs.all (· < 0x80) = true) : ∀ b ∈ bs, b < 0x80 := fun b hb =>
  of_decide_eq_true (List.all_eq_true.mp h b hb)

theorem ascii_of_isDigit {b : UInt8} (h : Bytes.isDigit b = true) : b < 0x80 := by
  simp only [Bytes.isDigit, Bool.and_eq_true, decide_eq_true_eq, UInt8.le_iff_toNat_le,
    UInt8.reduceToNat] at h
  simp only [UInt8.lt_iff_toNat_lt, UInt8.reduceToNat]
  omega

theorem IsInteger.ascii {i : Bytes} (h : IsInteger i) : ∀ b ∈ i, b < 0x80 := by
  cases h with
  | zero => exact ascii_of_all rfl
  | digits hb _ hbs =>
    exact List.forall_mem_cons.mpr ⟨ascii_of_isDigit hb, fun c hc => ascii_of_isDigit (hbs c hc)⟩

theorem IsFraction.ascii {f : Bytes} (h : IsFraction f) : ∀ b ∈ f, b < 0x80 := by
  cases h with
  | absent => exact List.forall_mem_nil _
  | present h =>
    exact List.forall_mem_cons.mpr ⟨by decide, fun b hb => ascii_of_isDigit (h.2 b hb)⟩

theorem IsExponent.ascii {e : Bytes} (h : IsExponent e) : ∀ b ∈ e, b < 0x80 := by
  cases h with
  | absent => exact List.forall_mem_nil _
  | present hletter hsign h =>
    refine List.forall_mem_cons.mpr ⟨?_, List.forall_mem_append.mpr
      ⟨?_, fun b hb => ascii_of_isDigit (h.2 b hb)⟩⟩
    · obtain rfl | rfl := hletter <;> decide
    · obtain rfl | rfl | rfl := hsign <;> exact ascii_of_all rfl

theorem IsNumber.ascii {ds : Bytes} (h : IsNumber ds) : ∀ b ∈ ds, b < 0x80 := by
  obtain ⟨hsign, hi, hf, he⟩ := h
  refine List.forall_mem_append.mpr ⟨?_, List.forall_mem_append.mpr
    ⟨hi.ascii, List.forall_mem_append.mpr ⟨hf.ascii, he.ascii⟩⟩⟩
  obtain rfl | rfl := hsign <;> exact ascii_of_all rfl

/-! ## Texts between quotes -/

theorem ascii_of_hexValue? {b : UInt8} {v : Nat} (h : Bytes.hexValue? b = some v) : b < 0x80 := by
  unfold Bytes.hexValue? at h
  simp only [Bytes.isDigit, Bool.and_eq_true, decide_eq_true_eq, UInt8.le_iff_toNat_le,
    UInt8.reduceToNat] at h
  simp only [UInt8.lt_iff_toNat_lt, UInt8.reduceToNat]
  split at h
  · omega
  split at h
  · omega
  split at h
  · omega
  · cases h

/-- The escape of a code point is ASCII. -/
theorem spans_code {a b c d : UInt8} {n : Nat} (hn : fourHex? a b c d = some n)
    (h : Spans input rest) : Spans (0x5C :: 0x75 :: a :: b :: c :: d :: input) rest := by
  simp only [fourHex?, Option.bind_eq_bind, Option.bind_eq_some_iff] at hn
  obtain ⟨_, ha, _, hb, _, hc, _, hd, -⟩ := hn
  exact .cons (by decide) (.cons (by decide) (.cons (ascii_of_hexValue? ha)
    (.cons (ascii_of_hexValue? hb) (.cons (ascii_of_hexValue? hc) (.cons (ascii_of_hexValue? hd) h)))))

theorem ascii_of_mem_letterEscapes {e : UInt8} {c : Char} (h : (e, c) ∈ letterEscapes) : e < 0x80 := by
  have hall : letterEscapes.all (fun p => decide (p.1 < 0x80)) = true := by decide
  exact of_decide_eq_true (List.all_eq_true.mp hall _ h)

theorem Quoted.spans {spelled : Option (List Char)} (h : Quoted rest spelled input) :
    Spans input rest := by
  induction h with
  | close => exact .cons (by decide) (.refl rest)
  | plain _ _ _ _ ih => exact .char _ ih
  | letter he _ ih => exact .cons (by decide) (.cons (ascii_of_mem_letterEscapes he) ih)
  | code hn _ _ _ ih => exact spans_code hn ih
  | pair hn _ hn' _ _ ih => exact spans_code hn (spans_code hn' ih)
  | loneLow hn _ _ ih => exact spans_code hn ih
  | loneHigh hn _ _ _ ih => exact spans_code hn ih

theorem Named.spans {name : Option String} (h : Named name input middle) : Spans input middle := by
  obtain ⟨_, quoted, colon, after, -, hgap, hquoted, hcolon, hafter⟩ := h
  exact hgap.spans_cons (by decide) (hquoted.spans.trans (hcolon.spans_cons (by decide) hafter.spans))

/-! ## Values -/

/-- Every phrase is characters. -/
theorem Reads.spans {p : Phrase} (h : Reads p input rest) : Spans input rest := by
  induction h with
  | @null rest =>
    have hword : ∀ b ∈ 0x6E :: nullTail, b < 0x80 := ascii_of_all rfl
    exact .append hword (.refl rest)
  | bool b => cases b <;> exact .append (ascii_of_all rfl) (.refl _)
  | number h => exact .append h.ascii (.refl _)
  | text h => exact .cons (by decide) h.spans
  | emptyArray h => exact .cons (by decide) (h.spans_cons (by decide) (.refl _))
  | array _ ih => exact .cons (by decide) ih
  | emptyObject h => exact .cons (by decide) (h.spans_cons (by decide) (.refl _))
  | object _ ih => exact .cons (by decide) ih
  | lastItem hfront _ hback ih =>
    exact hfront.spans.trans (ih.trans (hback.spans_cons (by decide) (.refl _)))
  | item hfront _ hback _ ih ihmore =>
    exact hfront.spans.trans (ih.trans (hback.spans_cons (by decide) ihmore))
  | lastMember hname _ hback ih =>
    exact hname.spans.trans (ih.trans (hback.spans_cons (by decide) (.refl _)))
  | member hname _ hback _ ih ihmore =>
    exact hname.spans.trans (ih.trans (hback.spans_cons (by decide) ihmore))

/-- A whole text is one of characters. -/
theorem IsText.exists_decoded {t : Tree} {body : Bytes} (h : IsText t body) :
    ∃ s, decode? body = some s := by
  obtain ⟨front, back, hfront, hreads, hback⟩ := h
  obtain ⟨cs, hcs⟩ := hfront.spans.trans (hreads.spans.trans hback.spans)
  rw [List.append_nil] at hcs
  exact ⟨String.ofList cs, by rw [hcs, decode?, decodeChars_encodeChars]; rfl⟩

end SessionRecovery.Json
