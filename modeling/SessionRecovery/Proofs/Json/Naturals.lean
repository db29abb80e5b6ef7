import SessionRecovery.Proofs.Json.Records

/-!
# Natural numbers in texts

A natural number is read from digits alone, if it fits the width that is asked for. A sign, a point or an
exponent makes a number that is refused even where its value is natural, and so do digits that no word holds.
-/

namespace SessionRecovery.Json

open Decoder

variable {rest : Bytes}

/-! ## Digits -/

/-- The number that digits make behind those of another one. -/
def continued (n : Nat) (ds : Bytes) : Nat := ds.foldl (fun n d => n * 10 + Bytes.digitValue d) n

theorem continued_cons (n : Nat) (d : UInt8) (ds : Bytes) :
    continued n (d :: ds) = continued (n * 10 + Bytes.digitValue d) ds := by
  simp only [continued, List.foldl_cons]

/-- More digits make no smaller number. -/
theorem le_continued (n : Nat) (ds : Bytes) : n ≤ continued n ds := by
  induction ds generalizing n with
  | nil => exact Nat.le_refl n
  | cons d ds ih =>
    rw [continued_cons]
    exact Nat.le_trans (by omega) (ih _)

section

variable {ds : Bytes} (hds : ∀ b ∈ ds, Bytes.isDigit b = true) {n : Nat}

include hds

/-- All digits are taken of a number that fits a word. -/
theorem takeDigits_of_lt (hrest : NoDigit rest) (hfits : continued n ds < 0x10000000000000000) :
    takeDigits n (ds ++ rest) = (continued n ds, ds.length, rest) := by
  induction ds generalizing n with
  | nil =>
    cases rest with
    | nil => rfl
    | cons b rest =>
      rw [List.nil_append, takeDigits, if_neg (by simp [hrest b rfl])]
      rfl
  | cons d ds ih =>
    rw [continued_cons] at hfits
    have hhere := Nat.lt_of_le_of_lt (le_continued _ ds) hfits
    rw [List.cons_append, takeDigits, if_pos ⟨hds d List.mem_cons_self, hhere⟩,
      ih (fun b hb => hds b (List.mem_cons_of_mem _ hb)) hfits]
    rfl

/-- Digits are left over of a number that fits no word. -/
theorem takeDigits_of_le (hn : n < 0x10000000000000000) (hlarge : 0x10000000000000000 ≤ continued n ds)
    (rest : Bytes) :
    ∃ s count left, left ≠ [] ∧ (∀ b ∈ left, Bytes.isDigit b = true) ∧
      takeDigits n (ds ++ rest) = (s, count, left ++ rest) := by
  induction ds generalizing n with
  | nil => exact absurd hn (Nat.not_lt.mpr hlarge)
  | cons d ds ih =>
    have hmore : ∀ b ∈ ds, Bytes.isDigit b = true := fun b hb => hds b (List.mem_cons_of_mem _ hb)
    rw [continued_cons] at hlarge
    by_cases hhere : n * 10 + Bytes.digitValue d < 0x10000000000000000
    · obtain ⟨s, count, left, hne, hleft, htake⟩ := ih hmore hhere hlarge
      refine ⟨s, count + 1, left, hne, hleft, ?_⟩
      rw [List.cons_append, takeDigits, if_pos ⟨hds d List.mem_cons_self, hhere⟩, htake]
    · refine ⟨n, 0, d :: ds, List.cons_ne_nil _ _, hds, ?_⟩
      rw [List.cons_append, takeDigits, if_neg fun h => hhere h.2]

end

/-- An integer is read as a whole, or digits are left over that no word holds. -/
theorem IsInteger.number_eq {i : Bytes} (h : IsInteger i) (hrest : NoDigit rest) :
    continued 0 i < 0x10000000000000000 ∧
        number false (i ++ rest) = afterDigits false (continued 0 i) 0 rest ∨
      0x10000000000000000 ≤ continued 0 i ∧
        ∃ s skipped, skipped ≠ 0 ∧ number false (i ++ rest) = afterDigits false s skipped rest := by
  cases h with
  | zero =>
    refine .inl ⟨by decide, ?_⟩
    show number false (0x30 :: rest) = _
    cases rest with
    | nil => rfl
    | cons b rest => simp only [number, if_true, hrest b rfl, Bool.false_eq_true, if_false]; rfl
  | @digits b bs hb hne hbs =>
    have hfirst : continued 0 (b :: bs) = continued (Bytes.digitValue b) bs := by
      rw [continued_cons, Nat.zero_mul, Nat.zero_add]
    rw [hfirst, List.cons_append]
    by_cases hfits : continued (Bytes.digitValue b) bs < 0x10000000000000000
    · refine .inl ⟨hfits, ?_⟩
      have hdrop : dropDigits rest = (0, rest) := dropDigits_append (List.forall_mem_nil _) hrest
      simp only [number, if_neg hne, if_pos hb, takeDigits_of_lt hbs hrest hfits, hdrop]
    · have hsmall : Bytes.digitValue b < 0x10000000000000000 := by
        have := b.toNat_lt
        rw [Bytes.digitValue]
        omega
      obtain ⟨s, count, left, hleft, hdigits, htake⟩ :=
        takeDigits_of_le hbs hsmall (Nat.not_lt.mp hfits) rest
      refine .inr ⟨Nat.not_lt.mp hfits, s, left.length, fun h => hleft (List.eq_nil_of_length_eq_zero h),
        ?_⟩
      simp only [number, if_neg hne, if_pos hb, htake, dropDigits_append hdigits hrest]

/-! ## Numbers that are not natural -/

/-- What is read as a natural number of a given width. -/
def asNat (bits : Nat) (r : Except Fault (Number × Bytes)) : Except Fault (Nat × Bytes) :=
  r.bind fun r => (natOf bits r.1).map fun n => (n, r.2)

/-- What is read is no natural number of any width. -/
def Unnatural (r : Except Fault (Number × Bytes)) : Prop := ∀ bits, (asNat bits r).toOption = none

theorem Unnatural.error (f : Fault) : Unnatural (.error f) := fun _ => rfl

theorem Unnatural.float (x : Float) (rest : Bytes) : Unnatural (.ok (.float x, rest)) := fun _ => rfl

/-- What is computed as a floating-point number is not natural. -/
theorem unnatural_floatOf (negative : Bool) (s : Nat) (e : Int) (rest : Bytes) :
    Unnatural (match floatOf negative s e with
      | .error f => .error f
      | .ok n => .ok (n, rest)) := by
  rw [floatOf]
  cases scaled? s e with
  | none => exact .error _
  | some x => exact .float _ rest

theorem unnatural_exponentPart (negative : Bool) (s : Nat) (e : Int) (bs : Bytes) :
    Unnatural (exponentPart negative s e bs) := by
  unfold exponentPart
  split
  split
  · exact .error _
  · split
    · exact unnatural_floatOf _ _ _ _
    · exact .error _

theorem unnatural_fractionPart (negative : Bool) (s skipped : Nat) (bs : Bytes) :
    Unnatural (fractionPart negative s skipped bs) := by
  unfold fractionPart
  dsimp only
  split
  · split <;> exact .error _
  · unfold afterFraction
    split
    · exact unnatural_exponentPart _ _ _ _
    · exact unnatural_exponentPart _ _ _ _
    · exact unnatural_floatOf _ _ _ _

/-- A negative integer is not natural. -/
theorem unnatural_intOf (s : Nat) (rest : Bytes) : Unnatural (.ok (intOf true s, rest)) := by
  intro bits
  unfold intOf
  split
  · next w hw =>
    have hnegative : ¬ 0 ≤ w.val := by
      by_cases hzero : s = 0
      · simp [hzero] at hw
      · simp only [hzero, and_false, if_false, if_true, Word64.ofInt?] at hw
        split at hw
        · cases hw
          show ¬ (0 : Int) ≤ -(s : Int)
          omega
        · cases hw
    simp only [asNat, Except.bind, natOf, hnegative, false_and, if_false]
    rfl
  · rfl

/-- Behind its digits, a number goes on with a point or an exponent, or it does not. -/
theorem unnatural_afterDigits (negative : Bool) (s skipped : Nat) (bs : Bytes)
    (h : negative = true ∨ skipped ≠ 0 ∨ ∃ b more, bs = b :: more ∧ (b = 0x2E ∨ b = 0x65 ∨ b = 0x45)) :
    Unnatural (afterDigits negative s skipped bs) := by
  unfold afterDigits
  split
  · exact unnatural_fractionPart _ _ _ _
  · exact unnatural_exponentPart _ _ _ _
  · exact unnatural_exponentPart _ _ _ _
  · next hpoint hsmall hlarge =>
    split
    · next hnone =>
      obtain rfl | hskipped | ⟨b, more, rfl, hb⟩ := h
      · exact unnatural_intOf s _
      · exact absurd hnone hskipped
      · obtain rfl | rfl | rfl := hb
        · exact absurd rfl (hpoint more)
        · exact absurd rfl (hsmall more)
        · exact absurd rfl (hlarge more)
    · exact unnatural_floatOf _ _ _ _

/-- A number behind a sign is not natural. -/
theorem unnatural_negative (bs : Bytes) : Unnatural (number true bs) := by
  unfold number
  split
  · exact .error _
  · split
    · split
      · exact unnatural_afterDigits _ _ _ _ (.inl rfl)
      · split
        · exact .error _
        · exact unnatural_afterDigits _ _ _ _ (.inl rfl)
    · split
      · exact unnatural_afterDigits _ _ _ _ (.inl rfl)
      · exact .error _

/-! ## Natural numbers -/

/-- The natural number of a given width that a value is. -/
def Tree.nat? (bits : Nat) : Tree → Option Nat
  | .number ds =>
    if ds.all Bytes.isDigit ∧ continued 0 ds < Nat.pow 2 bits then some (continued 0 ds) else none
  | _ => none

theorem Tree.nat?_eq_none_of_le {bits : Nat} {ds : Bytes} (h : Nat.pow 2 bits ≤ continued 0 ds) :
    (Tree.number ds).nat? bits = none :=
  if_neg fun hfits => absurd hfits.2 (Nat.not_lt.mpr h)

/-- What is not written in digits alone is no natural number. -/
theorem Tree.nat?_eq_none_of_mem {bits : Nat} {ds : Bytes} {b : UInt8} (hmem : b ∈ ds)
    (hb : Bytes.isDigit b = false) : (Tree.number ds).nat? bits = none :=
  if_neg fun hfits => by
    rw [List.all_eq_true.mp hfits.1 b hmem] at hb
    cases hb

/-- Digits that fit a word are read as their number, if it has the width. -/
theorem asNat_digits {bits n : Nat} (hn : n < 0x10000000000000000) (hrest : Ended rest) :
    (asNat bits (afterDigits false n 0 rest)).toOption =
      (if n < Nat.pow 2 bits then some n else none).map fun n => (n, rest) := by
  have hread : afterDigits false n 0 rest = .ok (intOf false n, rest) := by
    cases rest with
    | nil => rfl
    | cons b rest =>
      obtain ⟨-, hpoint, hsmall, hlarge⟩ := hrest.not_number rfl
      unfold afterDigits
      split
      · next heq => exact absurd (List.head_eq_of_cons_eq heq) hpoint
      · next heq => exact absurd (List.head_eq_of_cons_eq heq) hsmall
      · next heq => exact absurd (List.head_eq_of_cons_eq heq) hlarge
      · rfl
  have hword : intOf false n = .int ⟨n, by omega, by omega⟩ :=
    intOf_word ⟨(n : Int), by omega, by omega⟩
  rw [hread, hword]
  by_cases hwidth : n < Nat.pow 2 bits
  · have hfits : (0 : Int) ≤ n ∧ (n : Int).toNat < Nat.pow 2 bits := ⟨by omega, hwidth⟩
    simp only [asNat, Except.bind, natOf, if_pos hfits, if_pos hwidth]
    rfl
  · have hlarge : ¬ ((0 : Int) ≤ n ∧ (n : Int).toNat < Nat.pow 2 bits) := fun h => hwidth h.2
    simp only [asNat, Except.bind, natOf, if_neg hlarge, if_neg hwidth]
    rfl

/-- Behind the integer of a number stands nothing, or a point or an exponent. -/
theorem IsFraction.append_cases {f e : Bytes} (h : IsFraction f) (he : IsExponent e) :
    f ++ e = [] ∨ ∃ b more, f ++ e = b :: more ∧ (b = 0x2E ∨ b = 0x65 ∨ b = 0x45) := by
  cases h with
  | present _ => exact .inr ⟨_, _, rfl, .inl rfl⟩
  | absent =>
    cases he with
    | absent => exact .inl rfl
    | present hletter => exact .inr ⟨_, _, rfl, .inr hletter⟩

theorem IsInteger.all_isDigit {i : Bytes} (h : IsInteger i) : i.all Bytes.isDigit = true := by
  cases h with
  | zero => rfl
  | digits hb _ hbs =>
    rw [List.all_cons, hb, Bool.true_and]
    exact List.all_eq_true.mpr hbs

/-- A number without a sign is read as the natural number that it is. -/
theorem IsInteger.asNat_eq {bits : Nat} (hbits : bits ≤ 64) {i f e : Bytes} (h : IsInteger i)
    (hf : IsFraction f) (he : IsExponent e) (hrest : Ended rest) :
    (asNat bits (number false (i ++ (f ++ e ++ rest)))).toOption =
      ((Tree.number (i ++ (f ++ e))).nat? bits).map fun n => (n, rest) := by
  have hnoDigit := hf.noDigit he hrest
  rw [← List.append_assoc] at hnoDigit
  have hnumber := h.number_eq hnoDigit
  obtain hnone | ⟨b, more, hmore, hb⟩ := hf.append_cases he
  · rw [hnone, List.nil_append] at hnumber ⊢
    rw [List.append_nil]
    obtain ⟨hfits, hread⟩ | ⟨hlarge, s, skipped, hskipped, hread⟩ := hnumber
    · rw [hread, asNat_digits hfits hrest, Tree.nat?, h.all_isDigit]
      simp only [true_and]
    · have hwide : Nat.pow 2 bits ≤ 0x10000000000000000 := Nat.pow_le_pow_right (by decide) hbits
      rw [hread, unnatural_afterDigits _ _ _ _ (.inr (.inl hskipped)),
        Tree.nat?_eq_none_of_le (Nat.le_trans hwide hlarge)]
      rfl
  · have hother : Bytes.isDigit b = false := by
      obtain rfl | rfl | rfl := hb <;> decide
    have hmem : b ∈ i ++ (f ++ e) := by
      rw [hmore]
      exact List.mem_append_right _ List.mem_cons_self
    rw [Tree.nat?_eq_none_of_mem hmem hother]
    rw [hmore, List.cons_append] at hnumber ⊢
    obtain ⟨-, hread⟩ | ⟨-, s, skipped, -, hread⟩ := hnumber
    · rw [hread, unnatural_afterDigits _ _ _ _ (.inr (.inr ⟨b, _, rfl, hb⟩))]
      rfl
    · rw [hread, unnatural_afterDigits _ _ _ _ (.inr (.inr ⟨b, _, rfl, hb⟩))]
      rfl

/-- Only a number begins with a sign or a digit. -/
theorem Reads.of_sign_or_digit {t : Tree} {b : UInt8} {bs : Bytes}
    (h : Reads (.value t) (b :: bs) rest) (hb : b = 0x2D ∨ Bytes.isDigit b = true) :
    ∃ ds, t = .number ds ∧ IsNumber ds ∧ b :: bs = ds ++ rest := by
  generalize hinput : b :: bs = input at h
  have hother {c : UInt8} (hc : ¬ (c = 0x2D ∨ Bytes.isDigit c = true)) {more : Bytes} :
      b :: bs ≠ c :: more := fun heq => hc ((List.cons.inj heq).1 ▸ hb)
  cases h with
  | number h => exact ⟨_, rfl, h, rfl⟩
  | bool v => cases v <;> exact absurd hinput (hother (by decide))
  | null | text _ | emptyArray _ | array _ | emptyObject _ | object _ =>
    exact absurd hinput (hother (by decide))

/-- Where neither a sign nor a digit stands there is no number. -/
theorem Reads.nat?_eq_none {t : Tree} {b : UInt8} {bs : Bytes} (h : Reads (.value t) (b :: bs) rest)
    (hb : ¬ (b = 0x2D ∨ Bytes.isDigit b = true)) (bits : Nat) : t.nat? bits = none := by
  generalize hinput : b :: bs = input at h
  cases h with
  | number h =>
    obtain ⟨c, more, rfl, hc⟩ := h.begins
    cases hinput
    exact absurd hc hb
  | null | bool _ | text _ | emptyArray _ | array _ | emptyObject _ | object _ => rfl

/-- A natural number of at most the width of a word is read from its digits, and anything else is refused. -/
theorem Decodes.nat {bits : Nat} (hbits : bits ≤ 64) (n : Nat) (t : Tree) :
    Decodes (Decoder.nat bits) n t (t.nat? bits) := by
  intro input front rest hgap hreads hrest
  obtain ⟨b, bs, rfl, hb, -⟩ := hreads.begins
  simp only [Decoder.nat, hgap.skipGap_cons hb]
  by_cases hnumber : b = 0x2D ∨ Bytes.isDigit b = true
  · obtain ⟨ds, rfl, hds, hinput⟩ := hreads.of_sign_or_digit hnumber
    obtain @⟨sign, i, f, e, hsign, hi, hf, he⟩ := hds
    obtain rfl | rfl := hsign
    · -- the first byte is a digit, not the sign
      obtain ⟨c, more, rfl, hc⟩ := hi.begins
      have hread := hi.asNat_eq hbits hf he hrest
      simp only [List.nil_append, List.cons_append, List.append_assoc] at hinput hread ⊢
      obtain ⟨rfl, rfl⟩ := List.cons.inj hinput
      have hsign : b ≠ 0x2D := fun h => not_sign_of_isDigit hc (.inr h)
      rw [if_neg hsign, if_pos hc]
      exact hread
    · obtain ⟨rfl, -⟩ := List.cons.inj hinput
      have hmem : 0x2D ∈ [0x2D] ++ (i ++ (f ++ e)) := List.mem_cons_self
      rw [if_pos rfl, Tree.nat?_eq_none_of_mem hmem (by decide)]
      exact unnatural_negative bs bits
  · obtain ⟨hsign, hdigit⟩ := not_or.mp hnumber
    rw [if_neg hsign, if_neg hdigit, hreads.nat?_eq_none hnumber]
    rfl

end SessionRecovery.Json
