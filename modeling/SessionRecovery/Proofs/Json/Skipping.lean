import SessionRecovery.Proofs.Json.Quotes

/-!
# Skipped values

A value that nobody asks for is gone over to its end, whatever it is: its texts need not be decoded, its
numbers may be beyond any range, and no nesting is too deep.
-/

namespace SessionRecovery.Json

variable {input front back rest : Bytes}

/-! ## Blanks and ends -/

/-- What may follow a value: nothing, a blank, a comma, or the end of an array or object. -/
def Ended (rest : Bytes) : Prop :=
  ∀ b, rest.head? = some b → isGap b = true ∨ b = 0x2C ∨ b = 0x5D ∨ b = 0x7D

/-- Blanks in front do not count where blanks are skipped. -/
theorem Gap.skipGap_eq (h : Gap input rest) : skipGap input = skipGap rest := by
  obtain ⟨blanks, rfl, hblanks⟩ := h
  exact List.dropWhile_append_of_pos hblanks

/-- Blanks are skipped up to a byte that is none. -/
theorem Gap.skipGap_cons {b : UInt8} (h : Gap input (b :: rest)) (hb : isGap b = false) :
    skipGap input = b :: rest := by
  rw [h.skipGap_eq, Json.skipGap_cons hb]

theorem Gap.length_le (h : Gap input rest) : rest.length ≤ input.length := by
  obtain ⟨blanks, rfl, -⟩ := h
  rw [List.length_append]
  omega

/-- Blanks and a separator end a value. -/
theorem Gap.ended {b : UInt8} (h : Gap input (b :: rest))
    (hb : b = 0x2C ∨ b = 0x5D ∨ b = 0x7D) : Ended input := by
  obtain ⟨blanks, rfl, hblanks⟩ := h
  intro c hc
  cases blanks with
  | nil =>
    cases hc
    exact .inr hb
  | cons blank blanks =>
    cases hc
    exact .inl (hblanks c List.mem_cons_self)

/-- The end of a text ends a value. -/
theorem Gap.ended_nil (h : Gap input []) : Ended input := by
  obtain ⟨blanks, rfl, hblanks⟩ := h
  intro c hc
  rw [List.append_nil] at hc
  exact .inl (hblanks c (List.mem_of_head? hc))

/-- What ends a value is no part of a number. -/
theorem Ended.not_number (h : Ended rest) {b : UInt8} (hb : rest.head? = some b) :
    Bytes.isDigit b = false ∧ b ≠ 0x2E ∧ b ≠ 0x65 ∧ b ≠ 0x45 := by
  rcases h b hb with hgap | hb
  · rcases isGap_iff.mp hgap with rfl | rfl | rfl | rfl <;> decide
  · rcases hb with rfl | rfl | rfl <;> decide

/-! ## Numbers -/

/-- No digit stands in front. -/
def NoDigit (rest : Bytes) : Prop := ∀ b, rest.head? = some b → Bytes.isDigit b = false

theorem dropDigits_append {ds : Bytes} (hds : ∀ b ∈ ds, Bytes.isDigit b = true)
    (hrest : NoDigit rest) : dropDigits (ds ++ rest) = (ds.length, rest) := by
  induction ds with
  | nil =>
    cases rest with
    | nil => rfl
    | cons b rest => rw [List.nil_append, dropDigits, hrest b rfl, if_neg Bool.false_ne_true]; rfl
  | cons d ds ih =>
    rw [List.cons_append, dropDigits, if_pos (hds d List.mem_cons_self),
      ih fun b hb => hds b (List.mem_cons_of_mem _ hb)]
    rfl

theorem skipDigits_append {ds : Bytes} (hds : IsDigits ds) (hrest : NoDigit rest) :
    skipDigits (ds ++ rest) = .ok rest := by
  obtain ⟨hne, hall⟩ := hds
  rw [skipDigits, dropDigits_append hall hrest]
  cases ds with
  | nil => exact absurd rfl hne
  | cons d ds => rfl

theorem Ended.noDigit (h : Ended rest) : NoDigit rest := fun _ hb => (h.not_number hb).1

/-- A digit is no sign. -/
theorem not_sign_of_isDigit {b : UInt8} (h : Bytes.isDigit b = true) : ¬ (b = 0x2B ∨ b = 0x2D) := by
  rintro (rfl | rfl) <;> exact absurd h (by decide)

/-- An exponent is skipped, whether there is one or none. -/
theorem IsExponent.skip {e : Bytes} (h : IsExponent e) (hrest : Ended rest) :
    skipExponent (e ++ rest) = .ok rest := by
  cases h with
  | absent =>
    cases rest with
    | nil => rfl
    | cons b rest =>
      obtain ⟨-, -, hsmall, hlarge⟩ := hrest.not_number rfl
      rw [List.nil_append, skipExponent.eq_def]
      exact if_neg (by simp [hsmall, hlarge])
  | @present letter sign bs hletter hsign hbs =>
    have hskip := skipDigits_append hbs hrest.noDigit
    rw [List.cons_append, skipExponent.eq_def]
    refine (if_pos hletter).trans ?_
    rcases hsign with rfl | rfl | rfl
    · obtain ⟨hne, hall⟩ := hbs
      cases bs with
      | nil => exact absurd rfl hne
      | cons d ds =>
        exact (if_neg (not_sign_of_isDigit (hall d List.mem_cons_self))).trans hskip
    · exact hskip
    · exact hskip

/-- An exponent begins with its letter. -/
theorem IsExponent.head? {e : Bytes} (h : IsExponent e) {b : UInt8} (hb : e.head? = some b) :
    b = 0x65 ∨ b = 0x45 := by
  cases h with
  | absent => cases hb
  | present hletter =>
    cases hb
    exact hletter

/-- What follows the digits of a number begins neither with a digit nor, without a fraction, with a point. -/
theorem IsExponent.head?_append {e : Bytes} (h : IsExponent e) (hrest : Ended rest) {b : UInt8}
    (hb : (e ++ rest).head? = some b) : Bytes.isDigit b = false ∧ b ≠ 0x2E := by
  rw [List.head?_append, Option.or_eq_some_iff] at hb
  rcases hb with hb | ⟨-, hb⟩
  · rcases h.head? hb with rfl | rfl <;> decide
  · exact ⟨(hrest.not_number hb).1, (hrest.not_number hb).2.1⟩

/-- A fraction is skipped, whether there is one or none, and the exponent behind it. -/
theorem IsFraction.skip {f e : Bytes} (h : IsFraction f) (he : IsExponent e) (hrest : Ended rest) :
    skipFraction (f ++ (e ++ rest)) = .ok rest := by
  have hexponent := he.skip hrest
  cases h with
  | absent =>
    rw [List.nil_append]
    cases hbytes : e ++ rest with
    | nil =>
      rw [hbytes] at hexponent
      exact hexponent
    | cons b bs =>
      have hpoint := (he.head?_append hrest (by rw [hbytes]; rfl)).2
      rw [skipFraction, if_neg hpoint, ← hbytes, hexponent]
  | present hds =>
    rw [List.cons_append, skipFraction, if_pos rfl,
      skipDigits_append hds fun b hb => (he.head?_append hrest hb).1]
    exact hexponent

/-- What follows the integer of a number is no digit. -/
theorem IsFraction.noDigit {f e : Bytes} (h : IsFraction f) (he : IsExponent e) (hrest : Ended rest) :
    NoDigit (f ++ (e ++ rest)) := by
  intro b hb
  cases h with
  | absent => exact (he.head?_append hrest hb).1
  | present _ =>
    cases hb
    rfl

/-- A number is skipped behind its sign. -/
theorem IsInteger.skip {i f e : Bytes} (h : IsInteger i) (hf : IsFraction f) (he : IsExponent e)
    (hrest : Ended rest) : skipNumber (i ++ (f ++ (e ++ rest))) = .ok rest := by
  have hfraction := hf.skip he hrest
  have hnoDigit := hf.noDigit he hrest
  cases h with
  | zero =>
    rw [List.singleton_append, skipNumber.eq_def]
    refine (if_pos rfl).trans ?_
    cases hbytes : f ++ (e ++ rest) with
    | nil =>
      rw [hbytes] at hfraction
      exact hfraction
    | cons b bs =>
      have hb := hnoDigit b (by rw [hbytes]; rfl)
      dsimp only
      rw [hb, if_neg Bool.false_ne_true, ← hbytes, hfraction]
  | digits hb hne hbs =>
    rw [List.cons_append, skipNumber.eq_def]
    refine (if_neg hne).trans ((if_pos hb).trans ?_)
    rw [dropDigits_append hbs hnoDigit, hfraction]

/-! ## The beginning and the length of a phrase -/

/-- The integer of a number begins with a digit. -/
theorem IsInteger.begins {i : Bytes} (h : IsInteger i) :
    ∃ b bs, i = b :: bs ∧ Bytes.isDigit b = true := by
  cases h with
  | zero => exact ⟨_, _, rfl, by decide⟩
  | digits hb => exact ⟨_, _, rfl, hb⟩

/-- A number begins with a sign or a digit. -/
theorem IsNumber.begins {ds : Bytes} (h : IsNumber ds) :
    ∃ b bs, ds = b :: bs ∧ (b = 0x2D ∨ Bytes.isDigit b = true) := by
  obtain ⟨hsign, hinteger, -, -⟩ := h
  rcases hsign with rfl | rfl
  · obtain ⟨b, bs, rfl, hb⟩ := hinteger.begins
    exact ⟨b, _, rfl, .inr hb⟩
  · exact ⟨_, _, rfl, .inl rfl⟩

/-- A sign and the digits are no blanks and end no array. -/
theorem solid_of_sign_or_digit {b : UInt8} (h : b = 0x2D ∨ Bytes.isDigit b = true) :
    isGap b = false ∧ b ≠ 0x5D := by
  rcases h with rfl | hdigit
  · decide
  · refine ⟨isGap_of_isDigit hdigit, ?_⟩
    rintro rfl
    exact absurd hdigit (by decide)

/-- A value begins with a byte that is neither a blank nor the end of an array. -/
theorem Reads.begins {t : Tree} (h : Reads (.value t) input rest) :
    ∃ b bs, input = b :: bs ∧ isGap b = false ∧ b ≠ 0x5D := by
  cases h with
  | null => exact ⟨_, _, rfl, by decide⟩
  | bool b => cases b <;> exact ⟨_, _, rfl, by decide⟩
  | number h =>
    obtain ⟨b, bs, rfl, hb⟩ := h.begins
    exact ⟨b, bs ++ rest, rfl, solid_of_sign_or_digit hb⟩
  | text _ => exact ⟨_, _, rfl, by decide⟩
  | emptyArray _ => exact ⟨_, _, rfl, by decide⟩
  | array _ => exact ⟨_, _, rfl, by decide⟩
  | emptyObject _ => exact ⟨_, _, rfl, by decide⟩
  | object _ => exact ⟨_, _, rfl, by decide⟩

/-- Items begin with one that is not the end of their array. -/
theorem Reads.items_begin {ts : List Tree} (h : Reads (.items ts) input rest) :
    ∃ b bs, Gap input (b :: bs) ∧ isGap b = false ∧ b ≠ 0x5D := by
  cases h with
  | lastItem hfront h =>
    obtain ⟨b, bs, rfl, hb⟩ := h.begins
    exact ⟨b, bs, hfront, hb⟩
  | item hfront h =>
    obtain ⟨b, bs, rfl, hb⟩ := h.begins
    exact ⟨b, bs, hfront, hb⟩

/-- Members begin with a name. -/
theorem Reads.members_begin {ms : List (Option String × Tree)} (h : Reads (.members ms) input rest) :
    ∃ bs, Gap input (0x22 :: bs) := by
  cases h with
  | lastMember hname =>
    obtain ⟨_, quoted, _, _, _, hgap, -⟩ := hname
    exact ⟨quoted, hgap⟩
  | member hname =>
    obtain ⟨_, quoted, _, _, _, hgap, -⟩ := hname
    exact ⟨quoted, hgap⟩

/-- What stands between quotes takes a byte at least. -/
theorem Quoted.length_lt {spelled : Option (List Char)} (h : Quoted rest spelled input) :
    rest.length < input.length := by
  induction h with
  | close => simp
  | plain _ _ _ _ ih => rw [List.length_append]; omega
  | letter _ _ ih => simp only [List.length_cons]; omega
  | code _ _ _ _ ih => simp only [List.length_cons]; omega
  | pair _ _ _ _ _ ih => simp only [List.length_cons]; omega
  | loneLow _ _ _ ih => simp only [List.length_cons]; omega
  | loneHigh _ _ _ _ ih => simp only [List.length_cons]; omega

/-- A name takes a byte at least. -/
theorem Named.length_lt {name : Option String} (h : Named name input front) :
    front.length < input.length := by
  obtain ⟨_, quoted, colon, after, -, hgap, hquoted, hcolon, hafter⟩ := h
  have := hgap.length_le
  have := hquoted.length_lt
  have := hcolon.length_le
  have := hafter.length_le
  simp only [List.length_cons] at *
  omega

/-- A phrase takes a byte at least. -/
theorem Reads.length_lt {p : Phrase} (h : Reads p input rest) : rest.length < input.length := by
  induction h with
  | null =>
    rw [List.length_append, List.length_cons]
    omega
  | bool b =>
    cases b <;>
    · simp only [boolWord, Bool.false_eq_true, if_true, if_false, List.length_append, List.length_cons]
      omega
  | number h =>
    obtain ⟨b, bs, rfl, -⟩ := h.begins
    rw [List.length_append, List.length_cons]
    omega
  | text h =>
    have := h.length_lt
    rw [List.length_cons]
    omega
  | emptyArray h =>
    have := h.length_le
    simp only [List.length_cons] at *
    omega
  | array _ ih => rw [List.length_cons]; omega
  | emptyObject h =>
    have := h.length_le
    simp only [List.length_cons] at *
    omega
  | object _ ih => rw [List.length_cons]; omega
  | lastItem hfront _ hback ih =>
    have := hfront.length_le
    have := hback.length_le
    simp only [List.length_cons] at *
    omega
  | item hfront _ hback _ ih ihmore =>
    have := hfront.length_le
    have := hback.length_le
    simp only [List.length_cons] at *
    omega
  | lastMember hname _ hback ih =>
    have := hname.length_lt
    have := hback.length_le
    simp only [List.length_cons] at *
    omega
  | member hname _ hback _ ih ihmore =>
    have := hname.length_lt
    have := hback.length_le
    simp only [List.length_cons] at *
    omega

/-! ## Values -/

/-- A value that is skipped however deep it may nest is skipped within any bound. -/
theorem skipValueWithin_of_skipWith
    (h : ∀ inner steps, skipWith inner steps input = .ok rest) (bound : Nat) :
    skipValueWithin bound input = .ok rest := by
  cases bound <;> exact h _ _

/-- Blanks in front of a value do not count. -/
theorem Gap.skipValueWithin_eq (h : Gap input front) (bound : Nat) :
    skipValueWithin bound input = skipValueWithin bound front := by
  cases bound <;> simp only [skipValueWithin, skipWith, h.skipGap_eq]

/-- Blanks in front of items do not count. -/
theorem Gap.skipItems_eq (h : Gap input front) (bound steps : Nat) :
    skipItems (skipValueWithin bound) steps input = skipItems (skipValueWithin bound) steps front := by
  cases steps <;> simp only [skipItems, h.skipValueWithin_eq]

/-- Blanks in front of members do not count. -/
theorem Gap.skipMembers_eq (h : Gap input front) (skip : Bytes → Except Fault Bytes) (steps : Nat) :
    skipMembers skip steps input = skipMembers skip steps front := by
  cases steps <;> simp only [skipMembers, h.skipGap_eq]

/-- Behind the bracket of an array stands its end, or items. -/
theorem skipWith_bracket (inner : Bytes → Except Fault Bytes) (steps : Nat) {b : UInt8} {bs : Bytes}
    (h : Gap input (b :: bs)) (hb : isGap b = false) :
    skipWith inner steps (0x5B :: input) =
      if b = 0x5D then .ok bs else skipItems inner steps (b :: bs) := by
  simp [skipWith, skipGap_cons (b := 0x5B) (by decide), h.skipGap_cons hb,
    show Bytes.isDigit 0x5B = false from rfl]

/-- Behind the brace of an object stands its end, or members. -/
theorem skipWith_brace (inner : Bytes → Except Fault Bytes) (steps : Nat) {b : UInt8} {bs : Bytes}
    (h : Gap input (b :: bs)) (hb : isGap b = false) :
    skipWith inner steps (0x7B :: input) =
      if b = 0x7D then .ok bs else skipMembers inner steps (b :: bs) := by
  simp [skipWith, skipGap_cons (b := 0x7B) (by decide), h.skipGap_cons hb,
    show Bytes.isDigit 0x7B = false from rfl]

/-- A name and its colon are skipped. -/
theorem Named.skip {name : Option String} (h : Named name input front) :
    ∃ quoted after, skipGap input = 0x22 :: quoted ∧ Gap after front ∧
      (skipText quoted).bind colon = .ok after := by
  obtain ⟨spelled, quoted, colonBytes, after, -, hgap, hquoted, hcolon, hafter⟩ := h
  refine ⟨quoted, after, hgap.skipGap_cons (by decide), hafter, ?_⟩
  rw [hquoted.skipText_eq]
  simp only [Except.bind, colon, hcolon.skipGap_cons (b := 0x3A) (by decide), if_true]

/-- Phrases are skipped up to their rest, if the bounds suffice for the bytes in front. -/
def Skips : Phrase → Bytes → Bytes → Prop
  | .value _, input, rest =>
    Ended rest → ∀ bound, input.length ≤ bound → skipValueWithin bound input = .ok rest
  | .items _, input, rest => ∀ bound steps, input.length ≤ bound → input.length ≤ steps →
    skipItems (skipValueWithin bound) steps input = .ok rest
  | .members _, input, rest => ∀ bound steps, input.length ≤ bound → input.length ≤ steps →
    skipMembers (skipValueWithin bound) steps input = .ok rest

/-- A value that begins with a digit is a number. -/
theorem skipWith_digit (inner : Bytes → Except Fault Bytes) (steps : Nat) {b : UInt8}
    (hb : Bytes.isDigit b = true) (rest : Bytes) :
    skipWith inner steps (b :: rest) = skipNumber (b :: rest) := by
  have hne {c : UInt8} (hc : Bytes.isDigit c = false) : b ≠ c := fun h => by
    rw [h, hc] at hb
    cases hb
  rw [skipWith, skipGap_cons (solid_of_sign_or_digit (.inr hb)).1]
  dsimp only
  rw [if_neg (hne (by decide)), if_neg (hne (by decide)), if_neg (hne (by decide)),
    if_neg (hne (by decide)), if_pos hb]

/-- A number is skipped as a value. -/
theorem IsNumber.skipWith_eq {ds : Bytes} (h : IsNumber ds) (hrest : Ended rest)
    (inner : Bytes → Except Fault Bytes) (steps : Nat) :
    skipWith inner steps (ds ++ rest) = .ok rest := by
  obtain ⟨hsign, hinteger, hfraction, hexponent⟩ := h
  have hskip := hinteger.skip hfraction hexponent hrest
  rcases hsign with rfl | rfl
  · obtain ⟨b, bs, rfl, hb⟩ := hinteger.begins
    simp only [List.nil_append, List.cons_append, List.append_assoc] at hskip ⊢
    rw [skipWith_digit inner steps hb, hskip]
  · simp only [List.cons_append, List.nil_append, List.append_assoc]
    exact hskip

/-- An item is skipped, and the others or the end follow it. -/
theorem skipItems_succ {skip : Bytes → Except Fault Bytes} {more : Bytes} {b : UInt8}
    (h : skip input = .ok back) (hback : Gap back (b :: more)) (hb : isGap b = false) (steps : Nat) :
    skipItems skip (steps + 1) input =
      if b = 0x2C then skipItems skip steps more
      else if b = 0x5D then .ok more else .error .commaOrEndOfArray := by
  simp only [skipItems, h, hback.skipGap_cons hb]

/-- A member is skipped, and the others or the end follow it. -/
theorem skipMembers_succ {skip : Bytes → Except Fault Bytes} {name : Option String} {more : Bytes}
    {b : UInt8} (hname : Named name input front) (hgap : ∀ {bs}, Gap bs front → skip bs = skip front)
    (h : skip front = .ok back) (hback : Gap back (b :: more)) (hb : isGap b = false) (steps : Nat) :
    skipMembers skip (steps + 1) input =
      if b = 0x2C then skipMembers skip steps more
      else if b = 0x7D then .ok more else .error .commaOrEndOfObject := by
  obtain ⟨quoted, after, hinput, hafter, hskip⟩ := hname.skip
  have hvalue : ((skipText quoted).bind colon).bind skip = .ok back := by
    rw [hskip]
    exact (hgap hafter).trans h
  simp only [skipMembers, hinput, ne_eq, not_true_eq_false, if_false, hvalue, hback.skipGap_cons hb]

/-- Every phrase is skipped. -/
theorem Reads.skips {p : Phrase} (h : Reads p input rest) : Skips p input rest := by
  induction h with
  | null => exact fun _ bound _ => skipValueWithin_of_skipWith (fun _ _ => rfl) bound
  | bool b => cases b <;> exact fun _ bound _ => skipValueWithin_of_skipWith (fun _ _ => rfl) bound
  | number h => exact fun hrest bound _ => skipValueWithin_of_skipWith (h.skipWith_eq hrest) bound
  | @text spelled input rest h =>
    have hskip (inner : Bytes → Except Fault Bytes) (steps : Nat) :
        skipWith inner steps (0x22 :: input) = .ok rest := h.skipText_eq
    exact fun _ bound _ => skipValueWithin_of_skipWith hskip bound
  | emptyArray h =>
    refine fun _ bound _ => skipValueWithin_of_skipWith (fun inner steps => ?_) bound
    rw [skipWith_bracket inner steps h (by decide), if_pos rfl]
  | @array ts input rest h ih =>
    intro _ bound hbound
    rw [List.length_cons] at hbound
    obtain _ | bound := bound
    · omega
    · obtain ⟨b, bs, hgap, hb, hclose⟩ := h.items_begin
      rw [skipValueWithin, skipWith_bracket _ _ hgap hb, if_neg hclose, ← hgap.skipItems_eq]
      exact ih bound (bound + 1) (by omega) (by omega)
  | emptyObject h =>
    refine fun _ bound _ => skipValueWithin_of_skipWith (fun inner steps => ?_) bound
    rw [skipWith_brace inner steps h (by decide), if_pos rfl]
  | @object ms input rest h ih =>
    intro _ bound hbound
    rw [List.length_cons] at hbound
    obtain _ | bound := bound
    · omega
    · obtain ⟨bs, hgap⟩ := h.members_begin
      rw [skipValueWithin, skipWith_brace _ _ hgap (by decide), if_neg (by decide),
        ← hgap.skipMembers_eq]
      exact ih bound (bound + 1) (by omega) (by omega)
  | @lastItem t input front back rest hfront h hback ih =>
    intro bound steps hbound hsteps
    have hlength := h.length_lt
    have hfrontLength := hfront.length_le
    obtain _ | steps := steps
    · omega
    · have hskip : skipValueWithin bound input = .ok back := by
        rw [hfront.skipValueWithin_eq]
        exact ih (hback.ended (.inr (.inl rfl))) bound (by omega)
      rw [skipItems_succ hskip hback (by decide)]
      rfl
  | @item t ts input front back more rest hfront h hback hmore ih ihmore =>
    intro bound steps hbound hsteps
    have hlength := h.length_lt
    have hfrontLength := hfront.length_le
    have hbackLength := hback.length_le
    rw [List.length_cons] at hbackLength
    obtain _ | steps := steps
    · omega
    · have hskip : skipValueWithin bound input = .ok back := by
        rw [hfront.skipValueWithin_eq]
        exact ih (hback.ended (.inl rfl)) bound (by omega)
      rw [skipItems_succ hskip hback (by decide), if_pos rfl]
      exact ihmore bound steps (by omega) (by omega)
  | @lastMember name t input front back rest hname h hback ih =>
    intro bound steps hbound hsteps
    have hlength := h.length_lt
    have hnameLength := hname.length_lt
    obtain _ | steps := steps
    · omega
    · have hskip : skipValueWithin bound front = .ok back :=
        ih (hback.ended (.inr (.inr rfl))) bound (by omega)
      rw [skipMembers_succ hname (fun hgap => hgap.skipValueWithin_eq bound) hskip hback (by decide)]
      rfl
  | @member name t ms input front back more rest hname h hback hmore ih ihmore =>
    intro bound steps hbound hsteps
    have hlength := h.length_lt
    have hnameLength := hname.length_lt
    have hbackLength := hback.length_le
    rw [List.length_cons] at hbackLength
    obtain _ | steps := steps
    · omega
    · have hskip : skipValueWithin bound front = .ok back :=
        ih (hback.ended (.inl rfl)) bound (by omega)
      rw [skipMembers_succ hname (fun hgap => hgap.skipValueWithin_eq bound) hskip hback (by decide),
        if_pos rfl]
      exact ihmore bound steps (by omega) (by omega)

/-- A value is skipped, with the blanks in front of it. -/
theorem Reads.skipValue_eq {t : Tree} (h : Reads (.value t) front rest) (hgap : Gap input front)
    (hrest : Ended rest) : skipValue input = .ok rest := by
  rw [skipValue, hgap.skipValueWithin_eq]
  exact h.skips hrest _ hgap.length_le

end SessionRecovery.Json
