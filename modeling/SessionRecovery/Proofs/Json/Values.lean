import Mathlib.Data.List.Forall2
import SessionRecovery.Json.Reader
import SessionRecovery.Proofs.Json.Words

/-!
# Values read back

The reader undoes the printer. A written value is read back as it was, whatever may follow a value, if its
numbers are integers and the allowance suffices for its nesting. A floating-point number need not: it is
written by its shortest decimal, and one that is not finite as the null value.
-/

namespace SessionRecovery.Json

open Utf8

/-! ## Exact values -/

mutual
/-- None of the numbers of the value is a floating-point number. -/
def isExact : Json → Bool
  | .num (.float _) => false
  | .arr items => exactItems items
  | .obj members => exactMembers members
  | _ => true
termination_by structural j => j

/-- Every item is exact. -/
def exactItems : List Json → Bool
  | [] => true
  | j :: rest => j.isExact && exactItems rest
termination_by structural js => js

/-- Every member is exact. -/
def exactMembers : List (String × Json) → Bool
  | [] => true
  | m :: rest => exactMember m && exactMembers rest
termination_by structural ms => ms

/-- The value of the member is exact. -/
def exactMember : String × Json → Bool
  | (_, j) => j.isExact
termination_by structural m => m
end

theorem exactItems_iff {js : List Json} :
    exactItems js = true ↔ ∀ j ∈ js, j.isExact = true := by
  induction js with
  | nil => exact iff_of_true rfl nofun
  | cons j js ih => rw [exactItems, Bool.and_eq_true, ih, List.forall_mem_cons]

theorem exactMembers_iff {ms : List (String × Json)} :
    exactMembers ms = true ↔ ∀ m ∈ ms, m.2.isExact = true := by
  induction ms with
  | nil => exact iff_of_true rfl nofun
  | cons m ms ih => rw [exactMembers, Bool.and_eq_true, ih, List.forall_mem_cons, exactMember]

theorem depthItems_le_iff {js : List Json} {n : Nat} :
    depthItems js ≤ n ↔ ∀ j ∈ js, j.depth ≤ n := by
  induction js with
  | nil => exact iff_of_true (Nat.zero_le n) nofun
  | cons j js ih => rw [depthItems, Nat.max_le, ih, List.forall_mem_cons]

theorem depthMembers_le_iff {ms : List (String × Json)} {n : Nat} :
    depthMembers ms ≤ n ↔ ∀ m ∈ ms, m.2.depth ≤ n := by
  induction ms with
  | nil => exact iff_of_true (Nat.zero_le n) nofun
  | cons m ms ih => rw [depthMembers, Nat.max_le, ih, List.forall_mem_cons, depthMember]

/-! ## Written bytes -/

theorem bytes_arr_cons (j : Json) (js : List Json) :
    (Json.arr (j :: js)).bytes = 0x5B :: (j.bytes ++ encodeChars (itemsTail js)) := by
  rw [bytes, chars, List.cons_append, encodeChars_cons, encodeChars_append]
  rfl

theorem itemsTail_cons (j : Json) (js : List Json) :
    encodeChars (itemsTail (j :: js)) = 0x2C :: (j.bytes ++ encodeChars (itemsTail js)) := by
  rw [itemsTail, List.cons_append, encodeChars_cons, encodeChars_append]
  rfl

/-- The bytes of a member behind its opening quote. -/
def memberBytes (m : String × Json) : Bytes :=
  encodeChars (m.1.toList.flatMap charText) ++ 0x22 :: 0x3A :: m.2.bytes

theorem encodeChars_memberChars (m : String × Json) :
    encodeChars (memberChars m) = 0x22 :: memberBytes m := by
  obtain ⟨name, j⟩ := m
  rw [memberChars, encodeChars_append, textChars_eq, encodeChars_cons]
  rfl

theorem bytes_obj_cons (m : String × Json) (ms : List (String × Json)) :
    (Json.obj (m :: ms)).bytes =
      0x7B :: 0x22 :: (memberBytes m ++ encodeChars (membersTail ms)) := by
  rw [bytes, chars, List.cons_append, encodeChars_cons, encodeChars_append,
    encodeChars_memberChars]
  rfl

theorem membersTail_cons (m : String × Json) (ms : List (String × Json)) :
    encodeChars (membersTail (m :: ms)) =
      0x2C :: 0x22 :: (memberBytes m ++ encodeChars (membersTail ms)) := by
  rw [membersTail, List.cons_append, encodeChars_cons, encodeChars_append,
    encodeChars_memberChars]
  rfl

/-- Every further item takes a byte. -/
theorem length_lt_itemsTail (js : List Json) : js.length < (encodeChars (itemsTail js)).length := by
  induction js with
  | nil => decide
  | cons j js ih =>
    rw [itemsTail_cons]
    simp only [List.length_cons, List.length_append]
    omega

/-- Every further member takes a byte. -/
theorem length_lt_membersTail (ms : List (String × Json)) :
    ms.length < (encodeChars (membersTail ms)).length := by
  induction ms with
  | nil => decide
  | cons m ms ih =>
    rw [membersTail_cons]
    simp only [List.length_cons, List.length_append]
    omega

/-- What follows an item is another item or the end. -/
theorem delimited_itemsTail (js : List Json) (rest : Bytes) :
    Delimited (encodeChars (itemsTail js) ++ rest) := by
  cases js with
  | nil => exact .inr (.inl rfl)
  | cons j js => rw [itemsTail_cons]; exact .inl rfl

/-- What follows a member is another member or the end. -/
theorem delimited_membersTail (ms : List (String × Json)) (rest : Bytes) :
    Delimited (encodeChars (membersTail ms) ++ rest) := by
  cases ms with
  | nil => exact .inr (.inr rfl)
  | cons m ms => rw [membersTail_cons]; exact .inl rfl

/-! ## Reading back -/

/-- Written bytes are what a reader takes for a given value. -/
structure ReadsBack {α : Type} (read : Bytes → Except Fault (α × Bytes)) (x : α) (bs : Bytes) :
    Prop where
  /-- They begin with neither a blank nor the end of an array. -/
  begins : ∃ b rest, bs = b :: rest ∧ isGap b = false ∧ b ≠ 0x5D
  /-- The value is read, and just these bytes are taken. -/
  reads : ∀ {rest}, Delimited rest → read (bs ++ rest) = .ok (x, rest)

variable {α : Type} {read : Bytes → Except Fault (α × Bytes)} {x : α} {bs rest : Bytes}

theorem ReadsBack.nextItem_first (h : ReadsBack read x bs) (rest : Bytes) :
    nextItem true (bs ++ rest) = .ok (some (bs ++ rest)) := by
  obtain ⟨b, bs, rfl, hgap, hclose⟩ := h.begins
  simp only [nextItem, List.cons_append, skipGap_cons hgap, if_neg hclose, if_true]

theorem ReadsBack.nextItem_comma (h : ReadsBack read x bs) (rest : Bytes) :
    nextItem false (0x2C :: (bs ++ rest)) = .ok (some (bs ++ rest)) := by
  obtain ⟨b, bs, rfl, hgap, hclose⟩ := h.begins
  have hcomma : skipGap (0x2C :: (b :: (bs ++ rest))) = 0x2C :: b :: (bs ++ rest) :=
    skipGap_cons rfl _
  simp [nextItem, hcomma, skipGap_cons hgap, hclose]

/-- An item is read back, and the others follow it. -/
theorem items_step {front : Bytes} {first : Bool} (h : ReadsBack read x bs) (hrest : Delimited rest)
    (hnext : nextItem first front = .ok (some (bs ++ rest))) (steps : Nat) :
    items read (steps + 1) first front =
      (items read steps false rest).map fun r => (x :: r.1, r.2) := by
  simp only [items, hnext, h.reads hrest]
  cases items read steps false rest <;> rfl

/-- The items behind an item are read back. -/
theorem items_tail {js : List Json} {xs : List α}
    (h : List.Forall₂ (fun j x => ReadsBack read x j.bytes) js xs) {steps : Nat}
    (hsteps : js.length < steps) (rest : Bytes) :
    items read steps false (encodeChars (itemsTail js) ++ rest) = .ok (xs, rest) := by
  induction h generalizing steps with
  | nil =>
    obtain _ | steps := steps
    · exact absurd hsteps (Nat.lt_irrefl _)
    · rfl
  | @cons j x js xs hj _ ih =>
    obtain _ | steps := steps
    · exact absurd hsteps (Nat.not_lt_zero _)
    · rw [itemsTail_cons, List.cons_append, List.append_assoc,
        items_step hj (delimited_itemsTail js rest) (hj.nextItem_comma _),
        ih (Nat.lt_of_succ_lt_succ hsteps)]
      rfl

/-- The items of an array are read back from behind its bracket. -/
theorem items_arr {js : List Json} {xs : List α}
    (h : List.Forall₂ (fun j x => ReadsBack read x j.bytes) js xs) :
    ∃ body, (Json.arr js).bytes = 0x5B :: body ∧
      ∀ rest, items read ((body ++ rest).length + 1) true (body ++ rest) = .ok (xs, rest) := by
  cases h with
  | nil => exact ⟨[0x5D], rfl, fun _ => rfl⟩
  | @cons j x js xs hj hjs =>
    refine ⟨_, bytes_arr_cons j js, fun rest => ?_⟩
    have hsteps := length_lt_itemsTail js
    rw [List.append_assoc, items_step hj (delimited_itemsTail js rest) (hj.nextItem_first _),
      items_tail hjs (by simp only [List.length_append]; omega)]
    rfl

/-- The name of a member is read back, and what follows it is its value. -/
theorem text_memberBytes (m : String × Json) (rest : Bytes) :
    text (memberBytes m ++ rest) = .ok (m.1, 0x3A :: (m.2.bytes ++ rest)) := by
  rw [memberBytes, List.append_assoc]
  exact text_chars m.1 _

/-- A colon stands where one has to. -/
theorem colon_cons (rest : Bytes) : colon (0x3A :: rest) = .ok rest := rfl

theorem nextMember_first (rest : Bytes) : nextMember true (0x22 :: rest) = .ok (some rest) := rfl

theorem nextMember_comma (rest : Bytes) :
    nextMember false (0x2C :: 0x22 :: rest) = .ok (some rest) := rfl

section
variable {read : Bytes → Except Fault (Json × Bytes)}

/-- A member is read back, and the others follow it. -/
theorem members_step {m : String × Json} {front : Bytes} {first : Bool}
    (h : ReadsBack read m.2 m.2.bytes) (hrest : Delimited rest)
    (hnext : nextMember first front = .ok (some (memberBytes m ++ rest))) (steps : Nat) :
    members read (steps + 1) first front =
      (members read steps false rest).map fun r => (m :: r.1, r.2) := by
  simp only [members, hnext, text_memberBytes, colon_cons, h.reads hrest]
  cases members read steps false rest <;> rfl

/-- The members behind a member are read back. -/
theorem members_tail {ms : List (String × Json)} (h : ∀ m ∈ ms, ReadsBack read m.2 m.2.bytes)
    {steps : Nat} (hsteps : ms.length < steps) (rest : Bytes) :
    members read steps false (encodeChars (membersTail ms) ++ rest) = .ok (ms, rest) := by
  induction ms generalizing steps with
  | nil =>
    obtain _ | steps := steps
    · exact absurd hsteps (Nat.lt_irrefl _)
    · rfl
  | cons m ms ih =>
    obtain _ | steps := steps
    · exact absurd hsteps (Nat.not_lt_zero _)
    · have hm := h m List.mem_cons_self
      have hms := ih (fun n hn => h n (List.mem_cons_of_mem _ hn)) (Nat.lt_of_succ_lt_succ hsteps)
      rw [membersTail_cons, List.cons_append, List.cons_append, List.append_assoc,
        members_step hm (delimited_membersTail ms rest) (nextMember_comma _), hms]
      rfl

/-- The members of an object are read back from behind its brace. -/
theorem members_obj {ms : List (String × Json)} (h : ∀ m ∈ ms, ReadsBack read m.2 m.2.bytes) :
    ∃ body, (Json.obj ms).bytes = 0x7B :: body ∧
      ∀ rest, members read ((body ++ rest).length + 1) true (body ++ rest) = .ok (ms, rest) := by
  cases ms with
  | nil => exact ⟨[0x7D], rfl, fun _ => rfl⟩
  | cons m ms =>
    refine ⟨_, bytes_obj_cons m ms, fun rest => ?_⟩
    have hm := h m List.mem_cons_self
    have hsteps := length_lt_membersTail ms
    rw [List.cons_append, List.append_assoc,
      members_step hm (delimited_membersTail ms rest) (nextMember_first _),
      members_tail (fun n hn => h n (List.mem_cons_of_mem _ hn))
        (by simp only [List.length_cons, List.length_append]; omega)]
    rfl

end

/-! ## Values -/

/-- The digits of a number begin with one. -/
theorem natChars_begins (n : Nat) :
    ∃ b digits, encodeChars (Decimal.natChars n) = b :: digits ∧ Bytes.isDigit b = true := by
  rw [Decimal.natChars]
  cases hcs : Nat.toDigits 10 n with
  | nil => exact absurd hcs Nat.toDigits_ne_nil
  | cons c cs =>
    have hc : c.isDigit = true :=
      Nat.isDigit_of_mem_toDigits (by decide) (by decide) (hcs ▸ List.mem_cons_self)
    obtain ⟨hbyte, -, hdigit, -⟩ := digit_byte hc
    rw [encodeChars_cons, hbyte]
    exact ⟨_, _, rfl, hdigit⟩

section
variable (array object : Bytes → Except Fault (Json × Bytes))

theorem valueWith_null (rest : Bytes) :
    valueWith array object (Json.null.bytes ++ rest) = .ok (.null, rest) := rfl

theorem valueWith_bool (b : Bool) (rest : Bytes) :
    valueWith array object ((Json.bool b).bytes ++ rest) = .ok (.bool b, rest) := by
  cases b <;> rfl

theorem valueWith_quote (rest : Bytes) :
    valueWith array object (0x22 :: rest) = (text rest).map fun r => (.str r.1, r.2) := rfl

theorem valueWith_str (s : String) (rest : Bytes) :
    valueWith array object ((Json.str s).bytes ++ rest) = .ok (.str s, rest) := by
  rw [bytes, chars, textChars_eq, valueWith_quote, text_chars]
  rfl

theorem valueWith_minus (rest : Bytes) :
    valueWith array object (0x2D :: rest) = (number true rest).map fun r => (.num r.1, r.2) := rfl

theorem valueWith_digit {b : UInt8} (hb : Bytes.isDigit b = true) (rest : Bytes) :
    valueWith array object (b :: rest) =
      (number false (b :: rest)).map fun r => (.num r.1, r.2) := by
  have hne {c : UInt8} (hc : Bytes.isDigit c = false) : b ≠ c := fun h => by
    rw [h, hc] at hb
    cases hb
  rw [valueWith, skipGap_cons (isGap_of_isDigit hb)]
  dsimp only
  rw [if_neg (hne (by decide)), if_neg (hne (by decide)), if_neg (hne (by decide)),
    if_neg (hne (by decide)), if_pos hb]

theorem valueWith_int (w : Word64) {rest : Bytes} (hrest : Delimited rest) :
    valueWith array object ((Json.num (.int w)).bytes ++ rest) = .ok (.num (.int w), rest) := by
  have hread (negative : Bool) := number_natChars negative (natAbs_word_lt w) hrest
  have hword := intOf_word w
  rw [bytes, chars, Number.chars, Number.intChars]
  by_cases hneg : w.val < 0
  · have hminus : String.utf8EncodeChar '-' = [0x2D] := by decide
    rw [decide_eq_true hneg] at hword
    rw [if_pos hneg, encodeChars_cons, hminus, List.singleton_append, List.cons_append,
      valueWith_minus, hread, hword]
    rfl
  · obtain ⟨b, digits, hdigits, hb⟩ := natChars_begins w.val.natAbs
    rw [decide_eq_false hneg] at hword
    rw [if_neg hneg, hdigits, List.cons_append, valueWith_digit _ _ hb, ← List.cons_append, ← hdigits,
      hread, hword]
    rfl

theorem valueWith_bracket (rest : Bytes) :
    valueWith array object (0x5B :: rest) = array rest := rfl

theorem valueWith_brace (rest : Bytes) :
    valueWith array object (0x7B :: rest) = object rest := rfl

end

/-- A written value begins with a byte that is no blank and ends no array; only the null value begins with
the letter of its word. -/
theorem bytes_begins {j : Json} (hexact : j.isExact = true) :
    ∃ b rest, j.bytes = b :: rest ∧ isGap b = false ∧ b ≠ 0x5D ∧ (b = 0x6E → j = .null) := by
  cases j with
  | null => exact ⟨_, _, rfl, rfl, by decide, fun _ => rfl⟩
  | bool b => cases b <;> exact ⟨_, _, rfl, rfl, by decide, fun h => absurd h (by decide)⟩
  | num n =>
    cases n with
    | float x => cases hexact
    | int w =>
      rw [bytes, chars, Number.chars, Number.intChars]
      split
      · exact ⟨_, _, rfl, rfl, by decide, fun h => absurd h (by decide)⟩
      · obtain ⟨b, digits, hdigits, hb⟩ := natChars_begins w.val.natAbs
        refine ⟨b, digits, hdigits, isGap_of_isDigit hb, ?_, ?_⟩
        · rintro rfl
          cases hb
        · rintro rfl
          cases hb
  | str s => exact ⟨_, _, rfl, rfl, by decide, fun h => absurd h (by decide)⟩
  | arr js => cases js <;> exact ⟨_, _, rfl, rfl, by decide, fun h => absurd h (by decide)⟩
  | obj ms => cases ms <;> exact ⟨_, _, rfl, rfl, by decide, fun h => absurd h (by decide)⟩

/-- A value that is neither an array nor an object is read back by any reader of these. -/
theorem valueWith_flat (array object : Bytes → Except Fault (Json × Bytes)) {j : Json}
    (hexact : j.isExact = true) (hflat : j.depth = 0) {rest : Bytes} (hrest : Delimited rest) :
    valueWith array object (j.bytes ++ rest) = .ok (j, rest) := by
  cases j with
  | null => exact valueWith_null ..
  | bool b => exact valueWith_bool ..
  | num n =>
    cases n with
    | int w => exact valueWith_int _ _ w hrest
    | float x => cases hexact
  | str s => exact valueWith_str ..
  | arr js => cases hflat
  | obj ms => cases hflat

/-- A written value is read back as it was: an exact one, nested no deeper than allowed. -/
theorem value_reads {n : Nat} {j : Json} (hexact : j.isExact = true) (hdepth : j.depth ≤ n) :
    ReadsBack (value n) j j.bytes := by
  have hbegins {j : Json} (hexact : j.isExact = true) :
      ∃ b rest, j.bytes = b :: rest ∧ isGap b = false ∧ b ≠ 0x5D := by
    obtain ⟨b, bs, hbytes, hgap, hclose, -⟩ := bytes_begins hexact
    exact ⟨b, bs, hbytes, hgap, hclose⟩
  -- only arrays and objects use the allowance up, and what is in them gets by with one less
  induction n generalizing j with
  | zero => exact ⟨hbegins hexact, valueWith_flat _ _ hexact (Nat.le_zero.mp hdepth)⟩
  | succ n ih =>
    refine ⟨hbegins hexact, fun {rest} hrest => ?_⟩
    rw [value]
    cases j with
    | arr js =>
      have hjs : ∀ j ∈ js, ReadsBack (value n) j j.bytes := fun j hj =>
        ih (exactItems_iff.mp hexact j hj)
          (depthItems_le_iff.mp (Nat.le_of_succ_le_succ hdepth) j hj)
      obtain ⟨body, hbytes, hitems⟩ := items_arr (List.forall₂_same.mpr hjs)
      rw [hbytes, List.cons_append, valueWith_bracket, hitems]
      rfl
    | obj ms =>
      have hms : ∀ m ∈ ms, ReadsBack (value n) m.2 m.2.bytes := fun m hm =>
        ih (exactMembers_iff.mp hexact m hm)
          (depthMembers_le_iff.mp (Nat.le_of_succ_le_succ hdepth) m hm)
      obtain ⟨body, hbytes, hmembers⟩ := members_obj hms
      rw [hbytes, List.cons_append, valueWith_brace, hmembers]
      rfl
    | null => exact valueWith_flat _ _ hexact rfl hrest
    | bool b => exact valueWith_flat _ _ hexact rfl hrest
    | num m => exact valueWith_flat _ _ hexact rfl hrest
    | str s => exact valueWith_flat _ _ hexact rfl hrest

end SessionRecovery.Json
