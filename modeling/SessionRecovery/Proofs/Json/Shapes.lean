import SessionRecovery.Proofs.Json.Records

/-!
# Shapes of values

What decoders make of a value of any shape. Null stands for nothing where a value may be absent, a list is read
from an array item by item, and a record from an object or from an array; every other shape is refused.
-/

namespace SessionRecovery.Json

open Decoder

variable {α σ : Type} {n : Nat} {t : Tree} {bs input front back rest : Bytes}

/-! ## First bytes -/

/-- Only null begins with its letter. -/
theorem Reads.of_null (h : Reads (.value t) (0x6E :: bs) rest) : t = .null ∧ bs = nullTail ++ rest := by
  generalize hinput : 0x6E :: bs = input at h
  cases h with
  | null =>
    cases hinput
    exact ⟨rfl, rfl⟩
  | bool b => cases b <;> cases hinput
  | number h =>
    obtain ⟨b, bs, rfl, hb⟩ := h.begins
    cases hinput
    exact absurd hb (by decide)
  | text _ | emptyArray _ | array _ | emptyObject _ | object _ => cases hinput

/-- Only an array begins with a bracket. -/
theorem Reads.of_bracket (h : Reads (.value t) (0x5B :: bs) rest) : ∃ ts, t = .array ts := by
  generalize hinput : 0x5B :: bs = input at h
  cases h with
  | emptyArray _ | array _ => exact ⟨_, rfl⟩
  | bool b => cases b <;> cases hinput
  | number h =>
    obtain ⟨b, bs, rfl, hb⟩ := h.begins
    cases hinput
    exact absurd hb (by decide)
  | null | text _ | emptyObject _ | object _ => cases hinput

/-- Only an object begins with a brace. -/
theorem Reads.of_brace (h : Reads (.value t) (0x7B :: bs) rest) : ∃ ms, t = .object ms := by
  generalize hinput : 0x7B :: bs = input at h
  cases h with
  | emptyObject _ | object _ => exact ⟨_, rfl⟩
  | bool b => cases b <;> cases hinput
  | number h =>
    obtain ⟨b, bs, rfl, hb⟩ := h.begins
    cases hinput
    exact absurd hb (by decide)
  | null | text _ | emptyArray _ | array _ => cases hinput

/-! ## Values that may be absent -/

/-- What a value is that may be absent. -/
def Tree.optional (got : Tree → Option α) : Tree → Option (Option α)
  | .null => some none
  | t => (got t).map some

theorem Tree.optional_of_ne (got : Tree → Option α) (h : t ≠ .null) :
    t.optional got = (got t).map some := by
  cases t with
  | null => exact absurd rfl h
  | bool _ | number _ | text _ | array _ | object _ => rfl

/-- Null is read as nothing, and any other value as itself. -/
theorem Decodes.optional {d : Decoder α} {got : Tree → Option α} (h : Decodes d n t (got t)) :
    Decodes d.optional n t (t.optional got) := by
  intro input front rest hgap hreads hrest
  have hvalue := h hgap hreads hrest
  obtain ⟨b, bs, rfl, hb, -⟩ := hreads.begins
  simp only [Decoder.optional, hgap.skipGap_cons hb]
  by_cases hnull : b = 0x6E
  · subst hnull
    obtain ⟨rfl, rfl⟩ := hreads.of_null
    rfl
  · have hne : t ≠ .null := by
      rintro rfl
      cases hreads
      exact hnull rfl
    rw [if_neg hnull, toOption_map, hvalue, Tree.optional_of_ne got hne, Option.map_map, Option.map_map]
    rfl

/-! ## Arrays -/

/-- What stands where items are still to come: the end of their array, or the items, behind a comma unless
they are the first ones. -/
def Remaining (first : Bool) : List Tree → Bytes → Bytes → Prop
  | [], input, rest => Gap input (0x5D :: rest)
  | t :: ts, input, rest =>
    ∃ more, (if first then input = more else Gap input (0x2C :: more)) ∧
      Reads (.items (t :: ts)) more rest

/-- What stands behind an item ends it. -/
theorem Remaining.ended {ts : List Tree} (h : Remaining false ts back rest) : Ended back := by
  cases ts with
  | nil => exact Gap.ended h (.inr (.inl rfl))
  | cons t ts =>
    obtain ⟨more, hmore, -⟩ := h
    exact Gap.ended hmore (.inl rfl)

/-- Behind the bracket of an array stand its items. -/
theorem Reads.array_cases {ts : List Tree} (h : Reads (.value (.array ts)) input rest) :
    ∃ body, input = 0x5B :: body ∧ Remaining true ts body rest := by
  cases h with
  | emptyArray h => exact ⟨_, rfl, h⟩
  | array h =>
    cases ts with
    | nil => cases h
    | cons t ts => exact ⟨_, rfl, _, rfl, h⟩

/-- Items are the first one and those behind it. -/
theorem Reads.items_cons {ts : List Tree} (h : Reads (.items (t :: ts)) input rest) :
    ∃ front back, Gap input front ∧ Reads (.value t) front back ∧ Remaining false ts back rest := by
  cases h with
  | lastItem hfront h hback => exact ⟨_, _, hfront, h, hback⟩
  | item hfront h hback hmore =>
    cases ts with
    | nil => cases hmore
    | cons u us => exact ⟨_, _, hfront, h, _, hback, hmore⟩

/-- Where no items are left the array is closed. -/
theorem Remaining.nil {first : Bool} (h : Remaining first [] input rest) :
    nextItem first input = .ok none ∧ closeArray input = .ok rest := by
  have hend : skipGap input = 0x5D :: rest := Gap.skipGap_cons h (by decide)
  simp only [nextItem, closeArray, hend, if_true, and_self]

/-- Where items are left the next one is found, and the array cannot be closed. -/
theorem Remaining.cons {first : Bool} {ts : List Tree} (h : Remaining first (t :: ts) input rest) :
    ∃ front back, nextItem first input = .ok (some front) ∧ (closeArray input).toOption = none ∧
      Reads (.value t) front back ∧ Remaining false ts back rest ∧ back.length < input.length := by
  obtain ⟨more, hmore, hitems⟩ := h
  obtain ⟨front, back, hfront, hvalue, hremaining⟩ := hitems.items_cons
  have hlength := hvalue.length_lt
  have hfrontLength := hfront.length_le
  obtain ⟨b, bs, rfl, hgap, hb⟩ := hvalue.begins
  have hskip := hfront.skipGap_cons hgap
  refine ⟨b :: bs, back, ?_⟩
  cases first with
  | true =>
    obtain rfl : input = more := hmore
    refine ⟨by simp only [nextItem, hskip, if_neg hb, if_true], ?_, hvalue, hremaining, by omega⟩
    simp only [closeArray, hskip, if_neg hb]
    split
    · split
      · rfl
      · split <;> rfl
    · rfl
  | false =>
    have hcomma : Gap input (0x2C :: more) := hmore
    have hinput := hcomma.skipGap_cons (by decide)
    have hmoreLength := hcomma.length_le
    rw [List.length_cons] at hmoreLength
    refine ⟨?_, ?_, hvalue, hremaining, by omega⟩
    · simp only [nextItem, hinput, hskip, if_neg hb]
      rfl
    · simp only [closeArray, hinput, hskip, if_neg hb]
      rfl

/-- Items are the next one and those behind it. -/
theorem items_succ {read : Bytes → Except Fault (α × Bytes)} {first : Bool}
    (hnext : nextItem first input = .ok (some front)) (steps : Nat) :
    items read (steps + 1) first input =
      (read front).bind fun r => (items read steps false r.2).map fun s => (r.1 :: s.1, s.2) := by
  simp only [items, hnext]
  cases read front with
  | error f => rfl
  | ok r =>
    dsimp only [Except.bind]
    cases items read steps false r.2 <;> rfl

/-- Items are read one after another. -/
theorem items_remaining {d : Decoder α} {got : Tree → Option α} (hgot : ∀ t, Decodes d n t (got t))
    (ts : List Tree) {first : Bool} (h : Remaining first ts input rest) {steps : Nat}
    (hsteps : input.length < steps) :
    (items (d.fromText n) steps first input).toOption = (ts.mapM got).map fun xs => (xs, rest) := by
  induction ts generalizing first input steps with
  | nil =>
    obtain _ | steps := steps
    · omega
    · simp only [items, h.nil.1, h.nil.2]
      rfl
  | cons t ts ih =>
    obtain _ | steps := steps
    · omega
    · obtain ⟨front, back, hnext, -, hvalue, hremaining, hlength⟩ := h.cons
      have hback : back.length < steps := by omega
      rw [items_succ hnext, toOption_bind, hgot t (.refl front) hvalue hremaining.ended, List.mapM_cons]
      cases got t with
      | none => rfl
      | some x =>
        show ((items (d.fromText n) steps false back).map _).toOption = _
        rw [toOption_map, ih hremaining hback]
        cases ts.mapM got <;> rfl

/-- The values of one type that an array holds. -/
def Tree.items? (got : Tree → Option α) : Tree → Option (List α)
  | .array ts => ts.mapM got
  | _ => none

/-- A list is read from the items of an array, and anything else is refused. -/
theorem Decodes.list {d : Decoder α} {got : Tree → Option α} (hgot : ∀ t, Decodes d n t (got t))
    (t : Tree) : Decodes d.list (n + 1) t (t.items? got) := by
  intro input front rest hgap hreads _
  obtain ⟨b, bs, rfl, hb, -⟩ := hreads.begins
  simp only [Decoder.list, hgap.skipGap_cons hb]
  by_cases hbracket : b = 0x5B
  · subst hbracket
    obtain ⟨ts, rfl⟩ := hreads.of_bracket
    obtain ⟨body, hbody, hremaining⟩ := hreads.array_cases
    obtain rfl := (List.cons.inj hbody).2
    exact items_remaining hgot ts hremaining (Nat.lt_succ_self _)
  · have hnone : t.items? got = none := by
      cases t with
      | array ts =>
        obtain ⟨body, hbody, -⟩ := hreads.array_cases
        exact absurd (List.cons.inj hbody).1 hbracket
      | null | bool _ | number _ | text _ | object _ => rfl
    rw [if_neg hbracket, hnone]
    rfl

/-! ## Members without a name -/

/-- Members whose names are all texts, nothing if one of them is none. -/
def named? : List (Option String × Tree) → Option (List (String × Tree))
  | [] => some []
  | (none, _) :: _ => none
  | (some name, t) :: ms => (named? ms).map ((name, t) :: ·)

theorem named?_named (ms : List (String × Tree)) : named? (named ms) = some ms := by
  induction ms with
  | nil => rfl
  | cons m ms ih => exact congrArg (Option.map _) ih

/-- Either all names are texts, or one of them is none. -/
theorem named?_cases (ms : List (Option String × Tree)) :
    (∃ ms', ms = named ms' ∧ named? ms = some ms') ∨ named? ms = none ∧ ∃ m ∈ ms, m.1 = none := by
  induction ms with
  | nil => exact .inl ⟨[], rfl, rfl⟩
  | cons m ms ih =>
    obtain ⟨_ | name, t⟩ := m
    · exact .inr ⟨rfl, _, List.mem_cons_self, rfl⟩
    · obtain ⟨ms', rfl, hms⟩ | ⟨hms, m, hm, hnone⟩ := ih
      · exact .inl ⟨(name, t) :: ms', rfl, by rw [named?, hms]; rfl⟩
      · exact .inr ⟨by rw [named?, hms]; rfl, m, List.mem_cons_of_mem _ hm, hnone⟩

/-- A name that is no text is refused. -/
theorem Named.text_eq_none (h : Named none input front) :
    ∃ quoted, Gap input (0x22 :: quoted) ∧ (text quoted).toOption = none := by
  obtain ⟨spelled, quoted, colonBytes, after, hname, hgap, hquoted, -, -⟩ := h
  obtain rfl : spelled = none := Option.map_eq_none_iff.mp hname.symm
  exact ⟨quoted, hgap, hquoted.text_eq⟩

section

variable {fields : List (Decoder.Field σ)} {got : Decoder.Field σ → Tree → Option (σ → σ)}
  (hgot : ∀ f ∈ fields, ∀ t, Decodes f.update n t (got f t))

include hgot

/-- No record is read from members if the name of one is no text. -/
theorem recordMembers_nameless (ms : List (Option String × Tree)) (hms : ∃ m ∈ ms, m.1 = none)
    (h : Reads (.members ms) input rest) {first : Bool}
    (hnext : ∀ {quoted}, Gap input (0x22 :: quoted) → nextMember first bs = .ok (some quoted))
    (steps : Nat) (seen : List String) (s : σ) :
    (recordMembers n fields steps seen first s bs).toOption = none := by
  induction ms generalizing input bs first steps seen s with
  | nil =>
    obtain ⟨m, hm, -⟩ := hms
    exact absurd hm List.not_mem_nil
  | cons m ms ih =>
    obtain _ | steps := steps
    · rfl
    obtain ⟨_ | name, t⟩ := m
    · obtain ⟨_, _, hname, -⟩ := h.members_cases
      obtain ⟨quoted, hgap, htext⟩ := hname.text_eq_none
      simp only [recordMembers, hnext hgap]
      cases hread : text quoted with
      | error f => rfl
      | ok r =>
        rw [hread] at htext
        cases htext
    · obtain ⟨front, back, hname, hvalue, hmore⟩ := h.members_cases
      have hlater : ∃ m ∈ ms, m.1 = none := by
        obtain ⟨m, hm, hnone⟩ := hms
        obtain rfl | hm := List.mem_cons.mp hm
        · cases hnone
        · exact ⟨m, hm, hnone⟩
      obtain ⟨rfl, -⟩ | ⟨more, hcomma, hmembers⟩ := hmore
      · obtain ⟨m, hm, -⟩ := hlater
        exact absurd hm List.not_mem_nil
      · have hrest := ih hlater hmembers hcomma.nextMember_comma
        rw [recordMembers_member hgot hname hnext hvalue (hcomma.ended (.inl rfl))]
        split
        · exact hrest _ _ _
        · split
          · rfl
          · exact Option.bind_eq_none_iff.mpr fun g _ => hrest _ _ _

end

/-! ## Records of any shape -/

/-- What is made of the items of an array, given what each field makes of a value: nothing if a field refuses
its item, or a required one has none, or there are items left over. -/
def takenItems (got : Decoder.Field σ → Tree → Option (σ → σ)) :
    List (Decoder.Field σ) → σ → List Tree → Option σ
  | [], s, [] => some s
  | [], _, _ :: _ => none
  | f :: fields, s, [] => if f.required then none else takenItems got fields s []
  | f :: fields, s, t :: ts => (got f t).bind fun g => takenItems got fields (g s) ts

/-- What is read of a record is closed by the bracket behind it. -/
def closedItems (r : Option (σ × Bytes)) : Option (σ × Bytes) :=
  r.bind fun r => (giving r.1 (closeArray r.2)).toOption

/-- A field takes the next item. -/
theorem recordItems_item {first : Bool} (hnext : nextItem first input = .ok (some front))
    (expected : String) (f : Decoder.Field σ) (fields : List (Decoder.Field σ)) (place : Nat) (s : σ) :
    recordItems n expected (f :: fields) place first s input =
      (f.update.fromText n front).bind fun r =>
        recordItems n expected fields (place + 1) false (r.1 s) r.2 := by
  simp only [recordItems, hnext]
  cases f.update.fromText n front <;> rfl

/-- A record takes items in the order of its fields. -/
theorem recordItems_remaining {got : Decoder.Field σ → Tree → Option (σ → σ)}
    {fields : List (Decoder.Field σ)} (hgot : ∀ f ∈ fields, ∀ t, Decodes f.update n t (got f t))
    (ts : List Tree) {first : Bool} (h : Remaining first ts input rest) (expected : String)
    (place : Nat) (s : σ) :
    closedItems (recordItems n expected fields place first s input).toOption =
      (takenItems got fields s ts).map fun s => (s, rest) := by
  induction fields generalizing ts input first place s with
  | nil =>
    cases ts with
    | nil =>
      show (giving s (closeArray input)).toOption = _
      rw [h.nil.2]
      rfl
    | cons t ts =>
      obtain ⟨_, _, -, hclose, -⟩ := h.cons
      show (giving s (closeArray input)).toOption = _
      rw [giving, toOption_map, hclose]
      rfl
  | cons f fields ih =>
    have hmore := fun g hg => hgot g (List.mem_cons_of_mem f hg)
    cases ts with
    | nil =>
      simp only [recordItems, h.nil.1, takenItems]
      split
      · rfl
      · exact ih hmore [] h (place + 1) s
    | cons t ts =>
      obtain ⟨front, back, hnext, -, hvalue, hremaining, -⟩ := h.cons
      have hread := hgot f List.mem_cons_self t (.refl front) hvalue hremaining.ended
      rw [recordItems_item hnext, toOption_bind, hread, takenItems]
      cases got f t with
      | none => rfl
      | some g => exact ih hmore ts hremaining (place + 1) (g s)

/-- No record is made of an array with an item that every field refuses. -/
theorem takenItems_eq_none {got : Decoder.Field σ → Tree → Option (σ → σ)}
    {fields : List (Decoder.Field σ)} (hrefused : ∀ f ∈ fields, got f t = none)
    {ts : List Tree} (ht : t ∈ ts) (s : σ) : takenItems got fields s ts = none := by
  induction fields generalizing ts s with
  | nil =>
    cases ts with
    | nil => exact absurd ht List.not_mem_nil
    | cons u ts => rfl
  | cons f fields ih =>
    cases ts with
    | nil => exact absurd ht List.not_mem_nil
    | cons u ts =>
      rw [takenItems]
      obtain rfl | ht := List.mem_cons.mp ht
      · rw [hrefused f List.mem_cons_self]
        rfl
      · exact Option.bind_eq_none_iff.mpr fun g _ =>
          ih (fun f hf => hrefused f (List.mem_cons_of_mem _ hf)) ht (g s)

/-- What a record makes of a value of any shape. -/
def Tree.record (fields : List (Decoder.Field σ)) (got : Decoder.Field σ → Tree → Option (σ → σ))
    (start : σ) : Tree → Option σ
  | .object ms => (named? ms).bind (taken fields got [] start)
  | .array ts => takenItems got fields start ts
  | _ => none

theorem Tree.record_named (fields : List (Decoder.Field σ))
    (got : Decoder.Field σ → Tree → Option (σ → σ)) (start : σ) (ms : List (String × Tree)) :
    (Tree.object (named ms)).record fields got start = taken fields got [] start ms := by
  rw [Tree.record, named?_named]
  rfl

/-- A record is read from the members of an object or the items of an array, and anything else is refused. -/
theorem Decodes.ofRecord (title : String) (start : σ) {fields : List (Decoder.Field σ)}
    {got : Decoder.Field σ → Tree → Option (σ → σ)}
    (hgot : ∀ f ∈ fields, ∀ t, Decodes f.update n t (got f t)) (t : Tree) :
    Decodes (Decoder.record title start fields) (n + 1) t (t.record fields got start) := by
  intro input front rest hgap hreads hrest
  obtain ⟨b, bs, rfl, hb, -⟩ := hreads.begins
  have hskip := hgap.skipGap_cons hb
  cases t with
  | object ms =>
    obtain ⟨ms, rfl, hms⟩ | ⟨hms, hnone⟩ := named?_cases ms
    · rw [Tree.record_named]
      exact Decodes.record title start hgot ms hgap hreads hrest
    · obtain ⟨body, hbody, ⟨rfl, -⟩ | hmembers⟩ := hreads.object_cases
      · obtain ⟨m, hm, -⟩ := hnone
        exact absurd hm List.not_mem_nil
      · obtain ⟨rfl, rfl⟩ := List.cons.inj hbody
        have hrefused := recordMembers_nameless hgot ms hnone hmembers Gap.nextMember_first
          (bs.length + 1) [] start
        simp only [Tree.record, hms, Decoder.record, hskip, if_true]
        rw [if_neg (by decide), toOption_bind, hrefused]
        rfl
  | array ts =>
    obtain ⟨body, hbody, hremaining⟩ := hreads.array_cases
    obtain ⟨rfl, rfl⟩ := List.cons.inj hbody
    simp only [Decoder.record, hskip, if_true]
    rw [toOption_bind]
    exact recordItems_remaining hgot ts hremaining _ 0 start
  | null | bool _ | number _ | text _ =>
    have hbracket : b ≠ 0x5B := by
      rintro rfl
      obtain ⟨_, hshape⟩ := hreads.of_bracket
      cases hshape
    have hbrace : b ≠ 0x7B := by
      rintro rfl
      obtain ⟨_, hshape⟩ := hreads.of_brace
      cases hshape
    simp only [Decoder.record, hskip, if_neg hbracket, if_neg hbrace]
    rfl

end SessionRecovery.Json
