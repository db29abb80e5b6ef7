import SessionRecovery.Json.Decoder
import SessionRecovery.Proofs.Json.Skipping

/-!
# Records in texts

A record is read from any text of an object: from the members of its own names, each at most once and in
whatever order they stand, while all others are skipped. What is read depends on what the text says and not on
how it is written.
-/

namespace SessionRecovery.Json

open Decoder

variable {α β σ : Type} {n : Nat} {input front back rest : Bytes}

/-- What a decoder makes of every text that says the same, nothing if it refuses them. -/
def Decodes (d : Decoder α) (n : Nat) (t : Tree) (x : Option α) : Prop :=
  ∀ {input front rest : Bytes}, Gap input front → Reads (.value t) front rest → Ended rest →
    (d.fromText n input).toOption = x.map fun x => (x, rest)

/-- A whole text is read as what it says. -/
theorem Decodes.read {d : Decoder α} {t : Tree} {x : Option α} (h : Decodes d fullAllowance t x)
    {body : Bytes} (hbody : IsText t body) : (d.read body).toOption = x := by
  obtain ⟨front, back, hfront, hreads, hback⟩ := hbody
  have hend : skipGap back = [] := hback.skipGap_eq
  have hvalue := h hfront hreads hback.ended_nil
  rw [Decoder.read]
  cases hread : d.fromText fullAllowance body with
  | error f =>
    rw [hread] at hvalue
    cases x with
    | none => rfl
    | some x => cases hvalue
  | ok r =>
    rw [hread] at hvalue
    cases x with
    | none => cases hvalue
    | some x =>
      cases Option.some.inj hvalue
      simp only [Except.bind, finish, hend]
      rfl

theorem Decodes.map {d : Decoder α} {t : Tree} {x : Option α} (f : α → β) (h : Decodes d n t x) :
    Decodes (d.map f) n t (x.map f) := by
  intro input front rest hgap hreads hrest
  have hvalue := h hgap hreads hrest
  simp only [Decoder.map, toOption_map, hvalue, Option.map_map]
  rfl

/-! ## Texts -/

/-- The text that a value is. -/
def Tree.text? : Tree → Option String
  | .text spelled => spelled
  | _ => none

/-- Only a text begins with a quote. -/
theorem Reads.of_quote {t : Tree} {bs : Bytes} (h : Reads (.value t) (0x22 :: bs) rest) :
    ∃ spelled, t = .text (spelled.map String.ofList) ∧ Quoted rest spelled bs := by
  generalize hinput : 0x22 :: bs = input at h
  cases h with
  | text h =>
    cases hinput
    exact ⟨_, rfl, h⟩
  | null => cases hinput
  | bool b => cases b <;> cases hinput
  | number h =>
    obtain ⟨b, bs, rfl, hb⟩ := h.begins
    cases hinput
    exact absurd hb (by decide)
  | emptyArray _ => cases hinput
  | array _ => cases hinput
  | emptyObject _ => cases hinput
  | object _ => cases hinput

/-- Where no quote stands there is no text. -/
theorem Reads.text?_eq_none {t : Tree} {b : UInt8} {bs : Bytes}
    (h : Reads (.value t) (b :: bs) rest) (hb : b ≠ 0x22) : t.text? = none := by
  generalize hinput : b :: bs = input at h
  cases h with
  | text _ =>
    cases hinput
    exact absurd rfl hb
  | null | bool _ | number _ | emptyArray _ | array _ | emptyObject _ | object _ => rfl

/-- A text is read as what it spells, and anything else is refused. -/
theorem Decodes.string (n : Nat) (t : Tree) : Decodes Decoder.string n t t.text? := by
  intro input front rest hgap hreads _
  obtain ⟨b, bs, rfl, hb, -⟩ := hreads.begins
  simp only [Decoder.string, hgap.skipGap_cons hb]
  by_cases hquote : b = 0x22
  · subst hquote
    obtain ⟨spelled, rfl, hquoted⟩ := hreads.of_quote
    rw [if_pos rfl, hquoted.text_eq, Tree.text?, Option.map_map]
    rfl
  · rw [if_neg hquote, hreads.text?_eq_none hquote]
    rfl

/-! ## Members -/

/-- Members with names that are texts. -/
def named (ms : List (String × Tree)) : List (Option String × Tree) :=
  ms.map fun m => (some m.1, m.2)

/-- What stands behind the value of a member: a comma and the members that follow, or the end of the object. -/
def Follows : List (String × Tree) → Bytes → Bytes → Prop
  | [], back, rest => Gap back (0x7D :: rest)
  | m :: ms, back, rest =>
    ∃ more, Gap back (0x2C :: more) ∧ Reads (.members (named (m :: ms))) more rest

/-- What stands behind the value of a member ends it. -/
theorem Follows.ended {ms : List (String × Tree)} (h : Follows ms back rest) : Ended back := by
  cases ms with
  | nil => exact Gap.ended h (.inr (.inr rfl))
  | cons m ms =>
    obtain ⟨more, hmore, -⟩ := h
    exact hmore.ended (.inl rfl)

/-- The first member is found by the quote of its name. -/
theorem Gap.nextMember_first {quoted : Bytes} (h : Gap input (0x22 :: quoted)) :
    nextMember true input = .ok (some quoted) := by
  simp only [nextMember, h.skipGap_cons (b := 0x22) (by decide)]
  rfl

/-- A member behind a comma is found by the quote of its name. -/
theorem Gap.nextMember_comma {more quoted : Bytes} (h : Gap input (0x2C :: more))
    (hmore : Gap more (0x22 :: quoted)) : nextMember false input = .ok (some quoted) := by
  simp only [nextMember, h.skipGap_cons (b := 0x2C) (by decide),
    hmore.skipGap_cons (b := 0x22) (by decide)]
  rfl

/-- Behind the brace of an object stands its end, or members. -/
theorem Reads.object_cases {ms : List (Option String × Tree)}
    (h : Reads (.value (.object ms)) input rest) :
    ∃ body, input = 0x7B :: body ∧
      (ms = [] ∧ Gap body (0x7D :: rest) ∨ Reads (.members ms) body rest) := by
  cases h with
  | emptyObject h => exact ⟨_, rfl, .inl ⟨rfl, h⟩⟩
  | object h => exact ⟨_, rfl, .inr h⟩

/-- Members are the first one, and the end of the object or a comma and others. -/
theorem Reads.members_cases {name : Option String} {t : Tree} {ms : List (Option String × Tree)}
    (h : Reads (.members ((name, t) :: ms)) input rest) :
    ∃ front back, Named name input front ∧ Reads (.value t) front back ∧
      (ms = [] ∧ Gap back (0x7D :: rest) ∨
        ∃ more, Gap back (0x2C :: more) ∧ Reads (.members ms) more rest) := by
  cases h with
  | lastMember hname h hback => exact ⟨_, _, hname, h, .inl ⟨rfl, hback⟩⟩
  | member hname h hback hmore => exact ⟨_, _, hname, h, .inr ⟨_, hback, hmore⟩⟩

/-- Members are the first one and what follows it. -/
theorem Reads.members_cons {name : String} {t : Tree} {ms : List (String × Tree)}
    (h : Reads (.members (named ((name, t) :: ms))) input rest) :
    ∃ front back, Named (some name) input front ∧ Reads (.value t) front back ∧
      Follows ms back rest := by
  obtain ⟨front, back, hname, hvalue, hrest⟩ := Reads.members_cases h
  refine ⟨front, back, hname, hvalue, ?_⟩
  cases ms with
  | nil =>
    obtain ⟨-, hend⟩ | ⟨more, -, hnone⟩ := hrest
    · exact hend
    · cases hnone
  | cons m ms =>
    obtain ⟨hnil, -⟩ | ⟨more, hback, hmore⟩ := hrest
    · cases hnil
    · exact ⟨more, hback, hmore⟩

/-- A name that is a text is read, and so is its colon. -/
theorem Named.read {name : String} (h : Named (some name) input front) :
    ∃ quoted colonBytes after, Gap input (0x22 :: quoted) ∧
      Json.text quoted = .ok (name, colonBytes) ∧ colon colonBytes = .ok after ∧ Gap after front := by
  obtain ⟨spelled, quoted, colonBytes, after, hname, hgap, hquoted, hcolon, hafter⟩ := h
  obtain ⟨cs, rfl, rfl⟩ := Option.map_eq_some_iff.mp hname.symm
  refine ⟨quoted, colonBytes, after, hgap, ?_, ?_, hafter⟩
  · have htext := hquoted.text_eq
    cases hread : Json.text quoted with
    | error f =>
      rw [hread] at htext
      cases htext
    | ok r =>
      rw [hread] at htext
      cases Option.some.inj htext
      rfl
  · simp only [colon, hcolon.skipGap_cons (b := 0x3A) (by decide), if_true]

/-! ## Members of a record -/

/-- What is made of the members of an object, given what each field makes of a value: nothing if a field occurs
twice, refuses its value, or is required and absent. -/
def taken (fields : List (Decoder.Field σ)) (got : Decoder.Field σ → Tree → Option (σ → σ)) :
    List String → σ → List (String × Tree) → Option σ
  | seen, s, [] =>
    match missing? fields seen with
    | some _ => none
    | none => some s
  | seen, s, (name, t) :: ms =>
    match fields.find? (·.name = name) with
    | none => taken fields got seen s ms
    | some f =>
      if seen.contains name then none
      else (got f t).bind fun g => taken fields got (name :: seen) (g s) ms

/-- What is read of a record is closed by the brace behind it. -/
def closed (r : Option (σ × Bytes)) : Option (σ × Bytes) :=
  r.bind fun r => (giving r.1 (closeObject r.2)).toOption

/-- At the end of an object nothing more is taken. -/
theorem recordMembers_closed {fields : List (Decoder.Field σ)}
    {got : Decoder.Field σ → Tree → Option (σ → σ)} (h : Gap back (0x7D :: rest)) (steps : Nat)
    (seen : List String) (first : Bool) (s : σ) :
    closed (recordMembers n fields (steps + 1) seen first s back).toOption =
      (taken fields got seen s []).map fun s => (s, rest) := by
  have hend : skipGap back = 0x7D :: rest := h.skipGap_cons (by decide)
  have hnext : nextMember first back = .ok none := by
    simp only [nextMember, hend, if_true]
  simp only [recordMembers, hnext, taken]
  cases missing? fields seen with
  | some name => rfl
  | none =>
    simp only [Except.toOption, closed, Option.bind, closeObject, hend, if_true]
    rfl

section

variable {fields : List (Decoder.Field σ)} {got : Decoder.Field σ → Tree → Option (σ → σ)}
  (hgot : ∀ f ∈ fields, ∀ t, Decodes f.update n t (got f t))

include hgot

/-- A member is skipped if no field has its name; it is refused if one has and was seen before, or refuses the
value; and else it changes the record. -/
theorem recordMembers_member {name : String} {t : Tree} {x : Bytes} {first : Bool}
    (hname : Named (some name) input front)
    (hnext : ∀ {quoted}, Gap input (0x22 :: quoted) → nextMember first x = .ok (some quoted))
    (hvalue : Reads (.value t) front back) (hback : Ended back) (steps : Nat) (seen : List String)
    (s : σ) :
    (recordMembers n fields (steps + 1) seen first s x).toOption =
      match fields.find? (·.name = name) with
      | none => (recordMembers n fields steps seen false s back).toOption
      | some f =>
        if seen.contains name then none
        else (got f t).bind fun g =>
          (recordMembers n fields steps (name :: seen) false (g s) back).toOption := by
  obtain ⟨quoted, colonBytes, after, hgap, htext, hcolon, hafter⟩ := hname.read
  simp only [recordMembers, hnext hgap, htext, hcolon, Except.bind]
  cases hfind : fields.find? (·.name = name) with
  | none => simp only [hvalue.skipValue_eq hafter hback]
  | some f =>
    have hread := hgot f (List.mem_of_find?_eq_some hfind) t hafter hvalue hback
    dsimp only
    split
    · rfl
    · cases hupdate : f.update.fromText n after with
      | error e =>
        rw [hupdate] at hread
        cases hg : got f t with
        | none => rfl
        | some g =>
          rw [hg] at hread
          cases hread
      | ok r =>
        rw [hupdate] at hread
        cases hg : got f t with
        | none =>
          rw [hg] at hread
          cases hread
        | some g =>
          rw [hg] at hread
          cases Option.some.inj hread
          rfl

/-- A record goes on behind a member as it would with the others alone. -/
theorem recordMembers_cons {name : String} {t : Tree} {ms : List (String × Tree)} {x : Bytes}
    {first : Bool} (h : Reads (.members (named ((name, t) :: ms))) input rest)
    (hnext : ∀ {quoted}, Gap input (0x22 :: quoted) → nextMember first x = .ok (some quoted))
    {steps : Nat}
    (hmore : ∀ {back}, Follows ms back rest → back.length < input.length → ∀ seen s,
      closed (recordMembers n fields steps seen false s back).toOption =
        (taken fields got seen s ms).map fun s => (s, rest))
    (seen : List String) (s : σ) :
    closed (recordMembers n fields (steps + 1) seen first s x).toOption =
      (taken fields got seen s ((name, t) :: ms)).map fun s => (s, rest) := by
  obtain ⟨front, back, hname, hvalue, hfollows⟩ := h.members_cons
  have hlength : back.length < input.length := Nat.lt_trans hvalue.length_lt hname.length_lt
  rw [recordMembers_member hgot hname hnext hvalue hfollows.ended, taken]
  cases fields.find? (·.name = name) with
  | none => exact hmore hfollows hlength seen s
  | some f =>
    dsimp only
    split
    · rfl
    · cases got f t with
      | none => rfl
      | some g => exact hmore hfollows hlength (name :: seen) (g s)

/-- Behind a member, the others are taken up to the end of the object. -/
theorem recordMembers_follows (ms : List (String × Tree)) (h : Follows ms back rest) {steps : Nat}
    (hsteps : back.length < steps) (seen : List String) (s : σ) :
    closed (recordMembers n fields steps seen false s back).toOption =
      (taken fields got seen s ms).map fun s => (s, rest) := by
  induction ms generalizing back steps seen s with
  | nil =>
    obtain _ | steps := steps
    · omega
    · exact recordMembers_closed h steps seen false s
  | cons m ms ih =>
    obtain ⟨more, hmore, hreads⟩ := h
    have hlength := hmore.length_le
    rw [List.length_cons] at hlength
    obtain _ | steps := steps
    · omega
    · exact recordMembers_cons hgot hreads hmore.nextMember_comma
        (fun hfollows hback => ih hfollows (by omega)) seen s

end

/-- A record is read from every text of an object as what its members say. -/
theorem Decodes.record (title : String) (start : σ) {fields : List (Decoder.Field σ)}
    {got : Decoder.Field σ → Tree → Option (σ → σ)}
    (hgot : ∀ f ∈ fields, ∀ t, Decodes f.update n t (got f t)) (ms : List (String × Tree)) :
    Decodes (Decoder.record title start fields) (n + 1) (.object (named ms))
      (taken fields got [] start ms) := by
  intro input front rest hgap hreads _
  have hbrace {body : Bytes} (hfront : front = 0x7B :: body) :
      ((Decoder.record title start fields).fromText (n + 1) input).toOption =
        closed (recordMembers n fields (body.length + 1) [] true start body).toOption := by
    rw [hfront] at hgap
    simp only [Decoder.record, hgap.skipGap_cons (b := 0x7B) (by decide)]
    cases recordMembers n fields (body.length + 1) [] true start body <;> rfl
  obtain ⟨body, hfront, hbody⟩ := hreads.object_cases
  rw [hbrace hfront]
  cases ms with
  | nil =>
    obtain ⟨-, hend⟩ | hnone := hbody
    · exact recordMembers_closed hend body.length [] true start
    · cases hnone
  | cons m ms =>
    obtain ⟨hnil, -⟩ | hmembers := hbody
    · cases hnil
    · exact recordMembers_cons hgot hmembers Gap.nextMember_first
        (fun hfollows hback => recordMembers_follows hgot ms hfollows hback) [] start

/-! ## What is taken -/

/-- The values of all members of a name. -/
def valuesOf (name : String) (ms : List (String × Tree)) : List Tree :=
  (ms.filter (·.1 = name)).map (·.2)

theorem valuesOf_cons_self (name : String) (t : Tree) (ms : List (String × Tree)) :
    valuesOf name ((name, t) :: ms) = t :: valuesOf name ms := by
  simp [valuesOf]

theorem valuesOf_cons_of_ne {name other : String} (h : other ≠ name) (t : Tree)
    (ms : List (String × Tree)) : valuesOf name ((other, t) :: ms) = valuesOf name ms := by
  simp [valuesOf, h]

/-- Nothing is missing when every required name has been seen. -/
theorem missing?_eq_none_iff {fields : List (Decoder.Field σ)} {seen : List String} :
    missing? fields seen = none ↔ ∀ f ∈ fields, f.required = true → f.name ∈ seen := by
  simp [missing?]

section

variable {fields : List (Decoder.Field σ)} {got : Decoder.Field σ → Tree → Option (σ → σ)}
  {seen : List String} {s s' : σ} {ms : List (String × Tree)}

/-- The values of a field make it change the record at most once: there is at most one, none if the field has
been seen, and the field takes it. -/
def Single (fields : List (Decoder.Field σ)) (got : Decoder.Field σ → Tree → Option (σ → σ))
    (seen : List String) (ms : List (String × Tree)) : Prop :=
  ∀ name f, fields.find? (·.name = name) = some f → (valuesOf name ms).length ≤ 1 ∧
    (name ∈ seen → valuesOf name ms = []) ∧ ∀ t ∈ valuesOf name ms, (got f t).isSome = true

/-- A member that no field has the name of makes no difference. -/
theorem single_cons_of_none {name : String} (hfind : fields.find? (·.name = name) = none) (t : Tree) :
    Single fields got seen ((name, t) :: ms) ↔ Single fields got seen ms := by
  refine forall₃_congr fun other f hf => ?_
  have hne : name ≠ other := by
    rintro rfl
    rw [hfind] at hf
    cases hf
  rw [valuesOf_cons_of_ne hne]

/-- A member of a field has to be new, and its value to be taken, and the others to be of other fields. -/
theorem single_cons_of_some {name : String} {f : Decoder.Field σ}
    (hfind : fields.find? (·.name = name) = some f) (t : Tree) :
    Single fields got seen ((name, t) :: ms) ↔
      name ∉ seen ∧ (got f t).isSome = true ∧ Single fields got (name :: seen) ms := by
  constructor
  · intro h
    obtain ⟨hlength, hseen, htaken⟩ := h name f hfind
    rw [valuesOf_cons_self] at hlength hseen htaken
    have hnone : valuesOf name ms = [] := by
      rw [List.length_cons] at hlength
      exact List.eq_nil_of_length_eq_zero (by omega)
    refine ⟨fun hold => List.cons_ne_nil _ _ (hseen hold), htaken t List.mem_cons_self, ?_⟩
    intro other g hg
    by_cases hne : name = other
    · rw [← hne, hnone]
      exact ⟨Nat.zero_le 1, fun _ => rfl, List.forall_mem_nil _⟩
    · obtain ⟨hone, hold, hall⟩ := h other g hg
      rw [valuesOf_cons_of_ne hne] at hone hold hall
      exact ⟨hone, fun hmem => hold ((List.mem_cons.mp hmem).resolve_left (Ne.symm hne)), hall⟩
  · rintro ⟨hnew, htaken, h⟩ other g hg
    by_cases hne : name = other
    · subst hne
      cases hfind.symm.trans hg
      rw [valuesOf_cons_self, (h name f hfind).2.1 List.mem_cons_self]
      refine ⟨Nat.le_refl 1, fun hold => absurd hold hnew, fun u hu => ?_⟩
      rw [List.mem_singleton.mp hu]
      exact htaken
    · obtain ⟨hone, hold, hall⟩ := h other g hg
      rw [valuesOf_cons_of_ne hne]
      exact ⟨hone, fun hmem => hold (List.mem_cons_of_mem _ hmem), hall⟩

/-- The members of an object make a record just when no field occurs twice or refuses its value, and the
required ones occur. -/
theorem isSome_taken_iff : (taken fields got seen s ms).isSome = true ↔
    Single fields got seen ms ∧
      ∀ f ∈ fields, f.required = true → f.name ∈ seen ∨ ∃ m ∈ ms, m.1 = f.name := by
  induction ms generalizing seen s with
  | nil =>
    have hsingle : Single fields got seen [] := fun name f _ =>
      ⟨Nat.zero_le 1, fun _ => rfl, List.forall_mem_nil _⟩
    have hall : missing? fields seen = none ↔ _ := missing?_eq_none_iff
    rw [taken, and_iff_right hsingle]
    cases hmissing : missing? fields seen with
    | none => exact iff_of_true rfl fun f hf hreq => .inl (hall.mp hmissing f hf hreq)
    | some name =>
      refine iff_of_false Bool.false_ne_true fun hreq => ?_
      have hnone := hall.mpr fun f hf hr => (hreq f hf hr).resolve_right fun ⟨_, hm, _⟩ =>
        absurd hm List.not_mem_nil
      rw [hmissing] at hnone
      cases hnone
  | cons m ms ih =>
    obtain ⟨name, t⟩ := m
    rw [taken]
    cases hfind : fields.find? (·.name = name) with
    | none =>
      rw [single_cons_of_none hfind]
      refine ih.trans (and_congr_right' (forall₂_congr fun f hf => ?_))
      have hne : name ≠ f.name := fun h => by
        have := List.find?_eq_none.mp hfind f hf
        simp [h] at this
      simp [hne]
    | some f =>
      rw [single_cons_of_some hfind]
      dsimp only
      by_cases hold : name ∈ seen
      · simp [hold]
      · cases hg : got f t with
        | none => simp [hold]
        | some g =>
          have hcontains : seen.contains name = false := by simpa using hold
          rw [hcontains, if_neg Bool.false_ne_true]
          refine ih.trans ?_
          simp only [hold, not_false_eq_true, Option.isSome_some, true_and]
          refine and_congr_right' (forall₂_congr fun f _ => ?_)
          simp only [List.mem_cons, exists_eq_or_imp, or_assoc, eq_comm (a := f.name),
            or_left_comm (b := f.name ∈ seen)]

/-- What a record that is made shows of a field is what the field made of its value, or what the record showed
before if there is none. -/
theorem get_taken {β : Type} (get : σ → β) (val : Tree → β) {name : String}
    (hput : ∀ f ∈ fields, f.name = name → ∀ t g, got f t = some g → ∀ s, get (g s) = val t)
    (hother : ∀ f ∈ fields, f.name ≠ name → ∀ t g, got f t = some g → ∀ s, get (g s) = get s)
    (hknown : ∃ f, fields.find? (·.name = name) = some f)
    (h : taken fields got seen s ms = some s') :
    get s' = ((valuesOf name ms).head?.map val).getD (get s) := by
  induction ms generalizing seen s with
  | nil =>
    rw [taken] at h
    split at h
    · cases h
    · cases h
      rfl
  | cons m ms ih =>
    obtain ⟨other, t⟩ := m
    rw [taken] at h
    cases hfind : fields.find? (·.name = other) with
    | none =>
      have hne : other ≠ name := by
        rintro rfl
        obtain ⟨f, hf⟩ := hknown
        rw [hfind] at hf
        cases hf
      rw [hfind] at h
      rw [ih h, valuesOf_cons_of_ne hne]
    | some f =>
      have hmem := List.mem_of_find?_eq_some hfind
      have hname : f.name = other := by simpa using List.find?_some hfind
      rw [hfind] at h
      dsimp only at h
      split at h
      · cases h
      · obtain ⟨g, hg, h⟩ := Option.bind_eq_some_iff.mp h
        by_cases hne : other = name
        · subst hne
          -- the field has been seen, so no other member has its name
          have hsome : (taken fields got (other :: seen) (g s) ms).isSome = true := by rw [h]; rfl
          have hnone := ((isSome_taken_iff.mp hsome).1 other f hfind).2.1 List.mem_cons_self
          rw [ih h, hnone, valuesOf_cons_self]
          exact hput f hmem hname t g hg s
        · rw [ih h, valuesOf_cons_of_ne hne, hother f hmem (by rwa [hname]) t g hg s]

end

end SessionRecovery.Json
