import SessionRecovery.Proofs.Session.Headers

/-!
# Why outbound headers cannot be built

Building the headers of a request stops at the first text that cannot be sent: a token, then what the client
calls itself, then the caller's own headers in their order. A session whose tokens can be sent is never the
reason, and a header in whose place a token stands needs a name, but not a value that can be sent.
-/

namespace SessionRecovery.Session

open Header

/-- Every token of a session can be sent under its name. -/
structure Armed (names : HeaderNames) (s : Session) : Prop where
  /-- The access token, if there is one. -/
  access : s.access ≠ "" → Presentable names.accessToken s.access
  /-- The anti-forgery token, if there is one. -/
  csrf : s.csrf ≠ "" → Presentable names.csrfToken s.csrf

/-- A header of the caller's own passes: it has a name, and a value that can be sent unless a token stands in
its place. -/
def Admits (s : Session) (names : HeaderNames) (header : String × String) : Prop :=
  ∃ n, Name.parse? header.1 = some n ∧
    ((s.tokenUnder names n).isSome = true ∨ Writable header.2)

/-- Why a header of the caller's own does not pass. -/
inductive Rejects (s : Session) (names : HeaderNames) : String × String → Header.Fault → Prop
  /-- It has no name. -/
  | name {name value : String} (hn : Name.parse? name = none) :
      Rejects s names (name, value) (.name name)
  /-- Its value cannot be sent, and no token stands in its place. -/
  | value {name value : String} {n : Name} (hn : Name.parse? name = some n)
      (hfree : s.tokenUnder names n = none) (hw : ¬ Writable value) :
      Rejects s names (name, value) .value

/-- Why the first of the caller's own headers that does not pass does not. -/
inductive RejectsFirst (s : Session) (names : HeaderNames) :
    List (String × String) → Header.Fault → Prop
  /-- It is the first header. -/
  | here {header : String × String} {rest : List (String × String)} {fault : Header.Fault}
      (hr : s.Rejects names header fault) : RejectsFirst s names (header :: rest) fault
  /-- It comes after a header that passes. -/
  | there {header : String × String} {rest : List (String × String)} {fault : Header.Fault}
      (ha : s.Admits names header) (hr : RejectsFirst s names rest fault) :
      RejectsFirst s names (header :: rest) fault

/-- Why the headers of a request cannot be built where no token is the reason. -/
inductive Blames (s : Session) (names : HeaderNames) (extra : List (String × String)) :
    Header.Fault → Prop
  /-- What the client calls itself cannot be sent. -/
  | agent {agent : String} (ha : s.userAgent = some agent) (hw : ¬ Writable agent) :
      Blames s names extra .value
  /-- A header of the caller's own does not pass. -/
  | header {fault : Header.Fault} (ha : ∀ agent, s.userAgent = some agent → Writable agent)
      (hr : s.RejectsFirst names extra fault) : Blames s names extra fault

variable {s : Session} {names : HeaderNames} {extra : List (String × String)} {fields : Fields}
  {text : String} {fault : Header.Fault}

/-! ## Names and values -/

/-- A text that is no name. -/
theorem headerName_eq_error_iff :
    headerName text = .error fault ↔ Name.parse? text = none ∧ fault = .name text := by
  rw [headerName]
  cases Name.parse? text <;> simp [eq_comm]

/-- A text that is no value. -/
theorem headerValue_eq_error_iff :
    headerValue text = .error fault ↔ ¬ Writable text ∧ fault = .value := by
  have hnone : value? text = none ↔ ¬ Writable text := by
    rw [Option.eq_none_iff_forall_not_mem]
    constructor
    · exact fun h hw => h _ (value?_eq_some_iff.mpr ⟨hw, rfl⟩)
    · exact fun hw v hv => hw (value?_eq_some_iff.mp hv).1
  rw [headerValue, ← hnone]
  cases value? text <;> simp [eq_comm]

/-- Setting what the client calls itself fails when it cannot be sent. -/
theorem putUserAgent_eq_error_iff {agent : Option String} :
    putUserAgent fields agent = .error fault ↔
      ∃ a, agent = some a ∧ ¬ Writable a ∧ fault = .value := by
  cases agent with
  | none => simp [putUserAgent]
  | some a =>
    simp only [Option.some.injEq, exists_eq_left', ← headerValue_eq_error_iff]
    rw [putUserAgent]
    cases headerValue a <;> simp [Except.map]

/-- Setting one of the caller's own headers after another stops at the first that does not pass. -/
theorem putExtra_eq_error_iff {guarded : List Name}
    (hg : ∀ n, n ∈ guarded ↔ (s.tokenUnder names n).isSome = true) :
    putExtra guarded fields extra = .error fault ↔ s.RejectsFirst names extra fault := by
  induction extra generalizing fields with
  | nil =>
    constructor
    · exact fun h => (nomatch h)
    · exact fun h => (nomatch h)
  | cons header rest ih =>
    obtain ⟨name, value⟩ := header
    rw [putExtra, bind_eq_error_iff, headerName_eq_error_iff]
    constructor
    · rintro (⟨hn, rfl⟩ | ⟨n, hn, h⟩)
      · exact .here (.name hn)
      · rw [headerName_eq_ok_iff] at hn
        by_cases hm : n ∈ guarded
        · rw [if_pos hm, ih] at h
          exact .there ⟨n, hn, .inl ((hg n).mp hm)⟩ h
        · rw [if_neg hm, bind_eq_error_iff, headerValue_eq_error_iff] at h
          rw [hg, Bool.not_eq_true, Option.isSome_eq_false_iff, Option.isNone_iff_eq_none] at hm
          rcases h with ⟨hw, rfl⟩ | ⟨v, hv, h⟩
          · exact .here (.value hn hm hw)
          · exact .there ⟨n, hn, .inr (headerValue_eq_ok_iff.mp hv).2⟩ (ih.mp h)
    · intro h
      cases h with
      | here hr =>
        cases hr with
        | name hn => exact .inl ⟨hn, rfl⟩
        | @value _ _ n hn hfree hw =>
          refine .inr ⟨n, headerName_eq_ok_iff.mpr hn, ?_⟩
          have hm : n ∉ guarded := by
            rw [hg, hfree]
            exact Bool.false_ne_true
          rw [if_neg hm, bind_eq_error_iff, headerValue_eq_error_iff]
          exact .inl ⟨hw, rfl⟩
      | there ha hr =>
        obtain ⟨n, hn, hpass⟩ := ha
        refine .inr ⟨n, headerName_eq_ok_iff.mpr hn, ?_⟩
        by_cases hm : n ∈ guarded
        · rw [if_pos hm, ih]
          exact hr
        · have hw : Writable value := hpass.resolve_left (mt (hg n).mpr hm)
          rw [if_neg hm, bind_eq_error_iff]
          exact .inr ⟨_, headerValue_eq_ok_iff.mpr ⟨rfl, hw⟩, ih.mpr hr⟩

/-! ## All headers -/

/-- Where the tokens can be sent, building the headers fails just because of what the client calls itself or
because of a header of the caller's own. -/
theorem Armed.outboundHeaders_eq_error_iff (h : s.Armed names) :
    s.outboundHeaders names extra = .error fault ↔ s.Blames names extra fault := by
  obtain ⟨tokens, htokens⟩ := exists_tokenHeaders_iff.mpr ⟨h.access, h.csrf⟩
  have hg := mem_tokenHeaders_iff htokens
  have hrest : s.outboundHeaders names extra = (putUserAgent tokens s.userAgent >>=
      fun fields => putExtra (tokens.map (·.1)) fields extra) := by
    rw [outboundHeaders, htokens]
    rfl
  rw [hrest, bind_eq_error_iff, putUserAgent_eq_error_iff]
  constructor
  · rintro (⟨agent, ha, hw, rfl⟩ | ⟨fields, hfields, hextra⟩)
    · exact .agent ha hw
    · exact .header ((exists_putUserAgent_iff tokens _).mp ⟨fields, hfields⟩)
        ((putExtra_eq_error_iff hg).mp hextra)
  · intro hb
    cases hb with
    | agent ha hw => exact .inl ⟨_, ha, hw, rfl⟩
    | header ha hr =>
      obtain ⟨fields, hfields⟩ := (exists_putUserAgent_iff tokens _).mpr ha
      exact .inr ⟨fields, hfields, (putExtra_eq_error_iff hg).mpr hr⟩

/-! ## One more header -/

/-- Setting the caller's own headers goes on from the first ones to the others. -/
theorem putExtra_append {guarded : List Name} (added : List (String × String)) :
    putExtra guarded fields (extra ++ added) =
      putExtra guarded fields extra >>= fun out => putExtra guarded out added := by
  induction extra generalizing fields with
  | nil => rfl
  | cons header rest ih =>
    obtain ⟨name, value⟩ := header
    rw [List.cons_append, putExtra, putExtra]
    cases headerName name with
    | error fault => rfl
    | ok n =>
      by_cases hg : n ∈ guarded
      · simp only [hg, if_true, ih, bind, Except.bind]
      · cases headerValue value with
        | error fault => simp only [hg, if_false, bind, Except.bind]
        | ok v => simp only [hg, if_false, ih, bind, Except.bind]

/-- Setting a header whose value can be sent fails only where it has no name. -/
theorem putExtra_singleton_eq_error_iff {guarded : List Name} {name value : String}
    (hw : Writable value) : putExtra guarded fields [(name, value)] = .error fault ↔
      Name.parse? name = none ∧ fault = .name name := by
  have hv : headerValue value = .ok (Utf8.encode value) := headerValue_eq_ok_iff.mpr ⟨rfl, hw⟩
  rw [putExtra, bind_eq_error_iff, headerName_eq_error_iff, or_iff_left]
  rintro ⟨n, -, hrest⟩
  split at hrest
  · cases hrest
  · rw [hv] at hrest
    cases hrest

/-- One more header whose value can be sent is no reason why the headers of a request cannot be built, unless
it has no name. -/
theorem outboundHeaders_concat_eq_error_iff {name value : String} (hw : Writable value) :
    s.outboundHeaders names (extra ++ [(name, value)]) = .error fault ↔
      s.outboundHeaders names extra = .error fault ∨
        (∃ fields, s.outboundHeaders names extra = .ok fields) ∧
          Name.parse? name = none ∧ fault = .name name := by
  have hsplit : s.outboundHeaders names (extra ++ [(name, value)]) = s.tokenHeaders names >>= fun tokens =>
      s.outboundHeaders names extra >>= fun out => putExtra (tokens.map (·.1)) out [(name, value)] := by
    rw [outboundHeaders, outboundHeaders]
    cases s.tokenHeaders names with
    | error fault => rfl
    | ok tokens =>
      cases hagent : putUserAgent tokens s.userAgent with
      | error fault => simp only [hagent, bind, Except.bind]
      | ok fields => simp only [hagent, putExtra_append, bind, Except.bind]
  cases htokens : s.tokenHeaders names with
  | error e =>
    have hfirst : s.outboundHeaders names extra = .error e := by
      rw [outboundHeaders, htokens]
      rfl
    rw [hsplit, htokens, hfirst]
    constructor
    · exact .inl
    · rintro (h | ⟨⟨fields, hok⟩, -⟩)
      · exact h
      · cases hok
  | ok tokens =>
    have hrest : s.outboundHeaders names (extra ++ [(name, value)]) = s.outboundHeaders names extra >>=
        fun out => putExtra (tokens.map (·.1)) out [(name, value)] := by
      rw [hsplit, htokens]
      rfl
    rw [hrest, bind_eq_error_iff]
    simp only [putExtra_singleton_eq_error_iff hw, exists_and_right]

end SessionRecovery.Session
