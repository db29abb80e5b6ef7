import SessionRecovery.Session.Basic
import SessionRecovery.Proofs.Run
import SessionRecovery.Proofs.Text.Utf8

/-!
# Outbound headers, name by name

Under every name a request carries at most one value: the token of the session, what the client calls
itself, or the caller's last header, in an order of precedence. Building the headers fails just when one of
these cannot be sent. A token that was read from a reply can always be sent back.
-/

namespace SessionRecovery

namespace Header

/-- A text that can be sent as a value. -/
def Writable (text : String) : Prop := ∀ b ∈ Utf8.encode text, isValueByte b = true

/-- The value that sends a writable text is its encoding. -/
theorem value?_eq_some_iff {text : String} {v : Bytes} :
    value? text = some v ↔ Writable text ∧ v = Utf8.encode text := by
  rw [value?, Writable, ← List.all_eq_true]
  by_cases h : (Utf8.encode text).all isValueByte
  · simp [h, eq_comm]
  · simp [h]

/-- A byte that can be read as text is the encoding of its character. -/
theorem encode_textByte {b : UInt8} (h : isTextByte b = true) :
    String.utf8EncodeChar (Char.ofNat b.toNat) = [b] := by
  have hlow : b.toNat < 0x7F := by
    simp only [isTextByte, Bool.or_eq_true, Bool.and_eq_true, decide_eq_true_eq, beq_iff_eq,
      UInt8.le_iff_toNat_le, UInt8.lt_iff_toNat_lt, ← UInt8.toNat_inj] at h
    simp only [UInt8.reduceToNat] at h
    omega
  have hval : (Char.ofNat b.toNat).toNat = b.toNat := by
    have hvalid : b.toNat.isValidChar := .inl (by omega)
    rw [Char.ofNat, dif_pos hvalid]
    rfl
  rw [Utf8.utf8EncodeChar_ascii (by omega), hval, UInt8.ofNat_toNat]

/-- A byte that can be read can be sent. -/
theorem isValueByte_of_isTextByte {b : UInt8} (h : isTextByte b = true) : isValueByte b = true := by
  simp only [isTextByte, isValueByte, Bool.or_eq_true, Bool.and_eq_true, decide_eq_true_eq,
    beq_iff_eq, bne_iff_ne] at h ⊢
  refine h.imp_left fun ⟨hle, hlt⟩ => ⟨hle, ?_⟩
  rintro rfl
  exact absurd hlt (by decide)

/-- A value that was read as text is the encoding of the text, which can be sent. -/
theorem encode_of_text? {v : Bytes} {t : String} (h : text? v = some t) :
    Utf8.encode t = v ∧ Writable t := by
  rw [text?] at h
  split at h
  · next hall =>
    cases h
    have hread := List.all_eq_true.mp hall
    have hv : Utf8.encode (String.ofList (v.map fun b => Char.ofNat b.toNat)) = v := by
      rw [Utf8.encode, String.toList_ofList, Utf8.encodeChars, List.flatMap_map]
      clear hall
      induction v with
      | nil => rfl
      | cons b bs ih =>
        rw [List.flatMap_cons, encode_textByte (hread b List.mem_cons_self),
          ih fun b hb => hread b (List.mem_cons_of_mem _ hb)]
        rfl
    refine ⟨hv, ?_⟩
    rw [Writable, hv]
    exact fun b hb => isValueByte_of_isTextByte (hread b hb)
  · cases h

/-- A token that can be sent under a name that is one. -/
structure Presentable (name token : String) : Prop where
  /-- The name is a header name. -/
  named : ∃ n, Name.parse? name = some n
  /-- The token can be sent. -/
  writable : Writable token

/-- A token that was taken from a header is not empty, and can be sent under the header's name. -/
theorem Fields.presentable_of_nonEmptyText? {fields : Fields} {name token : String}
    (h : fields.nonEmptyText? name = some token) : token ≠ "" ∧ Presentable name token := by
  rw [nonEmptyText?, Option.filter_eq_some_iff] at h
  obtain ⟨htext, hne⟩ := h
  rw [text?, Option.bind_eq_some_iff] at htext
  obtain ⟨v, hv, hread⟩ := htext
  obtain ⟨n, hn, -⟩ := Option.bind_eq_some_iff.mp hv
  exact ⟨of_decide_eq_true hne, ⟨n, hn⟩, (encode_of_text? hread).2⟩

/-- A name is among the fields exactly when there is a value under it. -/
theorem Fields.mem_names_iff {fields : Fields} {n : Name} :
    n ∈ fields.map (·.1) ↔ fields.values n ≠ [] := by
  rw [values, ne_eq, List.map_eq_nil_iff, List.filter_eq_nil_iff]
  simp

/-- A text spells one name only. -/
theorem Name.parse?_ne {text : String} {m n : Name} (hm : Name.parse? text = some m) (hn : n ≠ m) :
    Name.parse? text ≠ some n := fun hc => hn (Option.some.inj (hc.symm.trans hm))

/-- The last of some headers under a name. -/
def lastUnder (n : Name) : List (String × String) → Option String
  | [] => none
  | (name, value) :: rest =>
    (lastUnder n rest).or (if Name.parse? name = some n then some value else none)

/-- The last header under a name is one of those that were added, if any of them has it. -/
theorem lastUnder_append (n : Name) (extra added : List (String × String)) :
    lastUnder n (extra ++ added) = (lastUnder n added).or (lastUnder n extra) := by
  induction extra with
  | nil => exact Option.or_none.symm
  | cons header rest ih =>
    obtain ⟨name, value⟩ := header
    rw [List.cons_append, lastUnder, ih, lastUnder, Option.or_assoc]

end Header

namespace Session

open Header

/-- The token that a session sends under a name. -/
def tokenUnder (s : Session) (names : HeaderNames) (n : Name) : Option String :=
  if s.csrf ≠ "" ∧ Name.parse? names.csrfToken = some n then some s.csrf
  else if s.access ≠ "" ∧ Name.parse? names.accessToken = some n then some s.access
  else none

/-- What the client calls itself, under the name that is meant for it. -/
def agentUnder (s : Session) (n : Name) : Option String :=
  if n = userAgentName then s.userAgent else none

/-- What a session sends under a name: what the client calls itself in place of a token, a token in place
of the caller's own header, and the caller's last header in place of what the client calls itself. -/
def textUnder (s : Session) (names : HeaderNames) (extra : List (String × String)) (n : Name) :
    Option String :=
  match s.tokenUnder names n with
  | some token => some ((s.agentUnder n).getD token)
  | none => (lastUnder n extra).or (s.agentUnder n)

/-- The headers of an outbound request can be built. -/
structure Sendable (s : Session) (names : HeaderNames) (extra : List (String × String)) : Prop where
  /-- The access token, if there is one. -/
  access : s.access ≠ "" → Presentable names.accessToken s.access
  /-- The anti-forgery token, if there is one. -/
  csrf : s.csrf ≠ "" → Presentable names.csrfToken s.csrf
  /-- What the client calls itself, if anything. -/
  agent : ∀ agent, s.userAgent = some agent → Writable agent
  /-- The caller's own headers, each with a value that can be sent unless a token stands in its place. -/
  extra : ∀ h ∈ extra, ∃ n, Name.parse? h.1 = some n ∧
    ((s.tokenUnder names n).isSome = true ∨ Writable h.2)

variable {s : Session} {names : HeaderNames} {extra : List (String × String)}
  {fields out : Fields} {text : String}

/-- A text that is a name. -/
theorem headerName_eq_ok_iff {n : Name} :
    headerName text = .ok n ↔ Name.parse? text = some n := by
  rw [headerName]
  cases Name.parse? text <;> simp

/-- A text that is a value. -/
theorem headerValue_eq_ok_iff {v : Bytes} :
    headerValue text = .ok v ↔ v = Utf8.encode text ∧ Writable text := by
  rw [headerValue, and_comm, ← value?_eq_some_iff]
  cases value? text <;> simp

/-! ## Tokens -/

/-- Setting a token changes nothing when there is none, and otherwise succeeds when it can be sent. -/
theorem putToken_eq_ok_iff {name token : String} :
    putToken fields name token = .ok out ↔
      token = "" ∧ out = fields ∨
      token ≠ "" ∧ Writable token ∧ ∃ n, Name.parse? name = some n ∧
        out = fields.set n (Utf8.encode token) := by
  rw [putToken]
  by_cases ht : token = ""
  · simp [ht, eq_comm]
  · rw [if_neg ht]
    simp only [ht, bind_eq_ok_iff, headerName_eq_ok_iff, headerValue_eq_ok_iff, and_assoc,
      exists_eq_left, Except.ok.injEq, false_and, false_or, ne_eq, not_false_eq_true, true_and]
    constructor
    · rintro ⟨n, hn, hw, rfl⟩
      exact ⟨hw, n, hn, rfl⟩
    · rintro ⟨hw, n, hn, rfl⟩
      exact ⟨n, hn, hw, rfl⟩

/-- Setting a token succeeds when there is none, or when it can be sent. -/
theorem exists_putToken_iff (fields : Fields) (name token : String) :
    (∃ out, putToken fields name token = .ok out) ↔ (token ≠ "" → Presentable name token) := by
  simp only [putToken_eq_ok_iff]
  by_cases ht : token = ""
  · simp [ht]
  · simp only [ht, false_and, not_false_eq_true, true_and, false_or, ne_eq, forall_const]
    constructor
    · rintro ⟨out, hw, n, hn, -⟩
      exact ⟨⟨n, hn⟩, hw⟩
    · rintro ⟨⟨n, hn⟩, hw⟩
      exact ⟨_, hw, n, hn, rfl⟩

/-- A token that was set is the only value under its name, and all other values stay. -/
theorem values_putToken {name token : String} (h : putToken fields name token = .ok out)
    (n : Name) : out.values n =
      if token ≠ "" ∧ Name.parse? name = some n then [Utf8.encode token] else fields.values n := by
  obtain ⟨rfl, rfl⟩ | ⟨ht, -, m, hm, rfl⟩ := putToken_eq_ok_iff.mp h
  · rw [if_neg fun hc => hc.1 rfl]
  · by_cases hn : n = m
    · subst hn
      rw [if_pos ⟨ht, hm⟩, Fields.values_set]
    · rw [if_neg fun hc => Name.parse?_ne hm hn hc.2, Fields.values_set_of_ne _ _ hn]

/-- The tokens of a session can be built when each of them can be sent. -/
theorem exists_tokenHeaders_iff : (∃ fields, s.tokenHeaders names = .ok fields) ↔
    (s.access ≠ "" → Presentable names.accessToken s.access) ∧
    (s.csrf ≠ "" → Presentable names.csrfToken s.csrf) := by
  simp only [tokenHeaders, bind_eq_ok_iff]
  rw [exists_comm]
  simp only [exists_and_left, exists_putToken_iff, exists_and_right]

/-- Under every name the tokens of a session are the one that it sends there. -/
theorem values_tokenHeaders (h : s.tokenHeaders names = .ok fields) (n : Name) :
    fields.values n = ((s.tokenUnder names n).map Utf8.encode).toList := by
  obtain ⟨first, hfirst, hsecond⟩ := bind_eq_ok_iff.mp h
  rw [values_putToken hsecond, values_putToken hfirst, tokenUnder]
  split
  · rfl
  · split <;> rfl

/-- The names of the tokens are those under which the session sends one. -/
theorem mem_tokenHeaders_iff (h : s.tokenHeaders names = .ok fields) (n : Name) :
    n ∈ fields.map (·.1) ↔ (s.tokenUnder names n).isSome = true := by
  rw [Fields.mem_names_iff, values_tokenHeaders h]
  cases s.tokenUnder names n <;> simp

/-! ## What the client calls itself -/

/-- Setting what the client calls itself succeeds when it can be sent. -/
theorem putUserAgent_some_eq_ok_iff {agent : String} :
    putUserAgent fields (some agent) = .ok out ↔
      Writable agent ∧ out = fields.set userAgentName (Utf8.encode agent) := by
  rw [putUserAgent]
  cases hv : headerValue agent with
  | error f =>
    have hnot : ¬ Writable agent := fun hw =>
      nomatch hv.symm.trans (headerValue_eq_ok_iff.mpr ⟨rfl, hw⟩)
    exact ⟨fun h => (nomatch h), fun h => absurd h.1 hnot⟩
  | ok v =>
    obtain ⟨rfl, hw⟩ := headerValue_eq_ok_iff.mp hv
    simp [Except.map, hw, eq_comm]

/-- Whether what the client calls itself can be set does not depend on what was set before. -/
theorem exists_putUserAgent_iff (fields : Fields) (agent : Option String) :
    (∃ out, putUserAgent fields agent = .ok out) ↔ ∀ a, agent = some a → Writable a := by
  cases agent with
  | none => simp [putUserAgent]
  | some a => simp [putUserAgent_some_eq_ok_iff]

/-- What the client calls itself stands under its own name, and all other values stay. -/
theorem values_putUserAgent (h : putUserAgent fields s.userAgent = .ok out) (n : Name) :
    out.values n = ((s.agentUnder n).map fun a => [Utf8.encode a]).getD (fields.values n) := by
  rw [agentUnder]
  cases ha : s.userAgent with
  | none =>
    rw [ha] at h
    cases h
    rw [ite_self, Option.map_none, Option.getD_none]
  | some a =>
    rw [ha] at h
    obtain ⟨-, rfl⟩ := putUserAgent_some_eq_ok_iff.mp h
    by_cases hn : n = userAgentName
    · subst hn
      rw [if_pos rfl, Fields.values_set]
      rfl
    · rw [if_neg hn, Fields.values_set_of_ne _ _ hn]
      rfl

/-! ## The caller's own headers -/

/-- Setting the caller's own headers goes on after each of them. -/
theorem putExtra_cons_eq_ok_iff {guarded : List Name} {name value : String}
    {rest : List (String × String)} :
    putExtra guarded fields ((name, value) :: rest) = .ok out ↔
      ∃ n, Name.parse? name = some n ∧
        (n ∈ guarded ∧ putExtra guarded fields rest = .ok out ∨
          n ∉ guarded ∧ Writable value ∧
            putExtra guarded (fields.set n (Utf8.encode value)) rest = .ok out) := by
  rw [putExtra, bind_eq_ok_iff]
  refine exists_congr fun n => ?_
  rw [headerName_eq_ok_iff]
  refine and_congr_right fun _ => ?_
  by_cases hg : n ∈ guarded
  · simp [hg]
  · simp [hg, bind_eq_ok_iff, headerValue_eq_ok_iff, and_assoc]

/-- Setting the caller's own headers succeeds when each has a name, and a value that can be sent unless the
name is guarded. -/
theorem exists_putExtra_iff (guarded : List Name) (fields : Fields)
    (extra : List (String × String)) :
    (∃ out, putExtra guarded fields extra = .ok out) ↔
      ∀ h ∈ extra, ∃ n, Name.parse? h.1 = some n ∧ (n ∈ guarded ∨ Writable h.2) := by
  induction extra generalizing fields with
  | nil => simp [putExtra]
  | cons h rest ih =>
    obtain ⟨name, value⟩ := h
    simp only [putExtra_cons_eq_ok_iff, List.forall_mem_cons]
    constructor
    · rintro ⟨out, n, hn, ⟨hg, hrest⟩ | ⟨hg, hw, hrest⟩⟩
      · exact ⟨⟨n, hn, .inl hg⟩, (ih _).mp ⟨out, hrest⟩⟩
      · exact ⟨⟨n, hn, .inr hw⟩, (ih _).mp ⟨out, hrest⟩⟩
    · rintro ⟨⟨n, hn, hw⟩, hrest⟩
      by_cases hg : n ∈ guarded
      · obtain ⟨out, hout⟩ := (ih fields).mpr hrest
        exact ⟨out, n, hn, .inl ⟨hg, hout⟩⟩
      · obtain ⟨out, hout⟩ := (ih (fields.set n (Utf8.encode value))).mpr hrest
        exact ⟨out, n, hn, .inr ⟨hg, hw.resolve_left hg, hout⟩⟩

/-- The caller's own headers leave the values under guarded names, and under any other name the last of
them is the only value. -/
theorem values_putExtra {guarded : List Name} (h : putExtra guarded fields extra = .ok out)
    (n : Name) : out.values n =
      if n ∈ guarded then fields.values n
      else ((lastUnder n extra).map fun v => [Utf8.encode v]).getD (fields.values n) := by
  -- a header counts only as long as none of the later ones has its name
  induction extra generalizing fields with
  | nil =>
    cases h
    simp [lastUnder]
  | cons header rest ih =>
    obtain ⟨name, value⟩ := header
    obtain ⟨m, hm, ⟨hg, hrest⟩ | ⟨hg, -, hrest⟩⟩ := putExtra_cons_eq_ok_iff.mp h
    · rw [ih hrest, lastUnder]
      by_cases hn : n = m
      · subst hn
        rw [if_pos hg, if_pos hg]
      · rw [if_neg (Name.parse?_ne hm hn), Option.or_none]
    · rw [ih hrest, lastUnder]
      by_cases hn : n = m
      · subst hn
        rw [if_neg hg, if_neg hg, if_pos hm, Fields.values_set]
        cases lastUnder n rest <;> rfl
      · rw [Fields.values_set_of_ne _ _ hn, if_neg (Name.parse?_ne hm hn), Option.or_none]

/-! ## All headers -/

/-- The headers of an outbound request can be built exactly when all that stands in them can be sent. -/
theorem exists_outboundHeaders_iff (s : Session) (names : HeaderNames)
    (extra : List (String × String)) :
    (∃ fields, s.outboundHeaders names extra = .ok fields) ↔ s.Sendable names extra := by
  simp only [outboundHeaders, bind_eq_ok_iff]
  constructor
  · rintro ⟨out, tokens, htokens, fields, hfields, hout⟩
    obtain ⟨haccess, hcsrf⟩ := exists_tokenHeaders_iff.mp ⟨tokens, htokens⟩
    have hextra := (exists_putExtra_iff _ _ _).mp ⟨out, hout⟩
    simp only [mem_tokenHeaders_iff htokens] at hextra
    exact ⟨haccess, hcsrf, (exists_putUserAgent_iff _ _).mp ⟨fields, hfields⟩, hextra⟩
  · rintro ⟨haccess, hcsrf, hagent, hextra⟩
    obtain ⟨tokens, htokens⟩ := exists_tokenHeaders_iff.mpr ⟨haccess, hcsrf⟩
    obtain ⟨fields, hfields⟩ := (exists_putUserAgent_iff tokens _).mpr hagent
    simp only [← mem_tokenHeaders_iff htokens] at hextra
    obtain ⟨out, hout⟩ := (exists_putExtra_iff _ fields _).mpr hextra
    exact ⟨out, tokens, htokens, fields, hfields, hout⟩

/-- Under every name an outbound request carries just what the session sends there. -/
theorem values_outboundHeaders (h : s.outboundHeaders names extra = .ok fields) (n : Name) :
    fields.values n = ((s.textUnder names extra n).map Utf8.encode).toList := by
  obtain ⟨tokens, htokens, h⟩ := bind_eq_ok_iff.mp h
  obtain ⟨base, hbase, h⟩ := bind_eq_ok_iff.mp h
  have hguard := mem_tokenHeaders_iff htokens n
  rw [values_putExtra h, values_putUserAgent hbase, values_tokenHeaders htokens, textUnder]
  cases htoken : s.tokenUnder names n with
  | some token =>
    rw [if_pos (hguard.mpr (by rw [htoken]; rfl))]
    cases s.agentUnder n <;> rfl
  | none =>
    have hfree : n ∉ tokens.map (·.1) := by
      rw [hguard, htoken]
      exact Bool.false_ne_true
    rw [if_neg hfree]
    cases lastUnder n extra <;> cases s.agentUnder n <;> rfl

end Session

end SessionRecovery
