import Mathlib
import SessionRecovery.Proofs.Session.Headers

/-!
# Which header wins

Names of headers are compared without regard to letter case. Under a name where a token stands, nothing of the
caller's own is ever sent, however it is spelled, wherever it stands and how often; under any other name the
caller's last header wins over what the client calls itself. A header that gives way to a token still needs a
name, but its value is never looked at.
-/

namespace SessionRecovery

namespace Header

/-- Two texts are the same but for the case of ASCII letters. -/
def SameLetters (a b : String) : Prop := a.toList.map Char.toLower = b.toList.map Char.toLower

instance (a b : String) : Decidable (SameLetters a b) := inferInstanceAs (Decidable (_ = _))

/-- A text that can be sent as the name of a header. -/
structure IsName (text : String) : Prop where
  /-- There is a character. -/
  nonempty : text ≠ ""
  /-- All characters are those of a token. -/
  token : ∀ c ∈ text.toList, isTokenChar c = true
  /-- The text is not too long. -/
  short : text.toList.length ≤ longestName

/-- The letter case of a character does not matter in a token. -/
theorem isTokenChar_toLower (c : Char) : isTokenChar c.toLower = isTokenChar c := by
  by_cases h : c.isUpper
  · have halpha : c.isAlpha = true := by simp [Char.isAlpha, h]
    have hlower : c.toLower.isAlpha = true := by rw [Char.isAlpha_toLower_eq_isAlpha, halpha]
    simp [isTokenChar, Char.isAlphanum, halpha, hlower]
  · rw [Char.toLower_eq_of_not_isUpper h]

variable {a b : String} {m n : Name}

/-- A text spells a name when it can be sent as one, and the name is the text in lower case. -/
theorem Name.parse?_eq_some_iff :
    Name.parse? a = some n ↔ IsName a ∧ n.text.toList = a.toList.map Char.toLower := by
  rw [parse?]
  constructor
  · intro h
    split at h
    · next hn =>
      cases h
      exact ⟨⟨hn.1, List.all_eq_true.mp hn.2.1, hn.2.2⟩, String.toList_ofList⟩
    · cases h
  · rintro ⟨⟨hne, htoken, hshort⟩, htext⟩
    rw [if_pos ⟨hne, List.all_eq_true.mpr htoken, hshort⟩, ← htext, String.ofList_toList]

/-- A text spells some name just when it can be sent as one. -/
theorem Name.exists_parse?_iff : (∃ n, Name.parse? a = some n) ↔ IsName a := by
  constructor
  · rintro ⟨n, hn⟩
    exact (parse?_eq_some_iff.mp hn).1
  · intro ha
    exact ⟨⟨String.ofList _⟩, parse?_eq_some_iff.mpr ⟨ha, String.toList_ofList⟩⟩

/-- Whether a text can be sent as a name does not depend on its letter case. -/
theorem SameLetters.isName (h : SameLetters a b) (ha : IsName a) : IsName b := by
  rw [SameLetters] at h
  refine ⟨?_, fun c hc => ?_, ?_⟩
  · rintro rfl
    exact ha.nonempty (String.toList_inj.mp (List.map_eq_nil_iff.mp h))
  · have hlower : c.toLower ∈ a.toList.map Char.toLower := by
      rw [h]
      exact List.mem_map_of_mem hc
    obtain ⟨c', hc', heq⟩ := List.mem_map.mp hlower
    rw [← isTokenChar_toLower, ← heq, isTokenChar_toLower]
    exact ha.token c' hc'
  · have hlength := congrArg List.length h
    rw [List.length_map, List.length_map] at hlength
    rw [← hlength]
    exact ha.short

/-- Texts spell one name just when they are the same but for letter case. -/
theorem Name.parse?_iff_sameLetters (ha : Name.parse? a = some n) :
    Name.parse? b = some n ↔ SameLetters b a := by
  obtain ⟨hname, htext⟩ := parse?_eq_some_iff.mp ha
  rw [parse?_eq_some_iff, htext, SameLetters, eq_comm]
  refine and_iff_right_of_imp fun h => ?_
  exact SameLetters.isName (h.symm : SameLetters a b) hname

/-- Where there is one value at most under every name, no name occurs twice. -/
theorem Fields.nodup_names {fields : Fields} (h : ∀ n, (fields.values n).length ≤ 1) :
    (fields.map (·.1)).Nodup := by
  refine List.nodup_iff_count.mpr fun n => ?_
  have hcount : (fields.map (·.1)).count n = (fields.values n).length := by
    rw [values, List.length_map, List.count, List.countP_map, List.countP_eq_length_filter]
    rfl
  rw [hcount]
  exact h n

end Header

namespace Session

open Header

/-- A token of the session stands under the name that a text spells. -/
def Protects (s : Session) (names : HeaderNames) (text : String) : Prop :=
  s.access ≠ "" ∧ SameLetters names.accessToken text ∨
    s.csrf ≠ "" ∧ SameLetters names.csrfToken text

instance (s : Session) (names : HeaderNames) (text : String) : Decidable (s.Protects names text) :=
  inferInstanceAs (Decidable (_ ∨ _))

/-- What the client calls itself, if a text spells the name for that. -/
def agentFor (s : Session) (text : String) : Option String :=
  if SameLetters "user-agent" text then s.userAgent else none

/-- The token that stands under the name that a text spells, if one does: the anti-forgery token goes before
the access token. -/
def tokenFor (s : Session) (names : HeaderNames) (text : String) : String :=
  if s.csrf ≠ "" ∧ SameLetters names.csrfToken text then s.csrf else s.access

/-- What wins under the name that a text spells. Where a token stands, what the client calls itself goes before
it; elsewhere the caller's last header goes before what the client calls itself. -/
def winner (s : Session) (names : HeaderNames) (extra : List (String × String)) (text : String) :
    Option String :=
  if s.Protects names text then some ((s.agentFor text).getD (s.tokenFor names text))
  else
    ((extra.filter fun h => SameLetters h.1 text).getLast?.map (·.2)).or (s.agentFor text)

/-- Everything that goes into the headers of a request can be sent. -/
structure Composable (s : Session) (names : HeaderNames) (extra : List (String × String)) : Prop where
  /-- The access token and its name, if there is one. -/
  access : s.access ≠ "" → IsName names.accessToken ∧ Writable s.access
  /-- The anti-forgery token and its name, if there is one. -/
  csrf : s.csrf ≠ "" → IsName names.csrfToken ∧ Writable s.csrf
  /-- What the client calls itself, if anything. -/
  agent : ∀ agent, s.userAgent = some agent → Writable agent
  /-- The names of all of the caller's own headers. -/
  named : ∀ h ∈ extra, IsName h.1
  /-- The values of those under whose names no token stands. -/
  valued : ∀ h ∈ extra, ¬ s.Protects names h.1 → Writable h.2

variable {s : Session} {names : HeaderNames} {extra : List (String × String)} {fields : Fields}
  {text : String} {n : Name}

/-- The token that a session sends under a name is the one that stands there. -/
theorem tokenUnder_eq (hn : Name.parse? text = some n) : s.tokenUnder names n =
    if s.Protects names text then some (s.tokenFor names text) else none := by
  simp only [tokenUnder, Name.parse?_iff_sameLetters hn, tokenFor]
  by_cases hc : s.csrf ≠ "" ∧ SameLetters names.csrfToken text
  · have hp : s.Protects names text := .inr hc
    rw [if_pos hc, if_pos hp, if_pos hc]
  · have hp : s.Protects names text ↔ s.access ≠ "" ∧ SameLetters names.accessToken text :=
      or_iff_left hc
    simp only [if_neg hc, hp]

/-- A token stands under a name just when the session sends one there. -/
theorem isSome_tokenUnder_iff (hn : Name.parse? text = some n) :
    (s.tokenUnder names n).isSome = true ↔ s.Protects names text := by
  rw [tokenUnder_eq hn]
  split
  · next hp => exact iff_of_true rfl hp
  · next hp => exact iff_of_false Bool.false_ne_true hp

/-- A token that can be presented is one that has a name and can be sent. -/
theorem presentable_iff {name token : String} :
    Presentable name token ↔ IsName name ∧ Writable token :=
  ⟨fun h => ⟨Name.exists_parse?_iff.mp h.named, h.writable⟩,
    fun h => ⟨Name.exists_parse?_iff.mpr h.1, h.2⟩⟩

/-- The headers can be built just when everything that goes into them can be sent. -/
theorem sendable_iff_composable : s.Sendable names extra ↔ s.Composable names extra := by
  have hextra (h : String × String) : (∃ n, Name.parse? h.1 = some n ∧
      ((s.tokenUnder names n).isSome = true ∨ Writable h.2)) ↔
      IsName h.1 ∧ (¬ s.Protects names h.1 → Writable h.2) := by
    constructor
    · rintro ⟨n, hn, hw⟩
      rw [isSome_tokenUnder_iff hn] at hw
      exact ⟨Name.exists_parse?_iff.mp ⟨n, hn⟩, hw.resolve_left⟩
    · rintro ⟨hname, hw⟩
      obtain ⟨n, hn⟩ := Name.exists_parse?_iff.mpr hname
      refine ⟨n, hn, ?_⟩
      rw [isSome_tokenUnder_iff hn]
      exact Decidable.or_iff_not_imp_left.mpr hw
  constructor
  · intro h
    exact ⟨fun ha => presentable_iff.mp (h.access ha), fun hc => presentable_iff.mp (h.csrf hc),
      h.agent, fun e he => ((hextra e).mp (h.extra e he)).1,
      fun e he => ((hextra e).mp (h.extra e he)).2⟩
  · intro h
    exact ⟨fun ha => presentable_iff.mpr (h.access ha), fun hc => presentable_iff.mpr (h.csrf hc),
      h.agent, fun e he => (hextra e).mpr ⟨h.named e he, h.valued e he⟩⟩

/-- The last header under a name is the last one whose name is the same but for letter case. -/
theorem lastUnder_eq (hn : Name.parse? text = some n) (extra : List (String × String)) :
    lastUnder n extra =
      (extra.filter fun h => SameLetters h.1 text).getLast?.map (·.2) := by
  induction extra with
  | nil => rfl
  | cons h rest ih =>
    obtain ⟨name, value⟩ := h
    rw [lastUnder, ih, List.filter_cons]
    by_cases hsame : SameLetters name text
    · rw [if_pos ((Name.parse?_iff_sameLetters hn).mpr hsame), if_pos (decide_eq_true hsame),
        List.getLast?_cons]
      cases (rest.filter fun h => SameLetters h.1 text).getLast? <;> rfl
    · rw [if_neg (mt (Name.parse?_iff_sameLetters hn).mp hsame),
        if_neg (mt of_decide_eq_true hsame), Option.or_none]

/-- What a session sends under a name is what wins there. -/
theorem textUnder_eq_winner (hn : Name.parse? text = some n) :
    s.textUnder names extra n = s.winner names extra text := by
  have hagent : s.agentUnder n = s.agentFor text := by
    have hname : Name.parse? "user-agent" = some userAgentName := by decide
    have hiff : n = userAgentName ↔ SameLetters "user-agent" text := by
      rw [← Name.parse?_iff_sameLetters hn, hname, Option.some.injEq, eq_comm]
    rw [agentUnder, agentFor]
    simp only [hiff]
  rw [textUnder, winner, tokenUnder_eq hn, hagent, lastUnder_eq hn]
  by_cases hp : s.Protects names text
  · rw [if_pos hp, if_pos hp]
  · rw [if_neg hp, if_neg hp]

/-- A name under which something is sent is spelled by some text. -/
theorem exists_spelling (h : s.outboundHeaders names extra = .ok fields) {f : Name × Bytes}
    (hf : f ∈ fields) : ∃ text, Name.parse? text = some f.1 := by
  have hvalues := values_outboundHeaders h f.1
  have hne : fields.values f.1 ≠ [] := Fields.mem_names_iff.mp (List.mem_map_of_mem hf)
  have hsome : s.textUnder names extra f.1 ≠ none := by
    intro hnone
    rw [hvalues, hnone] at hne
    exact hne rfl
  refine Classical.byContradiction fun hno => ?_
  rw [not_exists] at hno
  have htoken : s.tokenUnder names f.1 = none := by
    rw [tokenUnder, if_neg fun hc => hno _ hc.2, if_neg fun hc => hno _ hc.2]
  have hagent : s.agentUnder f.1 = none := by
    refine if_neg fun hc => hno "user-agent" ?_
    rw [hc]
    decide
  have hlast (extra : List (String × String)) : lastUnder f.1 extra = none := by
    induction extra with
    | nil => rfl
    | cons h rest ih =>
      obtain ⟨name, value⟩ := h
      rw [lastUnder, ih, if_neg (hno name)]
      rfl
  rw [textUnder, htoken, hagent, hlast] at hsome
  exact hsome rfl

/-- Which header wins. Whatever the session, the configured names and the caller's own headers, the headers of
a request can be built just when all that goes into them can be sent. Then there is one value at most under
every name, the one that wins there, and under a name where a token stands it does not depend on the caller's
own headers. -/
theorem outboundHeaders_precedence (s : Session) (names : HeaderNames)
    (extra : List (String × String)) :
    ((∃ fields, s.outboundHeaders names extra = .ok fields) ↔ s.Composable names extra) ∧
    ∀ fields, s.outboundHeaders names extra = .ok fields →
      (fields.map (·.1)).Nodup ∧
      (∀ f ∈ fields, ∃ text, Name.parse? text = some f.1) ∧
      ∀ text n, Name.parse? text = some n →
        fields.get? n = (s.winner names extra text).map Utf8.encode ∧
        (s.Protects names text → ∀ extra' fields', s.outboundHeaders names extra' = .ok fields' →
          fields'.get? n = fields.get? n) := by
  have hget {extra : List (String × String)} {fields : Fields}
      (h : s.outboundHeaders names extra = .ok fields) {text : String} {n : Name}
      (hn : Name.parse? text = some n) :
      fields.get? n = (s.winner names extra text).map Utf8.encode := by
    rw [Fields.get?_eq_head?, values_outboundHeaders h, textUnder_eq_winner hn]
    cases s.winner names extra text <;> rfl
  refine ⟨(s.exists_outboundHeaders_iff names extra).trans sendable_iff_composable, ?_⟩
  intro fields h
  refine ⟨?_, fun f hf => exists_spelling h hf, fun text n hn => ⟨hget h hn, ?_⟩⟩
  · refine Fields.nodup_names fun n => ?_
    rw [values_outboundHeaders h]
    exact Option.length_toList_le
  · intro hp extra' fields' h'
    rw [hget h hn, hget h' hn, winner, winner, if_pos hp, if_pos hp]

end Session

end SessionRecovery
