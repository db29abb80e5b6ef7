import SessionRecovery.Proofs.Json.Decoders
import SessionRecovery.Proofs.Json.Records
import SessionRecovery.Recovery.Budget

/-!
# Error bodies read by name

The report of a failure is read off the members of its body by their names: in any order, with blanks anywhere,
in any spelling, and whatever else the body holds. A body that holds a name twice, or something other than a
text under one of them, is refused.
-/

namespace SessionRecovery.ApiError

open Json Json.Decoder

variable {ms : List (String × Tree)} {body : Bytes} {api : ApiError}

/-! ## Members -/

/-- The names of the members of a report. -/
def memberNames : List String := ["code", "message", "details"]

/-- What a report shows under the name of a member. -/
def shown (name : String) (e : ApiError) : String :=
  if name = "code" then e.code else if name = "message" then e.message else e.details

/-- Puts a text under the name of a member. -/
def put (name s : String) (e : ApiError) : ApiError :=
  if name = "code" then { e with code := s }
  else if name = "message" then { e with message := s }
  else { e with details := s }

theorem shown_put_self (name s : String) (e : ApiError) : shown name (put name s e) = s := by
  unfold shown put
  split
  · rfl
  · split <;> rfl

theorem shown_put_of_ne {name other : String} (hname : name ∈ memberNames)
    (hother : other ∈ memberNames) (h : other ≠ name) (s : String) (e : ApiError) :
    shown name (put other s e) = shown name e := by
  simp only [memberNames, List.mem_cons, List.not_mem_nil, or_false] at hname hother
  rcases hname with rfl | rfl | rfl
  · rcases hother with rfl | rfl | rfl
    · exact absurd rfl h
    · rfl
    · rfl
  · rcases hother with rfl | rfl | rfl
    · rfl
    · exact absurd rfl h
    · rfl
  · rcases hother with rfl | rfl | rfl
    · rfl
    · rfl
    · exact absurd rfl h

/-- A report is what it shows under its names. -/
theorem eq_of_shown {e e' : ApiError} (h : ∀ name ∈ memberNames, shown name e = shown name e') :
    e = e' := by
  obtain ⟨code, message, details⟩ := e
  obtain ⟨code', message', details'⟩ := e'
  have hcode : code = code' := h "code" (by decide)
  have hmessage : message = message' := h "message" (by decide)
  have hdetails : details = details' := h "details" (by decide)
  rw [hcode, hmessage, hdetails]

theorem shown_empty (name : String) : shown name empty = "" := by
  unfold shown
  split
  · rfl
  · split <;> rfl

/-- The fields that a report is read by. -/
def fields : List (Decoder.Field ApiError) :=
  [.text "code" fun s e => { e with code := s },
   .text "message" fun s e => { e with message := s },
   .text "details" fun s e => { e with details := s }]

/-- A report is read as the record of these fields, without any of them at first. -/
theorem decoder_eq : decoder = .record "ApiError" empty fields := rfl

/-- What a field of a report makes of a value. -/
def got (f : Decoder.Field ApiError) (t : Tree) : Option (ApiError → ApiError) := t.text?.map (put f.name)

theorem decodes_got (n : Nat) : ∀ f ∈ fields, ∀ t, Decodes f.update n t (got f t) := by
  intro f hf t
  simp only [fields, List.mem_cons, List.not_mem_nil, or_false] at hf
  rcases hf with rfl | rfl | rfl
  · exact Decodes.map (put "code") (Decodes.string n t)
  · exact Decodes.map (put "message") (Decodes.string n t)
  · exact Decodes.map (put "details") (Decodes.string n t)

/-- Every field has the name of a member, and none is required. -/
theorem of_mem_fields {f : Decoder.Field ApiError} (hf : f ∈ fields) :
    f.name ∈ memberNames ∧ f.required = false := by
  simp only [fields, List.mem_cons, List.not_mem_nil, or_false] at hf
  rcases hf with rfl | rfl | rfl <;> exact ⟨by decide, rfl⟩

/-- A field that takes a value shows its text under its own name. -/
theorem shown_got {f : Decoder.Field ApiError} {t : Tree} {g : ApiError → ApiError}
    (h : got f t = some g) (e : ApiError) : shown f.name (g e) = t.text?.getD "" := by
  obtain ⟨s, hs, rfl⟩ := Option.map_eq_some_iff.mp h
  rw [shown_put_self, hs, Option.getD_some]

/-- A field that takes a value changes nothing under another name. -/
theorem shown_got_of_ne {f : Decoder.Field ApiError} {t : Tree} {g : ApiError → ApiError} {name : String}
    (hname : name ∈ memberNames) (hf : f ∈ fields) (hne : f.name ≠ name) (h : got f t = some g)
    (e : ApiError) : shown name (g e) = shown name e := by
  obtain ⟨s, -, rfl⟩ := Option.map_eq_some_iff.mp h
  exact shown_put_of_ne hname (of_mem_fields hf).1 hne s e

theorem exists_field {name : String} (h : name ∈ memberNames) :
    ∃ f, fields.find? (·.name = name) = some f := by
  simp only [memberNames, List.mem_cons, List.not_mem_nil, or_false] at h
  rcases h with rfl | rfl | rfl <;> exact ⟨_, rfl⟩

/-! ## What members say -/

/-- Each name stands at most once, and in front of a text. -/
def Plain (ms : List (String × Tree)) : Prop :=
  ∀ name ∈ memberNames, (valuesOf name ms).length ≤ 1 ∧
    ∀ t ∈ valuesOf name ms, ∃ s, t = .text (some s)

/-- A text is said under a name by the only member of that name; if there is none, it is empty. -/
def Says (ms : List (String × Tree)) (name s : String) : Prop :=
  valuesOf name ms = [.text (some s)] ∨ valuesOf name ms = [] ∧ s = ""

/-- What is said under a name is one text. -/
theorem Says.unique {name s s' : String} (h : Says ms name s) (h' : Says ms name s') : s = s' := by
  obtain h | ⟨h, rfl⟩ := h <;> obtain h' | ⟨h', rfl⟩ := h'
  · cases h.symm.trans h'
    rfl
  · cases h.symm.trans h'
  · cases h.symm.trans h'
  · rfl

/-- Something is said under every name just when each stands at most once, and in front of a text. -/
theorem plain_iff_exists_said : Plain ms ↔ ∀ name ∈ memberNames, ∃ s, Says ms name s := by
  refine forall₂_congr fun name _ => ⟨?_, ?_⟩
  · rintro ⟨hlength, htext⟩
    match hvalues : valuesOf name ms with
    | [] => exact ⟨"", .inr ⟨hvalues, rfl⟩⟩
    | [t] =>
      obtain ⟨s, rfl⟩ := htext t (hvalues ▸ List.mem_singleton_self t)
      exact ⟨s, .inl hvalues⟩
    | t :: u :: ts =>
      rw [hvalues] at hlength
      exact absurd hlength (by simp)
  · rintro ⟨s, h | ⟨h, -⟩⟩
    · rw [h]
      exact ⟨Nat.le_refl 1, fun t ht => ⟨s, List.mem_singleton.mp ht⟩⟩
    · rw [h]
      exact ⟨Nat.zero_le 1, List.forall_mem_nil _⟩

theorem isSome_text?_iff {t : Tree} : t.text?.isSome = true ↔ ∃ s, t = .text (some s) := by
  cases t with
  | text spelled => cases spelled <;> simp [Tree.text?]
  | null | bool _ | number _ | array _ | object _ => simp [Tree.text?]

/-- Members make a report just when each name stands at most once, and in front of a text. -/
theorem isSome_taken_iff_plain : (taken fields got [] empty ms).isSome = true ↔ Plain ms := by
  have hnone : ∀ f ∈ fields, f.required = true → f.name ∈ [] ∨ ∃ m ∈ ms, m.1 = f.name := by
    intro f hf hrequired
    rw [(of_mem_fields hf).2] at hrequired
    cases hrequired
  rw [isSome_taken_iff, and_iff_left hnone]
  constructor
  · intro h name hname
    obtain ⟨f, hf⟩ := exists_field hname
    obtain ⟨hlength, -, htaken⟩ := h name f hf
    refine ⟨hlength, fun t ht => isSome_text?_iff.mp ?_⟩
    have hsome := htaken t ht
    rwa [got, Option.isSome_map] at hsome
  · intro h name f hf
    have hname : f.name = name := by simpa using List.find?_some hf
    obtain ⟨hlength, htext⟩ := h name (hname ▸ (of_mem_fields (List.mem_of_find?_eq_some hf)).1)
    refine ⟨hlength, fun hseen => absurd hseen List.not_mem_nil, fun t ht => ?_⟩
    rw [got, Option.isSome_map]
    exact isSome_text?_iff.mpr (htext t ht)

/-- A report that members make shows under each name what they say. -/
theorem says_of_taken (h : taken fields got [] empty ms = some api) :
    ∀ name ∈ memberNames, Says ms name (shown name api) := by
  intro name hname
  have hplain : Plain ms := isSome_taken_iff_plain.mp (by rw [h]; rfl)
  obtain ⟨s, hsaid⟩ := plain_iff_exists_said.mp hplain name hname
  have hshown := get_taken (shown name) (fun t => t.text?.getD "")
    (fun f _ hf t g hg e => by rw [← hf, shown_got hg])
    (fun f hmem hf t g hg e => shown_got_of_ne hname hmem hf hg e) (exists_field hname) h
  have heq : shown name api = s := by
    rw [hshown, shown_empty]
    obtain hvalues | ⟨hvalues, rfl⟩ := hsaid <;> rw [hvalues] <;> rfl
  rwa [heq]

/-- Members make the report that shows under each name what they say. -/
theorem taken_eq_some_iff :
    taken fields got [] empty ms = some api ↔ ∀ name ∈ memberNames, Says ms name (shown name api) := by
  refine ⟨says_of_taken, fun h => ?_⟩
  have hplain : Plain ms := plain_iff_exists_said.mpr fun name hname => ⟨_, h name hname⟩
  obtain ⟨api', hapi⟩ := Option.isSome_iff_exists.mp (isSome_taken_iff_plain.mpr hplain)
  have heq : api' = api := eq_of_shown fun name hname =>
    (says_of_taken hapi name hname).unique (h name hname)
  rw [hapi, heq]

/-! ## Members in another order -/

/-- The members that a report is read from. -/
def own (ms : List (String × Tree)) : List (String × Tree) := ms.filter fun m => m.1 ∈ memberNames

theorem valuesOf_own {name : String} (h : name ∈ memberNames) :
    valuesOf name (own ms) = valuesOf name ms := by
  rw [valuesOf, valuesOf, own, List.filter_filter]
  congr 1
  refine List.filter_congr fun m _ => ?_
  by_cases hm : m.1 = name
  · simp [hm, h]
  · simp [hm]

/-- What members say depends neither on their order nor on those of other names. -/
theorem Says.of_perm {ms' : List (String × Tree)} {name s : String} (h : Says ms name s)
    (hname : name ∈ memberNames) (hperm : (own ms').Perm (own ms)) : Says ms' name s := by
  have hvalues : (valuesOf name (own ms')).Perm (valuesOf name (own ms)) :=
    (hperm.filter _).map _
  rw [valuesOf_own hname, valuesOf_own hname] at hvalues
  obtain h | ⟨h, rfl⟩ := h
  · rw [h, List.perm_singleton] at hvalues
    exact .inl hvalues
  · rw [h, List.perm_nil] at hvalues
    exact .inr ⟨hvalues, rfl⟩

theorem taken_of_perm {ms' : List (String × Tree)} (hperm : (own ms').Perm (own ms)) :
    taken fields got [] empty ms' = taken fields got [] empty ms := by
  refine Option.ext fun api => ?_
  rw [taken_eq_some_iff, taken_eq_some_iff]
  exact forall₂_congr fun name hname =>
    ⟨fun h => h.of_perm hname hperm.symm, fun h => h.of_perm hname hperm⟩

/-! ## Bodies -/

/-- The text of an object is not blank. -/
theorem allBlank_of_object {members : List (Option String × Tree)}
    (h : IsText (.object members) body) : body.allBlank = false := by
  obtain ⟨front, back, ⟨blanks, rfl, -⟩, hreads, -⟩ := h
  obtain ⟨inner, rfl, -⟩ := hreads.object_cases
  refine Bool.eq_false_iff.mpr fun hall => ?_
  have hbrace := List.all_eq_true.mp hall 0x7B
    (List.mem_append_right _ List.mem_cons_self)
  exact absurd hbrace (by decide)

/-- A body is read as what its members make. -/
theorem toOption_fromBody (h : IsText (.object (named ms)) body) :
    (fromBody body).toOption = taken fields got [] empty ms := by
  rw [fromBody, allBlank_of_object h, if_neg Bool.false_ne_true, decoder_eq]
  exact Decodes.read (Decodes.record "ApiError" empty (decodes_got 126) ms) h

theorem fromBody_eq_ok_iff (h : IsText (.object (named ms)) body) :
    fromBody body = .ok api ↔ taken fields got [] empty ms = some api := by
  rw [← toOption_fromBody h]
  cases fromBody body <;> simp [Except.toOption]

/-! ## Written reports -/

theorem field_reads (n : Nat) {name : String} (h : name ∈ memberNames) (s : String) :
    FieldReads fields n (name, .str s) (put name s) := by
  simp only [memberNames, List.mem_cons, List.not_mem_nil, or_false] at h
  rcases h with rfl | rfl | rfl
  · exact ⟨_, rfl, (ReadsBack.string n s).map (put "code")⟩
  · exact ⟨_, rfl, (ReadsBack.string n s).map (put "message")⟩
  · exact ⟨_, rfl, (ReadsBack.string n s).map (put "details")⟩

/-- A report is read back from its text. -/
theorem fromBody_render (e : ApiError) : fromBody (Utf8.encode e.toJson.render) = .ok e := by
  have hfilled : e.toJson.bytes.allBlank = false := by
    rw [toJson, bytes_obj_cons]
    rfl
  have hall : List.Forall₂ (FieldReads fields 126)
      [("code", .str e.code), ("message", .str e.message), ("details", .str e.details)]
      [put "code" e.code, put "message" e.message, put "details" e.details] :=
    .cons (field_reads 126 (by decide) e.code) (.cons (field_reads 126 (by decide) e.message)
      (.cons (field_reads 126 (by decide) e.details) .nil))
  have hnew : memberNames.Nodup := by decide
  rw [encode_render, fromBody, hfilled, if_neg Bool.false_ne_true, decoder_eq]
  refine (ReadsBack.record "ApiError" empty hall hnew fun f hf hrequired => ?_).read
  rw [(of_mem_fields hf).2] at hrequired
  cases hrequired

/-! ## Reading by name -/

/-- A reply that tells of a failure with a body. -/
def FailsWith (body : Bytes) (r : Response) : Prop :=
  ∃ d : Delivery, d.body = body ∧ leastFailure ≤ d.status ∧ Response.ofDelivery d = .ok r

/-- The report in a reply is the one in its body. -/
theorem FailsWith.exists_report {r : Response} (h : FailsWith body r) :
    ∃ api, fromBody body = .ok api ∧ r.failure = some api := by
  obtain ⟨d, rfl, hstatus, hr⟩ := h
  obtain ⟨-, api, hapi, rfl⟩ | ⟨hlt, -⟩ := Response.ofDelivery_eq_ok_iff.mp hr
  · exact ⟨api, hapi, rfl⟩
  · exact absurd hstatus (UInt16.not_le.mpr hlt)

/-- What is read of the body of a failure that holds given members. -/
structure ReadsByName (ms : List (String × Tree)) (body : Bytes) : Prop where
  /-- The body is read just when each name stands at most once, and in front of a text. -/
  read_iff : (∃ api, fromBody body = .ok api) ↔ Plain ms
  /-- What is read is what is said under each name. -/
  eq_ok_iff : ∀ api, fromBody body = .ok api ↔
    Says ms "code" api.code ∧ Says ms "message" api.message ∧ Says ms "details" api.details
  /-- Any other body is refused as no text of a report. -/
  refused : ¬ Plain ms →
    ∃ reason, (fromBody body).mapError Error.ofFault = .error (.serialization reason)
  /-- Members in another order, and others of other names, are read alike. -/
  arranged : ∀ {ms' body'}, IsText (.object (named ms')) body' → (own ms').Perm (own ms) →
    (fromBody body').toOption = (fromBody body).toOption
  /-- The code of a reply with this body is what is said under its name, and the action is that for the code. -/
  driven : ∀ {r}, FailsWith body r → Says ms "code" r.errorCode ∧
    ∀ codes session, Action.select codes session r = .forCode codes session r.errorCode
  /-- Another body that says the same under the name of the code asks for the same action. -/
  alike : ∀ {ms' body' r r'}, IsText (.object (named ms')) body' →
    valuesOf "code" ms' = valuesOf "code" ms → FailsWith body r → FailsWith body' r' →
    r'.errorCode = r.errorCode ∧
      ∀ codes session, Action.select codes session r' = Action.select codes session r

/-- A body is read when each name stands at most once, and in front of a text. -/
theorem exists_fromBody_iff_plain (h : IsText (.object (named ms)) body) :
    (∃ api, fromBody body = .ok api) ↔ Plain ms := by
  rw [← isSome_taken_iff_plain, Option.isSome_iff_exists]
  exact exists_congr fun api => fromBody_eq_ok_iff h

/-- What is read of a body is what is said under each name. -/
theorem fromBody_eq_ok_iff_said (h : IsText (.object (named ms)) body) : fromBody body = .ok api ↔
    Says ms "code" api.code ∧ Says ms "message" api.message ∧ Says ms "details" api.details := by
  rw [fromBody_eq_ok_iff h, taken_eq_some_iff]
  simp [memberNames, shown]

/-- A body in which a name stands twice, or not in front of a text, is no text of a report. -/
theorem serialization_of_not_plain (h : IsText (.object (named ms)) body) (hplain : ¬ Plain ms) :
    ∃ reason, (fromBody body).mapError Error.ofFault = .error (.serialization reason) := by
  cases hread : fromBody body with
  | ok api => exact absurd ((exists_fromBody_iff_plain h).mp ⟨api, hread⟩) hplain
  | error f => exact ⟨f.message, rfl⟩

/-- The code of a reply is what its body says under the name of the code, and its action is that for the
code. -/
theorem FailsWith.code_said {r : Response} (h : IsText (.object (named ms)) body)
    (hr : FailsWith body r) : Says ms "code" r.errorCode ∧
      ∀ codes session, Action.select codes session r = .forCode codes session r.errorCode := by
  obtain ⟨api, hapi, hfailure⟩ := hr.exists_report
  have hcode : r.errorCode = api.code := by rw [Response.errorCode, hfailure]
  rw [hcode]
  refine ⟨((fromBody_eq_ok_iff_said h).mp hapi).1, fun codes session => ?_⟩
  rw [Action.select, hfailure]

/-- Replies whose bodies say the same under the name of the code ask for the same action. -/
theorem FailsWith.alike {ms' : List (String × Tree)} {body' : Bytes} {r r' : Response}
    (h : IsText (.object (named ms)) body) (h' : IsText (.object (named ms')) body')
    (hcode : valuesOf "code" ms' = valuesOf "code" ms) (hr : FailsWith body r)
    (hr' : FailsWith body' r') : r'.errorCode = r.errorCode ∧
      ∀ codes session, Action.select codes session r' = Action.select codes session r := by
  obtain ⟨hsaid, haction⟩ := hr.code_said h
  obtain ⟨hsaid', haction'⟩ := hr'.code_said h'
  have hsame : Says ms "code" r'.errorCode := by
    rw [Says, ← hcode]
    exact hsaid'
  have heq : r'.errorCode = r.errorCode := hsame.unique hsaid
  exact ⟨heq, fun codes session => by rw [haction', haction, heq]⟩

/-- A body is read by the names of its members, whatever they are and however they are written. A report is
read back from its own text, and a blank body is the report that says nothing. -/
theorem fromBody_byName (h : IsText (.object (named ms)) body) :
    ReadsByName ms body ∧ (∀ e : ApiError, fromBody (Utf8.encode e.toJson.render) = .ok e) ∧
      ∀ blank : Bytes, (∀ b ∈ blank, b ∈ ([0x09, 0x0A, 0x0C, 0x0D, 0x20] : Bytes)) →
        fromBody blank = .ok empty := by
  refine ⟨?_, fromBody_render, fun blank hblank => ?_⟩
  · exact {
      read_iff := exists_fromBody_iff_plain h
      eq_ok_iff := fun api => fromBody_eq_ok_iff_said h
      refused := serialization_of_not_plain h
      arranged := fun h' hperm => by
        rw [toOption_fromBody h', toOption_fromBody h, taken_of_perm hperm]
      driven := FailsWith.code_said h
      alike := FailsWith.alike h }
  · rw [fromBody, Bytes.allBlank_iff.mpr hblank, if_pos rfl]

/-- A body with blanks, a member of another name whose items are a number too large and half a pair of
surrogates, and a pair as the code. -/
def pairBody : Bytes :=
  Utf8.encode " \x7b\"x\":[1e999,\"\\ud800\"],\"code\" :\"\\ud83d\\ude00\"\x7d"

/-- The members of that body. -/
def pairMembers : List (String × Tree) :=
  [("x", .array [.number [0x31, 0x65, 0x39, 0x39, 0x39], .text none]), ("code", .text (some "😀"))]

theorem isText_pairBody : IsText (.object (named pairMembers)) pairBody := by
  have hspelled : pairBody =
      [0x20, 0x7B, 0x22, 0x78, 0x22, 0x3A, 0x5B, 0x31, 0x65, 0x39, 0x39, 0x39, 0x2C,
       0x22, 0x5C, 0x75, 0x64, 0x38, 0x30, 0x30, 0x22, 0x5D, 0x2C,
       0x22, 0x63, 0x6F, 0x64, 0x65, 0x22, 0x20, 0x3A,
       0x22, 0x5C, 0x75, 0x64, 0x38, 0x33, 0x64, 0x5C, 0x75, 0x64, 0x65, 0x30, 0x30, 0x22, 0x7D] := by
    decide +kernel
  have hblank (bs : Bytes) : Gap (0x20 :: bs) bs :=
    ⟨[0x20], rfl, fun b hb => by rw [List.mem_singleton.mp hb]; rfl⟩
  have hx (front : Bytes) : Named (some "x") (0x22 :: 0x78 :: 0x22 :: 0x3A :: front) front :=
    ⟨some ['x'], _, _, _, rfl, .refl _, .plain (by decide) (by decide) (by decide) .close, .refl _,
      .refl _⟩
  have hnumber : IsNumber [0x31, 0x65, 0x39, 0x39, 0x39] :=
    .parts (.inl rfl) (.digits rfl (by decide) (List.forall_mem_nil _)) .absent
      (.present (.inl rfl) (.inl rfl) ⟨List.cons_ne_nil _ _, List.all_eq_true.mp rfl⟩)
  have hhalf (rest : Bytes) :
      Quoted rest none (0x5C :: 0x75 :: 0x64 :: 0x38 :: 0x30 :: 0x30 :: 0x22 :: rest) :=
    .loneHigh rfl ⟨by decide, by decide⟩ (by rintro ⟨_, _, _, _, _, _, h, -⟩; cases h) .close
  have hcode (front : Bytes) : Named (some "code")
      (0x22 :: 0x63 :: 0x6F :: 0x64 :: 0x65 :: 0x22 :: 0x20 :: 0x3A :: front) front :=
    ⟨some ['c', 'o', 'd', 'e'], _, _, _, rfl, .refl _,
      .plain (by decide) (by decide) (by decide) (.plain (by decide) (by decide) (by decide)
        (.plain (by decide) (by decide) (by decide) (.plain (by decide) (by decide) (by decide)
          .close))), hblank _, .refl _⟩
  have hpair (rest : Bytes) : Quoted rest (some ['😀']) (0x5C :: 0x75 :: 0x64 :: 0x38 :: 0x33 :: 0x64 ::
      0x5C :: 0x75 :: 0x64 :: 0x65 :: 0x30 :: 0x30 :: 0x22 :: rest) := by
    have hhigh : fourHex? 0x64 0x38 0x33 0x64 = some 0xD83D := by decide
    have hlow : fourHex? 0x64 0x65 0x30 0x30 = some 0xDE00 := by decide
    have hchar : Char.ofNat (paired 0xD83D 0xDE00) = '😀' := by decide +kernel
    rw [← hchar]
    exact .pair hhigh ⟨by decide, by decide⟩ hlow ⟨by decide, by decide⟩ .close
  rw [hspelled]
  refine ⟨_, [], hblank _, .object (.member (hx _) (.array ?_) (.refl _)
    (.lastMember (hcode _) (.text (hpair _)) (.refl _))), .refl _⟩
  exact .item (.refl _) (.number hnumber) (.refl _) (.lastItem (.refl _) (.text (hhalf _)) (.refl _))

theorem fromBody_byName_pair : IsText (.object (named pairMembers)) pairBody ∧
    fromBody pairBody = .ok ⟨"😀", "", ""⟩ := by
  have hread := (fromBody_byName isText_pairBody).1
  refine ⟨isText_pairBody, (hread.eq_ok_iff _).mpr ⟨?_, ?_, ?_⟩⟩
  · exact .inl rfl
  · exact .inr ⟨rfl, rfl⟩
  · exact .inr ⟨rfl, rfl⟩

end SessionRecovery.ApiError
