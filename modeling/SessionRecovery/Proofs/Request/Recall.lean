import SessionRecovery.Client.World
import SessionRecovery.Proofs.Json.Decoders

/-!
# Requests kept as text

A description that is stored as text and read again describes the same call: what is read differs from what
was stored at most in that a payload of null is none, and no session tells the two apart.
-/

namespace SessionRecovery

open Json

/-- Every word is read as its method. -/
theorem Method.meaning_text (m : Method) : Decoder.meaning Method.words m.text = .ok m := by
  cases m <;> rfl

/-- A value that is there only if it is not null. -/
def NormalJson.unlessNull (p : NormalJson) : Option NormalJson :=
  match p.value with
  | .null => none
  | _ => some p

theorem NormalJson.unlessNull_of_null {p : NormalJson} (h : p.value = .null) :
    p.unlessNull = none := by
  rw [unlessNull, h]

theorem NormalJson.unlessNull_of_ne {p : NormalJson} (h : p.value ≠ .null) :
    p.unlessNull = some p := by
  rw [unlessNull]
  split
  · contradiction
  · rfl

namespace Request

/-- The description as its text gives it back. -/
def recalled (r : Request) : Request := { r with payload := r.payload.bind NormalJson.unlessNull }

/-! ## The members of a description -/

theorem method_reads (n : Nat) (m : Method) :
    FieldReads fields n ("method", .str m.text) fun r => { r with method := m } := by
  refine ⟨_, rfl, ?_⟩
  dsimp only
  exact (ReadsBack.oneOf n m.meaning_text).map _

theorem path_reads (n : Nat) (s : String) :
    FieldReads fields n ("path", .str s) fun r => { r with path := s } := by
  refine ⟨_, rfl, ?_⟩
  dsimp only
  exact (ReadsBack.string n s).map _

theorem payload_reads {n : Nat} {p : NormalJson} (hexact : p.value.isExact = true)
    (hdepth : p.value.depth ≤ n) :
    FieldReads fields n ("payload", p.value) fun r => { r with payload := p.unlessNull } := by
  refine ⟨_, rfl, ?_⟩
  dsimp only
  by_cases hnull : p.value = .null
  · rw [hnull, NormalJson.unlessNull_of_null hnull]
    exact (ReadsBack.optional_null Decoder.any n).map _
  · obtain ⟨b, bs, hbytes, -, -, hfirst⟩ := bytes_begins hexact
    have hhead : p.value.bytes.head? ≠ some 0x6E := by
      rw [hbytes]
      exact fun hb => hnull (hfirst (Option.some.inj hb))
    rw [NormalJson.unlessNull_of_ne hnull]
    exact ((ReadsBack.any hexact hdepth).optional hhead).map _

theorem headers_reads (n : Nat) (hs : List (String × String)) :
    FieldReads fields (n + 2) ("headers", .arr (hs.map headerJson))
      fun r => { r with headers := hs } := by
  have hpairs : List.Forall₂
      (fun j h => ReadsBack ((Decoder.string.pair Decoder.string).fromText (n + 1)) h j.bytes)
      (hs.map headerJson) hs := by
    rw [List.forall₂_map_left_iff, List.forall₂_same]
    exact fun h _ => (ReadsBack.string n h.1).pair (ReadsBack.string n h.2)
  refine ⟨_, rfl, ?_⟩
  dsimp only
  exact (ReadsBack.list hpairs).map _

/-- A description is read back from its method, its path and what else is written of it. -/
theorem decoder_reads (m : Method) (path : String) {ms : List (String × Json)}
    {gs : List (Request → Request)} (h : List.Forall₂ (FieldReads fields 126) ms gs)
    (hnames : (ms.map (·.1)).Sublist ["payload", "headers"]) :
    decoder.read (Json.obj (("method", .str m.text) :: ("path", .str path) :: ms)).bytes =
      .ok (gs.foldl (fun r g => g r) (new m path)) := by
  have hall : List.Forall₂ (FieldReads fields 126)
      (("method", .str m.text) :: ("path", .str path) :: ms) _ :=
    .cons (method_reads 126 m) (.cons (path_reads 126 path) h)
  have hnew : ("method" :: "path" :: ms.map (·.1)).Nodup :=
    ((hnames.cons_cons "path").cons_cons "method").nodup (by decide)
  refine (ReadsBack.record "RequestDescriptor" (new .get "") hall hnew fun f hf hrequired => ?_).read
  simp only [fields, List.mem_cons, List.not_mem_nil, or_false] at hf
  rcases hf with rfl | rfl | rfl | rfl
  · exact List.mem_cons_self
  · exact List.mem_cons_of_mem _ List.mem_cons_self
  · cases hrequired
  · cases hrequired

/-- The description is read back from its text. -/
theorem parse_render (r : Request)
    (h : ∀ p ∈ r.payload, p.value.isExact = true ∧ p.value.depth ≤ 126) :
    parse (Utf8.encode r.render) = .ok r.recalled := by
  rw [render, encode_render, parse, toJson]
  obtain ⟨method, path, payload, headers⟩ := r
  have hheaders := headers_reads 124 headers
  -- what is written after the path: nothing, the headers, the payload, or both
  cases payload with
  | none =>
    cases headers with
    | nil => exact decoder_reads method path .nil (List.nil_sublist _)
    | cons => exact decoder_reads method path (.cons hheaders .nil) (.cons _ (.refl _))
  | some p =>
    obtain ⟨hexact, hdepth⟩ := h p rfl
    have hpayload := payload_reads hexact hdepth
    cases headers with
    | nil =>
      exact decoder_reads method path (.cons hpayload .nil) (.cons_cons _ (List.nil_sublist _))
    | cons => exact decoder_reads method path (.cons hpayload (.cons hheaders .nil)) (.refl _)

/-! ## The same call -/

theorem recalled_of_null {r : Request} {p : NormalJson} (hp : r.payload = some p)
    (hnull : p.value = .null) : r.recalled = { r with payload := none } := by
  rw [recalled, hp, Option.bind_some, NormalJson.unlessNull_of_null hnull]

theorem recalled_of_ne {r : Request} (h : ∀ p ∈ r.payload, p.value ≠ .null) : r.recalled = r := by
  obtain ⟨method, path, payload, headers⟩ := r
  cases payload with
  | none => rfl
  | some p => rw [recalled, Option.bind_some, NormalJson.unlessNull_of_ne (h p rfl)]

/-- A null payload makes the query, the body and the errors of none. -/
theorem outbound_withoutNull {r : Request} {p : NormalJson} (hp : r.payload = some p)
    (hnull : p.value = .null) (s : Session) (names : HeaderNames) :
    s.outbound names { r with payload := none } = s.outbound names r := by
  have hquery : query { r with payload := none } = r.query := by
    rw [query, query, hp]
    dsimp only
    rw [hnull]
    cases r.method <;> rfl
  have hbody : body { r with payload := none } = r.body := by
    rw [body, body, hp]
    dsimp only
    rw [hnull]
  rw [Session.outbound, Session.outbound, hquery, hbody]

/-- A request kept as text replays the same call. If its payload is exact and nests no deeper than a text
around it allows, the text can be read; what is read is the request, but that a null payload is none; and
every session sends it as it sends the request, or fails to for the same reason. -/
theorem stored_replays (r : Request)
    (h : ∀ p ∈ r.payload, p.value.isExact = true ∧ p.value.depth ≤ 126) :
    ∃ again, parse (Utf8.encode r.render) = .ok again ∧
      ((∀ p ∈ r.payload, p.value ≠ .null) → again = r) ∧
      (∀ p ∈ r.payload, p.value = .null → again = { r with payload := none }) ∧
      ∀ (s : Session) (names : HeaderNames), s.outbound names again = s.outbound names r := by
  refine ⟨r.recalled, parse_render r h, recalled_of_ne, fun p hp => recalled_of_null hp,
    fun s names => ?_⟩
  by_cases hnull : ∃ p ∈ r.payload, p.value = .null
  · obtain ⟨p, hp, hnull⟩ := hnull
    rw [recalled_of_null hp hnull, outbound_withoutNull hp hnull]
  · rw [recalled_of_ne fun p hp hvalue => hnull ⟨p, hp, hvalue⟩]

/-- A call with a header, and a payload with a list of its own, text that has to be escaped, and null. -/
def order : Request :=
  ((new .put "/orders/7").withPayload
    (.obj [("note", .str "na\u00efve\n"), ("lines", .arr [.ofNat 7, .null])])).withHeader
      "X-Trace" "\"1\""

theorem stored_replays_order :
    (∀ p ∈ order.payload, p.value.isExact = true ∧ p.value.depth ≤ 126) ∧
      ∃ again, parse (Utf8.encode order.render) = .ok again ∧ again = order ∧
        ∀ (s : Session) (names : HeaderNames), s.outbound names again = s.outbound names order := by
  have hstorable : ∀ p ∈ order.payload, p.value.isExact = true ∧ p.value.depth ≤ 126 := by
    rintro p ⟨⟩
    decide +kernel
  have hnull : ∀ p ∈ order.payload, p.value ≠ .null := by
    rintro p ⟨⟩
    exact nofun
  obtain ⟨again, hparse, hsame, -, hout⟩ := stored_replays order hstorable
  exact ⟨hstorable, again, hparse, hsame hnull, hout⟩

end Request

end SessionRecovery
