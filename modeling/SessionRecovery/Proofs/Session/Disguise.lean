import SessionRecovery.Proofs.Session.Alike

/-!
# Tokens in disguise

A disguise replaces tokens by other ones, one for one and each by one of its length. A session that takes
over the tokens of a disguised reply is the disguised session, and neither whether a token changed nor
anything that a session shows of its tokens tells the disguise.
-/

namespace SessionRecovery

open Header

/-- A text of visible ASCII, in which a space counts as visible. -/
def Visible (t : String) : Prop := ∀ ch ∈ t.toList, 0x20 ≤ ch.toNat ∧ ch.toNat ≤ 0x7E

instance (t : String) : Decidable (Visible t) :=
  List.decidableBAll (fun ch : Char => 0x20 ≤ ch.toNat ∧ ch.toNat ≤ 0x7E) t.toList

/-- The bytes of a visible text are its code points. -/
theorem Visible.encode_eq {t : String} (h : Visible t) :
    Utf8.encode t = t.toList.map fun ch => UInt8.ofNat ch.toNat := by
  have hone {ch : Char} (hch : ch ∈ t.toList) :
      String.utf8EncodeChar ch = [UInt8.ofNat ch.toNat] :=
    Utf8.utf8EncodeChar_ascii (Nat.lt_of_le_of_lt (h ch hch).2 (by decide))
  rw [Utf8.encode, Utf8.encodeChars, List.map_eq_flatMap]
  exact List.flatMap_congr fun ch hch => hone hch

theorem Visible.size_eq {t : String} (h : Visible t) : Utf8.size t = t.length := by
  rw [Utf8.size, h.encode_eq, List.length_map, String.length_toList]

/-- A visible text is read from the value that sends it. -/
theorem Visible.text?_encode {t : String} (h : Visible t) : text? (Utf8.encode t) = some t := by
  have hbyte {ch : Char} (hch : ch ∈ t.toList) : (UInt8.ofNat ch.toNat).toNat = ch.toNat :=
    Utf8.toNat_ofNat (Nat.lt_of_le_of_lt (h ch hch).2 (by decide))
  have hread : (Utf8.encode t).all isTextByte = true := by
    rw [h.encode_eq, List.all_map, List.all_eq_true]
    intro ch hch
    have hrange := h ch hch
    have hb := hbyte hch
    simp only [Function.comp, isTextByte, Bool.or_eq_true, Bool.and_eq_true, decide_eq_true_eq,
      beq_iff_eq, UInt8.le_iff_toNat_le, UInt8.lt_iff_toNat_lt, hb]
    left
    simp only [UInt8.reduceToNat]
    omega
  have hback : (Utf8.encode t).map (fun b => Char.ofNat b.toNat) = t.toList := by
    rw [h.encode_eq, List.map_map]
    refine (List.map_congr_left fun ch hch => ?_).trans (List.map_id _)
    simp only [Function.comp, hbyte hch, Char.ofNat_toNat, id]
  rw [text?, if_pos hread, hback, String.ofList_toList]

theorem Visible.writable {t : String} (h : Visible t) : Writable t :=
  (encode_of_text? h.text?_encode).2

/-- A one-to-one map of the visible texts that keeps their lengths. -/
structure Disguise where
  /-- The map. -/
  map : {t : String // Visible t} → {t : String // Visible t}
  /-- Different texts stay different. -/
  injective : Function.Injective map
  /-- Every text keeps its length. -/
  length_eq : ∀ t, (map t).1.length = t.1.length

/-- The names under which replies bring tokens. -/
def HeaderNames.tokens (names : HeaderNames) : List Name :=
  [names.accessToken, names.refreshToken, names.csrfToken].filterMap Name.parse?

namespace Disguise

variable (f : Disguise) {names : HeaderNames} {s t : String} {hs : Fields}

/-- A token in disguise; a text that is not visible has none. -/
def text (t : String) : String := if h : Visible t then (f.map ⟨t, h⟩).1 else t

/-- The value of a header in disguise. -/
def value (v : Bytes) : Bytes :=
  match text? v with
  | some t => Utf8.encode (f.text t)
  | none => v

/-- The headers of a reply, with every token in disguise. -/
def fields (names : HeaderNames) (hs : Fields) : Fields :=
  hs.map fun h => if h.1 ∈ names.tokens then (h.1, f.value h.2) else h

/-- A session with its tokens in disguise. -/
def session (s : Session) : Session :=
  { s with access := f.text s.access, refresh := f.text s.refresh, csrf := f.text s.csrf }

/-! ## Texts and values -/

theorem text_of_visible (h : Visible t) : f.text t = (f.map ⟨t, h⟩).1 := dif_pos h

theorem text_of_not_visible (h : ¬ Visible t) : f.text t = t := dif_neg h

theorem visible_text_iff : Visible (f.text t) ↔ Visible t := by
  by_cases h : Visible t
  · rw [f.text_of_visible h]
    exact iff_of_true (f.map ⟨t, h⟩).2 h
  · rw [f.text_of_not_visible h]

theorem text_inj : f.text s = f.text t ↔ s = t := by
  refine ⟨fun h => ?_, congrArg f.text⟩
  have hvisible : Visible s ↔ Visible t := by
    rw [← f.visible_text_iff, h, f.visible_text_iff]
  by_cases hs : Visible s
  · rw [f.text_of_visible hs, f.text_of_visible (hvisible.mp hs)] at h
    exact congrArg Subtype.val (f.injective (Subtype.ext h))
  · rwa [f.text_of_not_visible hs, f.text_of_not_visible (mt hvisible.mpr hs)] at h

/-- Neither the length of a token nor whether it can be sent tells the disguise. -/
theorem alike_text (t : String) : Header.Alike t (f.text t) := by
  by_cases h : Visible t
  · have hf : Visible (f.text t) := f.visible_text_iff.mpr h
    refine ⟨?_, iff_of_true hf.writable h.writable⟩
    rw [hf.size_eq, h.size_eq, f.text_of_visible h, f.length_eq]
  · rw [f.text_of_not_visible h]
    exact ⟨rfl, Iff.rfl⟩

theorem text_eq_empty_iff : f.text t = "" ↔ t = "" := (f.alike_text t).eq_empty_iff

@[simp] theorem text_empty : f.text "" = "" := f.text_eq_empty_iff.mpr rfl

/-- Whether there is a token does not tell the disguise. -/
theorem filter_map_text (t : Option String) :
    (t.map f.text).filter (· ≠ "") = (t.filter (· ≠ "")).map f.text := by
  have hkept : ((fun t => decide (t ≠ "")) ∘ f.text) = fun t => decide (t ≠ "") := by
    funext t
    simp only [Function.comp, ne_eq, f.text_eq_empty_iff]
  rw [Option.filter_map, hkept]

/-- A value in disguise is read as the text in disguise. -/
theorem text?_value (v : Bytes) : text? (f.value v) = (text? v).map f.text := by
  rw [value]
  cases hv : text? v with
  | none => exact hv
  | some t =>
    dsimp only
    by_cases ht : Visible t
    · exact (f.visible_text_iff.mpr ht).text?_encode
    · rw [f.text_of_not_visible ht, (encode_of_text? hv).1, hv, Option.map_some,
        f.text_of_not_visible ht]

/-! ## Headers -/

theorem get?_fields (n : Name) : (f.fields names hs).get? n =
    (hs.get? n).map fun v => if n ∈ names.tokens then f.value v else v := by
  have hnames : ((fun h : Name × Bytes => decide (h.1 = n)) ∘ fun h : Name × Bytes =>
      if h.1 ∈ names.tokens then (h.1, f.value h.2) else h) = fun h => decide (h.1 = n) := by
    funext h
    simp only [Function.comp]
    split <;> rfl
  rw [Fields.get?, Fields.get?, Disguise.fields, List.find?_map, hnames, Option.map_map,
    Option.map_map]
  cases hfind : hs.find? fun h => decide (h.1 = n) with
  | none => rfl
  | some h =>
    have hn : h.1 = n := by
      have hfound := List.find?_some hfind
      exact of_decide_eq_true hfound
    simp only [Option.map_some, Function.comp, hn]
    split <;> rfl

/-- Under the name of a token a disguised reply carries the text in disguise. -/
theorem nonEmptyText?_fields {name : String} {n : Name} (hn : Name.parse? name = some n)
    (ht : n ∈ names.tokens) :
    (f.fields names hs).nonEmptyText? name = (hs.nonEmptyText? name).map f.text := by
  have htext : (f.fields names hs).text? name = (hs.text? name).map f.text := by
    rw [Fields.text?, Fields.text?, hn, Option.bind_some, Option.bind_some, get?_fields]
    cases hs.get? n with
    | none => rfl
    | some v => simp only [Option.map_some, if_pos ht, Option.bind_some, text?_value]
  rw [Fields.nonEmptyText?, Fields.nonEmptyText?, htext, f.filter_map_text]

/-- Under any other name it carries what the reply does. -/
theorem nonEmptyText?_fields_of_notMem {name : String}
    (h : ∀ n, Name.parse? name = some n → n ∉ names.tokens) :
    (f.fields names hs).nonEmptyText? name = hs.nonEmptyText? name := by
  rw [Fields.nonEmptyText?, Fields.nonEmptyText?, Fields.text?, Fields.text?]
  cases hn : Name.parse? name with
  | none => rfl
  | some n =>
    rw [Option.bind_some, Option.bind_some, get?_fields]
    simp only [if_neg (h n hn), Option.map_id']

/-- Whether a header carries a text does not tell the disguise. -/
theorem isSome_nonEmptyText?_fields (name : String) :
    ((f.fields names hs).nonEmptyText? name).isSome = (hs.nonEmptyText? name).isSome := by
  by_cases h : ∃ n, Name.parse? name = some n ∧ n ∈ names.tokens
  · obtain ⟨n, hn, ht⟩ := h
    rw [f.nonEmptyText?_fields hn ht, Option.isSome_map]
  · rw [f.nonEmptyText?_fields_of_notMem fun n hn ht => h ⟨n, hn, ht⟩]

theorem nonEmptyText?_token {name : String}
    (h : name ∈ [names.accessToken, names.refreshToken, names.csrfToken]) :
    (f.fields names hs).nonEmptyText? name = (hs.nonEmptyText? name).map f.text := by
  cases hn : Name.parse? name with
  | none => rw [Fields.nonEmptyText?, Fields.nonEmptyText?, Fields.text?, Fields.text?, hn]; rfl
  | some n => exact f.nonEmptyText?_fields hn (List.mem_filterMap.mpr ⟨name, h, hn⟩)

/-! ## Sessions -/

theorem session_inj {s u : Session} : f.session s = f.session u ↔ s = u := by
  refine ⟨fun h => ?_, congrArg f.session⟩
  obtain ⟨baseUrl, userAgent, access, refresh, csrf⟩ := s
  obtain ⟨baseUrl', userAgent', access', refresh', csrf'⟩ := u
  simp only [session, Session.mk.injEq, text_inj] at h ⊢
  exact h

/-- Nothing that a session shows of its tokens tells the disguise. -/
theorem alike_session (s : Session) : s.Alike (f.session s) :=
  ⟨rfl, rfl, f.alike_text _, f.alike_text _, f.alike_text _⟩

/-- A disguised session takes over the tokens of a disguised reply in disguise. -/
theorem capture_session (names : HeaderNames) (hs : Fields) (s : Session) :
    (f.session s).capture names (f.fields names hs) = f.session (s.capture names hs) := by
  rw [Session.capture, f.nonEmptyText?_token (by simp), f.nonEmptyText?_token (by simp),
    f.nonEmptyText?_token (by simp), session, session, Option.getD_map, Option.getD_map,
    Option.getD_map]
  rfl

/-- Whether a reply changes a token does not tell the disguise. -/
theorem captureChanges_session (names : HeaderNames) (hs : Fields) (s : Session) :
    (f.session s).captureChanges names (f.fields names hs) = s.captureChanges names hs := by
  rw [Bool.eq_iff_iff, Session.captureChanges_iff, Session.captureChanges_iff, capture_session, ne_eq,
    session_inj]

theorem clearTokens_session (s : Session) :
    (f.session s).clearTokens = f.session s.clearTokens := by
  simp only [session, Session.clearTokens, text_empty]

end Disguise

end SessionRecovery
