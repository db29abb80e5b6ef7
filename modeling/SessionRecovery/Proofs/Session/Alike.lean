import Mathlib.Data.List.Forall2
import SessionRecovery.Client.World
import SessionRecovery.Recovery.Budget
import SessionRecovery.Proofs.Run
import SessionRecovery.Proofs.Session.Headers

/-!
# What a session shows of its tokens

Whether a request can be built, and under which names it carries something, depends on a token only through
whether it is empty and whether it can be sent. Sessions whose tokens agree in this build requests that
differ in nothing but the values of headers, or fail to build them for the same reason.
-/

namespace SessionRecovery

namespace Header

/-- Two texts are equally long, and both can be sent or neither. -/
structure Alike (t u : String) : Prop where
  /-- The lengths, in bytes. -/
  size : Utf8.size u = Utf8.size t
  /-- Whether they can be sent. -/
  writable : Writable u ↔ Writable t

theorem size_eq_zero_iff {t : String} : Utf8.size t = 0 ↔ t = "" := by
  rw [Utf8.size, Utf8.encode, Utf8.encodeChars, List.length_eq_zero_iff, List.flatMap_eq_nil_iff]
  constructor
  · intro h
    have hnone : t.toList = [] :=
      List.eq_nil_iff_forall_not_mem.mpr fun ch hch => String.utf8EncodeChar_ne_nil (h ch hch)
    rwa [← String.toList_empty, String.toList_inj] at hnone
  · rintro rfl
    simp

theorem Alike.eq_empty_iff {t u : String} (h : Alike t u) : u = "" ↔ t = "" := by
  rw [← size_eq_zero_iff, h.size, size_eq_zero_iff]

/-- Fields under the same names in the same order. -/
def SameNames (fields others : Fields) : Prop := others.map (·.1) = fields.map (·.1)

theorem SameNames.set {fields others : Fields} (h : SameNames fields others) (n : Name)
    (v w : Bytes) : SameNames (fields.set n v) (others.set n w) := by
  have hfilter (fs : Fields) :
      (fs.filter (·.1 ≠ n)).map (·.1) = (fs.map (·.1)).filter (· ≠ n) := by
    rw [List.filter_map]
    rfl
  rw [SameNames, Fields.set, Fields.set, List.map_append, List.map_append, hfilter, hfilter, h]
  rfl

/-- The caller's own headers, one by one: the same names, with values that can be sent or cannot. -/
def ExtraAlike (extra others : List (String × String)) : Prop :=
  List.Forall₂ (fun h k => k.1 = h.1 ∧ (Writable k.2 ↔ Writable h.2)) extra others

theorem ExtraAlike.refl (extra : List (String × String)) : ExtraAlike extra extra :=
  List.forall₂_same.mpr fun _ _ => ⟨rfl, Iff.rfl⟩

end Header

open Header

namespace Session

/-- Two sessions differ at most in the values of their tokens, which are alike. -/
structure Alike (s u : Session) : Prop where
  /-- The addresses. -/
  baseUrl : u.baseUrl = s.baseUrl
  /-- What the clients call themselves. -/
  userAgent : u.userAgent = s.userAgent
  /-- The access tokens. -/
  access : Header.Alike s.access u.access
  /-- The refresh tokens. -/
  refresh : Header.Alike s.refresh u.refresh
  /-- The anti-forgery tokens. -/
  csrf : Header.Alike s.csrf u.csrf

variable {s u : Session} {fields others : Fields}

theorem Alike.refl (s : Session) : s.Alike s :=
  ⟨rfl, rfl, ⟨rfl, Iff.rfl⟩, ⟨rfl, Iff.rfl⟩, ⟨rfl, Iff.rfl⟩⟩

theorem Alike.hasAccess (h : s.Alike u) : u.hasAccess = s.hasAccess := by
  have hempty := h.access.eq_empty_iff
  rw [Session.hasAccess, Session.hasAccess, Bool.eq_iff_iff, bne_iff_ne, bne_iff_ne, ne_eq, hempty]

theorem Alike.hasRefresh (h : s.Alike u) : u.hasRefresh = s.hasRefresh := by
  have hempty := h.refresh.eq_empty_iff
  rw [Session.hasRefresh, Session.hasRefresh, Bool.eq_iff_iff, bne_iff_ne, bne_iff_ne, ne_eq, hempty]

/-- The same failure asks for the same action. -/
theorem Alike.select (h : s.Alike u) (codes : ErrorCodes) {x y : Response}
    (hf : y.failure = x.failure) : Action.select codes u y = Action.select codes s x := by
  rw [Action.select, Action.select, hf]
  cases x.failure with
  | none => rfl
  | some api => simp only [Action.forCode, h.hasAccess, h.hasRefresh]

/-- Two texts that both can be sent are sent, and otherwise neither is. -/
theorem headerValue_alike {t v : String} (h : Writable v ↔ Writable t) :
    Agree (fun a b => a = Utf8.encode t ∧ b = Utf8.encode v) (headerValue t) (headerValue v) := by
  have hrefused {x : String} (hx : ¬ Writable x) : headerValue x = .error .value := by
    rw [headerValue]
    cases hv : value? x with
    | none => rfl
    | some b => exact absurd (value?_eq_some_iff.mp hv).1 hx
  by_cases ht : Writable t
  · rw [headerValue_eq_ok_iff.mpr ⟨rfl, ht⟩, headerValue_eq_ok_iff.mpr ⟨rfl, h.mpr ht⟩]
    exact .ok ⟨rfl, rfl⟩
  · rw [hrefused ht, hrefused (mt h.mp ht)]
    exact .error _

theorem putToken_alike (name : String) {t v : String} (hf : SameNames fields others)
    (h : Header.Alike t v) : Agree SameNames (putToken fields name t) (putToken others name v) := by
  rw [putToken, putToken]
  by_cases ht : t = ""
  · rw [if_pos ht, if_pos (h.eq_empty_iff.mpr ht)]
    exact .ok hf
  · rw [if_neg ht, if_neg (mt h.eq_empty_iff.mp ht)]
    refine .bind (.of_eq rfl) fun n m hn => ?_
    subst hn
    exact .bind (headerValue_alike h.writable) fun _ _ _ => .ok (hf.set _ _ _)

theorem tokenHeaders_alike (names : HeaderNames) (h : s.Alike u) :
    Agree SameNames (s.tokenHeaders names) (u.tokenHeaders names) :=
  .bind (putToken_alike _ rfl h.access) fun _ _ hf => putToken_alike _ hf h.csrf

theorem putUserAgent_alike (agent : Option String) (hf : SameNames fields others) :
    Agree SameNames (putUserAgent fields agent) (putUserAgent others agent) := by
  cases agent with
  | none => exact .ok hf
  | some a =>
    rw [putUserAgent, putUserAgent]
    cases headerValue a with
    | error e => exact .error e
    | ok v => exact .ok (hf.set _ _ _)

/-- The caller's own headers keep fields related when each of them does. -/
theorem putExtra_couples {F : Fields → Fields → Prop} {E : String × String → String × String → Prop}
    (hE : ∀ {h k}, E h k → k.1 = h.1 ∧ (Writable k.2 ↔ Writable h.2))
    (hset : ∀ {h k n fields others}, E h k → Name.parse? h.1 = some n → F fields others →
      F (fields.set n (Utf8.encode h.2)) (others.set n (Utf8.encode k.2)))
    (guarded : List Name) {extra others' : List (String × String)}
    (hx : List.Forall₂ E extra others') (hf : F fields others) :
    Agree F (putExtra guarded fields extra) (putExtra guarded others others') := by
  induction hx generalizing fields others with
  | nil => exact .ok hf
  | @cons h k extra others' hhk _ ih =>
    obtain ⟨name, value⟩ := h
    obtain ⟨name', value'⟩ := k
    obtain ⟨hname, hvalue⟩ := hE hhk
    have hname : name' = name := hname
    subst hname
    rw [putExtra, putExtra]
    refine .bind (Agree.attach (.of_eq rfl)) fun n m hn => ?_
    obtain ⟨hn, -, rfl⟩ := hn
    have hparsed : Name.parse? name' = some m := headerName_eq_ok_iff.mp hn
    split
    · exact ih hf
    · refine .bind (headerValue_alike hvalue) fun v w hvw => ?_
      obtain ⟨rfl, rfl⟩ := hvw
      have hput := hset hhk hparsed hf
      exact ih hput

theorem putExtra_alike (guarded : List Name) {extra others' : List (String × String)}
    (hx : ExtraAlike extra others') (hf : SameNames fields others) :
    Agree SameNames (putExtra guarded fields extra) (putExtra guarded others others') :=
  putExtra_couples id (fun _ _ hf => hf.set _ _ _) guarded hx hf

theorem outboundHeaders_alike (names : HeaderNames) (h : s.Alike u)
    {extra others : List (String × String)} (hx : ExtraAlike extra others) :
    Agree SameNames (s.outboundHeaders names extra) (u.outboundHeaders names others) := by
  refine .bind (tokenHeaders_alike names h) fun tokens tokens' ht => ?_
  rw [h.userAgent]
  refine .bind (putUserAgent_alike _ ht) fun fields fields' hf => ?_
  have hguarded : tokens'.map (·.1) = tokens.map (·.1) := ht
  rw [hguarded]
  exact putExtra_alike _ hx hf

end Session

/-- Two requests differ at most in the values of the caller's own headers. -/
structure Request.Alike (r q : Request) : Prop where
  /-- The methods. -/
  method : q.method = r.method
  /-- The paths. -/
  path : q.path = r.path
  /-- The payloads. -/
  payload : q.payload = r.payload
  /-- The caller's own headers. -/
  headers : ExtraAlike r.headers q.headers

namespace Request

theorem Alike.refl (r : Request) : r.Alike r := ⟨rfl, rfl, rfl, .refl _⟩

theorem Alike.withHeader {r q : Request} (h : r.Alike q) (name : String) {t u : String}
    (hw : Writable u ↔ Writable t) : (r.withHeader name t).Alike (q.withHeader name u) :=
  ⟨h.method, h.path, h.payload, List.rel_append h.headers (.cons ⟨rfl, hw⟩ .nil)⟩

theorem Alike.operation {r q : Request} (h : r.Alike q) : q.operation = r.operation := by
  rw [Request.operation, Request.operation, h.method, h.path]

end Request

/-- Two requests as they go over the wire differ at most in the values of headers. -/
structure Outbound.Alike (o p : Outbound) : Prop where
  /-- The methods. -/
  method : p.method = o.method
  /-- The URLs. -/
  url : p.url = o.url
  /-- The names of the headers. -/
  headers : SameNames o.headers p.headers
  /-- The bodies. -/
  body : p.body = o.body

namespace Session

variable {s u : Session} {names : HeaderNames} {r q : Request}

/-- Requests to one URL with one payload, whose headers can both be built or neither. -/
theorem outbound_couples {F : Fields → Fields → Prop} (hmethod : q.method = r.method)
    (hpayload : q.payload = r.payload) (hurl : u.url q.path = s.url r.path)
    (hheaders : Agree F (s.outboundHeaders names r.headers) (u.outboundHeaders names q.headers)) :
    Agree (fun o p => p.method = o.method ∧ p.url = o.url ∧ F o.headers p.headers ∧ p.body = o.body)
      (s.outbound names r) (u.outbound names q) := by
  have hquery : q.query = r.query := by rw [Request.query, Request.query, hpayload, hmethod]
  have hbody : q.body = r.body := by rw [Request.body, Request.body, hpayload, hmethod]
  rw [outbound, outbound, hquery]
  cases r.query with
  | error e => exact .error e
  | ok query =>
    dsimp only
    cases hs : s.outboundHeaders names r.headers <;> cases hu : u.outboundHeaders names q.headers <;>
      rw [hs, hu] at hheaders <;> cases hheaders
    · exact .error _
    · next hf =>
      refine .ok ⟨hmethod, ?_, hf, hbody⟩
      rw [hurl]

/-- Sessions that are alike build requests that are alike, or fail to for the same reason. -/
theorem outbound_alike (h : s.Alike u) (names : HeaderNames) (hr : r.Alike q) :
    Agree Outbound.Alike (s.outbound names r) (u.outbound names q) := by
  have hurl : u.url q.path = s.url r.path := by rw [url, url, h.baseUrl, hr.path]
  refine (outbound_couples hr.method hr.payload hurl
    (outboundHeaders_alike names h hr.headers)).mono fun o p hop => ?_
  obtain ⟨hmethod, hurl, hheaders, hbody⟩ := hop
  exact ⟨hmethod, hurl, hheaders, hbody⟩

end Session

/-! ## One header apart -/

/-- Fields under the same names in the same order, with the same values but under one name. -/
def Header.SameBut (name : String) (fields others : Fields) : Prop :=
  List.Forall₂ (fun h k => k.1 = h.1 ∧ (Name.parse? name ≠ some h.1 → k.2 = h.2)) fields others

theorem Header.SameBut.refl (name : String) (fields : Fields) : SameBut name fields fields :=
  List.forall₂_same.mpr fun _ _ => ⟨rfl, fun _ => rfl⟩

theorem Header.SameBut.set {name : String} {fields others : Fields} (h : SameBut name fields others)
    (n : Name) {v w : Bytes} (hvw : Name.parse? name ≠ some n → w = v) :
    SameBut name (fields.set n v) (others.set n w) := by
  refine List.rel_append (List.rel_filter (fun h k hhk => ?_) h) (.cons ⟨rfl, hvw⟩ .nil)
  dsimp only
  rw [hhk.1]

/-- Two requests differ at most in what the caller's own headers of one name hold. -/
structure Request.SameBut (name : String) (r q : Request) : Prop where
  /-- The methods. -/
  method : q.method = r.method
  /-- The paths. -/
  path : q.path = r.path
  /-- The payloads. -/
  payload : q.payload = r.payload
  /-- The caller's own headers, with values that can be sent or cannot. -/
  headers : List.Forall₂
    (fun h k => k.1 = h.1 ∧ (Writable k.2 ↔ Writable h.2) ∧ (h.1 ≠ name → k.2 = h.2))
    r.headers q.headers

/-- Two requests as they go over the wire differ at most in the values of headers under one name. -/
structure Outbound.SameBut (name : String) (o p : Outbound) : Prop where
  /-- The methods. -/
  method : p.method = o.method
  /-- The URLs. -/
  url : p.url = o.url
  /-- The headers. -/
  headers : Header.SameBut name o.headers p.headers
  /-- The bodies. -/
  body : p.body = o.body

/-- A session builds two requests that differ in one header so that they differ in it at most. -/
theorem Session.outbound_sameBut (s : Session) (names : HeaderNames) {name : String} {r q : Request}
    (h : r.SameBut name q) :
    Agree (Outbound.SameBut name) (s.outbound names r) (s.outbound names q) := by
  have hheaders : Agree (Header.SameBut name) (s.outboundHeaders names r.headers)
      (s.outboundHeaders names q.headers) := by
    rw [outboundHeaders, outboundHeaders]
    refine .bind (.of_eq rfl) fun tokens tokens' ht => ?_
    subst ht
    refine .bind (.of_eq rfl) fun fields fields' hf => ?_
    subst hf
    refine putExtra_couples (fun hhk => ⟨hhk.1, hhk.2.1⟩) ?_ _ h.headers (.refl name _)
    intro h k n fields others hhk hn hf
    refine hf.set n fun hne => ?_
    -- a header whose name is another one holds the same in both
    have hname : h.1 ≠ name := by
      rintro rfl
      exact hne hn
    rw [hhk.2.2 hname]
  have hurl : s.url q.path = s.url r.path := by rw [h.path]
  refine (outbound_couples h.method h.payload hurl hheaders).mono fun o p hop => ?_
  obtain ⟨hmethod, hurl, hheaders, hbody⟩ := hop
  exact ⟨hmethod, hurl, hheaders, hbody⟩

end SessionRecovery
