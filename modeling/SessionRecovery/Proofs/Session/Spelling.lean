import SessionRecovery.Client.World
import SessionRecovery.Proofs.Run
import SessionRecovery.Proofs.Session.Precedence

/-!
# The letter case of header names

A text spells the same name in any letter case, so the configured names, the caller's own headers and the headers
of a reply may each be written in any. What is built from them is the same, and what cannot be built with the one
spelling cannot be built with the other either. Only the words of an error repeat a name as it was written.
-/

namespace SessionRecovery

namespace Header

variable {a b : String}

theorem SameLetters.refl (a : String) : SameLetters a a := rfl

/-- Texts that are the same but for letter case spell the same name, or none. -/
theorem Name.parse?_eq_of_sameLetters (h : SameLetters a b) : Name.parse? b = Name.parse? a := by
  have hname : IsName b ↔ IsName a := ⟨SameLetters.isName h.symm, SameLetters.isName h⟩
  refine Option.ext fun n => ?_
  rw [Name.parse?_eq_some_iff, Name.parse?_eq_some_iff, hname, ← h]

/-- Two lists of headers have the same values, one by one, under names that are the same but for letter case. -/
def SameHeaders {α : Type} (hs ks : List (String × α)) : Prop :=
  List.Forall₂ (fun h k => SameLetters h.1 k.1 ∧ k.2 = h.2) hs ks

theorem SameHeaders.refl {α : Type} (hs : List (String × α)) : SameHeaders hs hs :=
  List.forall₂_same.mpr fun h _ => ⟨.refl h.1, rfl⟩

/-- Faults that are the same but for the letter case of the name in them. -/
inductive Fault.SameLetters : Fault → Fault → Prop
  /-- No name in either spelling. -/
  | name {a b : String} (h : Header.SameLetters a b) : SameLetters (.name a) (.name b)
  /-- A text that cannot be sent. -/
  | value : SameLetters .value .value

theorem Fault.SameLetters.refl : ∀ fault : Fault, SameLetters fault fault
  | .name a => .name (.refl a)
  | .value => .value

/-- The fields that a list of headers spells, if every name is one. -/
def Fields.spelled? (hs : List (String × Bytes)) : Option Fields :=
  hs.mapM fun h => (Name.parse? h.1).map (·, h.2)

/-- Headers spell the same fields in any letter case. -/
theorem Fields.spelled?_eq_of_sameHeaders {hs ks : List (String × Bytes)} (h : SameHeaders hs ks) :
    spelled? ks = spelled? hs := by
  induction h with
  | nil => rfl
  | @cons h k hs ks hhk _ ih =>
    simp only [spelled?, List.mapM_cons] at ih ⊢
    rw [Name.parse?_eq_of_sameLetters hhk.1, hhk.2, ih]

/-- A look-up gives the same text in any letter case. -/
theorem Fields.text?_eq_of_sameLetters (fields : Fields) (h : SameLetters a b) :
    fields.text? b = fields.text? a := by
  rw [text?, text?, Name.parse?_eq_of_sameLetters h]

theorem Fields.nonEmptyText?_eq_of_sameLetters (fields : Fields) (h : SameLetters a b) :
    fields.nonEmptyText? b = fields.nonEmptyText? a := by
  rw [nonEmptyText?, nonEmptyText?, fields.text?_eq_of_sameLetters h]

end Header

open Header

/-- Two choices of names are the same but for letter case. -/
structure HeaderNames.SameLetters (names names' : HeaderNames) : Prop where
  /-- The name of the access token. -/
  accessToken : Header.SameLetters names.accessToken names'.accessToken
  /-- The name of the refresh token. -/
  refreshToken : Header.SameLetters names.refreshToken names'.refreshToken
  /-- The name of the anti-forgery token. -/
  csrfToken : Header.SameLetters names.csrfToken names'.csrfToken
  /-- The name of the login name. -/
  loginName : Header.SameLetters names.loginName names'.loginName
  /-- The name of the salt. -/
  loginSalt : Header.SameLetters names.loginSalt names'.loginSalt
  /-- The name of the proof. -/
  loginProof : Header.SameLetters names.loginProof names'.loginProof
  /-- The name of the code. -/
  smsCode : Header.SameLetters names.smsCode names'.smsCode
  /-- The name of the token of a confirmation. -/
  smsToken : Header.SameLetters names.smsToken names'.smsToken

/-- Two requests are the same but for the letter case of the caller's own names. -/
structure Request.SameLetters (r q : Request) : Prop where
  /-- The methods. -/
  method : q.method = r.method
  /-- The paths. -/
  path : q.path = r.path
  /-- The payloads. -/
  payload : q.payload = r.payload
  /-- The caller's own headers. -/
  headers : SameHeaders r.headers q.headers

namespace Request

variable {r q : Request}

theorem SameLetters.refl (r : Request) : r.SameLetters r := ⟨rfl, rfl, rfl, .refl _⟩

theorem SameLetters.withHeader (h : r.SameLetters q) {a b : String} (hname : Header.SameLetters a b)
    (value : String) : (r.withHeader a value).SameLetters (q.withHeader b value) :=
  ⟨h.method, h.path, h.payload, List.rel_append h.headers (.cons ⟨hname, rfl⟩ .nil)⟩

theorem SameLetters.operation (h : r.SameLetters q) : q.operation = r.operation := by
  rw [Request.operation, Request.operation, h.method, h.path]

end Request

/-- Errors that are the same but for the letter case of a name that they repeat. -/
inductive Error.SameLetters : Error → Error → Prop
  /-- The same error. -/
  | same (e : Error) : SameLetters e e
  /-- No name in either spelling. -/
  | name {a b : String} (h : Header.SameLetters a b) :
      SameLetters (.serialization (Header.Fault.name a).message)
        (.serialization (Header.Fault.name b).message)

namespace Session

variable {names names' : HeaderNames} {s : Session} {r q : Request} {a b : String}

/-! ## Captured tokens -/

/-- Tokens are taken from the same headers in any letter case. -/
theorem capture_sameLetters (h : names.SameLetters names') (s : Session) (fields : Fields) :
    s.capture names' fields = s.capture names fields := by
  rw [capture, capture, fields.nonEmptyText?_eq_of_sameLetters h.accessToken,
    fields.nonEmptyText?_eq_of_sameLetters h.refreshToken,
    fields.nonEmptyText?_eq_of_sameLetters h.csrfToken]

theorem captureChanges_sameLetters (h : names.SameLetters names') (s : Session) (fields : Fields) :
    s.captureChanges names' fields = s.captureChanges names fields := by
  rw [Bool.eq_iff_iff, captureChanges_iff, captureChanges_iff, capture_sameLetters h]

/-! ## Outbound headers -/

theorem headerName_sameLetters (h : Header.SameLetters a b) :
    Tally Fault.SameLetters (fun m n => n = m) (headerName a) (headerName b) := by
  rw [headerName, headerName, Name.parse?_eq_of_sameLetters h]
  cases Name.parse? a with
  | none => exact .error (.name h)
  | some n => exact .ok rfl

theorem putToken_sameLetters (h : Header.SameLetters a b) (fields : Fields) (token : String) :
    Tally Fault.SameLetters (fun f g => g = f) (putToken fields a token) (putToken fields b token) := by
  rw [putToken, putToken]
  split
  · exact .ok rfl
  · refine .bind (headerName_sameLetters h) fun m n hn => ?_
    rw [hn]
    exact .of_eq Fault.SameLetters.refl rfl

theorem tokenHeaders_sameLetters (h : names.SameLetters names') (s : Session) :
    Tally Fault.SameLetters (fun f g => g = f) (s.tokenHeaders names) (s.tokenHeaders names') := by
  refine .bind (putToken_sameLetters h.accessToken [] s.access) fun f g hg => ?_
  rw [hg]
  exact putToken_sameLetters h.csrfToken f s.csrf

/-- The caller's own headers are set, or passed over, whatever the letter case of their names. -/
theorem putExtra_sameLetters (guarded : List Name) {extra extra' : List (String × String)}
    (h : SameHeaders extra extra') (fields : Fields) :
    Tally Fault.SameLetters (fun f g => g = f) (putExtra guarded fields extra)
      (putExtra guarded fields extra') := by
  induction h generalizing fields with
  | nil => exact .ok rfl
  | @cons header header' extra extra' hheader _ ih =>
    obtain ⟨name, value⟩ := header
    obtain ⟨name', value'⟩ := header'
    obtain ⟨hname, hvalue⟩ := hheader
    have hvalue : value' = value := hvalue
    rw [putExtra, putExtra, hvalue]
    refine .bind (headerName_sameLetters hname) fun m n hn => ?_
    rw [hn]
    split
    · exact ih fields
    · refine .bind (.of_eq Fault.SameLetters.refl rfl) fun v w hw => ?_
      rw [hw]
      exact ih _

/-- The same headers are built with names in any letter case, or none for the same reason. -/
theorem outboundHeaders_sameLetters (h : names.SameLetters names') (s : Session)
    {extra extra' : List (String × String)} (hextra : SameHeaders extra extra') :
    Tally Fault.SameLetters (fun f g => g = f) (s.outboundHeaders names extra)
      (s.outboundHeaders names' extra') := by
  refine .bind (tokenHeaders_sameLetters h s) fun tokens tokens' htokens => ?_
  rw [htokens]
  refine .bind (.of_eq Fault.SameLetters.refl rfl) fun fields fields' hfields => ?_
  rw [hfields]
  exact putExtra_sameLetters _ hextra fields

/-- The same request is built with names in any letter case, or none for the same reason. -/
theorem outbound_sameLetters (h : names.SameLetters names') (s : Session) (hr : r.SameLetters q) :
    Tally Error.SameLetters (fun o p => p = o) (s.outbound names r) (s.outbound names' q) := by
  have hquery : q.query = r.query := by rw [Request.query, Request.query, hr.payload, hr.method]
  have hbody : q.body = r.body := by rw [Request.body, Request.body, hr.payload, hr.method]
  have hheaders := outboundHeaders_sameLetters h s hr.headers
  rw [outbound, outbound, hquery, hbody, hr.method, hr.path]
  cases r.query with
  | error e => exact .error (.same e)
  | ok query =>
    dsimp only
    cases hs : s.outboundHeaders names r.headers <;> cases hs' : s.outboundHeaders names' q.headers <;>
      rw [hs, hs'] at hheaders <;> cases hheaders
    · next hfault =>
      cases hfault with
      | name hname => exact .error (.name hname)
      | value => exact .error (.same _)
    · next hfields =>
      rw [hfields]
      exact .ok rfl

end Session

end SessionRecovery
