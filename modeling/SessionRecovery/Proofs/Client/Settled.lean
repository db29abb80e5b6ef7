import SessionRecovery.Client.Call
import SessionRecovery.Proofs.Client.Dispatch
import SessionRecovery.Proofs.Recovery.Bounds

/-!
# Answers that stand

A call with recovery gives an answer exactly when its last answer asks for no action in the session after
it. So a failure is given as an answer only when nothing can be done about its code: both lasting tokens are
there, and the code is none of those that ask for an action. Whoever wants a value from such an answer
learns of the failure as it was reported.
-/

namespace SessionRecovery

variable {σ : Type}

open Observation

/-- No action is foreseen for an error code in a session. -/
structure ErrorCodes.Final (codes : ErrorCodes) (session : Session) (code : String) : Prop where
  /-- There is an access token. -/
  access : session.access ≠ ""
  /-- There is a refresh token. -/
  refresh : session.refresh ≠ ""
  /-- The anti-forgery token is not stale. -/
  csrf : code ∉ codes.csrfInvalid
  /-- No new login is needed. -/
  relogin : code ∉ codes.reloginRequired
  /-- The access token need not be exchanged. -/
  exchange : code ∉ codes.refreshRequired
  /-- No login was refused. -/
  login : code = "" ∨ code ≠ codes.loginFailed

/-- The decision by tests, one after another, comes to nothing exactly when no action is foreseen. -/
theorem Action.forCode_eq_none_iff {codes : ErrorCodes} {session : Session} {code : String} :
    forCode codes session code = .none ↔ codes.Final session code := by
  have hlogin : codes.isLoginFailed code = false ↔ code = "" ∨ code ≠ codes.loginFailed := by
    simp only [ErrorCodes.isLoginFailed, Bool.and_eq_false_iff, bne_eq_false_iff_eq,
      beq_eq_false_iff_ne]
  constructor
  · intro h
    rw [forCode] at h
    split at h
    · cases h
    next hcsrf =>
    split at h
    · cases h
    next hrelogin =>
    split at h
    · cases h
    next hexchange =>
    simp only [Bool.or_eq_true, Bool.not_eq_true', not_or, Bool.not_eq_true, Bool.not_eq_false]
      at hcsrf hrelogin hexchange
    obtain ⟨⟨hrefresh, hcode⟩, hfailed⟩ := hrelogin
    exact ⟨by simpa [Session.hasAccess] using hexchange.1,
      by simpa [Session.hasRefresh] using hrefresh, by simpa [ErrorCodes.isCsrf] using hcsrf,
      by simpa [ErrorCodes.isRelogin] using hcode,
      by simpa [ErrorCodes.isRefresh] using hexchange.2, hlogin.mp hfailed⟩
  · rintro ⟨haccess, hrefresh, hcsrf, hrelogin, hexchange, hfailed⟩
    simp [forCode, ErrorCodes.isCsrf, ErrorCodes.isRelogin, ErrorCodes.isRefresh,
      Session.hasAccess, Session.hasRefresh, hlogin.mpr hfailed, *]

/-- An answer asks for nothing when it is no failure, or no action is foreseen for its code. -/
theorem Action.select_eq_none_iff {codes : ErrorCodes} {session : Session} {r : Response} :
    select codes session r = .none ↔ ∀ api, r.failure = some api → codes.Final session api.code := by
  rw [select]
  cases r.failure with
  | none => simp
  | some api => simp [forCode_eq_none_iff]

/-- A failure that was read is the delivery with its report. -/
theorem Response.eq_of_ofDelivery {d : Delivery} {response : Response}
    (h : ofDelivery d = .ok response) (hs : leastFailure ≤ response.status) :
    ∃ api, ApiError.fromBody d.body = .ok api ∧
      response = ⟨d.status, d.headers, d.body, some api⟩ := by
  obtain ⟨-, api, hapi, rfl⟩ | ⟨hlt, rfl⟩ := ofDelivery_eq_ok_iff.mp h
  · exact ⟨api, hapi, rfl⟩
  · exact absurd hs (UInt16.not_le.mpr hlt)

namespace Controller

variable {c : Controller} {h : Handler σ} {request : Request} {p p' : Progress}
  {result x : Except Error Response} {s t : σ} {os : List (Observation σ)} {response : Response}

/-- A course that gives an answer ends with the send that brought it. -/
theorem Course.ends_with_send (hc : c.Course h request p result s os x p' t)
    (hx : x = .ok response) {v : σ} (hv : h.resend request v = (result, s))
    (before : List (Observation σ)) :
    ∃ before' v', before ++ ⟨.send request result, s⟩ :: os =
        before' ++ [⟨.send request (.ok response), t⟩] ∧
      h.resend request v' = (.ok response, t) ∧
      Action.select c.codes (h.session t) response = .none := by
  induction hc generalizing before v with
  | failed => cases hx
  | settled ha =>
    cases hx
    exact ⟨before, v, rfl, hv, ha⟩
  | exhausted ha hne hb => cases hx
  | broken hs ht => cases hx
  | abandoned hs ht hr hcan => cases hx
  | @again p p' response' s started' s' recovered s'' t a n b os rest result result' hs ht hr hcan
      hsend hrest ih =>
    obtain ⟨before', v', heq, hv', ha⟩ := ih hx hsend (before ++ ⟨.send request (.ok response'), s⟩ ::
      ⟨.report (.recoveryStart request.operation a n response'.status response'.errorCode),
        started'⟩ :: os ++ [⟨.report (.recoverySuccess request.operation a), recovered⟩])
    refine ⟨before', v', ?_, hv', ha⟩
    rw [← heq]
    simp only [List.append_assoc, List.cons_append, List.nil_append]

/-- A call whose last answer asks for nothing gives this answer. -/
theorem Ending.eq_settled {before rest : List (Observation σ)}
    (he : c.Ending h before (.ok response) s rest x)
    (ha : Action.select c.codes (h.session s) response = .none) : x = .ok response := by
  cases he with
  | settled _ => rfl
  | exhausted ha' hne _ => exact absurd (ha'.symm.trans ha) hne
  | broken ha' hne _ _ => exact absurd (ha'.symm.trans ha) hne

/-- A call that gives an answer was given it by its last send, after which it only reports. -/
theorem exists_send_of_execute (hx : (c.execute h request s).1 = .ok response) :
    ∃ before v t e, c.observations h request s =
        before ++ [⟨.send request (.ok response), t⟩, ⟨.report e, h.report e t⟩] ∧
      h.resend request v = (.ok response, t) ∧
      Action.select c.codes (h.session t) response = .none ∧
      (c.execute h request s).2.2 = h.report e t := by
  obtain ⟨first, s₁, os, x, p, t, hsend, hcourse, hrun, hobs⟩ := c.course_execute h request s
  rw [hrun] at hx
  obtain ⟨before, v, heq, hv, ha⟩ := hcourse.ends_with_send hx hsend []
  refine ⟨before, v, t, .recoveryOutcome (outcome request p x), ?_, hv, ha, by rw [hrun]⟩
  rw [List.nil_append] at heq
  rw [observations, hobs]
  dsimp only
  rw [heq, List.append_assoc]
  rfl

/-- A call gives an answer exactly when its last send brought it and it asks for nothing. -/
theorem execute_eq_ok_iff (c : Controller) (h : Handler σ) (request : Request) (s : σ)
    (response : Response) :
    (c.execute h request s).1 = .ok response ↔ ∃ before t rest,
      c.observations h request s = before ++ ⟨.send request (.ok response), t⟩ :: rest ∧
      sends rest = [] ∧ Action.select c.codes (h.session t) response = .none := by
  constructor
  · intro hx
    obtain ⟨before, v, t, e, hobs, -, ha, -⟩ := exists_send_of_execute hx
    exact ⟨before, t, _, hobs, rfl, ha⟩
  · rintro ⟨before', t, rest', heq', hrest', ha⟩
    obtain ⟨before, result, s', rest, heq, hrest, hend⟩ := c.execute_ending h request s
    obtain ⟨rfl, ho, rfl⟩ := eq_of_last_send (heq.symm.trans heq') rfl rfl hrest hrest'
    cases ho
    exact hend.eq_settled ha

end Controller

namespace Client

variable {c : Client} {r : Request} {w w' : World} {response : Response} {api : ApiError}

/-- Whoever wants a value from a failure learns of the failure. -/
theorem call_of_failure {α : Type} (hsend : c.send r w = (.ok response, w'))
    (hf : response.failure = some api) (decoder : Json.Decoder α) :
    c.call decoder r w = (.error (.protocol response.status api), w') := by
  rw [call, Run.bind_ok hsend, Run.ofResult_apply, Response.decode, hf]

/-- A call answers with nothing that recovery could do something about. For every handler, a call gives an
answer exactly when the last send brought it unchanged and it asks for no action in the session of that
moment. So a client gives a failure as an answer only when it is the last reply of all and no action is
foreseen for its code in the session after it, and whoever wants a value learns of just this failure. -/
theorem answer_settled (controller : Controller) (h : Handler σ) (request : Request) (s : σ)
    (c : Client) (r : Request) (w : World) :
    (∀ response, (controller.execute h request s).1 = .ok response ↔ ∃ before t rest,
      controller.observations h request s = before ++ ⟨.send request (.ok response), t⟩ :: rest ∧
      sends rest = [] ∧ Action.select controller.codes (h.session t) response = .none) ∧
    (∀ response, (c.send r w).1 = .ok response → leastFailure ≤ response.status →
      ∃ before v rest d api,
        c.controller.observations c.handler r w =
          before ++ ⟨.send r (.ok response), v⟩ :: rest ∧ sends rest = [] ∧
        v.received.getLast? = some d ∧ (c.send r w).2.received = v.received ∧
        ApiError.fromBody d.body = .ok api ∧
        response = ⟨d.status, d.headers, d.body, some api⟩ ∧
        (c.send r w).2.session = v.session ∧ c.controller.codes.Final v.session api.code ∧
        (∀ (α : Type) (decoder : Json.Decoder α),
          c.call decoder r w = (.error (.protocol d.status api), (c.send r w).2)) ∧
        ∀ (α : Type) (decoder : Json.Decoder α) method path payload,
          r = (Request.new method path).withPayload payload →
          c.exchange decoder method path payload w =
            (.error (.protocol d.status api), (c.send r w).2)) := by
  refine ⟨controller.execute_eq_ok_iff h request s, fun response hx hstatus => ?_⟩
  obtain ⟨before, v', v, e, hobs, hsend, hsel, hend⟩ :=
    Controller.exists_send_of_execute (c := c.controller) (h := c.handler) (s := w) hx
  have hdispatched := World.dispatched_dispatch c.names r v'
  rw [show World.dispatch c.names r v' = _ from hsend] at hdispatched
  obtain ⟨d, hreceived, -, hread⟩ := hdispatched.exists_delivery
  obtain ⟨api, hapi, rfl⟩ := Response.eq_of_ofDelivery hread hstatus
  have hlast : (c.send r w).2 = v.report e := hend
  have hrun : c.send r w = (.ok ⟨d.status, d.headers, d.body, some api⟩, (c.send r w).2) :=
    Prod.ext hx rfl
  have hcall (α : Type) (decoder : Json.Decoder α) :
      c.call decoder r w = (.error (.protocol d.status api), (c.send r w).2) :=
    call_of_failure hrun rfl decoder
  refine ⟨before, v, _, d, api, hobs, rfl, ?_, ?_, hapi, rfl, ?_, ?_, hcall, ?_⟩
  · rw [hreceived, List.getLast?_concat]
  · rw [hlast, World.received_report]
  · rw [hlast]
    rfl
  · exact Action.select_eq_none_iff.mp hsel api rfl
  · rintro α decoder method path payload rfl
    exact hcall α decoder

end Client

end SessionRecovery
