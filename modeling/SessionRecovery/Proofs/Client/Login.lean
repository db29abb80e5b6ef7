import SessionRecovery.Proofs.Client.Coupling
import SessionRecovery.Proofs.Client.Replay
import SessionRecovery.Proofs.Client.Resend

/-!
# The login, exactly

A login hands over at most two requests. The second one is sent only after a challenge with a salt, and only
while the caller has not given up; it is the first request with the proof added. The login succeeds just when
the second request does, and every other end of it is told by the last reply: which step was refused, with
which status and report.
-/

namespace SessionRecovery

/-! ## One dispatch -/

namespace World

/-- What one dispatch does, with the reply that it received, if it received one. -/
structure Yields (names : HeaderNames) (r : Request) (w : World) (x : Except Error Response)
    (w' : World) (answer : Option Delivery) : Prop where
  /-- The request is handed over, if it can be. -/
  sent : w'.sent = w.sent ++ (w.handed? names r).toList
  /-- The reply is received. -/
  received : w'.received = w.received ++ answer.toList
  /-- The session takes over the tokens of the reply. -/
  session : w'.session = answer.elim w.session fun d => w.session.capture names d.headers
  /-- A request was handed over for the reply. -/
  handed : answer.isSome = true → (w.handed? names r).isSome = true
  /-- The result is what the reply reads as. -/
  read : ∀ d, answer = some d → x = Response.ofDelivery d
  /-- Without a reply there is no result. -/
  unanswered : answer = none → ∃ e, x = .error e

/-- Every dispatch yields a reply or none. -/
theorem Dispatched.exists_yields {names : HeaderNames} {r : Request} {w w' : World}
    {x : Except Error Response} (hd : Dispatched names r w x w') :
    ∃ answer, Yields names r w x w' answer := by
  obtain ⟨hx, hr, hs⟩ | ⟨d, hr, hs, hx⟩ := hd.unanswered_or_answered
  · exact ⟨none, hd.sent_eq, hr.trans (List.append_nil _).symm, hs, by simp, by simp, fun _ => hx⟩
  · refine ⟨some d, hd.sent_eq, hr, hs, fun _ => ?_, ?_, by simp⟩
    · -- what receives something was built
      have hbuilt {o : Outbound} (hc : w.cancelled = false) (hb : w.session.outbound names r = .ok o) :
          (w.handed? names r).isSome = true := by
        rw [handed?_eq_some_iff.mpr ⟨hc, hb⟩]
        rfl
      cases hd with
      | cancelled hc => simp at hr
      | unbuildable hc hb => simp at hr
      | interrupted hc hb ht => exact hbuilt hc hb
      | failed hc hb ht => exact hbuilt hc hb
      | unreadable hc hb ht hd => exact hbuilt hc hb
      | answered hc hb ht hd => exact hbuilt hc hb
    · rintro _ ⟨⟩
      exact hx

end World

namespace Client

/-! ## Challenges -/

/-- A reply asks for credentials: it is a failure whose report has the code for that, which is not empty. -/
def AsksCredentials (c : Client) (d : Delivery) : Prop :=
  leastFailure ≤ d.status ∧ ∃ api, ApiError.fromBody d.body = .ok api ∧ api.code ≠ "" ∧
    api.code = c.controller.codes.credentialsRequired

/-- A reply brings a salt: the first value under the salt's name is legible, and is the salt. -/
def BringsSalt (c : Client) (d : Delivery) (salt : String) : Prop :=
  ∃ n v, Header.Name.parse? c.names.loginSalt = some n ∧ (d.headers.values n).head? = some v ∧
    Header.Legible v ∧ salt = Header.asciiText v

variable {c : Client} {cr : Credentials} {w w' v : World} {d : Delivery} {r : Response}
  {x y : Except Error Response} {salt : String} {second : Option Outbound}
  {answer answer' : Option Delivery}

/-- Asking for credentials is read off the report. -/
theorem asksCredentials_iff (h : Response.ofDelivery d = .ok r) :
    c.AsksCredentials d ↔ c.controller.codes.isCredentialsRequired r.errorCode = true := by
  rw [AsksCredentials, ErrorCodes.isCredentialsRequired, Bool.and_eq_true, bne_iff_ne, beq_iff_eq]
  obtain ⟨hle, api, hapi, rfl⟩ | ⟨hlt, rfl⟩ := Response.ofDelivery_eq_ok_iff.mp h
  · simp [hle, hapi, Response.errorCode]
  · simp [UInt16.not_le.mpr hlt, Response.errorCode]

/-- A reply that asks for credentials can be read. -/
theorem AsksCredentials.exists_ofDelivery (h : c.AsksCredentials d) :
    ∃ r, Response.ofDelivery d = .ok r ∧ r.status = d.status := by
  obtain ⟨hle, api, hapi, -⟩ := h
  exact ⟨_, Response.ofDelivery_eq_ok_iff.mpr (.inl ⟨hle, api, hapi, rfl⟩), rfl⟩

/-- The salt is read off the headers. -/
theorem bringsSalt_iff (h : Response.ofDelivery d = .ok r) :
    c.BringsSalt d salt ↔ c.salt? r = some salt := by
  have hheaders : r.headers = d.headers := by
    obtain ⟨-, api, -, rfl⟩ | ⟨-, rfl⟩ := Response.ofDelivery_eq_ok_iff.mp h <;> rfl
  rw [BringsSalt, salt?, hheaders, Header.Fields.nonEmptyText?_eq_some_iff]

/-! ## The steps -/

/-- What becomes of the first request of a login. -/
def challenged (c : Client) (login : String) (w : World) : Except Error Response × World :=
  c.dispatch (c.challenge login) (w.report (.loginStart login))

/-- The first request was answered by something that asks for credentials and brings a salt. -/
def Salted (c : Client) (y : Except Error Response) (salt : String) : Prop :=
  ∃ r, y = .ok r ∧ c.controller.codes.isCredentialsRequired r.errorCode = true ∧
    c.salt? r = some salt

/-- What cannot be read brings no salt. -/
theorem not_salted_of_error {e : Error} (hy : y = .error e) (salt : String) : ¬ c.Salted y salt := by
  rintro ⟨r, hr, -⟩
  cases hy.symm.trans hr

/-- Why a login ends with its first request, where that brings no salt. -/
def refusal (c : Client) : Except Error Response → Error
  | .error e => e
  | .ok r =>
    if c.controller.codes.isCredentialsRequired r.errorCode then
      .authRecovery .loginChallenge r.status
        (.new "missing_salt" "login challenge carried no salt")
    else r.stepError .loginChallenge

/-- How a login goes on after its first request was answered somehow: the result and the world at its end, and
the second request and its reply, if there are any. -/
inductive Concludes (c : Client) (cr : Credentials) (y : Except Error Response) (v : World) :
    Except Error Response → World → Option Outbound → Option Delivery → Prop
  /-- The answer brings no salt, so there is no second request. -/
  | refused {w' : World} (hy : ∀ salt, ¬ c.Salted y salt) (hs : w'.sent = v.sent)
      (hr : w'.received = v.received) : Concludes c cr y v (.error (c.refusal y)) w' none none
  /-- The caller gave up before the second request. -/
  | abandoned {salt : String} (hy : c.Salted y salt) (hc : v.cancelled = true) :
      Concludes c cr y v (.error .cancelled) v none none
  /-- The second request decides. -/
  | proved {z : Except Error Response} {salt : String} {u w' : World} {answer : Option Delivery}
      (hy : c.Salted y salt) (hc : v.cancelled = false)
      (hd : c.dispatch (c.proving cr salt) v = (z, u))
      (hyields : World.Yields c.names (c.proving cr salt) v z u answer)
      (hs : w'.sent = u.sent) (hr : w'.received = u.received) :
      Concludes c cr y v (z.bind (Response.expectSuccess .loginProof)) w'
        (v.handed? c.names (c.proving cr salt)) answer

/-- Reading the answer to the proof expects a success, and reports what it finds. -/
theorem exists_expectWelcome (cr : Credentials) (r : Response) (w : World) :
    ∃ e, expectWelcome cr r w = (r.expectSuccess .loginProof, w.report e) := by
  rw [expectWelcome, Response.expectSuccess]
  cases r.isSuccess with
  | true => exact ⟨_, rfl⟩
  | false => exact ⟨_, rfl⟩

/-- With a salt, a login goes on with the second request, unless the caller gave up. -/
theorem exists_concludes_of_salted (cr : Credentials) (hy : c.Salted y salt) (v : World) :
    ∃ x w' second answer, (do
      World.ensureActive
      let answered ← c.dispatch ((c.challenge cr.login).withHeader c.names.loginProof
        (c.proof cr.password salt))
      expectWelcome cr answered) v = (x, w') ∧ c.Concludes cr y v x w' second answer := by
  cases hc : v.cancelled with
  | true =>
    rw [Run.bind_error (World.ensureActive_of_cancelled hc)]
    exact ⟨_, _, none, none, rfl, .abandoned hy hc⟩
  | false =>
    rw [Run.bind_ok (World.ensureActive_of_active hc)]
    obtain ⟨z, u, hz⟩ : ∃ z u, c.dispatch ((c.challenge cr.login).withHeader c.names.loginProof
      (c.proof cr.password salt)) v = (z, u) := ⟨_, _, rfl⟩
    have hd := World.dispatched_dispatch c.names (c.proving cr salt) v
    rw [show World.dispatch c.names (c.proving cr salt) v = (z, u) from hz] at hd
    obtain ⟨answer, hyields⟩ := hd.exists_yields
    cases z with
    | error e =>
      rw [Run.bind_error hz]
      exact ⟨_, _, _, _, rfl, .proved hy hc hz hyields rfl rfl⟩
    | ok r =>
      obtain ⟨e, hwelcome⟩ := exists_expectWelcome cr r u
      rw [Run.bind_ok hz, hwelcome]
      exact ⟨_, _, _, _, rfl,
        .proved hy hc hz hyields (World.sent_report u e) (World.received_report u e)⟩

/-- Every login goes on in one of these ways. -/
theorem exists_concludes (c : Client) (cr : Credentials) (w : World) :
    ∃ second answer, c.Concludes cr (c.challenged cr.login w).1 (c.challenged cr.login w).2
      (c.login cr w).1 (c.login cr w).2 second answer := by
  rw [login, Run.bind_ok (Run.change_apply _ _), challenged]
  obtain ⟨start, hstart⟩ : ∃ start, w.report (.loginStart cr.login) = start := ⟨_, rfl⟩
  rw [hstart]
  cases hc : start.cancelled with
  | true =>
    have hfirst : c.dispatch (c.challenge cr.login) start = (.error .cancelled, start) :=
      World.dispatch_of_cancelled _ _ hc
    rw [Run.bind_error (World.ensureActive_of_cancelled hc), hfirst]
    exact ⟨none, none, .refused (not_salted_of_error rfl) rfl rfl⟩
  | false =>
    rw [Run.bind_ok (World.ensureActive_of_active hc)]
    obtain ⟨y, v, hy⟩ : ∃ y v, c.dispatch (c.challenge cr.login) start = (y, v) := ⟨_, _, rfl⟩
    cases y with
    | error e =>
      rw [Run.bind_error hy, hy]
      exact ⟨none, none, .refused (not_salted_of_error rfl) rfl rfl⟩
    | ok r =>
      rw [Run.bind_ok hy, hy]
      cases hcode : c.controller.codes.isCredentialsRequired r.errorCode with
      | false =>
        have hread : c.expectSalt r v = (.error (c.refusal (.ok r)),
            v.report (.unexpectedChallenge r.status r.errorCode)) := by
          rw [expectSalt, refusal, hcode]
          rfl
        rw [Run.bind_error hread]
        refine ⟨none, none, .refused ?_ (World.sent_report v _) (World.received_report v _)⟩
        rintro salt ⟨_, ⟨⟩, hcode', -⟩
        exact absurd (hcode.symm.trans hcode') Bool.false_ne_true
      | true =>
        cases hsalt : c.salt? r with
        | none =>
          have hread : c.expectSalt r v = (.error (c.refusal (.ok r)), v) := by
            rw [expectSalt, refusal, hcode, if_pos rfl, hsalt]
            rfl
          rw [Run.bind_error hread]
          refine ⟨none, none, .refused ?_ rfl rfl⟩
          rintro salt ⟨_, ⟨⟩, -, hsalt'⟩
          cases hsalt.symm.trans hsalt'
        | some salt =>
          have hread : c.expectSalt r v = (.ok salt, v) := by
            rw [expectSalt, hcode, if_pos rfl, hsalt]
            rfl
          obtain ⟨x, w', second, answer, hrun, hend⟩ :=
            exists_concludes_of_salted cr ⟨r, rfl, hcode, hsalt⟩ v
          rw [Run.bind_ok hread, hrun]
          exact ⟨second, answer, hend⟩

/-! ## What follows at each end -/

/-- The first request of a login yields a reply or none, as any other. -/
theorem exists_yields_challenged (c : Client) (login : String) (w : World) :
    ∃ answer, World.Yields c.names (c.challenge login) w (c.challenged login w).1
      (c.challenged login w).2 answer := by
  obtain ⟨answer, h⟩ := (World.dispatched_dispatch c.names (c.challenge login)
    (w.report (.loginStart login))).exists_yields
  refine ⟨answer, ?_, ?_, h.session, h.handed, h.read, h.unanswered⟩
  · exact h.sent.trans (congrArg (· ++ _) (World.sent_report w _))
  · exact h.received.trans (congrArg (· ++ _) (World.received_report w _))

/-- The steps of a login in terms of its first reply. -/
theorem salted_iff (hread : ∀ d, answer = some d → y = Response.ofDelivery d)
    (hnone : answer = none → ∃ e, y = .error e) :
    c.Salted y salt ↔ ∃ d, answer = some d ∧ c.AsksCredentials d ∧ c.BringsSalt d salt := by
  cases answer with
  | none =>
    obtain ⟨e, rfl⟩ := hnone rfl
    simp [Salted]
  | some d =>
    rw [hread d rfl]
    constructor
    · rintro ⟨r, hr, hcode, hsalt⟩
      exact ⟨d, rfl, (asksCredentials_iff hr).mpr hcode, (bringsSalt_iff hr).mpr hsalt⟩
    · rintro ⟨_, ⟨⟩, hasks, hbrings⟩
      obtain ⟨r, hr, -⟩ := hasks.exists_ofDelivery
      exact ⟨r, hr, (asksCredentials_iff hr).mp hasks, (bringsSalt_iff hr).mp hbrings⟩

/-- The error of a refused step carries the status and the report of the reply. -/
theorem stepError_of_ofDelivery (h : Response.ofDelivery d = .ok r) (step : Step) :
    r.stepError step = .authRecovery step d.status (r.failure.getD (.new "unexpected_response"
      ("unexpected HTTP " ++ toString d.status ++ " during " ++ step.text))) := by
  obtain ⟨-, api, -, rfl⟩ | ⟨-, rfl⟩ := Response.ofDelivery_eq_ok_iff.mp h <;> rfl

/-- A reply that does not ask for credentials refuses the challenge with its report. -/
theorem refusal_of_not_asks (hr : Response.ofDelivery d = .ok r) (hn : ¬ c.AsksCredentials d) :
    c.refusal (.ok r) = .authRecovery .loginChallenge d.status
      (r.failure.getD (.new "unexpected_response" ("unexpected HTTP " ++ toString d.status ++
        " during " ++ Step.loginChallenge.text))) := by
  rw [refusal, if_neg (mt (asksCredentials_iff hr).mpr hn), stepError_of_ofDelivery hr]

/-- A reply that asks for credentials refuses the challenge for want of a salt. -/
theorem refusal_of_asks (hr : Response.ofDelivery d = .ok r) (ha : c.AsksCredentials d) :
    c.refusal (.ok r) = .authRecovery .loginChallenge r.status
      (.new "missing_salt" "login challenge carried no salt") := by
  rw [refusal, if_pos ((asksCredentials_iff hr).mp ha)]

/-- An answer brings one salt. -/
theorem Salted.eq {salt' : String} (h : c.Salted y salt) (h' : c.Salted y salt') :
    salt' = salt := by
  obtain ⟨r, hr, -, hsalt⟩ := h
  obtain ⟨r', hr', -, hsalt'⟩ := h'
  cases hr.symm.trans hr'
  exact Option.some.inj (hsalt'.symm.trans hsalt)

namespace Concludes

/-- The second request is the proof, for the salt that was brought, unless the caller gave up. -/
theorem second_iff (h : c.Concludes cr y v x w' second answer') {o : Outbound} :
    second = some o ↔ v.cancelled = false ∧ ∃ salt, c.Salted y salt ∧
      v.session.outbound c.names (c.proving cr salt) = .ok o := by
  cases h with
  | refused hy => simp [hy]
  | abandoned hy hc => simp [hc]
  | @proved z salt _ _ _ hy hc hd hyields =>
    rw [World.handed?_eq_some_iff]
    refine and_congr_right fun _ => ⟨fun ho => ⟨salt, hy, ho⟩, ?_⟩
    rintro ⟨salt', hy', ho⟩
    rwa [← hy.eq hy']

/-- The second request and its reply are all that comes after the first. -/
theorem sent_received (h : c.Concludes cr y v x w' second answer') :
    w'.sent = v.sent ++ second.toList ∧ w'.received = v.received ++ answer'.toList ∧
      (answer'.isSome = true → second.isSome = true) := by
  cases h with
  | refused hy hs hr => simp [hs, hr]
  | abandoned hy hc => simp
  | proved hy hc hd hyields hs hr =>
    rw [hs, hr]
    exact ⟨hyields.sent, hyields.received, hyields.handed⟩

/-- A second reply decides over the result. -/
theorem eq_of_answer (h : c.Concludes cr y v x w' second (some d)) :
    x = (Response.ofDelivery d).bind (Response.expectSuccess .loginProof) := by
  cases h with
  | proved hy hc hd hyields hs hr => rw [hyields.read d rfl]

/-- Without a second reply a login fails. -/
theorem error_of_unanswered (h : c.Concludes cr y v x w' second none) : ∃ e, x = .error e := by
  cases h with
  | refused hy hs hr => exact ⟨_, rfl⟩
  | abandoned hy hc => exact ⟨_, rfl⟩
  | proved hy hc hd hyields hs hr =>
    obtain ⟨e, rfl⟩ := hyields.unanswered rfl
    exact ⟨e, rfl⟩

/-- A login succeeds just when the second request was answered by a success. -/
theorem ok_iff (h : c.Concludes cr y v x w' second answer') {r : Response} :
    x = .ok r ↔ ∃ d, answer' = some d ∧ Response.ofDelivery d = .ok r ∧
      r.status < leastFailure := by
  cases answer' with
  | none =>
    obtain ⟨e, rfl⟩ := h.error_of_unanswered
    simp
  | some d =>
    rw [h.eq_of_answer]
    simp only [Option.some.injEq, exists_eq_left']
    cases hr : Response.ofDelivery d with
    | error e => simp [Except.bind]
    | ok r' =>
      have hs := Response.isSuccess_iff_of_ofDelivery hr
      rw [Except.bind, Response.expectSuccess, Except.ok.injEq]
      constructor
      · intro hx
        split at hx
        · next hsuccess =>
          cases hx
          exact ⟨rfl, hs.mp hsuccess⟩
        · cases hx
      · rintro ⟨rfl, hlt⟩
        rw [if_pos (hs.mpr hlt)]

/-- Without a salt the first request decides. -/
theorem eq_refusal (h : c.Concludes cr y v x w' second answer')
    (hy : ∀ salt, ¬ c.Salted y salt) : x = .error (c.refusal y) := by
  cases h with
  | refused _ _ _ => rfl
  | abandoned hy' _ => exact absurd hy' (hy _)
  | proved hy' _ _ _ _ _ => exact absurd hy' (hy _)

/-- With a salt the login ends as giving up or the second request does. -/
theorem eq_of_salted (h : c.Concludes cr y v x w' second answer') (hy : c.Salted y salt) :
    (v.cancelled = true → x = .error .cancelled) ∧
    ∀ e, v.cancelled = false → (c.dispatch (c.proving cr salt) v).1 = .error e →
      x = .error e := by
  cases h with
  | refused hy' _ _ => exact absurd hy (hy' _)
  | abandoned _ hc =>
    exact ⟨fun _ => rfl, fun e hc' => absurd (hc'.symm.trans hc) Bool.false_ne_true⟩
  | proved hy' hc hd _ _ _ =>
    refine ⟨fun hc' => absurd (hc.symm.trans hc') Bool.false_ne_true, fun e _ he => ?_⟩
    rw [hy'.eq hy, hd] at he
    cases he
    rfl

end Concludes

/-! ## The whole login -/

/-- What a login is, with its two requests and their replies, as far as there are any. -/
structure LogsIn (c : Client) (cr : Credentials) (w : World) (x : Except Error Response)
    (w' : World) (first second : Option Outbound) (answer answer' : Option Delivery) : Prop where
  /-- The first request is built from the name alone, unless the caller gave up. -/
  first_iff : ∀ o, first = some o ↔ w.cancelled = false ∧
    w.session.outbound c.names
      ⟨.post, c.endpoints.login, none, [(c.names.loginName, cr.login)]⟩ = .ok o
  /-- The second request is built from the name and the proof in the session that took over the tokens of the
  first reply, where that asks for credentials and brings a salt and the caller has not given up by then. -/
  second_iff : ∀ o, second = some o ↔ (c.challenged cr.login w).2.cancelled = false ∧
    ∃ d salt, answer = some d ∧ c.AsksCredentials d ∧ c.BringsSalt d salt ∧
      (w.session.capture c.names d.headers).outbound c.names
        ⟨.post, c.endpoints.login, none, [(c.names.loginName, cr.login),
          (c.names.loginProof, c.proof cr.password salt)]⟩ = .ok o
  /-- Both are posts to one URL, without a payload. -/
  posts : ∀ o, first = some o ∨ second = some o → o.method = .post ∧
    o.url = w.session.baseUrl ++ c.endpoints.login ∧ o.body = some (Utf8.encode "null")
  /-- The first request is what is handed over first, with its reply. -/
  opened : (c.challenged cr.login w).2.sent = w.sent ++ first.toList ∧
    (c.challenged cr.login w).2.received = w.received ++ answer.toList
  /-- Nothing but the two requests is handed over. -/
  sent : w'.sent = w.sent ++ first.toList ++ second.toList
  /-- Nothing but their replies is received. -/
  received : w'.received = w.received ++ answer.toList ++ answer'.toList
  /-- A reply is one to a request. -/
  handed : (answer.isSome = true → first.isSome = true) ∧
    (answer'.isSome = true → second.isSome = true)
  /-- The login succeeds just when the second request does. -/
  ok_iff : ∀ r, x = .ok r ↔
    ∃ d, answer' = some d ∧ Response.ofDelivery d = .ok r ∧ r.status < leastFailure
  /-- A first reply that does not ask for credentials refuses the challenge, with its report if it has one. -/
  unasked : ∀ d r, answer = some d → Response.ofDelivery d = .ok r → ¬ c.AsksCredentials d →
    x = .error (.authRecovery .loginChallenge d.status (r.failure.getD (.new "unexpected_response"
      ("unexpected HTTP " ++ toString d.status ++ " during " ++ Step.loginChallenge.text))))
  /-- A first reply that asks for credentials without a salt refuses the challenge too. -/
  unsalted : ∀ d, answer = some d → c.AsksCredentials d → (∀ salt, ¬ c.BringsSalt d salt) →
    x = .error (.authRecovery .loginChallenge d.status
      (.new "missing_salt" "login challenge carried no salt"))
  /-- A failure in the second reply refuses the proof, with its report. -/
  rejected : ∀ d api, answer' = some d → leastFailure ≤ d.status →
    ApiError.fromBody d.body = .ok api → x = .error (.authRecovery .loginProof d.status api)
  /-- A reply that cannot be read fails the login. -/
  unread : ∀ d e, answer = some d ∨ answer' = some d → Response.ofDelivery d = .error e →
    x = .error e
  /-- A first request without an answer that can be read fails the login as it fails itself. -/
  lost : ∀ e, (c.challenged cr.login w).1 = .error e → x = .error e
  /-- So does the second request; and a caller who gave up before it ends the login. -/
  unproved : ∀ d salt, answer = some d → c.AsksCredentials d → c.BringsSalt d salt →
    ((c.challenged cr.login w).2.cancelled = true → x = .error .cancelled) ∧
    ∀ e, (c.challenged cr.login w).2.cancelled = false →
      (c.dispatch (c.proving cr salt) (c.challenged cr.login w).2).1 = .error e → x = .error e

/-- A post without a payload goes to its path, and its body is the null value. -/
theorem posts_of_outbound {s : Session} {names : HeaderNames} {path : String}
    {headers : List (String × String)} {o : Outbound}
    (h : s.outbound names ⟨.post, path, none, headers⟩ = .ok o) :
    o.method = .post ∧ o.url = s.baseUrl ++ path ∧ o.body = some (Utf8.encode "null") := by
  obtain ⟨query, fields, hquery, -, rfl⟩ := Session.outbound_eq_ok_iff.mp h
  cases hquery
  exact ⟨rfl, rfl, (by decide : some Json.null.bytes = some (Utf8.encode "null"))⟩

/-- The two steps of a login, exactly. Whatever the network gives, and for any names of headers, codes, paths
and proofs, a login hands over the name of who wants in and, after a challenge with a salt, the proof of the
password for that salt; it succeeds just when the proof is answered by a success, and otherwise its error
tells which step failed and how. -/
theorem login_logsIn (c : Client) (cr : Credentials) (w : World) :
    ∃ first second answer answer',
      c.LogsIn cr w (c.login cr w).1 (c.login cr w).2 first second answer answer' := by
  obtain ⟨second, answer', hend⟩ := c.exists_concludes cr w
  obtain ⟨answer, hfirst⟩ := exists_yields_challenged c cr.login w
  have hsalted (salt : String) : c.Salted (c.challenged cr.login w).1 salt ↔
      ∃ d, answer = some d ∧ c.AsksCredentials d ∧ c.BringsSalt d salt :=
    salted_iff hfirst.read hfirst.unanswered
  obtain ⟨hsent, hreceived, hhanded⟩ := hend.sent_received
  have hfirst_iff (o : Outbound) : w.handed? c.names (c.challenge cr.login) = some o ↔
      w.cancelled = false ∧ w.session.outbound c.names
        ⟨.post, c.endpoints.login, none, [(c.names.loginName, cr.login)]⟩ = .ok o :=
    World.handed?_eq_some_iff
  have hsecond_iff (o : Outbound) : second = some o ↔
      (c.challenged cr.login w).2.cancelled = false ∧
      ∃ d salt, answer = some d ∧ c.AsksCredentials d ∧ c.BringsSalt d salt ∧
        (w.session.capture c.names d.headers).outbound c.names
          ⟨.post, c.endpoints.login, none, [(c.names.loginName, cr.login),
            (c.names.loginProof, c.proof cr.password salt)]⟩ = .ok o := by
    rw [hend.second_iff]
    refine and_congr_right fun _ => ?_
    constructor
    · rintro ⟨salt, hy, ho⟩
      obtain ⟨d, rfl, hasks, hbrings⟩ := (hsalted salt).mp hy
      rw [hfirst.session] at ho
      exact ⟨d, salt, rfl, hasks, hbrings, ho⟩
    · rintro ⟨d, salt, rfl, hasks, hbrings, ho⟩
      refine ⟨salt, (hsalted salt).mpr ⟨d, rfl, hasks, hbrings⟩, ?_⟩
      rw [hfirst.session]
      exact ho
  refine ⟨w.handed? c.names (c.challenge cr.login), second, answer, answer', hfirst_iff, hsecond_iff,
    ?posts, ⟨hfirst.sent, hfirst.received⟩, by rw [hsent, hfirst.sent],
    by rw [hreceived, hfirst.received], ⟨hfirst.handed, hhanded⟩, ?ok_iff, ?unasked, ?unsalted,
    ?rejected, ?unread, ?lost, ?unproved⟩
  case posts =>
    rintro o (ho | ho)
    · exact posts_of_outbound ((hfirst_iff o).mp ho).2
    · obtain ⟨-, d, salt, -, -, -, hbuilt⟩ := (hsecond_iff o).mp ho
      obtain ⟨hmethod, hurl, hbody⟩ := posts_of_outbound hbuilt
      exact ⟨hmethod, hurl, hbody⟩
  case ok_iff => exact fun r => hend.ok_iff
  case unasked =>
    intro d r hd hr hn
    have hnone (salt : String) : ¬ c.Salted (c.challenged cr.login w).1 salt := by
      rw [hsalted, hd]
      rintro ⟨_, ⟨⟩, hasks, -⟩
      exact hn hasks
    rw [hend.eq_refusal hnone, hfirst.read d hd, hr, refusal_of_not_asks hr hn]
  case unsalted =>
    intro d hd hasks hn
    have hnone (salt : String) : ¬ c.Salted (c.challenged cr.login w).1 salt := by
      rw [hsalted, hd]
      rintro ⟨_, ⟨⟩, -, hbrings⟩
      exact hn salt hbrings
    obtain ⟨r, hr, hstatus⟩ := hasks.exists_ofDelivery
    rw [hend.eq_refusal hnone, hfirst.read d hd, hr, refusal_of_asks hr hasks, hstatus]
  case rejected =>
    intro d api hd hle hapi
    subst hd
    have hr := Response.ofDelivery_eq_ok_iff.mpr (.inl ⟨hle, api, hapi, rfl⟩)
    rw [hend.eq_of_answer, hr]
    rfl
  case unread =>
    rintro d e (hd | hd) he
    · have hy : (c.challenged cr.login w).1 = .error e := (hfirst.read d hd).trans he
      rw [hend.eq_refusal (not_salted_of_error hy), hy, refusal]
    · subst hd
      rw [hend.eq_of_answer, he]
      rfl
  case lost =>
    intro e he
    rw [hend.eq_refusal (not_salted_of_error he), he, refusal]
  case unproved =>
    intro d salt hd hasks hbrings
    exact hend.eq_of_salted ((hsalted salt).mpr ⟨d, hd, hasks, hbrings⟩)

/-- A challenge with a salt is answered by the proof for it. -/
example :
    let challenge : Bytes := Utf8.encode "\x7b\"code\": \"credentials_required\"\x7d"
    let w : World := ⟨⟨"https://a", none, "", "", ""⟩, .inMemory none none,
      [⟨.ok ⟨401, [(⟨"x-auth-login-salt"⟩, [0x73])], challenge⟩, .never⟩,
        ⟨.ok ⟨200, [], []⟩, .never⟩], false, []⟩
    let c : Client := { ofSettings (.new "https://a") with proof := fun password salt => salt ++ password }
    (c.login ⟨"alice", "pw"⟩ w).2.sent.map (·.headers) =
      [[(⟨"x-auth-login"⟩, Utf8.encode "alice")],
        [(⟨"x-auth-login"⟩, Utf8.encode "alice"), (⟨"x-auth-login-phash"⟩, Utf8.encode "spw")]] := by
  decide +kernel

end Client

end SessionRecovery
