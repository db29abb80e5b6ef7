import SessionRecovery.Proofs.Recovery.Observation

/-!
# The course of a call with recovery

Everything that an action can do, and everything that a call can do after an answer to its request, said
once as two relations with the observations as an index. Every run of the controller is such a course,
and an observed run keeps just the observations of its course, so what holds of all calls is proved by
induction over courses.
-/

namespace SessionRecovery

variable {σ : Type}

namespace Handler

/-- A probe that a login may do without: it went well, or its failure was reported and forgotten. -/
inductive Tries (h : Handler σ) (operation : String) : σ → List (Observation σ) → σ → Prop
  /-- The probe went well. -/
  | fresh {s s' : σ} {r : Response} (hp : h.refreshCsrf s = (.ok r, s')) :
      Tries h operation s [⟨.csrf (.ok r), s'⟩] s'
  /-- The probe failed, but the caller did not give up. -/
  | skipped {s s' : σ} {e : Error} (hp : h.refreshCsrf s = (.error e, s')) (he : e ≠ .cancelled) :
      Tries h operation s
        [⟨.csrf (.error e), s'⟩,
          ⟨.report (.bestEffortFailed operation .csrfProbe e),
            h.report (.bestEffortFailed operation .csrfProbe e) s'⟩]
        (h.report (.bestEffortFailed operation .csrfProbe e) s')

/-- What an action does, exit by exit: where it begins, what is observed, how and where it ends. -/
inductive Takes (h : Handler σ) (operation : String) :
    Action → σ → List (Observation σ) → Except Error Unit → σ → Prop
  /-- There is nothing to do. -/
  | nothing {s : σ} : Takes h operation .none s [] (.ok ()) s
  /-- The caller gave up before the first step. -/
  | abandoned {s : σ} {a : Action} (ha : a ≠ .none) (hc : h.cancelled s = true) :
      Takes h operation a s [] (.error .cancelled) s
  /-- The probe failed. -/
  | probeFailed {s s' : σ} {e : Error} (hc : h.cancelled s = false)
      (hp : h.refreshCsrf s = (.error e, s')) :
      Takes h operation .refreshCsrf s [⟨.csrf (.error e), s'⟩] (.error e) s'
  /-- The probe went well. -/
  | probed {s s' : σ} {r : Response} (hc : h.cancelled s = false)
      (hp : h.refreshCsrf s = (.ok r, s')) :
      Takes h operation .refreshCsrf s [⟨.csrf (.ok r), s'⟩] (.ok ()) s'
  /-- The exchange failed. -/
  | exchangeFailed {s s' : σ} {e : Error} (hc : h.cancelled s = false)
      (hr : h.refreshToken s = (.error e, s')) :
      Takes h operation .refreshToken s [⟨.refresh (.error e), s'⟩] (.error e) s'
  /-- The exchange went well, and the refresh token was handed over. -/
  | exchanged {s s' : σ} {r : Response} (hc : h.cancelled s = false)
      (hr : h.refreshToken s = (.ok r, s')) :
      Takes h operation .refreshToken s
        [⟨.refresh (.ok r), s'⟩, ⟨.persist, h.persist s'⟩] (.ok ()) (h.persist s')
  /-- There were no credentials. -/
  | unprovided {s s' : σ} {e : Error} (hc : h.cancelled s = false)
      (hp : h.credentials s = (.error e, s')) :
      Takes h operation .login s [⟨.credentials (.error e), s'⟩]
        (.error e.asCredentialsUnavailable) s'
  /-- The caller gave up while there were credentials already. -/
  | providedLate {s s' : σ} {cr : Credentials} (hc : h.cancelled s = false)
      (hp : h.credentials s = (.ok cr, s')) (hc' : h.cancelled s' = true) :
      Takes h operation .login s [⟨.credentials (.ok cr), s'⟩] (.error .cancelled) s'
  /-- The caller gave up during the probe. -/
  | probeAbandoned {s s' s'' : σ} {cr : Credentials} (hc : h.cancelled s = false)
      (hp : h.credentials s = (.ok cr, s')) (hc' : h.cancelled s' = false)
      (ht : h.refreshCsrf s' = (.error .cancelled, s'')) :
      Takes h operation .login s
        [⟨.credentials (.ok cr), s'⟩, ⟨.csrf (.error .cancelled), s''⟩] (.error .cancelled) s''
  /-- The caller gave up after the probe. -/
  | triedLate {s s' s'' : σ} {cr : Credentials} {os : List (Observation σ)}
      (hc : h.cancelled s = false) (hp : h.credentials s = (.ok cr, s'))
      (hc' : h.cancelled s' = false) (ht : Tries h operation s' os s'')
      (hc'' : h.cancelled s'' = true) :
      Takes h operation .login s (⟨.credentials (.ok cr), s'⟩ :: os) (.error .cancelled) s''
  /-- The login failed. -/
  | loginFailed {s s' s'' t : σ} {cr : Credentials} {os : List (Observation σ)} {e : Error}
      (hc : h.cancelled s = false) (hp : h.credentials s = (.ok cr, s'))
      (hc' : h.cancelled s' = false) (ht : Tries h operation s' os s'')
      (hc'' : h.cancelled s'' = false) (hl : h.login cr s'' = (.error e, t)) :
      Takes h operation .login s
        (⟨.credentials (.ok cr), s'⟩ :: os ++ [⟨.login cr (.error e), t⟩]) (.error e) t
  /-- The login went well, and the refresh token was handed over. -/
  | loggedIn {s s' s'' t : σ} {cr : Credentials} {os : List (Observation σ)} {r : Response}
      (hc : h.cancelled s = false) (hp : h.credentials s = (.ok cr, s'))
      (hc' : h.cancelled s' = false) (ht : Tries h operation s' os s'')
      (hc'' : h.cancelled s'' = false) (hl : h.login cr s'' = (.ok r, t)) :
      Takes h operation .login s
        (⟨.credentials (.ok cr), s'⟩ :: os ++
          [⟨.login cr (.ok r), t⟩, ⟨.persist, h.persist t⟩]) (.ok ()) (h.persist t)

end Handler

/-- The primitives that an action calls, in order. -/
def Action.block : Action → List Primitive
  | .none => []
  | .refreshCsrf => [.csrf]
  | .login => [.credentials, .csrf, .login, .persist]
  | .refreshToken => [.refresh, .persist]

/-- No action sends the request itself. -/
theorem Action.send_notMem_block (a : Action) : Primitive.send ∉ a.block := by
  cases a <;> decide

namespace Handler

open Observation

variable {h : Handler σ} {operation : String} {a : Action} {s s' : σ}
  {os : List (Observation σ)} {x : Except Error Unit}

/-- A probe before a login is one call. -/
theorem Tries.primitives_eq (ht : h.Tries operation s os s') : primitives os = [.csrf] := by
  cases ht <;> rfl

/-- A probe before a login begins no action. -/
theorem Tries.started_eq_nil (ht : h.Tries operation s os s') : started os = [] := by
  cases ht <;> rfl

/-- A probe before a login ends at the state after its last observation. -/
theorem Tries.exists_after (ht : h.Tries operation s os s') : ∃ o ∈ os, o.after = s' := by
  cases ht with
  | fresh hp => exact ⟨_, List.mem_singleton_self _, rfl⟩
  | skipped hp he => exact ⟨_, List.mem_cons_of_mem _ (List.mem_singleton_self _), rfl⟩

/-- An action calls its primitives in order, and possibly not all of them. -/
theorem Takes.primitives_prefix (ht : h.Takes operation a s os x s') :
    primitives os <+: a.block := by
  cases ht with
  | triedLate hc hp hc' ht hc'' =>
    rw [primitives_cons, ht.primitives_eq]
    exact ⟨[.login, .persist], rfl⟩
  | loginFailed hc hp hc' ht hc'' hl =>
    rw [List.cons_append, primitives_cons, primitives_append, ht.primitives_eq]
    exact ⟨[.persist], rfl⟩
  | loggedIn hc hp hc' ht hc'' hl =>
    rw [List.cons_append, primitives_cons, primitives_append, ht.primitives_eq]
    exact ⟨[], rfl⟩
  | _ => exact ⟨_, rfl⟩

/-- An action that went well called all its primitives. -/
theorem Takes.primitives_eq (ht : h.Takes operation a s os (.ok ()) s') :
    primitives os = a.block := by
  cases ht with
  | loggedIn hc hp hc' ht hc'' hl =>
    rw [List.cons_append, primitives_cons, primitives_append, ht.primitives_eq]
    rfl
  | _ => rfl

/-- An action does not send the request. -/
theorem Takes.sends_eq_nil (ht : h.Takes operation a s os x s') : sends os = [] :=
  Observation.sends_eq_nil fun hm => a.send_notMem_block (ht.primitives_prefix.subset hm)

/-- An action begins no other action. -/
theorem Takes.started_eq_nil (ht : h.Takes operation a s os x s') : started os = [] := by
  cases ht with
  | triedLate hc hp hc' ht hc'' => rw [started_cons, ht.started_eq_nil]; rfl
  | loginFailed hc hp hc' ht hc'' hl =>
    rw [List.cons_append, started_cons, started_append, ht.started_eq_nil]; rfl
  | loggedIn hc hp hc' ht hc'' hl =>
    rw [List.cons_append, started_cons, started_append, ht.started_eq_nil]; rfl
  | _ => rfl

/-- An action fails with the error of its last call, or because the caller gave up on the way. -/
theorem Takes.raises {e : Error} (ht : h.Takes operation a s os (.error e) s')
    {o : Observation σ} (ho : o.after = s) : h.Raises (o :: os) e := by
  cases ht with
  | abandoned ha hc => exact .gone List.mem_cons_self (by rw [ho, hc])
  | probeFailed hc hp => exact .last rfl [o]
  | exchangeFailed hc hr => exact .last rfl [o]
  | unprovided hc hp => exact .last rfl [o]
  | providedLate hc hp hc' =>
    exact .gone (List.mem_cons_of_mem _ (List.mem_singleton_self _)) hc'
  | probeAbandoned hc hp hc' ht => exact .last rfl [o, _]
  | triedLate hc hp hc' ht hc'' =>
    obtain ⟨o', hm, ho'⟩ := ht.exists_after
    exact .gone (List.mem_cons_of_mem _ (List.mem_cons_of_mem _ hm)) (by rw [ho', hc''])
  | @loginFailed _ _ _ _ _ os _ hc hp hc' ht hc'' hl => exact .last rfl (o :: _ :: os)

end Handler

namespace Controller

/-- An answer asks for an action that the budget allows, and the action is reported to begin. -/
structure Starts (c : Controller) (h : Handler σ) (request : Request) (p : Progress)
    (response : Response) (s : σ) (a : Action) (n : UInt8) (b : Budget) (t : σ) : Prop where
  /-- The answer asks for the action. -/
  selected : Action.select c.codes (h.session s) response = a
  /-- There is something to do. -/
  needed : a ≠ .none
  /-- The budget allows the action. -/
  allowed : p.budget.consume a = .ok (n, b)
  /-- The beginning is reported. -/
  reported : h.report (.recoveryStart request.operation a n response.status response.errorCode) s = t

/-- What a call does after an answer to its request: how far it had come, the answer and the state after
it, what is observed from there on, and the end with its result, progress and state. -/
inductive Course (c : Controller) (h : Handler σ) (request : Request) :
    Progress → Except Error Response → σ → List (Observation σ) →
      Except Error Response → Progress → σ → Prop
  /-- There was no answer. -/
  | failed {p : Progress} {e : Error} {s : σ} : Course c h request p (.error e) s [] (.error e) p s
  /-- The answer asks for nothing. -/
  | settled {p : Progress} {response : Response} {s : σ}
      (ha : Action.select c.codes (h.session s) response = .none) :
      Course c h request p (.ok response) s [] (.ok response) p s
  /-- The answer asks for an action that may not be taken once more. -/
  | exhausted {p : Progress} {response : Response} {s : σ} {a : Action} {e : Error}
      (ha : Action.select c.codes (h.session s) response = a) (hne : a ≠ .none)
      (hb : p.budget.consume a = .error e) :
      Course c h request p (.ok response) s
        [⟨.report (.recoveryExhausted request.operation a (c.limits.limitFor a)),
          h.report (.recoveryExhausted request.operation a (c.limits.limitFor a)) s⟩]
        (.error e) p (h.report (.recoveryExhausted request.operation a (c.limits.limitFor a)) s)
  /-- The action failed. -/
  | broken {p : Progress} {response : Response} {s started s' : σ} {a : Action} {n : UInt8}
      {b : Budget} {os : List (Observation σ)} {e : Error}
      (hs : c.Starts h request p response s a n b started)
      (ht : h.Takes request.operation a started os (.error e) s') :
      Course c h request p (.ok response) s
        (⟨.report (.recoveryStart request.operation a n response.status response.errorCode),
            started⟩ :: os ++
          [⟨.report (.recoveryFailure request.operation a e),
            h.report (.recoveryFailure request.operation a e) s'⟩])
        (.error e) ⟨b, p.actions ++ [a], p.requestsSent⟩
        (h.report (.recoveryFailure request.operation a e) s')
  /-- The caller gave up before the request was sent again. -/
  | abandoned {p : Progress} {response : Response} {s started s' recovered : σ} {a : Action}
      {n : UInt8} {b : Budget} {os : List (Observation σ)}
      (hs : c.Starts h request p response s a n b started)
      (ht : h.Takes request.operation a started os (.ok ()) s')
      (hr : h.report (.recoverySuccess request.operation a) s' = recovered)
      (hc : h.cancelled recovered = true) :
      Course c h request p (.ok response) s
        (⟨.report (.recoveryStart request.operation a n response.status response.errorCode),
            started⟩ :: os ++ [⟨.report (.recoverySuccess request.operation a), recovered⟩])
        (.error .cancelled) ⟨b, p.actions ++ [a], p.requestsSent⟩ recovered
  /-- The action went well, and the request was sent again. -/
  | again {p p' : Progress} {response : Response} {s started s' recovered s'' t : σ} {a : Action}
      {n : UInt8} {b : Budget} {os rest : List (Observation σ)}
      {result result' : Except Error Response}
      (hs : c.Starts h request p response s a n b started)
      (ht : h.Takes request.operation a started os (.ok ()) s')
      (hr : h.report (.recoverySuccess request.operation a) s' = recovered)
      (hc : h.cancelled recovered = false)
      (hsend : h.resend request recovered = (result, s''))
      (hrest : Course c h request ⟨b, p.actions ++ [a], saturatingSucc p.requestsSent⟩ result s''
        rest result' p' t) :
      Course c h request p (.ok response) s
        (⟨.report (.recoveryStart request.operation a n response.status response.errorCode),
            started⟩ :: os ++
          ⟨.report (.recoverySuccess request.operation a), recovered⟩ ::
            ⟨.send request result, s''⟩ :: rest)
        result' p' t

end Controller

namespace Handler

/-- Every probe before a login is given up or is tried, and an observed one records just that. -/
theorem tries_tryRefreshCsrf (h : Handler σ) (operation : String) (s : σ) :
    (∃ s', h.refreshCsrf s = (.error .cancelled, s') ∧
      Run.Records (h.tryRefreshCsrf operation) (h.observed.tryRefreshCsrf operation) s
        [⟨.csrf (.error .cancelled), s'⟩] (.error .cancelled) s') ∨
    ∃ os s', h.Tries operation s os s' ∧
      Run.Records (h.tryRefreshCsrf operation) (h.observed.tryRefreshCsrf operation) s os
        (.ok ()) s' := by
  obtain ⟨x, s', hp⟩ : ∃ x s', h.refreshCsrf s = (x, s') := ⟨_, _, rfl⟩
  have hobs (before) : h.observed.refreshCsrf (s, before) = (x, s', before ++ [⟨.csrf x, s'⟩]) :=
    (records_observing .csrf hp).twin before
  cases x with
  | ok r =>
    refine .inr ⟨_, _, .fresh hp, ?_, fun before => ?_⟩
    · rw [tryRefreshCsrf, hp]
    · rw [tryRefreshCsrf, hobs]
  | error e =>
    by_cases he : e = .cancelled
    · subst he
      refine .inl ⟨s', hp, ?_, fun before => ?_⟩
      · rw [tryRefreshCsrf, hp]
      · rw [tryRefreshCsrf, hobs]
    · refine .inr ⟨_, _, .skipped hp he, ?_, fun before => ?_⟩
      · rw [tryRefreshCsrf, hp]
        cases e <;> first | exact absurd rfl he | rfl
      · rw [tryRefreshCsrf, hobs]
        cases e <;> first | exact absurd rfl he | simp only [observed_report, List.append_assoc,
          List.cons_append, List.nil_append]

/-- Every exchange of the refresh token is a course. -/
theorem takes_refreshToken {h : Handler σ} {s : σ} (operation : String)
    (hc : h.cancelled s = false) :
    ∃ os x s', h.Takes operation .refreshToken s os x s' ∧
      Run.Records (h.recover operation .refreshToken) (h.observed.recover operation .refreshToken)
        s os x s' := by
  have ha := records_active hc
  obtain ⟨x, s', hr⟩ : ∃ x s', h.refreshToken s = (x, s') := ⟨_, _, rfl⟩
  have hrec : Run.Records h.refreshToken h.observed.refreshToken s [⟨.refresh x, s'⟩] x s' :=
    records_observing .refresh hr
  rw [recover, recover]
  cases x with
  | error e => exact ⟨_, _, _, .exchangeFailed hc hr, ha.bind_ok hrec.bind_error⟩
  | ok r => exact ⟨_, _, _, .exchanged hc hr, ha.bind_ok (hrec.bind_ok (records_persist s'))⟩

/-- Every mandatory probe is a course. -/
theorem takes_refreshCsrf {h : Handler σ} {s : σ} (operation : String)
    (hc : h.cancelled s = false) :
    ∃ os x s', h.Takes operation .refreshCsrf s os x s' ∧
      Run.Records (h.recover operation .refreshCsrf) (h.observed.recover operation .refreshCsrf)
        s os x s' := by
  have ha := records_active hc
  obtain ⟨x, s', hp⟩ : ∃ x s', h.refreshCsrf s = (x, s') := ⟨_, _, rfl⟩
  have hrec : Run.Records h.refreshCsrf h.observed.refreshCsrf s [⟨.csrf x, s'⟩] x s' :=
    records_observing .csrf hp
  rw [recover, recover]
  cases x with
  | error e => exact ⟨_, _, _, .probeFailed hc hp, ha.bind_ok hrec.bind_error⟩
  | ok r => exact ⟨_, _, _, .probed hc hp, ha.bind_ok (hrec.bind_ok (.pure ()))⟩

/-- Every login is a course. -/
theorem takes_login {h : Handler σ} {s : σ} (operation : String) (hc : h.cancelled s = false) :
    ∃ os x s', h.Takes operation .login s os x s' ∧
      Run.Records (h.recover operation .login) (h.observed.recover operation .login) s os x s' := by
  have ha := records_active hc
  obtain ⟨x, s₁, hp⟩ : ∃ x s', h.credentials s = (x, s') := ⟨_, _, rfl⟩
  rw [recover, recover]
  cases x with
  | error e =>
    exact ⟨_, _, _, .unprovided hc hp, ha.bind_ok (records_unprovided hp).bind_error⟩
  | ok cr =>
    have hcr := records_provided hp
    cases hc₁ : h.cancelled s₁ with
    | true =>
      have hgone := records_cancelled hc₁
      exact ⟨_, _, _, .providedLate hc hp hc₁, ha.bind_ok (hcr.bind_ok hgone.bind_error)⟩
    | false =>
      have ha₁ := records_active hc₁
      rcases h.tries_tryRefreshCsrf operation s₁ with ⟨s₂, ht, hrec⟩ | ⟨os, s₂, ht, hrec⟩
      · exact ⟨_, _, _, .probeAbandoned hc hp hc₁ ht,
          ha.bind_ok (hcr.bind_ok (ha₁.bind_ok hrec.bind_error))⟩
      · cases hc₂ : h.cancelled s₂ with
        | true =>
          have hgone := records_cancelled hc₂
          refine ⟨_, _, _, .triedLate hc hp hc₁ ht hc₂, ?_⟩
          rw [← List.append_nil os]
          exact ha.bind_ok (hcr.bind_ok (ha₁.bind_ok (hrec.bind_ok hgone.bind_error)))
        | false =>
          have ha₂ := records_active hc₂
          obtain ⟨y, t, hl⟩ : ∃ y t, h.login cr s₂ = (y, t) := ⟨_, _, rfl⟩
          have hlogin : Run.Records (h.login cr) (h.observed.login cr) s₂ [⟨.login cr y, t⟩] y t :=
            records_observing (.login cr) hl
          cases y with
          | error e =>
            exact ⟨_, _, _, .loginFailed hc hp hc₁ ht hc₂ hl, ha.bind_ok (hcr.bind_ok
              (ha₁.bind_ok (hrec.bind_ok (ha₂.bind_ok hlogin.bind_error))))⟩
          | ok r =>
            exact ⟨_, _, _, .loggedIn hc hp hc₁ ht hc₂ hl, ha.bind_ok (hcr.bind_ok
              (ha₁.bind_ok (hrec.bind_ok (ha₂.bind_ok (hlogin.bind_ok (records_persist t))))))⟩

/-- Every run of an action is one of its courses, and an observed run records just its observations. -/
theorem takes_recover (h : Handler σ) (operation : String) (a : Action) (s : σ) :
    ∃ os x s', h.Takes operation a s os x s' ∧
      Run.Records (h.recover operation a) (h.observed.recover operation a) s os x s' := by
  by_cases ha : a = .none
  · subst ha
    exact ⟨_, _, _, .nothing, .pure ()⟩
  cases hc : h.cancelled s with
  | true =>
    have hgone := records_cancelled hc
    refine ⟨_, _, _, .abandoned ha hc, ?_⟩
    cases a with
    | none => exact absurd rfl ha
    | _ => exact hgone.bind_error
  | false =>
    cases a with
    | none => exact absurd rfl ha
    | refreshCsrf => exact takes_refreshCsrf operation hc
    | login => exact takes_login operation hc
    | refreshToken => exact takes_refreshToken operation hc

end Handler

namespace Controller

section Equations

variable {c : Controller} {h : Handler σ} {request : Request} {p : Progress} {response : Response}
  {s started s' : σ} {a : Action} {n : UInt8} {b : Budget}

/-- Without an answer the call ends. -/
theorem continueAfter_failed (e : Error) :
    c.continueAfter h request p (.error e) s = (.error e, p, s) := by
  rw [continueAfter]

/-- An answer that asks for nothing ends the call. -/
theorem continueAfter_settled (ha : Action.select c.codes (h.session s) response = .none) :
    c.continueAfter h request p (.ok response) s = (.ok response, p, s) := by
  rw [continueAfter]
  simp only [ha, dite_true]

/-- An answer that asks for too much ends the call. -/
theorem continueAfter_exhausted {e : Error}
    (ha : Action.select c.codes (h.session s) response = a) (hne : a ≠ .none)
    (hb : p.budget.consume a = .error e) :
    c.continueAfter h request p (.ok response) s = (.error e, p,
      h.report (.recoveryExhausted request.operation a (c.limits.limitFor a)) s) := by
  subst ha
  rw [continueAfter]
  simp only [hne, dite_false]
  split
  · next e' he' =>
    rw [hb] at he'
    cases he'
    rfl
  · next he' =>
    rw [hb] at he'
    cases he'

/-- An answer that starts an action goes on with the action. -/
theorem continueAfter_starts (hs : c.Starts h request p response s a n b started) :
    c.continueAfter h request p (.ok response) s =
      match h.recover request.operation a started with
      | (.error e, s') =>
        (.error e, ⟨b, p.actions ++ [a], p.requestsSent⟩,
          h.report (.recoveryFailure request.operation a e) s')
      | (.ok (), s') =>
        if h.cancelled (h.report (.recoverySuccess request.operation a) s') then
          (.error .cancelled, ⟨b, p.actions ++ [a], p.requestsSent⟩,
            h.report (.recoverySuccess request.operation a) s')
        else
          c.continueAfter h request ⟨b, p.actions ++ [a], saturatingSucc p.requestsSent⟩
            (h.resend request (h.report (.recoverySuccess request.operation a) s')).1
            (h.resend request (h.report (.recoverySuccess request.operation a) s')).2 := by
  obtain ⟨ha, hne, hb, hr⟩ := hs
  subst ha hr
  rw [continueAfter]
  simp only [hne, dite_false]
  split
  · next he =>
    rw [hb] at he
    cases he
  · next he =>
    rw [hb] at he
    cases he
    rfl

/-- The same start, observed. -/
theorem Starts.observed (hs : c.Starts h request p response s a n b started)
    (before : List (Observation σ)) :
    c.Starts h.observed request p response (s, before) a n b
      (started, before ++
        [⟨.report (.recoveryStart request.operation a n response.status response.errorCode),
          started⟩]) := by
  obtain ⟨ha, hne, hb, hr⟩ := hs
  refine ⟨ha, hne, hb, ?_⟩
  rw [Handler.observed_report, hr]

end Equations

/-- Every run after an answer is a course, and an observed run keeps just its observations. -/
theorem course_continueAfter (c : Controller) (h : Handler σ) (request : Request) (p : Progress)
    (result : Except Error Response) (s : σ) :
    ∃ os x p' t, c.Course h request p result s os x p' t ∧
      c.continueAfter h request p result s = (x, p', t) ∧
      ∀ before, c.continueAfter h.observed request p result (s, before) =
        (x, p', t, before ++ os) := by
  induction p, result, s using continueAfter.induct c h request with
  | case1 p s e =>
    refine ⟨_, _, _, _, .failed, continueAfter_failed e, fun before => ?_⟩
    rw [continueAfter_failed, List.append_nil]
  | case2 p s response action ha =>
    refine ⟨_, _, _, _, .settled ha, continueAfter_settled ha, fun before => ?_⟩
    rw [continueAfter_settled (h := h.observed) (s := (s, before)) ha, List.append_nil]
  | case3 p s response action hne e hb =>
    refine ⟨_, _, _, _, .exhausted rfl hne hb, continueAfter_exhausted rfl hne hb,
      fun before => ?_⟩
    rw [continueAfter_exhausted (h := h.observed) (s := (s, before)) rfl hne hb,
      Handler.observed_report]
    rfl
  | case4 p s response action hne n b hb started e s' hr =>
    have hs : c.Starts h request p response s action n b started := ⟨rfl, hne, hb, rfl⟩
    obtain ⟨os, x, t, ht, hrec, hobs⟩ := h.takes_recover request.operation action started
    rw [hr] at hrec
    cases hrec
    refine ⟨_, _, _, _, .broken hs ht, ?_, fun before => ?_⟩
    · rw [continueAfter_starts hs, hr]
    · rw [continueAfter_starts (hs.observed before), hobs]
      simp only [Handler.observed_report, List.append_assoc, List.cons_append, List.nil_append]
  | case5 p s response action hne n b hb started s' hr recovered hc =>
    have hs : c.Starts h request p response s action n b started := ⟨rfl, hne, hb, rfl⟩
    obtain ⟨os, x, t, ht, hrec, hobs⟩ := h.takes_recover request.operation action started
    rw [hr] at hrec
    cases hrec
    refine ⟨_, _, _, _, .abandoned hs ht rfl hc, ?_, fun before => ?_⟩
    · rw [continueAfter_starts hs, hr]
      exact if_pos hc
    · rw [continueAfter_starts (hs.observed before), hobs]
      simp only [Handler.observed_report, List.append_assoc, List.cons_append, List.nil_append]
      exact if_pos hc
  | case6 p s response action hne n b hb started s' hr recovered hc result s'' hsend ih =>
    have hs : c.Starts h request p response s action n b started := ⟨rfl, hne, hb, rfl⟩
    have hc : h.cancelled recovered = false := Bool.eq_false_iff.mpr hc
    have hco (before) : h.observed.cancelled (recovered, before) = false := hc
    obtain ⟨os, x, t, ht, hrec, hobs⟩ := h.takes_recover request.operation action started
    rw [hr] at hrec
    cases hrec
    have hsendObs (before) := (Handler.records_observing (.send request) hsend).twin before
    obtain ⟨rest, x, p', t, hcourse, hrun, hrunObs⟩ := ih
    refine ⟨_, x, p', t, .again hs ht rfl hc hsend hcourse, ?_, fun before => ?_⟩
    · rw [continueAfter_starts hs, hr]
      dsimp only
      rw [if_neg (Bool.eq_false_iff.mp hc), hsend]
      exact hrun
    · rw [continueAfter_starts (hs.observed before), hobs]
      dsimp only
      rw [Handler.observed_report, if_neg (Bool.eq_false_iff.mp (hco _)),
        show h.observed.resend request _ = _ from hsendObs _, hrunObs]
      simp only [List.append_assoc, List.cons_append, List.nil_append]

/-- The outcome of a call that has come so far and ends with a result. -/
def outcome (request : Request) (p : Progress) (result : Except Error Response) : Outcome :=
  ⟨request.operation, p.actions, p.requestsSent, succeeded result⟩

/-- Everything that a call does, in order. -/
def observations (c : Controller) (h : Handler σ) (request : Request) (s : σ) :
    List (Observation σ) := (c.execute h.observed request (s, [])).2.2.2

/-- A whole call sends its request, follows a course from the answer, and reports the outcome. -/
theorem course_execute (c : Controller) (h : Handler σ) (request : Request) (s : σ) :
    ∃ first s₁ os x p t, h.resend request s = (first, s₁) ∧
      c.Course h request c.startProgress first s₁ os x p t ∧
      c.execute h request s =
        (x, outcome request p x, h.report (.recoveryOutcome (outcome request p x)) t) ∧
      c.execute h.observed request (s, []) =
        (x, outcome request p x, h.report (.recoveryOutcome (outcome request p x)) t,
          ⟨.send request first, s₁⟩ :: os ++ [⟨.report (.recoveryOutcome (outcome request p x)),
            h.report (.recoveryOutcome (outcome request p x)) t⟩]) := by
  obtain ⟨first, s₁, hsend⟩ : ∃ x s', h.resend request s = (x, s') := ⟨_, _, rfl⟩
  obtain ⟨os, x, p, t, hcourse, hrun, hobs⟩ :=
    c.course_continueAfter h request c.startProgress first s₁
  refine ⟨first, s₁, os, x, p, t, hsend, hcourse, ?_, ?_⟩
  · rw [execute, hsend]
    dsimp only
    rw [hrun]
    rfl
  · have hsendObs : h.observed.resend request (s, []) = (first, s₁, [⟨.send request first, s₁⟩]) :=
      (Handler.records_observing (.send request) hsend).twin []
    rw [execute, hsendObs]
    dsimp only
    rw [hobs]
    rfl

/-- Observing changes nothing: an observed call ends as the call does, with its observations. -/
theorem execute_observed (c : Controller) (h : Handler σ) (request : Request) (s : σ) :
    c.execute h.observed request (s, []) =
      ((c.execute h request s).1, (c.execute h request s).2.1, (c.execute h request s).2.2,
        c.observations h request s) := by
  obtain ⟨first, s₁, os, x, p, t, -, -, hrun, hobs⟩ := c.course_execute h request s
  rw [observations, hobs, hrun]

end Controller

end SessionRecovery
