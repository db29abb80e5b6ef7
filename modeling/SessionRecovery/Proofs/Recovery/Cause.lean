import SessionRecovery.Proofs.Recovery.Bounds

/-!
# Causes of errors

A call with recovery fails for one of a few causes, each told by the last primitive that was called and by
the action under way. In the other direction every error of a primitive ends the call with that error and
without a further call, save one: a login does without its probe unless the caller gave up.
-/

namespace SessionRecovery

variable {σ : Type}

open Observation

/-- Whoever was asked for credentials says that there are none, or that the caller gave up. -/
def Error.IsRefusal (e : Error) : Prop := e = .cancelled ∨ ∃ reason, e = .credentialsUnavailable reason

theorem Error.asCredentialsUnavailable_of_isRefusal {e : Error} (h : e.IsRefusal) :
    e.asCredentialsUnavailable = e := by
  obtain rfl | ⟨reason, rfl⟩ := h <;> rfl

theorem Error.asCredentialsUnavailable_of_not_isRefusal {e : Error} (h : ¬ e.IsRefusal) :
    e.asCredentialsUnavailable = .credentialsUnavailable e.message := by
  cases e with
  | credentialsUnavailable reason => exact absurd (.inr ⟨reason, rfl⟩) h
  | cancelled => exact absurd (.inl rfl) h
  | _ => rfl

/-! ## Every error has a cause -/

namespace Controller

/-- Why a call fails, where `o` is the last primitive that was called, between what was observed before it
and after it. -/
inductive Cause (c : Controller) (h : Handler σ) (request : Request)
    (before : List (Observation σ)) (o : Observation σ) (rest : List (Observation σ)) :
    Error → Prop
  /-- The request was not answered. -/
  | unanswered {e : Error} (hd : o.deed = .send request (.error e)) : Cause c h request before o rest e
  /-- The answer asks for an action that has begun as often as it may. -/
  | exhausted {response : Response} {a : Action} (hd : o.deed = .send request (.ok response))
      (ha : Action.select c.codes (h.session o.after) response = a) (hne : a ≠ .none)
      (hn : (started before).count a = (c.limits.limitFor a).toNat) :
      Cause c h request before o rest (.recoveryExhausted a (c.limits.limitFor a))
  /-- The probe failed, and it was all that the action consists of. -/
  | probe {e : Error} (hd : o.deed = .csrf (.error e))
      (ha : (started before).getLast? = some .refreshCsrf) : Cause c h request before o rest e
  /-- The login failed. -/
  | login {cr : Credentials} {e : Error} (hd : o.deed = .login cr (.error e)) :
      Cause c h request before o rest e
  /-- The exchange of the refresh token failed. -/
  | exchange {e : Error} (hd : o.deed = .refresh (.error e)) : Cause c h request before o rest e
  /-- The provider refused. -/
  | refused {e : Error} (hd : o.deed = .credentials (.error e)) (he : e.IsRefusal) :
      Cause c h request before o rest e
  /-- The provider failed in another way, whose words become the reason. -/
  | unprovided {e : Error} (hd : o.deed = .credentials (.error e)) (he : ¬ e.IsRefusal) :
      Cause c h request before o rest (.credentialsUnavailable e.message)
  /-- The caller gave up during the probe before a login. -/
  | abandonedProbe (hd : o.deed = .csrf (.error .cancelled))
      (ha : (started before).getLast? = some .login) : Cause c h request before o rest .cancelled
  /-- The caller had given up when it was checked, after the last primitive. -/
  | gaveUp {o' : Observation σ} (ho : o' ∈ o :: rest) (hc : h.cancelled o'.after = true) :
      Cause c h request before o rest .cancelled

/-- The last primitive among some observations gives a cause for an error. -/
def Explains (c : Controller) (h : Handler σ) (request : Request) (os : List (Observation σ))
    (e : Error) : Prop :=
  ∃ before o rest, os = before ++ o :: rest ∧ o.deed.primitive?.isSome = true ∧ calls rest = [] ∧
    c.Cause h request before o rest e

variable {c : Controller} {h : Handler σ} {request : Request} {e : Error}

theorem Cause.append {before rest : List (Observation σ)} {o : Observation σ}
    (hc : c.Cause h request before o rest e) (ps : List (Observation σ)) :
    c.Cause h request before o (rest ++ ps) e := by
  cases hc with
  | unanswered hd => exact .unanswered hd
  | exhausted hd ha hne hn => exact .exhausted hd ha hne hn
  | probe hd ha => exact .probe hd ha
  | login hd => exact .login hd
  | exchange hd => exact .exchange hd
  | refused hd he => exact .refused hd he
  | unprovided hd he => exact .unprovided hd he
  | abandonedProbe hd ha => exact .abandonedProbe hd ha
  | gaveUp ho hc => exact .gaveUp (List.mem_append_left ps ho) hc

/-- Events after the last primitive leave its cause. -/
theorem Explains.append {os ps : List (Observation σ)} (he : c.Explains h request os e)
    (hp : calls ps = []) : c.Explains h request (os ++ ps) e := by
  obtain ⟨before, o, rest, rfl, ho, hrest, hc⟩ := he
  refine ⟨before, o, rest ++ ps, List.append_assoc .., ho, ?_, hc.append ps⟩
  rw [calls_append, hrest, hp]
  rfl

end Controller

/-- Where a primitive was called, one was called last. -/
theorem Observation.exists_last_call {os : List (Observation σ)} (h : calls os ≠ []) :
    ∃ before o rest, os = before ++ o :: rest ∧ o.deed.primitive?.isSome = true ∧ calls rest = [] := by
  induction os with
  | nil => exact absurd rfl h
  | cons o os ih =>
    by_cases hos : calls os = []
    · refine ⟨[], o, os, rfl, ?_, hos⟩
      by_contra ho
      rw [calls_cons, if_neg ho] at h
      exact h hos
    · obtain ⟨before, o', rest, rfl, ho', hrest⟩ := ih hos
      exact ⟨o :: before, o', rest, rfl, ho', hrest⟩

/-- The action that began last is the one under way. -/
theorem Observation.getLast?_started {before mid : List (Observation σ)} {o start : Observation σ}
    {a : Action} (hs : start.deed.started? = some a) (hmid : started mid = []) :
    (started (before ++ o :: start :: mid)).getLast? = some a := by
  rw [started_append, started_cons, started_cons, hs, hmid, ← List.append_assoc]
  exact List.getLast?_concat

namespace Handler

variable {h : Handler σ} {operation : String} {a : Action} {s s' : σ} {os : List (Observation σ)}

/-- An action that fails has a cause: its own last primitive, or the caller had given up before its first
one, when the last primitive was that of the observation `o` before the action began. -/
theorem Takes.explains {e : Error} (ht : h.Takes operation a s os (.error e) s') (c : Controller)
    (request : Request) (before : List (Observation σ)) (o start : Observation σ)
    (ho : o.deed.primitive?.isSome = true) (hs : start.deed.started? = some a)
    (hn : start.deed.primitive? = none) (hafter : start.after = s) :
    c.Explains h request (before ++ o :: start :: os) e := by
  have hstart : calls [start] = [] := by rw [calls_cons, hn]; rfl
  cases ht with
  | abandoned ha hc =>
    exact ⟨before, o, [start], rfl, ho, hstart,
      .gaveUp (List.mem_cons_of_mem _ (List.mem_singleton_self _)) (hafter ▸ hc)⟩
  | @probeFailed _ s' e hc hp =>
    exact ⟨before ++ [o, start], ⟨.csrf (.error e), s'⟩, [], by simp, rfl, rfl,
      .probe rfl (getLast?_started hs rfl)⟩
  | @exchangeFailed _ s' e hc hr =>
    exact ⟨before ++ [o, start], ⟨.refresh (.error e), s'⟩, [], by simp, rfl, rfl, .exchange rfl⟩
  | @unprovided _ s' e hc hp =>
    refine ⟨before ++ [o, start], ⟨.credentials (.error e), s'⟩, [], by simp, rfl, rfl, ?_⟩
    by_cases he : e.IsRefusal
    · rw [e.asCredentialsUnavailable_of_isRefusal he]
      exact .refused rfl he
    · rw [e.asCredentialsUnavailable_of_not_isRefusal he]
      exact .unprovided rfl he
  | @providedLate _ s' cr hc hp hc' =>
    exact ⟨before ++ [o, start], ⟨.credentials (.ok cr), s'⟩, [], by simp, rfl, rfl,
      .gaveUp (List.mem_singleton_self _) hc'⟩
  | @probeAbandoned _ s₁ _ cr hc hp hc' ht =>
    exact ⟨before ++ [o, start, ⟨.credentials (.ok cr), s₁⟩], ⟨.csrf (.error .cancelled), s'⟩, [],
      by simp, rfl, rfl, .abandonedProbe rfl (getLast?_started hs rfl)⟩
  | @triedLate _ s₁ _ cr os hc hp hc' ht hc'' =>
    -- the probe is the last primitive, whether its failure was reported or there was none
    cases ht with
    | @fresh _ r hp =>
      exact ⟨before ++ [o, start, ⟨.credentials (.ok cr), s₁⟩], ⟨.csrf (.ok r), s'⟩, [], by simp,
        rfl, rfl, .gaveUp (List.mem_singleton_self _) hc''⟩
    | @skipped s₂ e hp he =>
      exact ⟨before ++ [o, start, ⟨.credentials (.ok cr), s₁⟩], ⟨.csrf (.error e), s₂⟩,
        [⟨.report (.bestEffortFailed operation .csrfProbe e),
          h.report (.bestEffortFailed operation .csrfProbe e) s₂⟩], by simp, rfl, rfl,
        .gaveUp (List.mem_cons_of_mem _ (List.mem_singleton_self _)) hc''⟩
  | @loginFailed _ s₁ s₂ _ cr os e hc hp hc' ht hc'' hl =>
    exact ⟨before ++ o :: start :: ⟨.credentials (.ok cr), s₁⟩ :: os, ⟨.login cr (.error e), s'⟩,
      [], by simp, rfl, rfl, .login rfl⟩

end Handler

namespace Controller

variable {c : Controller} {h : Handler σ} {request : Request} {p p' : Progress}
  {result x : Except Error Response} {s t : σ} {os : List (Observation σ)}

/-- A call that goes on from an answer and fails has a cause. -/
theorem Course.explains (hc : c.Course h request p result s os x p' t) (hp : p.Counts c)
    (before : List (Observation σ)) (hb : started before = p.actions) {e : Error}
    (hx : x = .error e) :
    c.Explains h request (before ++ ⟨.send request result, s⟩ :: os) e := by
  induction hc generalizing before with
  | failed =>
    cases hx
    exact ⟨before, _, [], rfl, rfl, rfl, .unanswered rfl⟩
  | settled ha => cases hx
  | exhausted ha hne hbud =>
    cases hx
    obtain ⟨hn, rfl⟩ := hp.refused hne hbud
    exact ⟨before, _, _, rfl, rfl, rfl, .exhausted rfl ha hne (by rw [hb, hn])⟩
  | @broken p response s started' s' a n b os e hs ht =>
    cases hx
    have hex := ht.explains c request before ⟨.send request (.ok response), s⟩
      ⟨.report (.recoveryStart request.operation a n response.status response.errorCode), started'⟩
      rfl rfl rfl rfl
    simpa only [List.append_assoc, List.cons_append, List.nil_append] using hex.append rfl
  | @abandoned p response s started' s' recovered a n b os hs ht hr hcan =>
    cases hx
    -- the caller is found to have given up after the last primitive, whichever that is
    have hcalls : calls (before ++ ⟨.send request (.ok response), s⟩ :: ⟨.report (.recoveryStart
        request.operation a n response.status response.errorCode), started'⟩ :: os) ≠ [] := by
      simp [Deed.primitive?]
    obtain ⟨before', o, rest, heq, ho, hrest⟩ := exists_last_call hcalls
    refine ⟨before', o, rest ++ [⟨.report (.recoverySuccess request.operation a), recovered⟩], ?_,
      ho, ?_, .gaveUp (List.mem_cons_of_mem _ (List.mem_append_right _
        (List.mem_singleton_self _))) hcan⟩
    · have hall := congrArg (· ++ [⟨.report (.recoverySuccess request.operation a), recovered⟩]) heq
      simpa only [List.append_assoc, List.cons_append] using hall
    · rw [calls_append, hrest]
      rfl
  | @again p p' response s started' s' recovered s'' t a n b os rest result result' hs ht hr hcan
      hsend hrest ih =>
    have hcount := (hp.take hs.needed hs.allowed (saturatingSucc p.requestsSent)).1
    have hnext := ih hcount (before ++ ⟨.send request (.ok response), s⟩ ::
      ⟨.report (.recoveryStart request.operation a n response.status response.errorCode),
        started'⟩ :: os ++ [⟨.report (.recoverySuccess request.operation a), recovered⟩])
      (by simp [hb, ht.started_eq_nil, Deed.started?]) hx
    simpa only [List.append_assoc, List.cons_append, List.nil_append] using hnext

end Controller

/-! ## Every error ends the call -/

/-- A failed call of a primitive between others that a login does without: the probe that follows its
credentials failed, and the caller did not give up. -/
def Forgotten (before : List Deed) (d : Deed) : Prop :=
  ∃ pre cr e, before = pre ++ [.credentials (.ok cr)] ∧ d = .csrf (.error e) ∧ e ≠ .cancelled

/-- A call of a primitive between others, in a run with some result: if it raises an error it is the last
one and the error is the result, or it is forgotten. -/
def Surfaces (x : Except Error Response) (before : List Deed) (d : Deed) (after : List Deed) : Prop :=
  ∀ e, d.raised? = some e → after = [] ∧ x = .error e ∨ Forgotten before d

namespace Surfaces

variable {x : Except Error Response} {before after : List Deed} {d : Deed}

theorem of_quiet (hd : d.raised? = none) : Surfaces x before d after := by
  intro e he
  rw [hd] at he
  cases he

theorem of_last {e : Error} (hd : d.raised? = some e) (hx : x = .error e) :
    Surfaces x before d [] := by
  intro e' he
  rw [hd] at he
  cases he
  exact .inl ⟨rfl, hx⟩

end Surfaces

namespace Handler

variable {h : Handler σ} {operation : String} {a : Action} {s s' : σ} {os : List (Observation σ)}
  {x : Except Error Response}

/-- A probe before a login may fail, and is then forgotten. -/
theorem Tries.surfaces (ht : h.Tries operation s os s') (before after : List Deed)
    (cr : Credentials) :
    Throughout (Surfaces x) (before ++ [.credentials (.ok cr)]) (calls os) after := by
  cases ht with
  | fresh hp => exact .cons (.of_quiet rfl) .nil
  | skipped hp he => exact .cons (fun _ _ => .inr ⟨before, cr, _, rfl, rfl, he⟩) .nil

/-- An action that went well raised nothing that is not forgotten. -/
theorem Takes.surfaces_of_ok (ht : h.Takes operation a s os (.ok ()) s')
    (before after : List Deed) : Throughout (Surfaces x) before (calls os) after := by
  cases ht with
  | nothing => exact .nil
  | probed hc hp => exact .cons (.of_quiet rfl) .nil
  | exchanged hc hr => exact .cons (.of_quiet rfl) (.cons (.of_quiet rfl) .nil)
  | @loggedIn _ s₁ s₂ t cr os r hc hp hc' ht hc'' hl =>
    rw [List.cons_append, calls_cons, calls_append]
    exact .cons (.of_quiet rfl) (.append (ht.surfaces before _ cr)
      (.cons (.of_quiet rfl) (.cons (.of_quiet rfl) .nil)))

/-- An action that failed raised its error by its last call. -/
theorem Takes.surfaces_of_error {e : Error} (ht : h.Takes operation a s os (.error e) s')
    (hx : x = .error e) (before : List Deed) : Throughout (Surfaces x) before (calls os) [] := by
  cases ht with
  | abandoned ha hc => exact .nil
  | probeFailed hc hp => exact .cons (.of_last rfl hx) .nil
  | exchangeFailed hc hr => exact .cons (.of_last rfl hx) .nil
  | unprovided hc hp => exact .cons (.of_last rfl hx) .nil
  | providedLate hc hp hc' => exact .cons (.of_quiet rfl) .nil
  | probeAbandoned hc hp hc' ht => exact .cons (.of_quiet rfl) (.cons (.of_last rfl hx) .nil)
  | @triedLate _ s₁ s₂ cr os hc hp hc' ht hc'' =>
    rw [calls_cons]
    exact .cons (.of_quiet rfl) (ht.surfaces before [] cr)
  | @loginFailed _ s₁ s₂ t cr os e hc hp hc' ht hc'' hl =>
    rw [List.cons_append, calls_cons, calls_append]
    exact .cons (.of_quiet rfl)
      (.append (ht.surfaces before _ cr) (.cons (.of_last rfl hx) .nil))

end Handler

namespace Controller

variable {c : Controller} {h : Handler σ} {request : Request} {p p' : Progress}
  {result x : Except Error Response} {s t : σ} {os : List (Observation σ)}

/-- A request that was not answered ends the call. -/
theorem Course.surfaces_send (hc : c.Course h request p result s os x p' t) (before : List Deed) :
    Surfaces x before (.send request result) (calls os) := by
  cases hc with
  | failed => exact .of_last rfl rfl
  | _ => exact .of_quiet rfl

/-- The errors of a course end it, unless they are forgotten. -/
theorem Course.surfaces (hc : c.Course h request p result s os x p' t) (before : List Deed) :
    Throughout (Surfaces x) before (calls os) [] := by
  induction hc generalizing before with
  | failed => exact .nil
  | settled ha => exact .nil
  | exhausted ha hne hb => exact .nil
  | broken hs ht =>
    rw [List.cons_append, calls_cons, calls_append]
    exact .append (ht.surfaces_of_error rfl _) .nil
  | abandoned hs ht hr hcan =>
    rw [List.cons_append, calls_cons, calls_append]
    exact .append (ht.surfaces_of_ok _ _) .nil
  | again hs ht hr hcan hsend hrest ih =>
    rw [List.cons_append, calls_cons, calls_append]
    refine .append (ht.surfaces_of_ok _ _) (.cons ?_ (ih _))
    rw [List.append_nil]
    exact hrest.surfaces_send _

/-- No error is invented and none is swallowed. A call that fails has a cause: its request was not answered,
the budget refused an action, the last primitive of an action failed, the provider gave no credentials, or
the caller gave up. And an error of a primitive is the result of the call, which calls no primitive after it;
the only exception is the probe before a login, whose failure is forgotten unless the caller gave up. -/
theorem execute_error (c : Controller) (h : Handler σ) (request : Request) (s : σ) :
    (∀ e, (c.execute h request s).1 = .error e →
      c.Explains h request (c.observations h request s) e) ∧
    Throughout (Surfaces (c.execute h request s).1) [] (calls (c.observations h request s)) [] := by
  obtain ⟨first, s₁, os, x, p, t, -, hcourse, hrun, hobs⟩ := c.course_execute h request s
  have hos : c.observations h request s =
      ⟨.send request first, s₁⟩ :: os ++ [⟨.report (.recoveryOutcome (outcome request p x)),
        h.report (.recoveryOutcome (outcome request p x)) t⟩] := by
    rw [observations, hobs]
  rw [hos, hrun]
  constructor
  · intro e hx
    exact (hcourse.explains (.start c) [] rfl hx).append rfl
  · rw [calls_append, calls_cons]
    have hfirst := hcourse.surfaces_send []
    refine .append (.cons ?_ (hcourse.surfaces _)) .nil
    simpa [Deed.primitive?] using hfirst

end Controller

end SessionRecovery
