import SessionRecovery.Proofs.Run
import SessionRecovery.Proofs.Recovery.Motion

/-!
# Two calls with recovery

Calls whose handlers do alike go alike, in lockstep or side by side.
-/

/-! ## Two calls with recovery in lockstep

A call looks at an answer only through its status and its failure, at an error only through whether the caller
gave up, and at the state only through the action that it selects with an answer and through whether the caller
gave up. So when the primitives of two handlers go in lockstep, and related answers in related states ask for the
same action, whole calls do: they take the same actions, send equally often, and end alike. -/

namespace SessionRecovery

variable {σ τ : Type}

/-- From a state one may get to any other. -/
def Anywhere (_ _ : σ) : Prop := True

instance : IsPreorder σ Anywhere where
  refl _ := trivial
  trans _ _ _ _ _ := trivial

/-- A relation between errors that leaves out at most their words. -/
structure Error.Indistinct (E : Error → Error → Prop) : Prop where
  /-- Every error is related to itself. -/
  refl : ∀ e, E e e
  /-- The callers gave up together. -/
  cancelled : ∀ {e f}, E e f → (f = .cancelled ↔ e = .cancelled)

/-- The same errors are indistinct. -/
theorem Error.indistinct_eq : Error.Indistinct Eq where
  refl _ := rfl
  cancelled h := by rw [h]

/-- The primitives of two handlers go in lockstep, each for a request of its own; the probe is left open. -/
structure Handler.Lockstep (R : σ → τ → Prop) (E : Error → Error → Prop)
    (A : Response → Response → Prop) (K : Credentials → Credentials → Prop) (h : Handler σ)
    (g : Handler τ) (r q : Request) : Prop where
  /-- Errors may differ in their words. -/
  indistinct : Error.Indistinct E
  /-- Sending. -/
  resend : Run.Lockstep R E A (h.resend r) (g.resend q)
  /-- Asking for credentials. -/
  credentials : Run.Lockstep R Eq K h.credentials g.credentials
  /-- Logging in. -/
  login : ∀ cr cr', K cr cr' → Run.Lockstep R E A (h.login cr) (g.login cr')
  /-- Exchanging the refresh token. -/
  refreshToken : Run.Lockstep R E A h.refreshToken g.refreshToken
  /-- Handing the refresh token over. -/
  persist : ∀ s t, R s t → R (h.persist s) (g.persist t)
  /-- The callers give up together. -/
  cancelled : ∀ s t, R s t → g.cancelled t = h.cancelled s
  /-- Reporting what differs at most in what the request is called and in the words of an error. -/
  report : ∀ (k : String → Error → Event) {e f} s t, E e f → R s t →
    R (h.report (k r.operation e) s) (g.report (k q.operation f) t)
  /-- Related answers in related states ask for the same action. -/
  select : ∀ codes s t x y, R s t → A x y →
    Action.select codes (g.session t) y = Action.select codes (h.session s) x
  /-- Related answers have the same status and the same failure. -/
  answer : ∀ x y, A x y → y.status = x.status ∧ y.failure = x.failure

namespace Handler

/-- A probe that failed for another reason than that the caller gave up is reported and forgotten. -/
theorem tryRefreshCsrf_of_error {h : Handler σ} {e : Error} {s s' : σ}
    (hx : h.refreshCsrf s = (.error e, s')) (he : e ≠ .cancelled) (operation : String) :
    h.tryRefreshCsrf operation s = (.ok (), h.report (.bestEffortFailed operation .csrfProbe e) s') := by
  rw [Handler.tryRefreshCsrf, hx]
  cases e with
  | cancelled => exact absurd rfl he
  | _ => rfl

/-- Two calls take every action in lockstep, begun in related states, that leads towards the states in which they
end. -/
def RecoverLockstep (R : σ → τ → Prop) (E : Error → Error → Prop) (S : σ → σ → Prop) (T : τ → τ → Prop)
    (h : Handler σ) (g : Handler τ) (r q : Request) (ended : σ) (ended' : τ) : Prop :=
  ∀ a n (x : Response) s t, R s t →
    let u := h.report (.recoveryStart r.operation a n x.status x.errorCode) s
    let v := g.report (.recoveryStart q.operation a n x.status x.errorCode) t
    S (h.recover r.operation a u).2 ended → T (g.recover q.operation a v).2 ended' →
      Tally E (fun _ _ => True) (h.recover r.operation a u).1 (g.recover q.operation a v).1 ∧
      R (h.recover r.operation a u).2 (g.recover q.operation a v).2

/-- Every primitive leads somewhere. -/
theorem moves_anywhere (h : Handler σ) : h.Moves Anywhere :=
  ⟨⟨fun _ _ => trivial, fun _ => trivial, fun _ _ => trivial, fun _ _ => trivial, fun _ => trivial,
    fun _ _ => trivial⟩, fun _ => trivial⟩

namespace Lockstep

variable {R : σ → τ → Prop} {E : Error → Error → Prop} {A : Response → Response → Prop}
  {K : Credentials → Credentials → Prop} {h : Handler σ} {g : Handler τ} {r q : Request}

/-- Reporting what differs at most in what the request is called. -/
theorem reported (hc : Lockstep R E A K h g r q) (k : String → Event) {s : σ} {t : τ} (hst : R s t) :
    R (h.report (k r.operation) s) (g.report (k q.operation) t) :=
  hc.report (fun o _ => k o) s t (hc.indistinct.refl .cancelled) hst

theorem ensureActive (hc : Lockstep R E A K h g r q) :
    Run.Lockstep R E (fun _ _ => True) h.ensureActive g.ensureActive := by
  intro s t hst
  rw [Handler.ensureActive, Handler.ensureActive, hc.cancelled s t hst]
  split
  · exact ⟨.error (hc.indistinct.refl _), hst⟩
  · exact ⟨.ok trivial, hst⟩

theorem availableCredentials (hc : Lockstep R E A K h g r q) :
    Run.Lockstep R E K h.availableCredentials g.availableCredentials := by
  intro s t hst
  rw [Handler.availableCredentials, Handler.availableCredentials]
  rcases hc.credentials.ends hst with
    ⟨x, y, s', t', hx, hy, hk, hend⟩ | ⟨e, f, s', t', hx, hy, he, hend⟩
  · rw [hx, hy]
    exact ⟨.ok hk, hend⟩
  · rw [hx, hy, he]
    exact ⟨.error (hc.indistinct.refl _), hend⟩

theorem tryRefreshCsrf (hc : Lockstep R E A K h g r q)
    (hprobe : Run.Lockstep R E A h.refreshCsrf g.refreshCsrf) :
    Run.Lockstep R E (fun _ _ => True) (h.tryRefreshCsrf r.operation)
      (g.tryRefreshCsrf q.operation) := by
  intro s t hst
  rcases hprobe.ends hst with ⟨x, y, s', t', hx, hy, -, hend⟩ | ⟨e, f, s', t', hx, hy, he, hend⟩
  · rw [Handler.tryRefreshCsrf, Handler.tryRefreshCsrf, hx, hy]
    exact ⟨.ok trivial, hend⟩
  · -- only a cancellation is passed on; any other failure is reported
    by_cases hgone : e = .cancelled
    · have hgone' := (hc.indistinct.cancelled he).mpr hgone
      rw [Handler.tryRefreshCsrf, Handler.tryRefreshCsrf, hx, hy, hgone, hgone']
      exact ⟨.error (hc.indistinct.refl _), hend⟩
    · have hgone' := mt (hc.indistinct.cancelled he).mp hgone
      rw [tryRefreshCsrf_of_error hx hgone, tryRefreshCsrf_of_error hy hgone']
      exact ⟨.ok trivial, hc.report (fun o => .bestEffortFailed o .csrfProbe) _ _ he hend⟩

/-- A login ends alike when the probe that it may do without does. -/
theorem recover_login (hc : Lockstep R E A K h g r q)
    (htry : Run.Lockstep R E (fun _ _ => True) (h.tryRefreshCsrf r.operation)
      (g.tryRefreshCsrf q.operation)) :
    Run.Lockstep R E (fun _ _ => True) (h.recover r.operation .login)
      (g.recover q.operation .login) := by
  refine .bind hc.ensureActive fun _ _ _ => ?_
  refine .bind hc.availableCredentials fun cr cr' hk => ?_
  refine .bind hc.ensureActive fun _ _ _ => ?_
  refine .bind htry fun _ _ _ => ?_
  refine .bind hc.ensureActive fun _ _ _ => ?_
  exact .bind (hc.login cr cr' hk) fun _ _ _ => .change hc.persist

/-- An exchange of the refresh token ends alike. -/
theorem recover_refreshToken (hc : Lockstep R E A K h g r q) :
    Run.Lockstep R E (fun _ _ => True) (h.recover r.operation .refreshToken)
      (g.recover q.operation .refreshToken) := by
  refine .bind hc.ensureActive fun _ _ _ => ?_
  exact .bind hc.refreshToken fun _ _ _ => .change hc.persist

/-- The same action ends alike when the probe does. -/
theorem recover (hc : Lockstep R E A K h g r q)
    (hprobe : Run.Lockstep R E A h.refreshCsrf g.refreshCsrf) (a : Action) :
    Run.Lockstep R E (fun _ _ => True) (h.recover r.operation a) (g.recover q.operation a) := by
  cases a with
  | none => exact .pure trivial
  | refreshCsrf =>
    refine .bind hc.ensureActive fun _ _ _ => ?_
    exact .bind hprobe fun _ _ _ => .pure trivial
  | login => exact hc.recover_login (hc.tryRefreshCsrf hprobe)
  | refreshToken => exact hc.recover_refreshToken

/-- Handlers whose probes go in lockstep too take every action in lockstep. -/
theorem recoverLockstep (hc : Lockstep R E A K h g r q)
    (hprobe : Run.Lockstep R E A h.refreshCsrf g.refreshCsrf) {S : σ → σ → Prop} {T : τ → τ → Prop}
    (ended : σ) (ended' : τ) : RecoverLockstep R E S T h g r q ended ended' :=
  fun a n x _ _ hst _ _ => hc.recover hprobe a _ _
    (hc.reported (fun o => .recoveryStart o a n x.status x.errorCode) hst)

end Lockstep

end Handler

namespace Controller

variable {c : Controller} {R : σ → τ → Prop} {E : Error → Error → Prop} {S : σ → σ → Prop}
  {T : τ → τ → Prop} {A : Response → Response → Prop} {K : Credentials → Credentials → Prop}
  {h : Handler σ} {g : Handler τ} {r q : Request}

/-- However a call goes on after an action, it moves along what its handler moves along. -/
theorem Starts.moves_recover [IsPreorder σ S] {p : Progress} {x : Response} {s started : σ}
    {a : Action} {n : UInt8} {b : Budget} (hm : h.Moves S)
    (hs : c.Starts h r p x s a n b started) :
    S (h.recover r.operation a started).2 (c.continueAfter h r p (.ok x) s).2.2 := by
  rw [continueAfter_starts hs]
  obtain ⟨z, s', hz⟩ : ∃ z s', h.recover r.operation a started = (z, s') := ⟨_, _, rfl⟩
  rw [hz]
  cases z with
  | error e => exact hm.report _ _
  | ok =>
    dsimp only
    split
    · exact hm.report _ _
    · obtain ⟨os, x, p', t, hcourse, hrun, -⟩ := c.course_continueAfter h r
        ⟨b, p.actions ++ [a], saturatingSucc p.requestsSent⟩
        (h.resend r (h.report (.recoverySuccess r.operation a) s')).1
        (h.resend r (h.report (.recoverySuccess r.operation a) s')).2
      rw [hrun]
      have hsent := IsTrans.trans _ _ _ (hm.report (.recoverySuccess r.operation a) s')
        (hm.resend r _)
      exact IsTrans.trans _ _ _ hsent (hcourse.moves hm)

/-- Answers that are related start the same action in related states. -/
theorem Starts.lockstep {p : Progress} {x y : Response} {s started : σ} {t : τ} {a : Action}
    {n : UInt8} {b : Budget} (hc : h.Lockstep R E A K g r q)
    (hs : c.Starts h r p x s a n b started) (hxy : A x y) (hst : R s t) : c.Starts g q p y t a n b
      (g.report (.recoveryStart q.operation a n x.status x.errorCode) t) := by
  obtain ⟨hstatus, hfailure⟩ := hc.answer x y hxy
  have hcode : y.errorCode = x.errorCode := by rw [Response.errorCode, Response.errorCode, hfailure]
  refine ⟨(hc.select c.codes s t x y hst hxy).trans hs.selected, hs.needed, hs.allowed, ?_⟩
  rw [hstatus, hcode]

/-- The action that they start ends alike. -/
theorem Starts.lockstep_recover [IsPreorder σ S] [IsPreorder τ T] {p : Progress} {x y : Response}
    {s started s' : σ} {t : τ} {a : Action} {n : UInt8} {b : Budget} {z : Except Error Unit}
    (hc : h.Lockstep R E A K g r q) (hS : h.Moves S) (hT : g.Moves T)
    (hs : c.Starts h r p x s a n b started) (hr : h.recover r.operation a started = (z, s'))
    (hxy : A x y) (hst : R s t)
    (hrec : Handler.RecoverLockstep R E S T h g r q (c.continueAfter h r p (.ok x) s).2.2
      (c.continueAfter g q p (.ok y) t).2.2) :
    ∃ started' z' t', c.Starts g q p y t a n b started' ∧
      g.recover q.operation a started' = (z', t') ∧ Tally E (fun _ _ => True) z z' ∧ R s' t' := by
  have hs' := hs.lockstep hc hxy hst
  have hmoved := hs.moves_recover hS
  have hmoved' := hs'.moves_recover hT
  obtain rfl := hs.reported
  obtain ⟨hresult, hend⟩ := hrec a n x s t hst hmoved hmoved'
  rw [hr] at hresult hend
  exact ⟨_, _, _, hs', rfl, hresult, hend⟩

/-- After answers that tally, calls go on in lockstep, if they take so the actions that they come through. -/
theorem continueAfter_lockstep [IsPreorder σ S] [IsPreorder τ T] (hc : h.Lockstep R E A K g r q)
    (hS : h.Moves S) (hT : g.Moves T) (p : Progress) (first : Except Error Response) (s : σ) :
    ∀ (first' : Except Error Response) (t : τ), Tally E A first first' → R s t →
      Handler.RecoverLockstep R E S T h g r q (c.continueAfter h r p first s).2.2
        (c.continueAfter g q p first' t).2.2 →
      Tally E A (c.continueAfter h r p first s).1 (c.continueAfter g q p first' t).1 ∧
      (c.continueAfter g q p first' t).2.1 = (c.continueAfter h r p first s).2.1 ∧
      R (c.continueAfter h r p first s).2.2 (c.continueAfter g q p first' t).2.2 := by
  -- the induction follows the one call; the other takes the same branch each time
  induction p, first, s using continueAfter.induct c h r with
  | case1 p s e =>
    intro first' t hfirst hst _
    cases hfirst with | @error _ f he =>
    rw [continueAfter_failed, continueAfter_failed]
    exact ⟨.error he, rfl, hst⟩
  | case2 p s x action ha =>
    intro first' t hfirst hst _
    cases hfirst with | @ok _ y hxy =>
    have ha' : Action.select c.codes (g.session t) y = .none :=
      (hc.select c.codes s t x y hst hxy).trans ha
    rw [continueAfter_settled (h := h) ha, continueAfter_settled ha']
    exact ⟨.ok hxy, rfl, hst⟩
  | case3 p s x action hne e hb =>
    intro first' t hfirst hst _
    cases hfirst with | @ok _ y hxy =>
    have ha' : Action.select c.codes (g.session t) y = action := hc.select c.codes s t x y hst hxy
    rw [continueAfter_exhausted (h := h) rfl hne hb, continueAfter_exhausted ha' hne hb]
    exact ⟨.error (hc.indistinct.refl e), rfl,
      hc.reported (fun o => .recoveryExhausted o action _) hst⟩
  | case4 p s x action hne n b hb started e s' hr =>
    intro first' t hfirst hst hrec
    cases hfirst with | @ok _ y hxy =>
    have hs : c.Starts h r p x s action n b started := ⟨rfl, hne, hb, rfl⟩
    obtain ⟨started', z', t', hs', hr', hresult, hend⟩ :=
      hs.lockstep_recover hc hS hT hr hxy hst hrec
    cases hresult with | @error _ f he =>
    rw [continueAfter_starts hs, continueAfter_starts hs', hr, hr']
    exact ⟨.error he, rfl, hc.report (fun o => .recoveryFailure o action) s' t' he hend⟩
  | case5 p s x action hne n b hb started s' hr recovered hcan =>
    intro first' t hfirst hst hrec
    cases hfirst with | @ok _ y hxy =>
    have hs : c.Starts h r p x s action n b started := ⟨rfl, hne, hb, rfl⟩
    obtain ⟨started', z', t', hs', hr', hresult, hend⟩ :=
      hs.lockstep_recover hc hS hT hr hxy hst hrec
    cases hresult
    have hrecovered := hc.reported (fun o => .recoverySuccess o action) hend
    have hcan' := (hc.cancelled _ _ hrecovered).trans hcan
    rw [continueAfter_starts hs, continueAfter_starts hs', hr, hr']
    dsimp only
    rw [if_pos hcan, if_pos hcan']
    exact ⟨.error (hc.indistinct.refl _), rfl, hrecovered⟩
  | case6 p s x action hne n b hb started s' hr recovered hcan result s'' hsend ih =>
    intro first' t hfirst hst hrec
    cases hfirst with | @ok _ y hxy =>
    have hs : c.Starts h r p x s action n b started := ⟨rfl, hne, hb, rfl⟩
    obtain ⟨started', z', t', hs', hr', hresult, hend⟩ :=
      hs.lockstep_recover hc hS hT hr hxy hst hrec
    cases hresult
    have hrecovered := hc.reported (fun o => .recoverySuccess o action) hend
    have hcan' : ¬ g.cancelled (g.report (.recoverySuccess q.operation action) t') = true := by
      rw [hc.cancelled _ _ hrecovered]
      exact hcan
    rw [continueAfter_starts hs, continueAfter_starts hs', hr, hr'] at hrec ⊢
    dsimp only at hrec ⊢
    rw [if_neg hcan, if_neg hcan', hsend] at hrec ⊢
    obtain ⟨hagain, hlast⟩ := hc.resend _ _ hrecovered
    rw [hsend] at hagain hlast
    exact ih _ _ hagain hlast hrec

/-- Whole calls that take in lockstep the actions that they come through end alike: the results tally, and the
outcomes differ at most in what the request is called. -/
theorem execute_lockstep [IsPreorder σ S] [IsPreorder τ T] (hc : h.Lockstep R E A K g r q)
    (hS : h.Moves S) (hT : g.Moves T) (c : Controller) {s : σ} {t : τ} (hst : R s t)
    (hrec : Handler.RecoverLockstep R E S T h g r q (c.execute h r s).2.2 (c.execute g q t).2.2) :
    Tally E A (c.execute h r s).1 (c.execute g q t).1 ∧
    (c.execute g q t).2.1 = { (c.execute h r s).2.1 with operation := q.operation } ∧
    R (c.execute h r s).2.2 (c.execute g q t).2.2 := by
  obtain ⟨hfirst, hsent⟩ := hc.resend s t hst
  obtain ⟨hresult, hprogress, hend⟩ :=
    continueAfter_lockstep (c := c) hc hS hT c.startProgress _ _ _ _ hfirst hsent
      fun a n x s t hst hs ht => hrec a n x s t hst (IsTrans.trans _ _ _ hs (hS.report _ _))
        (IsTrans.trans _ _ _ ht (hT.report _ _))
  have hsucceeded {x y : Except Error Response} (hxy : Tally E A x y) : succeeded y = succeeded x := by
    cases hxy with
    | ok ha => rw [succeeded, succeeded, Response.isSuccess, Response.isSuccess, (hc.answer _ _ ha).2]
    | error _ => rfl
  have hsame := hsucceeded hresult
  have houtcome : (c.execute g q t).2.1 = { (c.execute h r s).2.1 with operation := q.operation } := by
    simp only [execute, hprogress, hsame]
  refine ⟨hresult, houtcome, ?_⟩
  have hreport := hc.reported (fun o => .recoveryOutcome { (c.execute h r s).2.1 with operation := o })
    hend
  simp only [execute, hprogress, hsame] at hreport ⊢
  exact hreport

end Controller

end SessionRecovery

/-! ## Two calls with recovery side by side

Calls whose handlers fail with the same errors go in lockstep by equality of errors. So when the primitives of two
handlers are coupled, and related answers in related states ask for the same action, whole calls are coupled: they
take the same actions, send equally often, and end alike. -/

namespace SessionRecovery

variable {σ τ : Type}

/-- The primitives of two handlers do alike, each for a request of its own; the probe is left open. -/
structure Handler.Accords (R : σ → τ → Prop) (A : Response → Response → Prop)
    (K : Credentials → Credentials → Prop) (h : Handler σ) (g : Handler τ) (r q : Request) : Prop where
  /-- Sending. -/
  resend : Run.Couples R A (h.resend r) (g.resend q)
  /-- Asking for credentials. -/
  credentials : Run.Couples R K h.credentials g.credentials
  /-- Logging in. -/
  login : ∀ cr cr', K cr cr' → Run.Couples R A (h.login cr) (g.login cr')
  /-- Exchanging the refresh token. -/
  refreshToken : Run.Couples R A h.refreshToken g.refreshToken
  /-- Handing the refresh token over. -/
  persist : ∀ s t, R s t → R (h.persist s) (g.persist t)
  /-- The callers give up together. -/
  cancelled : ∀ s t, R s t → g.cancelled t = h.cancelled s
  /-- Reporting what differs at most in what the request is called. -/
  report : ∀ (k : String → Event) s t, R s t →
    R (h.report (k r.operation) s) (g.report (k q.operation) t)
  /-- Related answers in related states ask for the same action. -/
  select : ∀ codes s t x y, R s t → A x y →
    Action.select codes (g.session t) y = Action.select codes (h.session s) x
  /-- Related answers have the same status and the same failure. -/
  answer : ∀ x y, A x y → y.status = x.status ∧ y.failure = x.failure

/-- The primitives of two handlers do alike, and the probe too. -/
structure Handler.Couples (R : σ → τ → Prop) (A : Response → Response → Prop)
    (K : Credentials → Credentials → Prop) (h : Handler σ) (g : Handler τ) (r q : Request) : Prop
    extends Handler.Accords R A K h g r q where
  /-- Getting an anti-forgery token. -/
  refreshCsrf : Run.Couples R A h.refreshCsrf g.refreshCsrf

namespace Handler

variable {R : σ → τ → Prop} {A : Response → Response → Prop} {K : Credentials → Credentials → Prop}
  {h : Handler σ} {g : Handler τ} {r q : Request}

/-- Handlers that do alike go in lockstep. -/
theorem Accords.lockstep (hc : Accords R A K h g r q) : Lockstep R Eq A K h g r q where
  indistinct := Error.indistinct_eq
  resend := Run.couples_iff_lockstep.mp hc.resend
  credentials := Run.couples_iff_lockstep.mp hc.credentials
  login cr cr' hk := Run.couples_iff_lockstep.mp (hc.login cr cr' hk)
  refreshToken := Run.couples_iff_lockstep.mp hc.refreshToken
  persist := hc.persist
  cancelled := hc.cancelled
  report k e f s t he hst := by
    rw [he]
    exact hc.report (k · f) s t hst
  select := hc.select
  answer := hc.answer

/-- A login ends alike when the probe that it may do without does. -/
theorem Accords.recover_login (hc : Accords R A K h g r q)
    (htry : Run.Couples R (fun _ _ => True) (h.tryRefreshCsrf r.operation)
      (g.tryRefreshCsrf q.operation)) :
    Run.Couples R (fun _ _ => True) (h.recover r.operation .login)
      (g.recover q.operation .login) :=
  Run.couples_iff_lockstep.mpr (hc.lockstep.recover_login (Run.couples_iff_lockstep.mp htry))

/-- An exchange of the refresh token ends alike. -/
theorem Accords.recover_refreshToken (hc : Accords R A K h g r q) :
    Run.Couples R (fun _ _ => True) (h.recover r.operation .refreshToken)
      (g.recover q.operation .refreshToken) :=
  Run.couples_iff_lockstep.mpr hc.lockstep.recover_refreshToken

/-- Two calls take every action alike, begun in related states, that leads towards the states in which they
end. -/
def RecoverAlike (R : σ → τ → Prop) (S : σ → σ → Prop) (T : τ → τ → Prop) (h : Handler σ)
    (g : Handler τ) (r q : Request) (ended : σ) (ended' : τ) : Prop :=
  ∀ a n (x : Response) s t, R s t →
    let u := h.report (.recoveryStart r.operation a n x.status x.errorCode) s
    let v := g.report (.recoveryStart q.operation a n x.status x.errorCode) t
    S (h.recover r.operation a u).2 ended → T (g.recover q.operation a v).2 ended' →
      Agree (fun _ _ => True) (h.recover r.operation a u).1 (g.recover q.operation a v).1 ∧
      R (h.recover r.operation a u).2 (g.recover q.operation a v).2

/-- To take every action alike is to take it in lockstep with the same errors. -/
theorem recoverAlike_iff {S : σ → σ → Prop} {T : τ → τ → Prop} {ended : σ} {ended' : τ} :
    RecoverAlike R S T h g r q ended ended' ↔ RecoverLockstep R Eq S T h g r q ended ended' := by
  simp only [RecoverAlike, RecoverLockstep, Agree.iff_tally]

/-- Coupled handlers take every action alike. -/
theorem Couples.recoverAlike (hc : Couples R A K h g r q) {S : σ → σ → Prop} {T : τ → τ → Prop}
    (ended : σ) (ended' : τ) : RecoverAlike R S T h g r q ended ended' :=
  recoverAlike_iff.mpr
    (hc.lockstep.recoverLockstep (Run.couples_iff_lockstep.mp hc.refreshCsrf) ended ended')

end Handler

namespace Controller

variable {c : Controller} {R : σ → τ → Prop} {S : σ → σ → Prop} {T : τ → τ → Prop}
  {A : Response → Response → Prop} {K : Credentials → Credentials → Prop} {h : Handler σ}
  {g : Handler τ} {r q : Request}

/-- Whole calls that take alike the actions that they come through end alike: the results agree, and the
outcomes differ at most in what the request is called. -/
theorem execute_accords [IsPreorder σ S] [IsPreorder τ T] (hc : h.Accords R A K g r q)
    (hS : h.Moves S) (hT : g.Moves T) (c : Controller) {s : σ} {t : τ} (hst : R s t)
    (hrec : Handler.RecoverAlike R S T h g r q (c.execute h r s).2.2 (c.execute g q t).2.2) :
    Agree A (c.execute h r s).1 (c.execute g q t).1 ∧
    (c.execute g q t).2.1 = { (c.execute h r s).2.1 with operation := q.operation } ∧
    R (c.execute h r s).2.2 (c.execute g q t).2.2 := by
  rw [Agree.iff_tally]
  exact execute_lockstep hc.lockstep hS hT c hst (Handler.recoverAlike_iff.mp hrec)

/-- Whole calls end alike when the primitives of their handlers are coupled. -/
theorem execute_couples (hc : h.Couples R A K g r q) (c : Controller) {s : σ} {t : τ}
    (hst : R s t) :
    Agree A (c.execute h r s).1 (c.execute g q t).1 ∧
    (c.execute g q t).2.1 = { (c.execute h r s).2.1 with operation := q.operation } ∧
    R (c.execute h r s).2.2 (c.execute g q t).2.2 :=
  execute_accords hc.toAccords h.moves_anywhere g.moves_anywhere c hst (hc.recoverAlike _ _)

end Controller

end SessionRecovery
