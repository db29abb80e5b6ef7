import Mathlib.Data.List.Forall2
import SessionRecovery.Proofs.Recovery.HandOver
import SessionRecovery.Proofs.Recovery.Limits
import SessionRecovery.Proofs.Recovery.Walk

/-!
# Probes that may fail

The same probe is needed by one action and only tried by another. Two handlers that differ in how the probes
of logins are answered, but not in what they do, cannot be told apart by a call, except for the lines about
probes that failed. A probe that an action is taken for is another matter: its failure ends the call.
-/

namespace SessionRecovery

variable {σ τ : Type}

/-! ## Probes among observations -/

namespace Deed

/-- The answer to a probe. -/
def probe? : Deed → Option (Except Error Response)
  | .csrf x => some x
  | _ => none

end Deed

namespace Observation

/-- The probes in observations that began during a given action: the action under way, and the answer. -/
def probes (a : Action) : List (Observation σ) → List (Action × Except Error Response)
  | [] => []
  | o :: os => (o.deed.probe?.map (a, ·)).toList ++ probes (o.deed.started?.getD a) os

/-- The probes in joined observations. -/
theorem probes_append (a : Action) (os ps : List (Observation σ)) :
    probes a (os ++ ps) = probes a os ++ probes (underway a os) ps := by
  induction os generalizing a with
  | nil => rfl
  | cons o os ih => rw [List.cons_append, probes, probes, underway, ih, List.append_assoc]

/-- There are as many probes as calls of the primitive. -/
theorem length_probes (a : Action) (os : List (Observation σ)) :
    (probes a os).length = (primitives os).count .csrf := by
  induction os generalizing a with
  | nil => rfl
  | cons o os ih =>
    obtain ⟨deed, after⟩ := o
    rw [probes, primitives_cons, List.length_append, List.count_append, ih]
    cases deed <;> rfl

/-- A probe stands behind those that were made before it. -/
theorem probe_of_prefix {os pre : List (Observation σ)} {x : Except Error Response} {s : σ}
    (h : pre ++ [⟨.csrf x, s⟩] <+: os) (a : Action) :
    (probes a os)[(primitives pre).count .csrf]? = some (underway a pre, x) := by
  obtain ⟨rest, rfl⟩ := h
  rw [List.append_assoc, probes_append, ← length_probes a pre,
    List.getElem?_append_right (Nat.le_refl _), Nat.sub_self]
  rfl

/-- The probes of two records are answered alike, one by one, but for those that a login tries. -/
def AnswersAlike (os : List (Observation σ)) (ps : List (Observation τ)) : Prop :=
  ∀ (i : Nat) (a b : Action) (x y : Except Error Response), (probes .none os)[i]? = some (a, x) →
    (probes .none ps)[i]? = some (b, y) → a ≠ .login → y = x

end Observation

open Observation

/-! ## Handlers that differ in their probes -/

namespace Handler

/-- Two handlers do the same for a request, but that a probe which goes well with the one may fail with the
other, and that a line about a failed probe makes no difference. -/
structure Indulges (R : σ → τ → Prop) (h : Handler σ) (g : Handler τ) (request : Request) :
    Prop where
  /-- Sending. -/
  resend : Run.Couples R (fun x y => y = x) (h.resend request) (g.resend request)
  /-- Asking for credentials. -/
  credentials : Run.Couples R (fun x y => y = x) h.credentials g.credentials
  /-- Logging in. -/
  login : ∀ cr, Run.Couples R (fun x y => y = x) (h.login cr) (g.login cr)
  /-- Exchanging the refresh token. -/
  refreshToken : Run.Couples R (fun x y => y = x) h.refreshToken g.refreshToken
  /-- Handing the refresh token over. -/
  persist : ∀ s t, R s t → R (h.persist s) (g.persist t)
  /-- The sessions are the same. -/
  session : ∀ s t, R s t → g.session t = h.session s
  /-- The callers give up together. -/
  cancelled : ∀ s t, R s t → g.cancelled t = h.cancelled s
  /-- Reporting. -/
  report : ∀ e s t, R s t → R (h.report e s) (g.report e t)
  /-- A probe has the same effect, however it is answered. -/
  refreshCsrf : ∀ s t, R s t → R (h.refreshCsrf s).2 (g.refreshCsrf t).2
  /-- The callers give up during the same probes. -/
  interrupted : ∀ s t, R s t →
    ((g.refreshCsrf t).1 = .error .cancelled ↔ (h.refreshCsrf s).1 = .error .cancelled)
  /-- A line about a failed probe may be there in the one and not in the other. -/
  remark : ∀ e s t, R s t →
    R (h.report (.bestEffortFailed request.operation .csrfProbe e) s) t ∧
      R s (g.report (.bestEffortFailed request.operation .csrfProbe e) t)

/-- Two records of a call, side by side: the same was done and answered and reported, and the states after it
are related, but that where the one tried a probe that it could do without, so did the other, each with an
answer of its own and a line about it if it failed. -/
inductive Beside (R : σ → τ → Prop) (h : Handler σ) (g : Handler τ) (operation : String) :
    List (Observation σ) → List (Observation τ) → Prop
  /-- Nothing was done. -/
  | nil : Beside R h g operation [] []
  /-- The same was done. -/
  | same {os : List (Observation σ)} {ps : List (Observation τ)} {d : Deed} {s : σ} {t : τ}
      (hb : Beside R h g operation os ps) (hst : R s t) :
      Beside R h g operation (os ++ [⟨d, s⟩]) (ps ++ [⟨d, t⟩])
  /-- A probe was tried. -/
  | tried {os ls : List (Observation σ)} {ps ms : List (Observation τ)} {s s' : σ} {t t' : τ}
      (hb : Beside R h g operation os ps) (hs : h.Tries operation s ls s')
      (ht : g.Tries operation t ms t') (hst : R s' t') :
      Beside R h g operation (os ++ ls) (ps ++ ms)

variable {R : σ → τ → Prop} {h : Handler σ} {g : Handler τ} {request : Request} {operation : String}
  {s s' : σ} {t t' : τ} {os ls : List (Observation σ)} {ps ms : List (Observation τ)}

/-- A probe that was tried ends at the state after its last observation. -/
theorem Tries.latest_eq (ht : h.Tries operation s ls s') (u : σ) : latest u ls = s' := by
  cases ht <;> rfl

/-- Of a probe that was tried, the call remains when the lines about failures are left out. -/
theorem Tries.filter_notes (ht : h.Tries operation s ls s') (u : σ) :
    (notes h.session u ls).filter (!·.isRemark) = [.call .csrf] := by
  cases ht <;> rfl

namespace Beside

theorem primitives_eq (hb : h.Beside R g operation os ps) : primitives ps = primitives os := by
  induction hb with
  | nil => rfl
  | same _ _ ih => simp [ih]
  | tried _ hs ht _ ih => rw [primitives_append, primitives_append, ih, hs.primitives_eq,
      ht.primitives_eq]

theorem latest (hb : h.Beside R g operation os ps) (hst : R s t) :
    R (latest s os) (latest t ps) := by
  cases hb with
  | nil => exact hst
  | same _ hend =>
    rw [latest_concat, latest_concat]
    exact hend
  | tried _ hs ht hend =>
    rw [latest_append, latest_append, hs.latest_eq, ht.latest_eq]
    exact hend

/-- The notes of two records are the same, but for the lines about failures. -/
theorem filter_notes (hsession : ∀ s t, R s t → g.session t = h.session s)
    (hb : h.Beside R g operation os ps) (hst : R s t) :
    (notes g.session t ps).filter (!·.isRemark) = (notes h.session s os).filter (!·.isRemark) := by
  induction hb with
  | nil => rfl
  | same hb _ ih =>
    have hnow := hsession _ _ (hb.latest hst)
    rw [notes_append, notes_append, List.filter_append, List.filter_append, ih, notes, notes, notes,
      notes, hnow]
  | tried hb hs ht _ ih =>
    rw [notes_append, notes_append, List.filter_append, List.filter_append, ih, hs.filter_notes,
      ht.filter_notes]

end Beside

/-- Two observed states of related states, with records side by side. -/
structure Abreast (R : σ → τ → Prop) (h : Handler σ) (g : Handler τ) (operation : String)
    (u : σ × List (Observation σ)) (v : τ × List (Observation τ)) : Prop where
  /-- The states are related. -/
  state : R u.1 v.1
  /-- The records are side by side. -/
  beside : h.Beside R g operation u.2 v.2

namespace Indulges

/-- A primitive that does the same adds the same to both records. -/
theorem observing {α : Type} {r : Run σ α} {q : Run τ α} (deed : Except Error α → Deed)
    (hr : Run.Couples R (fun x y => y = x) r q) :
    Run.Couples (Abreast R h g operation) (fun x y => y = x) (Handler.observing deed r)
      (Handler.observing deed q) := by
  rintro ⟨s, os⟩ ⟨t, ps⟩ ⟨hst, hb⟩
  obtain ⟨hresult, hend⟩ := hr s t hst
  refine ⟨hresult, hend, ?_⟩
  simp only [Handler.observing, hresult.eq]
  exact .same hb hend

/-- Observed handlers that differ in their probes do the same otherwise. -/
theorem accords (hi : h.Indulges R g request) :
    Accords (Abreast R h g request.operation) (fun x y => y = x) (fun x y => y = x) h.observed
      g.observed request request where
  resend := observing (.send request) hi.resend
  credentials := observing .credentials hi.credentials
  login cr cr' hcr := by
    subst hcr
    exact observing (.login cr') (hi.login cr')
  refreshToken := observing .refresh hi.refreshToken
  persist u v hu := ⟨hi.persist _ _ hu.state, .same hu.beside (hi.persist _ _ hu.state)⟩
  cancelled u v hu := hi.cancelled _ _ hu.state
  report k u v hu := by
    have hreport := hi.report (k request.operation) _ _ hu.state
    exact ⟨hreport, .same hu.beside hreport⟩
  select codes u v x y hu hxy := by
    subst hxy
    exact congrArg (Action.select codes · y) (hi.session _ _ hu.state)
  answer x y hxy := by
    subst hxy
    exact ⟨rfl, rfl⟩

/-- Probes that were tried in related states lead to related states. -/
theorem tries (hi : h.Indulges R g request) (hst : R s t)
    (hs : h.Tries request.operation s ls s') (ht : g.Tries request.operation t ms t') : R s' t' := by
  have hend := hi.refreshCsrf s t hst
  cases hs with
  | fresh hp =>
    rw [hp] at hend
    cases ht with
    | fresh hq =>
      rw [hq] at hend
      exact hend
    | skipped hq =>
      rw [hq] at hend
      exact (hi.remark _ _ _ hend).2
  | skipped hp =>
    rw [hp] at hend
    cases ht with
    | fresh hq =>
      rw [hq] at hend
      exact (hi.remark _ _ _ hend).1
    | skipped hq =>
      rw [hq] at hend
      exact (hi.remark _ _ _ (hi.remark _ _ _ hend).1).2

/-- A login tries its probe with both handlers alike. -/
theorem tryRefreshCsrf (hi : h.Indulges R g request) :
    Run.Couples (Abreast R h g request.operation) (fun _ _ => True)
      (h.observed.tryRefreshCsrf request.operation)
      (g.observed.tryRefreshCsrf request.operation) := by
  rintro ⟨s, os⟩ ⟨t, ps⟩ ⟨hst, hb⟩
  have hgone := hi.interrupted s t hst
  have hend := hi.refreshCsrf s t hst
  obtain ⟨s', hp, hrec⟩ | ⟨ls, s', hp, hrec⟩ := h.tries_tryRefreshCsrf request.operation s
  · obtain ⟨t', hq, hrec'⟩ | ⟨ms, t', hq, hrec'⟩ := g.tries_tryRefreshCsrf request.operation t
    · rw [hp, hq] at hend
      rw [hrec.twin, hrec'.twin]
      exact ⟨.error _, hend, .same hb hend⟩
    · have hnot := hgone.mpr (by rw [hp])
      cases hq with
      | fresh hq => rw [hq] at hnot; cases hnot
      | skipped hq he => rw [hq] at hnot; exact absurd (Except.error.inj hnot) he
  · obtain ⟨t', hq, hrec'⟩ | ⟨ms, t', hq, hrec'⟩ := g.tries_tryRefreshCsrf request.operation t
    · have hnot := hgone.mp (by rw [hq])
      cases hp with
      | fresh hp => rw [hp] at hnot; cases hnot
      | skipped hp he => rw [hp] at hnot; exact absurd (Except.error.inj hnot) he
    · rw [hrec.twin, hrec'.twin]
      have hends := hi.tries hst hp hq
      exact ⟨.ok trivial, hends, .tried hb hp hq hends⟩

end Indulges

/-- A probe that an action is taken for is made unless the caller gave up, and its answer is the end of the
action. -/
theorem observed_recover_refreshCsrf (h : Handler σ) (operation : String) (s : σ)
    (os : List (Observation σ)) : h.observed.recover operation .refreshCsrf (s, os) =
      if h.cancelled s then (.error .cancelled, s, os)
      else ((h.refreshCsrf s).1.map fun _ => (), (h.refreshCsrf s).2,
        os ++ [⟨.csrf (h.refreshCsrf s).1, (h.refreshCsrf s).2⟩]) := by
  cases hc : h.cancelled s with
  | true =>
    rw [recover, Run.bind_error ((records_cancelled hc).twin os), List.append_nil]
    rfl
  | false =>
    rw [recover, Run.bind_ok ((records_active hc).twin os), List.append_nil]
    obtain ⟨x, s', hp⟩ : ∃ x s', h.refreshCsrf s = (x, s') := ⟨_, _, rfl⟩
    have hobs := (records_observing .csrf hp).twin os
    rw [hp]
    cases x with
    | error e => exact Run.bind_error hobs
    | ok r => exact Run.bind_ok hobs

end Handler

namespace Controller

variable {c : Controller} {R : σ → τ → Prop} {h : Handler σ} {g : Handler τ} {request : Request}
  {s : σ} {t : τ}

/-- Every action ends alike that the calls come through, when the probes that are made outside logins are
answered alike. -/
theorem recoverAlike_of_probes (hi : h.Indulges R g request) {os : List (Observation σ)}
    {ps : List (Observation τ)}
    (hprobes : AnswersAlike os ps) (s : σ) (t : τ) :
    Handler.RecoverAlike (h.Abreast R g request.operation) Extends Extends h.observed g.observed
      request request (s, os) (t, ps) := by
  rintro a n x ⟨s₁, os₁⟩ ⟨t₁, ps₁⟩ habreast u v hu hv
  have hstarted : h.Abreast R g request.operation u v :=
    hi.accords.report (fun o => .recoveryStart o a n x.status x.errorCode) _ _ habreast
  cases a with
  | none => exact ⟨.ok trivial, hstarted⟩
  | login => exact hi.accords.recover_login hi.tryRefreshCsrf u v hstarted
  | refreshToken => exact hi.accords.recover_refreshToken u v hstarted
  | refreshCsrf =>
    have hgone : g.cancelled v.1 = h.cancelled u.1 := hi.cancelled _ _ hstarted.state
    have hrun := h.observed_recover_refreshCsrf request.operation u.1 u.2
    have hrun' := g.observed_recover_refreshCsrf request.operation v.1 v.2
    rw [hgone] at hrun'
    cases hc : h.cancelled u.1 with
    | true =>
      rw [if_pos hc] at hrun hrun'
      rw [hrun, hrun']
      exact ⟨.error _, hstarted⟩
    | false =>
      rw [if_neg (Bool.eq_false_iff.mp hc)] at hrun hrun'
      rw [hrun] at hu
      rw [hrun'] at hv
      -- both probes stand behind equally many, and no login makes them
      have hx := probe_of_prefix hu .none
      have hy := probe_of_prefix hv .none
      rw [hstarted.beside.primitives_eq] at hy
      have hunderway : underway .none u.2 = .refreshCsrf := underway_append _ _ _
      have hanswer := hprobes _ _ _ _ _ hx hy (by rw [hunderway]; decide)
      have hend := hi.refreshCsrf _ _ hstarted.state
      rw [hrun, hrun', hanswer]
      exact ⟨(Agree.of_eq rfl).mono fun _ _ _ => trivial, hend, .same hstarted.beside hend⟩

/-! ## Probes that an action is taken for -/

/-- A failed probe that an action is taken for is what the call ends with, and nothing is called after it. -/
def Surrenders (x : Except Error Response) (before : List (Observation σ)) (o : Observation σ)
    (after : List (Observation σ)) : Prop :=
  ∀ e, o.deed = .csrf (.error e) → underway .none before = .refreshCsrf →
    x = .error e ∧ primitives after = []

/-- Only a probe surrenders. -/
theorem Surrenders.of_quiet {x : Except Error Response} {before after : List (Observation σ)}
    {d : Deed} {s : σ} (hd : d.probe? = none) : Surrenders x before ⟨d, s⟩ after := by
  intro e ho
  dsimp only at ho
  subst ho
  cases hd

end Controller

/-- An action that is taken for a probe ends with the failure of the probe. -/
theorem Handler.Takes.eq_of_probe {h : Handler σ} {operation : String} {a : Action} {s s' : σ}
    {os pre post : List (Observation σ)} {o : Observation σ} {x : Except Error Unit} {e : Error}
    (ht : h.Takes operation a s os x s') (hos : os = pre ++ o :: post)
    (ho : o.deed = .csrf (.error e)) (ha : underway a pre = .refreshCsrf) :
    x = .error e ∧ post = [] := by
  have hnone : started pre = [] := by
    have hstarted := ht.started_eq_nil
    rw [hos, started_append, List.append_eq_nil_iff] at hstarted
    exact hstarted.1
  rw [underway_eq hnone] at ha
  subst ha
  -- the probe is all that the action does
  cases ht with
  | abandoned ha hc => simp at hos
  | probeFailed hc hp =>
    obtain ⟨rfl, rfl, rfl⟩ := by simpa [List.cons_eq_append_iff] using hos
    cases ho
    exact ⟨rfl, rfl⟩
  | probed hc hp =>
    obtain ⟨rfl, rfl, rfl⟩ := by simpa [List.cons_eq_append_iff] using hos
    cases ho

namespace Controller

/-- After an answer, a call ends with the failure of a probe that an action is taken for. -/
theorem Course.surrenders {c : Controller} {h : Handler σ} {request : Request} {p p' : Progress}
    {result x : Except Error Response} {s t : σ} {os after : List (Observation σ)}
    (hc : c.Course h request p result s os x p' t) (before : List (Observation σ))
    (hafter : primitives after = []) : Throughout (Surrenders x) before os after := by
  induction hc generalizing before with
  | failed => exact .nil
  | settled => exact .nil
  | exhausted => exact .cons (.of_quiet rfl) .nil
  | broken hs ht =>
    refine .cons (.of_quiet rfl) (.append ?_ (.cons (.of_quiet rfl) .nil))
    intro pre o post hos e ho ha
    rw [underway_report] at ha
    obtain ⟨heq, rfl⟩ := ht.eq_of_probe hos ho ha
    cases heq
    exact ⟨rfl, hafter⟩
  | abandoned hs ht =>
    refine .cons (.of_quiet rfl) (.append ?_ (.cons (.of_quiet rfl) .nil))
    intro pre o post hos e ho ha
    rw [underway_report] at ha
    cases (ht.eq_of_probe hos ho ha).1
  | again hs ht hr hcan hsend hrest ih =>
    refine .cons (.of_quiet rfl) (.append ?_ (.cons (.of_quiet rfl) (.cons (.of_quiet rfl) (ih _))))
    intro pre o post hos e ho ha
    rw [underway_report] at ha
    cases (ht.eq_of_probe hos ho ha).1

/-- A whole call ends with the failure of a probe that an action is taken for. -/
theorem surrenders_observations (c : Controller) (h : Handler σ) (request : Request) (s : σ) :
    Throughout (Surrenders (c.execute h request s).1) [] (c.observations h request s) [] := by
  obtain ⟨first, s₁, os, x, p, t, -, hcourse, hrun, hobs⟩ := c.course_execute h request s
  rw [observations, hobs, hrun]
  exact .cons (.of_quiet rfl) (.append (hcourse.surrenders _ rfl) (.cons (.of_quiet rfl) .nil))

/-- The probe before a login is really best-effort. When two handlers differ only in how probes are answered,
have the caller give up during the same ones, and answer alike the probes that are made outside logins, then
calls with them have the same result and outcome and leave the same session; they make the same calls with the
same arguments in the same order, and report the same events but for the lines about failures; and side by
side their records differ just where a login tried its probe, in the answer and in the line about it. By
contrast, a failed probe for which an action was taken is the result of any call, and the last that it
calls. -/
theorem execute_indulges (c : Controller) (h : Handler σ) (request : Request) (s : σ) :
    (∀ (τ : Type) (R : σ → τ → Prop) (g : Handler τ) (t : τ), h.Indulges R g request → R s t →
      AnswersAlike (c.observations h request s) (c.observations g request t) →
      (c.execute g request t).1 = (c.execute h request s).1 ∧
      (c.execute g request t).2.1 = (c.execute h request s).2.1 ∧
      g.session (c.execute g request t).2.2 = h.session (c.execute h request s).2.2 ∧
      (c.execute g.traced request (t, [])).2.2.2.filter (!·.isRemark) =
        (c.execute h.traced request (s, [])).2.2.2.filter (!·.isRemark) ∧
      h.Beside R g request.operation (c.observations h request s) (c.observations g request t)) ∧
    ∀ before o after e, c.observations h request s = before ++ o :: after →
      o.deed = .csrf (.error e) → underway .none before = .refreshCsrf →
      (c.execute h request s).1 = .error e ∧ primitives after = [] := by
  refine ⟨fun τ R g t hi hst hprobes => ?_, fun before o after e hsplit ho ha => ?_⟩
  · have hrec := recoverAlike_of_probes hi hprobes (c.execute h request s).2.2
      (c.execute g request t).2.2
    have hstart : h.Abreast R g request.operation (s, []) (t, []) := ⟨hst, .nil⟩
    have hends := execute_accords hi.accords (observed_moves h) (observed_moves g) c hstart
    rw [execute_observed, execute_observed] at hends
    obtain ⟨hresult, houtcome, hstate, hbeside⟩ := hends hrec
    refine ⟨hresult.eq, houtcome, hi.session _ _ hstate, ?_, hbeside⟩
    rw [notes_observations, notes_observations]
    exact hbeside.filter_notes hi.session hst
  · have hsurrenders := surrenders_observations c h request s before o after hsplit e ho ha
    rwa [List.append_nil] at hsurrenders

end Controller

/-! ## Scripts -/

namespace Script

/-- Two scripted probes have the same effect, and fail because the caller gave up in both or in neither. -/
structure Excuses (a b : Scripted Delivery) : Prop where
  /-- The caller gives up during both. -/
  interrupts : b.interrupts = a.interrupts
  /-- The tokens are changed alike. -/
  edit : b.edit = a.edit
  /-- Both tell that the caller gave up. -/
  cancelled : reply b = .error .cancelled ↔ reply a = .error .cancelled

/-- A script with other answers to some probes. -/
def Lenient (s t : Script) : Prop :=
  ∃ csrf, t = { s with csrf } ∧ List.Forall₂ Excuses s.csrf csrf

/-- Answers with the same effect keep two scripts as they were to each other. -/
theorem Lenient.apply {α : Type} {s t : Script} (h : Lenient s t) {a b : Scripted α}
    (hinterrupts : b.interrupts = a.interrupts) (hedit : b.edit = a.edit) :
    Lenient (s.apply a) (t.apply b) := by
  obtain ⟨csrf, rfl, hall⟩ := h
  refine ⟨csrf, ?_, hall⟩
  rw [Script.apply, Script.apply, hinterrupts, hedit]

/-- Two scripts give the next answer of a list that they share. -/
theorem next_couples {list : Script → List (Scripted Delivery)}
    {put : List (Scripted Delivery) → Script → Script}
    (hlist : ∀ s t, Lenient s t → list t = list s)
    (hput : ∀ rest s t, Lenient s t → Lenient (put rest s) (put rest t)) :
    Run.Couples Lenient (fun x y => y = x) (next list put) (next list put) := by
  intro s t hst
  rw [next, next, hlist s t hst]
  cases list s with
  | nil => exact ⟨.of_eq rfl, hst⟩
  | cons a rest => exact ⟨.of_eq rfl, (hput rest s t hst).apply rfl rfl⟩

/-- Scripts that differ in some probes do the same otherwise. -/
theorem handler_indulges (request : Request) :
    Script.handler.Indulges Lenient Script.handler request where
  resend := next_couples (by rintro s _ ⟨csrf, rfl, -⟩; rfl)
    (by rintro rest s _ ⟨csrf, rfl, hall⟩; exact ⟨csrf, rfl, hall⟩)
  credentials := by
    rintro ⟨session, cancelled, replies, probes, credentials, login, refresh⟩ _ ⟨csrf, rfl, hall⟩
    cases credentials with
    | nil => exact ⟨.of_eq rfl, csrf, rfl, hall⟩
    | cons a rest => exact ⟨.of_eq rfl, csrf, rfl, hall⟩
  login _ := next_couples (by rintro s _ ⟨csrf, rfl, -⟩; rfl)
    (by rintro rest s _ ⟨csrf, rfl, hall⟩; exact ⟨csrf, rfl, hall⟩)
  refreshToken := next_couples (by rintro s _ ⟨csrf, rfl, -⟩; rfl)
    (by rintro rest s _ ⟨csrf, rfl, hall⟩; exact ⟨csrf, rfl, hall⟩)
  persist _ _ hst := hst
  session := by
    rintro s _ ⟨csrf, rfl, -⟩
    rfl
  cancelled := by
    rintro s _ ⟨csrf, rfl, -⟩
    rfl
  report _ _ _ hst := hst
  refreshCsrf := by
    rintro ⟨session, cancelled, replies, probes, credentials, login, refresh⟩ _ ⟨csrf, rfl, hall⟩
    dsimp only at hall
    cases hall with
    | nil => exact ⟨[], rfl, .nil⟩
    | cons hab hrest =>
      exact Lenient.apply ⟨_, rfl, hrest⟩ hab.interrupts hab.edit
  interrupted := by
    rintro ⟨session, cancelled, replies, probes, credentials, login, refresh⟩ _ ⟨csrf, rfl, hall⟩
    dsimp only at hall
    cases hall with
    | nil => exact Iff.rfl
    | cons hab hrest => exact hab.cancelled
  remark _ _ _ hst := ⟨hst, hst⟩

/-- A server refuses a request for its anti-forgery token, then for its session, and then accepts it. The probe
that the first refusal asks for goes well; the one before the login brings a token, with whatever answer. -/
def refusedBoth (answer : Except Error Delivery) : Script :=
  let refused (code : String) : Scripted Delivery :=
    ⟨false, ⟨none, none, none⟩,
      .ok ⟨401, [], (Json.obj [("code", .str code), ("message", .str "")]).bytes⟩⟩
  ⟨⟨"https://a", none, "t", "r", ""⟩, false,
    [refused "csrf_token_invalid", refused "session_expired",
      ⟨false, ⟨none, none, none⟩, .ok emptyDelivery⟩],
    [⟨false, ⟨none, none, some "c"⟩, .ok emptyDelivery⟩, ⟨false, ⟨none, none, some "d"⟩, answer⟩],
    [], [⟨false, ⟨some "u", some "s", none⟩, .ok emptyDelivery⟩], []⟩

end Script

namespace Controller

/-- A call that needs one probe and tries another is the same call whether the second goes well or not. -/
theorem execute_indulges_refusedBoth :
    let c : Controller := ⟨.standard, .standard⟩
    let r := Request.new .get "/"
    let s := Script.refusedBoth (.ok emptyDelivery)
    let t := Script.refusedBoth (.error (.transport "down"))
    Script.Lenient s t ∧
    AnswersAlike (c.observations Script.handler r s) (c.observations Script.handler r t) ∧
    (c.execute Script.handler r s).2.1 = ⟨"GET /", [.refreshCsrf, .login], 3, true⟩ ∧
    (c.execute Script.handler r t).1 = (c.execute Script.handler r s).1 ∧
    (c.execute Script.handler r t).2.1 = (c.execute Script.handler r s).2.1 ∧
    (c.execute Script.handler r t).2.2.session = ⟨"https://a", none, "u", "s", "d"⟩ ∧
    (c.execute Script.handler.traced r (t, [])).2.2.2.filter Note.isRemark =
      [.event (.bestEffortFailed "GET /" .csrfProbe (.transport "down"))] ∧
    (c.execute Script.handler.traced r (t, [])).2.2.2.filter (!·.isRemark) =
      (c.execute Script.handler.traced r (s, [])).2.2.2 := by
  intro c r s t
  have hlenient : Script.Lenient s t := by
    refine ⟨t.csrf, rfl, .cons ⟨rfl, rfl, Iff.rfl⟩ (.cons ⟨rfl, rfl, ?_⟩ .nil)⟩
    exact iff_of_false nofun nofun
  have hprobes : probes .none (c.observations Script.handler r s) =
      [(.refreshCsrf, Response.ofDelivery emptyDelivery),
        (.login, Response.ofDelivery emptyDelivery)] := by decide +kernel
  have hprobes' : probes .none (c.observations Script.handler r t) =
      [(.refreshCsrf, Response.ofDelivery emptyDelivery), (.login, .error (.transport "down"))] := by
    decide +kernel
  have halike : AnswersAlike (c.observations Script.handler r s)
      (c.observations Script.handler r t) := by
    intro i a b x y hx hy ha
    rw [hprobes] at hx
    rw [hprobes'] at hy
    match i with
    | 0 =>
      cases hx
      exact (congrArg Prod.snd (Option.some.inj hy)).symm
    | 1 =>
      cases hx
      exact absurd rfl ha
  obtain ⟨hresult, houtcome, hsession, htrace, -⟩ := (execute_indulges c Script.handler r s).1 _ _ _ t
    (Script.handler_indulges r) hlenient halike
  refine ⟨hlenient, halike, by decide +kernel, hresult, houtcome, ?_, by decide +kernel, ?_⟩
  · exact hsession.trans (by decide +kernel)
  · exact htrace.trans (by decide +kernel)

end Controller

end SessionRecovery
