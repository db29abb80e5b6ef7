import SessionRecovery.Proofs.Recovery.Bounds
import SessionRecovery.Proofs.Recovery.Motion

/-!
# Higher limits

Two calls that differ only in their limits go the same way until the lower limits refuse an action. A call
that is never refused one is therefore the same call under higher limits, and a call that is refused one is
the beginning of the call under higher limits, which goes on from there.
-/

namespace SessionRecovery

variable {σ : Type}

/-! ## Limits -/

/-- Limits are at most as high as others when each of them is. -/
instance : LE RecoveryLimits where
  le l l' := l.csrfRefreshes ≤ l'.csrfRefreshes ∧ l.logins ≤ l'.logins ∧
    l.tokenRefreshes ≤ l'.tokenRefreshes

instance (l l' : RecoveryLimits) : Decidable (l ≤ l') := inferInstanceAs (Decidable (_ ∧ _ ∧ _))

theorem RecoveryLimits.limitFor_le {l l' : RecoveryLimits} (h : l ≤ l') (a : Action) :
    l.limitFor a ≤ l'.limitFor a := by
  obtain ⟨hcsrf, hlogin, hrefresh⟩ := h
  cases a with
  | none => exact UInt8.le_refl 0
  | refreshCsrf => exact hcsrf
  | login => exact hlogin
  | refreshToken => exact hrefresh

/-- The budget under other limits. -/
def Budget.relimit (b : Budget) (l : RecoveryLimits) : Budget := { b with limits := l }

/-- As far as a call has come, under other limits. -/
def Progress.relimit (p : Progress) (l : RecoveryLimits) : Progress :=
  { p with budget := p.budget.relimit l }

namespace Budget

variable {b b' : Budget} {a : Action} {n : UInt8} {l : RecoveryLimits}

@[simp] theorem limits_relimit (b : Budget) (l : RecoveryLimits) : (b.relimit l).limits = l := rfl

@[simp] theorem used_relimit (b : Budget) (l : RecoveryLimits) (a : Action) :
    (b.relimit l).used a = b.used a := by
  cases a <;> rfl

theorem count_relimit (b : Budget) (l : RecoveryLimits) (a : Action) :
    (b.relimit l).count a = (b.count a).relimit l := by
  cases a <;> rfl

/-- An allowed action is counted among its like, and leaves the limits. -/
theorem limits_of_consume (h : b.consume a = .ok (n, b')) : b'.limits = b.limits := by
  rw [consume] at h
  split at h
  · cases h
    rfl
  · split at h
    · cases h
    · cases h
      exact b.limits_count a

/-- What is allowed is allowed under higher limits, with the same number. -/
theorem consume_relimit (hle : b.limits ≤ l) (h : b.consume a = .ok (n, b')) :
    (b.relimit l).consume a = .ok (n, b'.relimit l) := by
  rw [consume] at h ⊢
  split at h
  · next ha =>
    cases h
    rw [if_pos ha]
  · next ha =>
    split at h
    · cases h
    · next hlt =>
      cases h
      have hroom : ¬ l.limitFor a ≤ b.used a := fun hl =>
        hlt (UInt8.le_trans (RecoveryLimits.limitFor_le hle a) hl)
      rw [if_neg ha, limits_relimit, used_relimit, if_neg hroom, count_relimit]

end Budget

namespace Controller

open Observation

variable {c c' : Controller} {h : Handler σ} {request : Request} {p : Progress}
  {R : σ → σ → Prop}

/-- What starts an action starts it under higher limits. -/
theorem Starts.relimit {response : Response} {s started : σ} {a : Action} {n : UInt8} {b : Budget}
    (hcodes : c'.codes = c.codes) (hle : p.budget.limits ≤ c'.limits)
    (hs : c.Starts h request p response s a n b started) :
    c'.Starts h request (p.relimit c'.limits) response s a n (b.relimit c'.limits) started where
  selected := by
    rw [hcodes]
    exact hs.selected
  needed := hs.needed
  allowed := Budget.consume_relimit hle hs.allowed
  reported := hs.reported

/-- However a call goes on, it moves along what its handler moves along, and keeps the actions it has taken. -/
theorem continueAfter_moves [IsPreorder σ R] (hm : h.Moves R) (c : Controller) (request : Request)
    (p : Progress) (result : Except Error Response) (s : σ) :
    R s (c.continueAfter h request p result s).2.2 ∧
      p.actions <+: (c.continueAfter h request p result s).2.1.actions := by
  obtain ⟨os, x, p', t, hcourse, hrun, -⟩ := c.course_continueAfter h request p result s
  rw [hrun]
  exact ⟨hcourse.moves hm, started os, hcourse.actions_eq.symm⟩

/-- A call ends by being refused an action in a state, and under other limits the call that is at a given end
came through that state and took the same actions until then. -/
structure Refused (c : Controller) (h : Handler σ) (request : Request) (R : σ → σ → Prop)
    (run run' : Except Error Response × Progress × σ) (s : σ) (a : Action) (n : UInt8) : Prop where
  /-- The refusal is the result. -/
  result : run.1 = .error (.recoveryExhausted a n)
  /-- The refusal is reported last. -/
  reported : run.2.2 = h.report (.recoveryExhausted request.operation a (c.limits.limitFor a)) s
  /-- The other call came through the state. -/
  passed : R s run'.2.2
  /-- It took the same actions until then. -/
  actions : run.2.1.actions <+: run'.2.1.actions

/-- After an answer, a call under higher limits goes the same way, or on from where it would be refused. -/
theorem continueAfter_relimit [IsPreorder σ R] (hm : h.Moves R) (hcodes : c'.codes = c.codes)
    (request : Request) (p : Progress) (result : Except Error Response) (s : σ)
    (hle : p.budget.limits ≤ c'.limits) :
    c'.continueAfter h request (p.relimit c'.limits) result s =
      ((c.continueAfter h request p result s).1,
        (c.continueAfter h request p result s).2.1.relimit c'.limits,
        (c.continueAfter h request p result s).2.2) ∨
    ∃ u a n, c.Refused h request R (c.continueAfter h request p result s)
      (c'.continueAfter h request (p.relimit c'.limits) result s) u a n := by
  -- the induction follows the call under the lower limits; the other takes the same branch each time
  induction p, result, s using continueAfter.induct c h request with
  | case1 p s e =>
    left
    rw [continueAfter_failed, continueAfter_failed]
  | case2 p s response action ha =>
    left
    have ha' : Action.select c'.codes (h.session s) response = .none := by
      rw [hcodes]
      exact ha
    rw [continueAfter_settled ha, continueAfter_settled ha']
  | case3 p s response action hne e hb =>
    right
    obtain ⟨-, rfl⟩ := Budget.consume_error hne hb
    obtain ⟨hmoved, hactions⟩ :=
      continueAfter_moves hm c' request (p.relimit c'.limits) (.ok response) s
    refine ⟨s, action, p.budget.used action, ?_⟩
    rw [continueAfter_exhausted rfl hne hb]
    exact ⟨rfl, rfl, hmoved, hactions⟩
  | case4 p s response action hne n b hb started e s' hr =>
    left
    have hs : c.Starts h request p response s action n b started := ⟨rfl, hne, hb, rfl⟩
    rw [continueAfter_starts hs, continueAfter_starts (hs.relimit hcodes hle), hr]
    rfl
  | case5 p s response action hne n b hb started s' hr recovered hcan =>
    left
    have hs : c.Starts h request p response s action n b started := ⟨rfl, hne, hb, rfl⟩
    have hrun : c.continueAfter h request p (.ok response) s =
        (.error .cancelled, ⟨b, p.actions ++ [action], p.requestsSent⟩, recovered) := by
      rw [continueAfter_starts hs, hr]
      exact if_pos hcan
    have hrun' : c'.continueAfter h request (p.relimit c'.limits) (.ok response) s =
        (.error .cancelled, ⟨b.relimit c'.limits, p.actions ++ [action], p.requestsSent⟩,
          recovered) := by
      rw [continueAfter_starts (hs.relimit hcodes hle), hr]
      exact if_pos hcan
    rw [hrun, hrun']
    rfl
  | case6 p s response action hne n b hb started s' hr recovered hcan result s'' hsend ih =>
    have hs : c.Starts h request p response s action n b started := ⟨rfl, hne, hb, rfl⟩
    have hrun : c.continueAfter h request p (.ok response) s = c.continueAfter h request
        ⟨b, p.actions ++ [action], saturatingSucc p.requestsSent⟩ result s'' := by
      rw [continueAfter_starts hs, hr]
      dsimp only
      rw [if_neg hcan, hsend]
    have hrun' : c'.continueAfter h request (p.relimit c'.limits) (.ok response) s =
        c'.continueAfter h request
          (Progress.relimit ⟨b, p.actions ++ [action], saturatingSucc p.requestsSent⟩ c'.limits)
          result s'' := by
      rw [continueAfter_starts (hs.relimit hcodes hle), hr]
      dsimp only
      rw [if_neg hcan, hsend]
      rfl
    rw [hrun, hrun']
    exact ih ((Budget.limits_of_consume hb).symm ▸ hle)

/-- A whole call under higher limits goes the same way, or on from where it would be refused an action. -/
theorem execute_relimit [IsPreorder σ R] (hm : h.Moves R) (hcodes : c'.codes = c.codes)
    (hle : c.limits ≤ c'.limits) (request : Request) (s : σ) :
    c'.execute h request s = c.execute h request s ∨
    ∃ u a n, (c.execute h request s).1 = .error (.recoveryExhausted a n) ∧
      (c.execute h request s).2.2 = h.report (.recoveryOutcome (c.execute h request s).2.1)
        (h.report (.recoveryExhausted request.operation a (c.limits.limitFor a)) u) ∧
      R u (c'.execute h request s).2.2 ∧
      (c.execute h request s).2.1.actions <+: (c'.execute h request s).2.1.actions := by
  have hstart : c'.startProgress = c.startProgress.relimit c'.limits := rfl
  obtain ⟨first, s₁, hsend⟩ : ∃ x s', h.resend request s = (x, s') := ⟨_, _, rfl⟩
  have hgo := continueAfter_relimit hm hcodes request c.startProgress first s₁ hle
  rw [execute, execute, hsend, hstart]
  dsimp only
  rcases hgo with heq | ⟨u, a, n, href⟩
  · left
    rw [heq]
    rfl
  · right
    refine ⟨u, a, n, href.result, ?_, ?_, href.actions⟩
    · rw [← href.reported]
    · exact IsTrans.trans _ _ _ href.passed (hm.report _ _)

/-- What was observed stays observed. -/
def Extends (s t : σ × List (Observation σ)) : Prop := s.2 <+: t.2

instance : IsPreorder (σ × List (Observation σ)) Extends where
  refl s := List.prefix_refl s.2
  trans _ _ _ := List.IsPrefix.trans

/-- Every primitive of an observed handler adds to what was observed. -/
theorem observed_moves (h : Handler σ) : h.observed.Moves Extends where
  resend _ _ := ⟨[_], rfl⟩
  refreshCsrf _ := ⟨[_], rfl⟩
  credentials _ _ := ⟨[_], rfl⟩
  login _ _ := ⟨[_], rfl⟩
  refreshToken _ := ⟨[_], rfl⟩
  report _ _ := ⟨[_], rfl⟩
  persist _ := ⟨[_], rfl⟩

/-- Raising limits never changes a call that was not refused an action. Under limits that are all at least as
high, a call that does not end exhausted makes the same calls of its handler with the same answers, reports
the same events, reaches the same states, and ends with the same result, actions and number of requests. Of
any call, and so of one that is refused an action, the handler's calls and the actions are the beginning of
those under the higher limits. -/
theorem execute_raised (c c' : Controller) (hcodes : c'.codes = c.codes)
    (hle : c.limits ≤ c'.limits) (h : Handler σ) (request : Request) (s : σ) :
    ((∀ a n, (c.execute h request s).1 ≠ .error (.recoveryExhausted a n)) →
      c'.execute h request s = c.execute h request s ∧
      c'.observations h request s = c.observations h request s) ∧
    calls (c.observations h request s) <+: calls (c'.observations h request s) ∧
    (c.execute h request s).2.1.actions <+: (c'.execute h request s).2.1.actions := by
  have hobs := execute_relimit (observed_moves h) hcodes hle request (s, [])
  rw [execute_observed, execute_observed] at hobs
  rcases hobs with heq | ⟨⟨u, os⟩, a, n, hx, hend, hpassed, hactions⟩
  · simp only [Prod.mk.injEq] at heq
    obtain ⟨hresult, houtcome, hstate, hobserved⟩ := heq
    have hexecute : c'.execute h request s = c.execute h request s :=
      Prod.ext hresult (Prod.ext houtcome hstate)
    rw [hexecute, hobserved]
    exact ⟨fun _ => ⟨rfl, rfl⟩, List.prefix_refl _, List.prefix_refl _⟩
  · have hcalls : calls (c.observations h request s) = calls os := by
      have hlast := congrArg Prod.snd hend
      simp only [Handler.observed_report] at hlast
      rw [hlast]
      simp [Deed.primitive?]
    refine ⟨fun hne => absurd hx (hne a n), ?_, hactions⟩
    obtain ⟨rest, hrest⟩ := hpassed
    dsimp only at hrest
    rw [hcalls, ← hrest, calls_append]
    exact List.prefix_append _ _

/-- A call that needs two exchanges is refused the second one under a limit of one, goes on from there under a
limit of two, and is the same call under the standard limits. -/
theorem execute_raised_refusedTwice :
    ((Controller.mk ⟨0, 0, 1⟩ .standard).execute Script.handler (.new .get "/") refusedTwice).1 =
      .error (.recoveryExhausted .refreshToken 1) ∧
    calls ((Controller.mk ⟨0, 0, 1⟩ .standard).observations Script.handler (.new .get "/")
      refusedTwice) <+: calls ((Controller.mk ⟨0, 0, 2⟩ .standard).observations Script.handler
        (.new .get "/") refusedTwice) ∧
    (∀ a n, ((Controller.mk ⟨0, 0, 2⟩ .standard).execute Script.handler (.new .get "/")
      refusedTwice).1 ≠ .error (.recoveryExhausted a n)) ∧
    (Controller.mk .standard .standard).execute Script.handler (.new .get "/") refusedTwice =
      (Controller.mk ⟨0, 0, 2⟩ .standard).execute Script.handler (.new .get "/") refusedTwice := by
  have hlow : (⟨0, 0, 1⟩ : RecoveryLimits) ≤ ⟨0, 0, 2⟩ := by decide
  have hhigh : (⟨0, 0, 2⟩ : RecoveryLimits) ≤ .standard := by decide
  have hne : ∀ a n, ((Controller.mk ⟨0, 0, 2⟩ .standard).execute Script.handler (.new .get "/")
      refusedTwice).1 ≠ .error (.recoveryExhausted a n) := by
    intro a n hx
    have hok : ((Controller.mk ⟨0, 0, 2⟩ .standard).execute Script.handler (.new .get "/")
        refusedTwice).1.toBool = true := by decide +kernel
    rw [hx] at hok
    cases hok
  refine ⟨by decide +kernel, ?_, hne, ?_⟩
  · exact (execute_raised ⟨⟨0, 0, 1⟩, _⟩ ⟨⟨0, 0, 2⟩, _⟩ rfl hlow Script.handler (.new .get "/")
      refusedTwice).2.1
  · exact ((execute_raised ⟨⟨0, 0, 2⟩, _⟩ ⟨.standard, _⟩ rfl hhigh Script.handler (.new .get "/")
      refusedTwice).1 hne).1

end Controller

end SessionRecovery
