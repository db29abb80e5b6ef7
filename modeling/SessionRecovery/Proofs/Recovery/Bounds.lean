import Mathlib.Control.Monad.Basic
import SessionRecovery.Proofs.Recovery.Course
import SessionRecovery.Recovery.Call

/-!
# Bounds of recovery

The counters of a budget are the numbers of actions taken, so they stay below their limits and never
wrap. Every action that begins leaves a smaller budget, which bounds how often a request is sent, and a
call ends exhausted exactly when its last answer asks for an action that has begun as often as it may.
-/

namespace SessionRecovery

variable {σ : Type}

namespace Budget

/-- An action is refused exactly at its limit, with the number of times it was taken. -/
theorem consume_error {b : Budget} {a : Action} {e : Error} (ha : a ≠ .none)
    (h : b.consume a = .error e) :
    (b.limits.limitFor a).toNat ≤ (b.used a).toNat ∧ e = .recoveryExhausted a (b.used a) := by
  rw [consume, if_neg ha] at h
  split at h
  · next hle =>
    cases h
    exact ⟨UInt8.le_iff_toNat_le.mp hle, rfl⟩
  · cases h

/-- An action is allowed below its limit, and is the next one of its kind. -/
theorem consume_ok {b b' : Budget} {a : Action} {n : UInt8} (ha : a ≠ .none)
    (h : b.consume a = .ok (n, b')) :
    (b.used a).toNat < (b.limits.limitFor a).toNat ∧ n.toNat = (b.used a).toNat + 1 ∧
      b' = b.count a := by
  rw [consume, if_neg ha] at h
  split at h
  · cases h
  · next hlt =>
    cases h
    have hn := toNat_succ_of_lt hlt
    rw [UInt8.le_iff_toNat_le] at hlt
    exact ⟨by omega, hn, rfl⟩

/-- Counting keeps the limits. -/
@[simp] theorem limits_count (b : Budget) (a : Action) : (b.count a).limits = b.limits := by
  cases a <;> rfl

/-- Counting an action raises its own counter. -/
theorem used_count_self {b : Budget} {a : Action} (ha : a ≠ .none) :
    (b.count a).used a = b.used a + 1 := by
  cases a with
  | none => exact absurd rfl ha
  | _ => rfl

/-- Counting an action leaves every other counter. -/
theorem used_count_of_ne {b : Budget} {a a' : Action} (h : a' ≠ a) :
    (b.count a).used a' = b.used a' := by
  cases a <;> cases a' <;> first | exact absurd rfl h | rfl

/-- A full budget leaves all that the limits allow. -/
theorem remaining_full (l : RecoveryLimits) :
    (full l).remaining = l.csrfRefreshes.toNat + l.logins.toNat + l.tokenRefreshes.toNat := by
  simp only [remaining, full, UInt8.toNat_zero, Nat.sub_zero]

end Budget

/-- The counters of a call are the numbers of its actions, none of which is above its limit. -/
structure Progress.Counts (c : Controller) (p : Progress) : Prop where
  /-- The budget has the limits of the controller. -/
  limits : p.budget.limits = c.limits
  /-- Each counter is the number of actions of its kind. -/
  used : ∀ a, a ≠ .none → (p.budget.used a).toNat = p.actions.count a
  /-- No action was taken more often than it may. -/
  within : ∀ a, p.actions.count a ≤ (c.limits.limitFor a).toNat

namespace Progress.Counts

variable {c : Controller} {p : Progress} {a : Action}

/-- A call begins with all counters at zero. -/
theorem start (c : Controller) : c.startProgress.Counts c := by
  refine ⟨rfl, fun a ha => ?_, fun a => Nat.zero_le _⟩
  cases a with
  | none => exact absurd rfl ha
  | _ => rfl

/-- Every action that begins keeps the counters right, and its number is its rank among its like. -/
theorem take {n : UInt8} {b : Budget} (h : p.Counts c) (ha : a ≠ .none)
    (hb : p.budget.consume a = .ok (n, b)) (sent : UInt8) :
    (Progress.mk b (p.actions ++ [a]) sent).Counts c ∧ n.toNat = p.actions.count a + 1 ∧
      p.actions.count a < (c.limits.limitFor a).toNat := by
  obtain ⟨hlt, hn, rfl⟩ := Budget.consume_ok ha hb
  have hu := h.used a ha
  rw [h.limits] at hlt
  refine ⟨⟨?_, fun a' ha' => ?_, fun a' => ?_⟩, by omega, by omega⟩
  · rw [Budget.limits_count, h.limits]
  · by_cases hk : a' = a
    · subst hk
      have hlt' : ¬ c.limits.limitFor a' ≤ p.budget.used a' := by
        rw [UInt8.le_iff_toNat_le]
        omega
      have hs := Budget.toNat_succ_of_lt hlt'
      rw [Budget.used_count_self ha, hs, hu, List.count_append, List.count_singleton_self]
    · rw [Budget.used_count_of_ne hk, h.used a' ha', List.count_append]
      rw [List.count_singleton, beq_false_of_ne (Ne.symm hk)]
      rfl
  · rw [List.count_append, List.count_singleton]
    have hw := h.within a'
    by_cases hk : a = a'
    · subst hk
      rw [beq_self_eq_true, if_pos rfl]
      omega
    · rw [beq_false_of_ne hk, if_neg Bool.false_ne_true]
      omega

/-- An action is refused exactly when it has been taken as often as it may. -/
theorem refused {e : Error} (h : p.Counts c) (ha : a ≠ .none)
    (hb : p.budget.consume a = .error e) :
    p.actions.count a = (c.limits.limitFor a).toNat ∧
      e = .recoveryExhausted a (c.limits.limitFor a) := by
  obtain ⟨hle, rfl⟩ := Budget.consume_error ha hb
  have hu := h.used a ha
  have hw := h.within a
  rw [h.limits] at hle
  have heq : p.budget.used a = c.limits.limitFor a := UInt8.toNat_inj.mp (by omega)
  exact ⟨by omega, by rw [heq]⟩

end Progress.Counts

namespace Controller

open Observation

variable {c : Controller} {h : Handler σ} {request : Request} {p p' : Progress}
  {result x : Except Error Response} {s t : σ} {os : List (Observation σ)}

/-- A request is sent again at most as often as the budget allows. -/
theorem Course.length_sends_le (hc : c.Course h request p result s os x p' t) :
    (sends os).length ≤ p.budget.remaining := by
  induction hc with
  | failed => exact Nat.zero_le _
  | settled ha => exact Nat.zero_le _
  | exhausted ha hne hb => exact Nat.zero_le _
  | broken hs ht =>
    simp [ht.sends_eq_nil, Deed.primitive?]
  | abandoned hs ht hr hcan =>
    simp [ht.sends_eq_nil, Deed.primitive?]
  | again hs ht hr hcan hsend hrest ih =>
    have hlt := Budget.remaining_consume hs.needed hs.allowed
    simp only [List.cons_append, sends_cons, sends_append, ht.sends_eq_nil, Deed.primitive?,
      reduceCtorEq, if_false, if_true, List.nil_append, List.length_cons]
    exact Nat.succ_le_of_lt (Nat.lt_of_le_of_lt ih hlt)

/-- The actions of a call are those that began, in order. -/
theorem Course.actions_eq (hc : c.Course h request p result s os x p' t) :
    p'.actions = p.actions ++ started os := by
  induction hc with
  | failed => exact (List.append_nil _).symm
  | settled ha => exact (List.append_nil _).symm
  | exhausted ha hne hb => exact (List.append_nil _).symm
  | broken hs ht =>
    simp [ht.started_eq_nil, Deed.started?]
  | abandoned hs ht hr hcan =>
    simp [ht.started_eq_nil, Deed.started?]
  | again hs ht hr hcan hsend hrest ih =>
    simp [ih, ht.started_eq_nil, Deed.started?]

/-- The counters stay right to the end of a call. -/
theorem Course.counts (hc : c.Course h request p result s os x p' t) (hp : p.Counts c) :
    p'.Counts c := by
  induction hc with
  | failed => exact hp
  | settled ha => exact hp
  | exhausted ha hne hb => exact hp
  | broken hs ht => exact (hp.take hs.needed hs.allowed _).1
  | abandoned hs ht hr hcan => exact (hp.take hs.needed hs.allowed _).1
  | again hs ht hr hcan hsend hrest ih => exact ih (hp.take hs.needed hs.allowed _).1

/-- How a call ends, told by the last answer to its request: what came before the answer, the answer, the
state after it, what came after it, and the result. -/
inductive Ending (c : Controller) (h : Handler σ) (before : List (Observation σ)) :
    Except Error Response → σ → List (Observation σ) → Except Error Response → Prop
  /-- There was no answer. -/
  | unanswered {e : Error} {s : σ} {rest : List (Observation σ)} :
      Ending c h before (.error e) s rest (.error e)
  /-- The answer asks for nothing. -/
  | settled {response : Response} {s : σ} {rest : List (Observation σ)}
      (ha : Action.select c.codes (h.session s) response = .none) :
      Ending c h before (.ok response) s rest (.ok response)
  /-- The answer asks for an action that has begun as often as it may. -/
  | exhausted {response : Response} {s : σ} {rest : List (Observation σ)} {a : Action}
      (ha : Action.select c.codes (h.session s) response = a) (hne : a ≠ .none)
      (hn : (started before).count a = (c.limits.limitFor a).toNat) :
      Ending c h before (.ok response) s rest
        (.error (.recoveryExhausted a (c.limits.limitFor a)))
  /-- The answer asks for an action that could begin, and an error was raised from there on. -/
  | broken {response : Response} {s : σ} {rest : List (Observation σ)} {a : Action} {e : Error}
      (ha : Action.select c.codes (h.session s) response = a) (hne : a ≠ .none)
      (hn : (started before).count a < (c.limits.limitFor a).toNat) (hr : h.Raises rest e) :
      Ending c h before (.ok response) s rest (.error e)

/-- What comes after the calls does not change how a call ends. -/
theorem Ending.append {before rest ps : List (Observation σ)}
    (he : c.Ending h before result s rest x) (hp : calls ps = []) :
    c.Ending h before result s (rest ++ ps) x := by
  cases he with
  | unanswered => exact .unanswered
  | settled ha => exact .settled ha
  | exhausted ha hne hn => exact .exhausted ha hne hn
  | broken ha hne hn hr => exact .broken ha hne hn (hr.append hp)

/-- A call that ends exhausted, where no primitive said so itself, was answered by something that asks for
an action at its limit. -/
theorem Ending.of_exhausted {before rest : List (Observation σ)} {a : Action} {n : UInt8}
    (he : c.Ending h before result s rest (.error (.recoveryExhausted a n)))
    (hs : ∀ e, result = .error e → e ≠ .recoveryExhausted a n)
    (hq : ∀ o ∈ rest, o.deed.exhausts = false) :
    n = c.limits.limitFor a ∧ a ≠ .none ∧ ∃ response, result = .ok response ∧
      Action.select c.codes (h.session s) response = a ∧
      (started before).count a = (c.limits.limitFor a).toNat := by
  cases he with
  | unanswered => exact absurd rfl (hs _ rfl)
  | exhausted ha hne hn => exact ⟨rfl, hne, _, rfl, ha, hn⟩
  | broken ha hne hn hr =>
    rcases hr with ⟨d, hd, hraised⟩ | ⟨hcan, -⟩
    · obtain ⟨o, ho, rfl⟩ := exists_of_mem_calls (List.mem_of_getLast? hd)
      exact absurd hraised (Deed.raised_ne_exhausted (hq o ho) a n)
    · cases hcan

/-- A call whose last answer asks for an action at its limit ends exhausted. -/
theorem Ending.eq_exhausted {before rest : List (Observation σ)} {response : Response}
    {a : Action} (he : c.Ending h before (.ok response) s rest x)
    (ha : Action.select c.codes (h.session s) response = a) (hne : a ≠ .none)
    (hn : (started before).count a = (c.limits.limitFor a).toNat) :
    x = .error (.recoveryExhausted a (c.limits.limitFor a)) := by
  subst ha
  cases he with
  | settled ha => exact absurd ha hne
  | exhausted ha _ _ => rw [ha]
  | broken ha _ hlt _ =>
    subst ha
    omega

/-- A course ends as its last answer tells. -/
theorem Course.ending (hc : c.Course h request p result s os x p' t) (hp : p.Counts c)
    (before : List (Observation σ)) (hb : started before = p.actions) :
    ∃ before' result' s' rest, before ++ ⟨.send request result, s⟩ :: os =
        before' ++ ⟨.send request result', s'⟩ :: rest ∧
      sends rest = [] ∧ c.Ending h before' result' s' rest x := by
  induction hc generalizing before with
  | failed => exact ⟨before, _, _, [], rfl, rfl, .unanswered⟩
  | settled ha => exact ⟨before, _, _, [], rfl, rfl, .settled ha⟩
  | exhausted ha hne hbud =>
    obtain ⟨hn, rfl⟩ := hp.refused hne hbud
    refine ⟨before, _, _, _, rfl, rfl, .exhausted ha hne ?_⟩
    rw [hb, hn]
  | broken hs ht =>
    have hlt := (hp.take hs.needed hs.allowed 0).2.2
    refine ⟨before, _, _, _, rfl, ?_, .broken hs.selected hs.needed (by rw [hb]; exact hlt) ?_⟩
    · simp [ht.sends_eq_nil, Deed.primitive?]
    · exact (ht.raises rfl).append rfl
  | abandoned hs ht hr hcan =>
    have hlt := (hp.take hs.needed hs.allowed 0).2.2
    refine ⟨before, _, _, _, rfl, ?_, .broken hs.selected hs.needed (by rw [hb]; exact hlt) ?_⟩
    · simp [ht.sends_eq_nil, Deed.primitive?]
    · exact .gone (List.mem_append_right _ (List.mem_singleton_self _)) hcan
  | @again p p' response s started' s' recovered s'' t a n b os rest result result' hs ht hr hcan
      hsend hrest ih =>
    have hcount := (hp.take hs.needed hs.allowed (saturatingSucc p.requestsSent)).1
    obtain ⟨before', result₁, s₁, rest', heq, hrest', hend⟩ := ih hcount
      (before ++ ⟨.send request (.ok response), s⟩ ::
        ⟨.report (.recoveryStart request.operation a n response.status response.errorCode),
          started'⟩ :: os ++ [⟨.report (.recoverySuccess request.operation a), recovered⟩])
      (by simp [hb, ht.started_eq_nil, Deed.started?])
    refine ⟨before', result₁, s₁, rest', ?_, hrest', hend⟩
    rw [← heq]
    simp only [List.append_assoc, List.cons_append, List.nil_append]

/-- Each event of an action that begins carries the action's rank among its like. -/
def Ranked (before : List (Observation σ)) (o : Observation σ) (_ : List (Observation σ)) : Prop :=
  ∀ operation a n status code, o.deed = .report (.recoveryStart operation a n status code) →
    n.toNat = (started before).count a + 1

/-- Where no action begins there is nothing to rank. -/
theorem ranked_of_started_eq_nil {l : List (Observation σ)} (hl : started l = [])
    (before after : List (Observation σ)) : Throughout Ranked before l after := by
  refine .of_forall fun o ho _ _ operation a n status code hd => ?_
  have hm : a ∈ started l := List.mem_filterMap.mpr ⟨o, ho, by rw [hd, Deed.started?]⟩
  rw [hl] at hm
  exact absurd hm List.not_mem_nil

/-- Every action of a course is ranked. -/
theorem Course.ranked (hc : c.Course h request p result s os x p' t) (hp : p.Counts c)
    (before after : List (Observation σ)) (hb : started before = p.actions) :
    Throughout Ranked before os after := by
  induction hc generalizing before with
  | failed => exact .nil
  | settled ha => exact .nil
  | exhausted ha hne hbud => exact ranked_of_started_eq_nil rfl _ _
  | broken hs ht =>
    have hn := (hp.take hs.needed hs.allowed 0).2.1
    refine .cons ?_ (ranked_of_started_eq_nil ?_ _ _)
    · rintro _ _ _ _ _ ⟨⟩
      rw [hb, hn]
    · simp [ht.started_eq_nil, Deed.started?]
  | abandoned hs ht hr hcan =>
    have hn := (hp.take hs.needed hs.allowed 0).2.1
    refine .cons ?_ (ranked_of_started_eq_nil ?_ _ _)
    · rintro _ _ _ _ _ ⟨⟩
      rw [hb, hn]
    · simp [ht.started_eq_nil, Deed.started?]
  | again hs ht hr hcan hsend hrest ih =>
    have hn := (hp.take hs.needed hs.allowed 0).2.1
    refine .cons ?_ (.append (ranked_of_started_eq_nil ht.started_eq_nil _ _) ?_)
    · rintro _ _ _ _ _ ⟨⟩
      rw [hb, hn]
    · refine .append (l := [_, _]) (ranked_of_started_eq_nil rfl _ _) ?_
      refine ih (hp.take hs.needed hs.allowed _).1 _ ?_
      simp [hb, ht.started_eq_nil, Deed.started?]

/-- A whole call ends as its last answer tells. -/
theorem execute_ending (c : Controller) (h : Handler σ) (request : Request) (s : σ) :
    ∃ before result s' rest,
      c.observations h request s = before ++ ⟨.send request result, s'⟩ :: rest ∧
      sends rest = [] ∧ c.Ending h before result s' rest (c.execute h request s).1 := by
  obtain ⟨first, s₁, os, x, p, t, -, hcourse, hrun, hobs⟩ := c.course_execute h request s
  obtain ⟨before, result, s', rest, heq, hrest, hend⟩ :=
    hcourse.ending (.start c) [] rfl
  refine ⟨before, result, s', rest ++ [⟨.report (.recoveryOutcome (outcome request p x)),
    h.report (.recoveryOutcome (outcome request p x)) t⟩], ?_, ?_, ?_⟩
  · rw [observations, hobs]
    rw [List.nil_append] at heq
    dsimp only
    rw [heq, List.append_assoc]
    rfl
  · rw [sends_append, hrest]
    rfl
  · rw [hrun]
    exact hend.append rfl

/-- Recovery is bounded, exactly. A request is sent at most once more than there may be actions, and no
action is taken more often than it may. The call ends exhausted with an action exactly when its last
answer asks for the action and the action had begun as often as it may before that answer, and the number
it reports is that limit. Every action that begins carries its rank, so no counter ever wraps. -/
theorem execute_bounded (c : Controller) (h : Handler σ) (request : Request) (s : σ)
    (hq : ∀ o ∈ c.observations h request s, o.deed.exhausts = false) :
    (sends (c.observations h request s)).length ≤
      1 + c.limits.csrfRefreshes.toNat + c.limits.logins.toNat + c.limits.tokenRefreshes.toNat ∧
    started (c.observations h request s) = (c.execute h request s).2.1.actions ∧
    (∀ a, (c.execute h request s).2.1.actions.count a ≤ (c.limits.limitFor a).toNat) ∧
    (∀ a n, (c.execute h request s).1 = .error (.recoveryExhausted a n) ↔
      n = c.limits.limitFor a ∧ a ≠ .none ∧ ∃ before response s' rest,
        c.observations h request s = before ++ ⟨.send request (.ok response), s'⟩ :: rest ∧
        sends rest = [] ∧ Action.select c.codes (h.session s') response = a ∧
        (started before).count a = (c.limits.limitFor a).toNat) ∧
    Throughout Ranked [] (c.observations h request s) [] := by
  obtain ⟨first, s₁, os, x, p, t, -, hcourse, hrun, hobs⟩ := c.course_execute h request s
  have hos : c.observations h request s =
      ⟨.send request first, s₁⟩ :: os ++ [⟨.report (.recoveryOutcome (outcome request p x)),
        h.report (.recoveryOutcome (outcome request p x)) t⟩] := by
    rw [observations, hobs]
  have hactions := hcourse.actions_eq
  refine ⟨?_, ?_, ?_, fun a n => ⟨fun hx => ?_, ?_⟩, ?_⟩
  · have hle := hcourse.length_sends_le
    have hfull : c.startProgress.budget.remaining =
        c.limits.csrfRefreshes.toNat + c.limits.logins.toNat + c.limits.tokenRefreshes.toNat :=
      Budget.remaining_full c.limits
    rw [hos]
    simp only [List.cons_append, sends_cons, sends_append, sends_nil, Deed.primitive?, if_true,
      reduceCtorEq, if_false, List.append_nil, List.length_cons]
    omega
  · rw [hos, hrun]
    simp [Deed.started?, outcome, hactions, startProgress]
  · rw [hrun]
    exact (hcourse.counts (.start c)).within
  · obtain ⟨before, result, s', rest, heq, hrest, hend⟩ := c.execute_ending h request s
    rw [hx] at hend
    have hmem : ∀ o ∈ ⟨.send request result, s'⟩ :: rest, o.deed.exhausts = false := by
      intro o ho
      exact hq o (by rw [heq]; exact List.mem_append_right before ho)
    have hsend : ∀ e, result = .error e → e ≠ .recoveryExhausted a n := by
      rintro e rfl rfl
      exact Bool.noConfusion (hmem _ List.mem_cons_self)
    obtain ⟨hn, hne, response, rfl, hsel, hcount⟩ :=
      hend.of_exhausted hsend fun o ho => hmem o (List.mem_cons_of_mem _ ho)
    exact ⟨hn, hne, before, response, s', rest, heq, hrest, hsel, hcount⟩
  · rintro ⟨rfl, hne, before', response, s'', rest', heq', hrest', hsel, hcount⟩
    obtain ⟨before, result, s', rest, heq, hrest, hend⟩ := c.execute_ending h request s
    obtain ⟨rfl, ho, rfl⟩ := eq_of_last_send (heq.symm.trans heq') rfl rfl hrest hrest'
    cases ho
    exact hend.eq_exhausted hsel hne hcount
  · rw [hos]
    refine .append (.cons ?_ (hcourse.ranked (.start c) _ _ rfl)) ?_
    · rintro _ _ _ _ _ ⟨⟩
    · exact ranked_of_started_eq_nil rfl _ _

/-- A script that refuses the request twice without saying why, in a session that can only exchange its
refresh token. -/
def refusedTwice : Script :=
  ⟨⟨"https://a", none, "", "r", ""⟩, false,
    List.replicate 2 ⟨false, ⟨none, none, none⟩, .ok ⟨401, [], []⟩⟩, [], [], [], []⟩

/-- A controller that allows one exchange and nothing else ends the second refusal exhausted, with one
exchange begun before it. -/
theorem execute_bounded_refusedTwice :
    (∀ o ∈ (Controller.mk ⟨0, 0, 1⟩ .standard).observations Script.handler (.new .get "/")
      refusedTwice, o.deed.exhausts = false) ∧
    ((Controller.mk ⟨0, 0, 1⟩ .standard).execute Script.handler (.new .get "/") refusedTwice).1 =
      .error (.recoveryExhausted .refreshToken 1) ∧
    ∃ before response s' rest,
      (Controller.mk ⟨0, 0, 1⟩ .standard).observations Script.handler (.new .get "/")
        refusedTwice = before ++ ⟨.send (.new .get "/") (.ok response), s'⟩ :: rest ∧
      sends rest = [] ∧ (started before).count .refreshToken = 1 := by
  have hq : ∀ o ∈ (Controller.mk ⟨0, 0, 1⟩ .standard).observations Script.handler (.new .get "/")
      refusedTwice, o.deed.exhausts = false := by decide +kernel
  have hx : ((Controller.mk ⟨0, 0, 1⟩ .standard).execute Script.handler (.new .get "/")
      refusedTwice).1 = .error (.recoveryExhausted .refreshToken 1) := by decide +kernel
  obtain ⟨-, -, -, hiff, -⟩ := execute_bounded _ _ _ _ hq
  obtain ⟨-, -, before, response, s', rest, heq, hrest, -, hcount⟩ := (hiff _ _).mp hx
  exact ⟨hq, hx, before, response, s', rest, heq, hrest, hcount⟩

end Controller

end SessionRecovery
