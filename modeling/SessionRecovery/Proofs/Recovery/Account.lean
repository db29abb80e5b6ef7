import SessionRecovery.Proofs.Recovery.Bounds
import SessionRecovery.Proofs.Recovery.Shape

/-!
# The account that a call gives of itself

A call leaves three records: the primitives that it called, the events that it reported, and the outcome
that it gives with its result. All three tell of the same attempts at recovery, one after another: which
reply asked for an action, which attempt at the action it was, what the action called and how it ended.
An attempt that failed is the last thing told before the outcome.
-/

namespace SessionRecovery

variable {σ : Type}

/-! ## Events among observations -/

namespace Deed

/-- The event that was reported. -/
def event? : Deed → Option Event
  | .report e => some e
  | _ => none

/-- The failure of a probe, unless it says that the caller gave up. -/
def probeFailure? : Deed → Option Error
  | .csrf (.error e) => if e = .cancelled then none else some e
  | _ => none

end Deed

namespace Observation

/-- The events that were reported, in order. -/
def events (os : List (Observation σ)) : List Event := os.filterMap (·.deed.event?)

/-- Without observations there is no event. -/
@[simp] theorem events_nil : events ([] : List (Observation σ)) = [] := rfl

/-- The events of one observation and of those after it. -/
@[simp] theorem events_cons (o : Observation σ) (os : List (Observation σ)) :
    events (o :: os) = o.deed.event?.toList ++ events os := by
  rw [events, List.filterMap_cons]
  cases o.deed.event? <;> rfl

/-- Events of joined observations. -/
@[simp] theorem events_append (os ps : List (Observation σ)) :
    events (os ++ ps) = events os ++ events ps := List.filterMap_append

/-- The primitives that were called are those of the calls. -/
theorem filterMap_calls (os : List (Observation σ)) :
    (calls os).filterMap Deed.primitive? = primitives os := by
  induction os with
  | nil => rfl
  | cons o os ih =>
    rw [calls_cons, primitives_cons, ← ih]
    cases ho : o.deed.primitive? with
    | none => rfl
    | some p => simp [ho]

end Observation

/-! ## Attempts -/

/-- What a call tells of one attempt at recovery. -/
structure Attempt where
  /-- The reply that asked for it. -/
  cause : Response
  /-- The action. -/
  action : Action
  /-- The number under which it was reported. -/
  number : UInt8
  /-- The calls that the action made, with their answers. -/
  deeds : List Deed
  /-- How the action ended. -/
  ending : Except Error Unit
  /-- The answer to the request, if it was sent again. -/
  answer : Option (Except Error Response)

namespace Attempt

/-- The failures that the attempt got over: a login does without its probe, and no other action does. -/
def overcome (t : Attempt) : List Error :=
  if t.action = .login then t.deeds.filterMap Deed.probeFailure? else []

/-- The event with which an attempt ends. -/
def closing (operation : String) (a : Action) : Except Error Unit → Event
  | .ok () => .recoverySuccess operation a
  | .error e => .recoveryFailure operation a e

/-- The events of an attempt. -/
def events (operation : String) (t : Attempt) : List Event :=
  .recoveryStart operation t.action t.number t.cause.status t.cause.errorCode ::
    t.overcome.map (.bestEffortFailed operation .csrfProbe) ++ [closing operation t.action t.ending]

/-- The calls of an attempt, and the request if it was sent again. -/
def calls (request : Request) (t : Attempt) : List Deed :=
  t.deeds ++ (t.answer.map (.send request)).toList

/-- The action came to its end: it made all its calls, and the last of them raised nothing. -/
def Completes (t : Attempt) : Prop :=
  t.deeds.filterMap Deed.primitive? = t.action.block ∧
    ∀ d, t.deeds.getLast? = some d → d.raised? = none

/-- The last answer to the request after some attempts, where `first` answered it before them. -/
def lastAnswer (first : Except Error Response) (ts : List Attempt) : Except Error Response :=
  (ts.getLast?.bind (·.answer)).getD first

/-- An attempt between others is told rightly, in a call with a first answer, a result, and perhaps an action
that was refused in the end. -/
structure Fits (first x : Except Error Response) (refused : Option Action) (pre : List Attempt)
    (t : Attempt) (post : List Attempt) : Prop where
  /-- There was something to do. -/
  needed : t.action ≠ .none
  /-- The answer before it asked for it. -/
  caused : lastAnswer first pre = .ok t.cause
  /-- Its number is its rank among the attempts at its action. -/
  ranked : t.number.toNat = (pre.map (·.action)).count t.action + 1
  /-- It made the calls of its action in order, and possibly not all of them. -/
  ordered : t.deeds.filterMap Deed.primitive? <+: t.action.block
  /-- It got over one failure at most. -/
  overcame : t.overcome.length ≤ 1
  /-- It is reported as a success just when the action came to its end. -/
  completed : t.ending = .ok () ↔ t.Completes
  /-- The error of an attempt that failed is the result, and the request is not sent again. -/
  failed : ∀ e, t.ending = .error e → t.answer = none ∧ x = .error e
  /-- After a success the request is sent again unless the caller gave up. -/
  abandoned : t.ending = .ok () → t.answer = none → x = .error .cancelled
  /-- Where the request is not sent again, nothing more is attempted and nothing is refused. -/
  last : t.answer = none → post = [] ∧ refused = none

/-- After an attempt with an answer, this is the last one. -/
theorem lastAnswer_concat {t : Attempt} {result : Except Error Response}
    (ht : t.answer = some result) (first : Except Error Response) (ts : List Attempt) :
    lastAnswer first (ts ++ [t]) = result := by
  rw [lastAnswer, List.getLast?_concat, Option.bind_some, ht, Option.getD_some]

end Attempt

/-! ## What one action tells -/

namespace Handler

open Observation

variable {h : Handler σ} {operation : String} {a : Action} {s s' : σ}
  {os : List (Observation σ)} {x : Except Error Unit}

/-- A probe before a login reports just the failure that the login gets over. -/
theorem Tries.events_eq (ht : h.Tries operation s os s') : events os =
    ((calls os).filterMap Deed.probeFailure?).map (.bestEffortFailed operation .csrfProbe) := by
  cases ht with
  | fresh hp => rfl
  | skipped hp he => simp [Deed.event?, Deed.primitive?, Deed.probeFailure?, he]

/-- An action reports just the failure that it gets over, if there is one. -/
theorem Takes.events_eq (ht : h.Takes operation a s os x s') : events os =
    (if a = .login then (calls os).filterMap Deed.probeFailure? else []).map
      (.bestEffortFailed operation .csrfProbe) := by
  cases ht with
  | abandoned ha hc => split <;> rfl
  | triedLate hc hp hc' ht hc'' =>
    simp [ht.events_eq, Deed.event?, Deed.primitive?, Deed.probeFailure?, List.filterMap_cons]
  | loginFailed hc hp hc' ht hc'' hl =>
    simp [ht.events_eq, Deed.event?, Deed.primitive?, Deed.probeFailure?, List.filterMap_cons]
  | loggedIn hc hp hc' ht hc'' hl =>
    simp [ht.events_eq, Deed.event?, Deed.primitive?, Deed.probeFailure?, List.filterMap_cons]
  | _ => rfl

/-- A probe before a login fails once at most. -/
theorem Tries.length_probeFailures_le (ht : h.Tries operation s os s') :
    ((calls os).filterMap Deed.probeFailure?).length ≤ 1 := by
  obtain ⟨y, hy⟩ := ht.exists_calls_eq
  rw [hy]
  exact List.length_filterMap_le _ _

/-- An action has at most one probe that fails. -/
theorem Takes.length_probeFailures_le (ht : h.Takes operation a s os x s') :
    ((calls os).filterMap Deed.probeFailure?).length ≤ 1 := by
  cases ht with
  | triedLate hc hp hc' ht hc'' => exact ht.length_probeFailures_le
  | loginFailed hc hp hc' ht hc'' hl =>
    simpa [Deed.primitive?, Deed.probeFailure?, List.filterMap_cons] using ht.length_probeFailures_le
  | loggedIn hc hp hc' ht hc'' hl =>
    simpa [Deed.primitive?, Deed.probeFailure?, List.filterMap_cons] using ht.length_probeFailures_le
  | probeAbandoned hc hp hc' ht => exact Nat.zero_le _
  | probeFailed hc hp => exact List.length_filterMap_le _ _
  | probed hc hp => exact List.length_filterMap_le _ _
  | _ => exact Nat.zero_le _

/-- An action goes well just when it makes all its calls and the last of them raises nothing. -/
theorem Takes.eq_ok_iff (ht : h.Takes operation a s os x s') : x = .ok () ↔
    primitives os = a.block ∧ ∀ d, (calls os).getLast? = some d → d.raised? = none := by
  cases ht with
  | nothing => simp [Action.block]
  | abandoned ha hc => cases a <;> simp_all [Action.block]
  | triedLate hc hp hc' ht hc'' =>
    simp [ht.primitives_eq, Deed.primitive?, Action.block]
  | loginFailed hc hp hc' ht hc'' hl =>
    simp [ht.primitives_eq, Deed.primitive?, Action.block]
  | loggedIn hc hp hc' ht hc'' hl =>
    simp [ht.primitives_eq, Deed.primitive?, Action.block, Deed.raised?, List.getLast?_cons]
  | _ => simp [Deed.primitive?, Action.block, Deed.raised?]

end Handler

/-! ## What a call tells -/

/-- The numbers of sends are counted up to the greatest number of their width. -/
theorem toNat_saturatingSucc (n : UInt8) : (saturatingSucc n).toNat = min 255 (n.toNat + 1) := by
  have hlt := n.toNat_lt
  rw [saturatingSucc]
  split
  · next hn => rw [hn]; rfl
  · next hn =>
    have hne : n.toNat ≠ 255 := fun h => hn (UInt8.toNat_inj.mp h)
    rw [UInt8.toNat_add, UInt8.toNat_one]
    omega

namespace Controller

open Observation

/-- The budget refuses an action: the last answer to the request asks for it, and before that answer it had
begun as often as it may. -/
def Refuses (c : Controller) (h : Handler σ) (request : Request) (os : List (Observation σ))
    (a : Action) : Prop :=
  a ≠ .none ∧ ∃ before response s rest,
    os = before ++ ⟨.send request (.ok response), s⟩ :: rest ∧ sends rest = [] ∧
    Action.select c.codes (h.session s) response = a ∧
    (started before).count a = (c.limits.limitFor a).toNat

variable {c : Controller} {h : Handler σ} {request : Request} {p p' : Progress}
  {first result x : Except Error Response} {s t : σ} {os : List (Observation σ)}

/-- Whether an action is refused is told by the last answer to the request. -/
theorem refuses_iff {before rest : List (Observation σ)} (hr : sends rest = []) {a : Action} :
    c.Refuses h request (before ++ ⟨.send request result, s⟩ :: rest) a ↔
      a ≠ .none ∧ ∃ response, result = .ok response ∧
        Action.select c.codes (h.session s) response = a ∧
        (started before).count a = (c.limits.limitFor a).toNat := by
  refine and_congr_right fun _ => ⟨?_, ?_⟩
  · rintro ⟨before', response, s', rest', heq, hr', ha, hn⟩
    obtain ⟨rfl, ho, -⟩ := eq_of_last_send heq rfl rfl hr hr'
    cases ho
    exact ⟨response, rfl, ha, hn⟩
  · rintro ⟨response, rfl, ha, hn⟩
    exact ⟨before, response, s, rest, rfl, hr, ha, hn⟩

/-- What comes after the last send does not change what is refused. -/
theorem refuses_append {ps : List (Observation σ)} (hp : sends ps = []) {a : Action} :
    c.Refuses h request (os ++ ps) a ↔ c.Refuses h request os a := by
  refine and_congr_right fun _ => ⟨?_, ?_⟩
  · rintro ⟨before, response, s, rest, heq, hr, ha, hn⟩
    rcases List.append_eq_append_iff.mp heq with ⟨as, -, hps⟩ | ⟨bs, hos, hrest⟩
    · simp [hps, Deed.primitive?] at hp
    · cases bs with
      | nil => simp [← List.nil_append ps ▸ hrest, Deed.primitive?] at hp
      | cons b bs =>
        rw [List.cons_append] at hrest
        obtain ⟨rfl, rfl⟩ := List.cons.inj hrest
        rw [sends_append, hp, List.append_nil] at hr
        exact ⟨before, response, s, bs, hos, hr, ha, hn⟩
  · rintro ⟨before, response, s, rest, rfl, hr, ha, hn⟩
    refine ⟨before, response, s, rest ++ ps, by simp, ?_, ha, hn⟩
    rw [sends_append, hr, hp]
    rfl

/-- What is reported of an action that was refused. -/
def refusal (c : Controller) (operation : String) (refused : Option Action) : List Event :=
  (refused.map fun a => .recoveryExhausted operation a (c.limits.limitFor a)).toList

/-- What a call tells from an answer to its request on: some attempts, after others that were told before, and
perhaps an action that was refused. -/
structure Tells (c : Controller) (h : Handler σ) (request : Request)
    (first x : Except Error Response) (before os : List (Observation σ)) (pre ts : List Attempt)
    (refused : Option Action) : Prop where
  /-- The calls are those of the attempts. -/
  calls_eq : calls os = ts.flatMap (Attempt.calls request)
  /-- The events are those of the attempts, and what is reported of an action that was refused. -/
  events_eq : events os = ts.flatMap (Attempt.events request.operation) ++
    c.refusal request.operation refused
  /-- Every attempt is told rightly. -/
  fits : Throughout (Attempt.Fits first x refused) pre ts []
  /-- The action that was refused is the one that the budget refuses. -/
  refuses : ∀ a, refused = some a ↔ c.Refuses h request (before ++ os) a
  /-- A refusal ends the call. -/
  raised : ∀ a, refused = some a → x = .error (.recoveryExhausted a (c.limits.limitFor a))
  /-- Otherwise the last answer stands. -/
  stands : refused = none → (∀ t ∈ ts, t.answer.isSome = true) →
    x = Attempt.lastAnswer first (pre ++ ts)
  /-- Every attempt but one that ends the call is followed by a send. -/
  sent : (sends os).length + (if ∀ t ∈ ts, t.answer.isSome = true then 0 else 1) = ts.length

/-- Where the budget refuses nothing, a call tells of its attempts only. -/
theorem Tells.of_not_refuses {before : List (Observation σ)} {pre ts : List Attempt}
    (hcalls : calls os = ts.flatMap (Attempt.calls request))
    (hevents : events os = ts.flatMap (Attempt.events request.operation))
    (hfits : Throughout (Attempt.Fits first x none) pre ts [])
    (hno : ∀ a, ¬ c.Refuses h request (before ++ os) a)
    (hstands : (∀ t ∈ ts, t.answer.isSome = true) → x = Attempt.lastAnswer first (pre ++ ts))
    (hsent : (sends os).length + (if ∀ t ∈ ts, t.answer.isSome = true then 0 else 1) =
      ts.length) : c.Tells h request first x before os pre ts none where
  calls_eq := hcalls
  events_eq := hevents.trans (List.append_nil _).symm
  fits := hfits
  refuses a := by simp [hno a]
  raised a ha := by cases ha
  stands _ := hstands
  sent := hsent

/-- An action that begins is not refused, and neither is any other on the same answer. -/
theorem Starts.not_refuses {response : Response} {started : σ} {a : Action} {n : UInt8}
    {b : Budget} (hs : c.Starts h request p response s a n b started) (hp : p.Counts c)
    {before rest : List (Observation σ)} (hb : Observation.started before = p.actions)
    (hr : sends rest = []) (a' : Action) :
    ¬ c.Refuses h request (before ++ ⟨.send request (.ok response), s⟩ :: rest) a' := by
  have hlt := (hp.take hs.needed hs.allowed 0).2.2
  rw [refuses_iff hr, hb]
  rintro ⟨-, response', hresponse, ha, hn⟩
  cases hresponse
  rw [← ha, hs.selected] at hn
  omega

/-- The sends are counted up to the greatest number. -/
theorem Course.requestsSent_eq (hc : c.Course h request p result s os x p' t) :
    p'.requestsSent.toNat = min 255 (p.requestsSent.toNat + (sends os).length) := by
  have hle (n : UInt8) : n.toNat = min 255 n.toNat := by
    have := n.toNat_lt
    omega
  induction hc with
  | failed => exact hle _
  | settled ha => exact hle _
  | exhausted ha hne hb => exact hle _
  | broken hs ht => simp [ht.sends_eq_nil, Deed.primitive?, ← hle]
  | abandoned hs ht hr hcan => simp [ht.sends_eq_nil, Deed.primitive?, ← hle]
  | again hs ht hr hcan hsend hrest ih =>
    rw [ih, toNat_saturatingSucc]
    simp only [List.cons_append, sends_cons, sends_append, ht.sends_eq_nil, Deed.primitive?,
      reduceCtorEq, if_false, if_true, List.nil_append, List.length_cons]
    omega

/-- An action that began and came to some end is an attempt that is told rightly. -/
theorem Starts.fits {response : Response} {started s' : σ} {a : Action} {n : UInt8} {b : Budget}
    {ending : Except Error Unit} {answer : Option (Except Error Response)}
    {refused : Option Action} {pre post : List Attempt}
    (hs : c.Starts h request p response s a n b started)
    (ht : h.Takes request.operation a started os ending s') (hp : p.Counts c)
    (hpre : pre.map (·.action) = p.actions) (hlast : Attempt.lastAnswer first pre = .ok response)
    (hfailed : ∀ e, ending = .error e → answer = none ∧ x = .error e)
    (hgone : ending = .ok () → answer = none → x = .error .cancelled)
    (hend : answer = none → post = [] ∧ refused = none) :
    Attempt.Fits first x refused pre ⟨response, a, n, calls os, ending, answer⟩ post where
  needed := hs.needed
  caused := hlast
  ranked := by
    rw [hpre]
    exact (hp.take hs.needed hs.allowed 0).2.1
  ordered := by
    rw [filterMap_calls]
    exact ht.primitives_prefix
  overcame := by
    rw [Attempt.overcome]
    split
    · exact ht.length_probeFailures_le
    · exact Nat.zero_le _
  completed := by
    rw [Attempt.Completes, filterMap_calls]
    exact ht.eq_ok_iff
  failed := hfailed
  abandoned := hgone
  last := hend

/-- A course tells of its attempts, after those that led to the answer from which it goes on. -/
theorem Course.tells (hc : c.Course h request p result s os x p' t) (hp : p.Counts c)
    (before : List (Observation σ)) (hb : Observation.started before = p.actions)
    (pre : List Attempt) (hpre : pre.map (·.action) = p.actions)
    (hlast : Attempt.lastAnswer first pre = result) :
    ∃ ts refused, p'.actions = p.actions ++ ts.map (·.action) ∧
      c.Tells h request first x (before ++ [⟨.send request result, s⟩]) os pre ts refused := by
  induction hc generalizing before pre with
  | @failed p e s =>
    refine ⟨[], none, (List.append_nil _).symm, .of_not_refuses rfl rfl .nil (fun a => ?_)
      (fun _ => ?_) rfl⟩
    · rw [List.append_nil, refuses_iff rfl]
      rintro ⟨-, response, hresponse, -⟩
      cases hresponse
    · rw [List.append_nil, hlast]
  | @settled p response s ha =>
    refine ⟨[], none, (List.append_nil _).symm, .of_not_refuses rfl rfl .nil (fun a => ?_)
      (fun _ => ?_) rfl⟩
    · rw [List.append_nil, refuses_iff rfl]
      rintro ⟨hne, response', hr, ha', -⟩
      cases hr
      exact hne (ha'.symm.trans ha)
    · rw [List.append_nil, hlast]
  | @exhausted p response s a e ha hne hbud =>
    obtain ⟨hn, rfl⟩ := hp.refused hne hbud
    refine ⟨[], some a, (List.append_nil _).symm, rfl, rfl, .nil, fun a' => ?_, ?_, ?_, rfl⟩
    · rw [List.append_assoc, List.singleton_append, refuses_iff rfl, hb]
      constructor
      · rintro ⟨⟩
        exact ⟨hne, response, rfl, ha, hn⟩
      · rintro ⟨-, response', hr, ha', -⟩
        cases hr
        rw [← ha, ha']
    · rintro a' ⟨⟩
      rfl
    · rintro ⟨⟩
  | @broken p response s started' s' a n b os e hs ht =>
    have hsends := ht.sends_eq_nil
    refine ⟨[⟨response, a, n, calls os, .error e, none⟩], none, rfl,
      .of_not_refuses ?_ ?_ (.cons ?_ .nil) (fun a' => ?_) (fun hall => ?_) ?_⟩
    · simp [Attempt.calls, Deed.primitive?]
    · simp [Attempt.events, Attempt.overcome, Attempt.closing, ht.events_eq, Deed.event?]
    · refine hs.fits ht hp hpre hlast (fun e' he => ⟨rfl, congrArg _ (Except.error.inj he)⟩) ?_
        fun _ => ⟨rfl, rfl⟩
      rintro ⟨⟩
    · rw [List.append_assoc, List.singleton_append]
      exact hs.not_refuses hp hb (by simp [hsends, Deed.primitive?]) a'
    · exact absurd (hall _ (List.mem_singleton_self _)) Bool.false_ne_true
    · simp [hsends, Deed.primitive?]
  | @abandoned p response s started' s' recovered a n b os hs ht hr hcan =>
    have hsends := ht.sends_eq_nil
    refine ⟨[⟨response, a, n, calls os, .ok (), none⟩], none, rfl,
      .of_not_refuses ?_ ?_ (.cons ?_ .nil) (fun a' => ?_) (fun hall => ?_) ?_⟩
    · simp [Attempt.calls, Deed.primitive?]
    · simp [Attempt.events, Attempt.overcome, Attempt.closing, ht.events_eq, Deed.event?]
    · refine hs.fits ht hp hpre hlast ?_ (fun _ _ => rfl) fun _ => ⟨rfl, rfl⟩
      rintro e' ⟨⟩
    · rw [List.append_assoc, List.singleton_append]
      exact hs.not_refuses hp hb (by simp [hsends, Deed.primitive?]) a'
    · exact absurd (hall _ (List.mem_singleton_self _)) Bool.false_ne_true
    · simp [hsends, Deed.primitive?]
  | @again p p' response s started' s' recovered s'' t a n b os rest result result' hs ht hr hcan
      hsend hrest ih =>
    have hcount := (hp.take hs.needed hs.allowed (saturatingSucc p.requestsSent)).1
    obtain ⟨new, hnew⟩ : ∃ new : Attempt,
        new = ⟨response, a, n, calls os, .ok (), some result⟩ := ⟨_, rfl⟩
    obtain ⟨ts, refused, hactions, htells⟩ := ih hcount
      (before ++ ⟨.send request (.ok response), s⟩ ::
        ⟨.report (.recoveryStart request.operation a n response.status response.errorCode),
          started'⟩ :: os ++ [⟨.report (.recoverySuccess request.operation a), recovered⟩])
      (by simp [hb, ht.started_eq_nil, Deed.started?])
      (pre ++ [new]) (by rw [List.map_append, hpre, hnew]; rfl)
      (Attempt.lastAnswer_concat (by rw [hnew]) first pre)
    refine ⟨new :: ts, refused, ?_, ?_, ?_, .cons ?_ htells.fits, fun a' => ?_, htells.raised,
      fun hno hall => ?_, ?_⟩
    · rw [hactions, hnew]
      simp
    · simp [htells.calls_eq, hnew, Attempt.calls, Deed.primitive?]
    · simp [htells.events_eq, hnew, Attempt.events, Attempt.overcome, Attempt.closing,
        ht.events_eq, Deed.event?]
    · rw [hnew]
      refine hs.fits ht hp hpre hlast ?_ ?_ ?_
      · rintro e' ⟨⟩
      · rintro _ ⟨⟩
      · rintro ⟨⟩
    · rw [htells.refuses]
      simp only [List.append_assoc, List.cons_append, List.nil_append]
    · rw [htells.stands hno fun t ht' => hall t (List.mem_cons_of_mem _ ht'), List.append_assoc]
      rfl
    · have hsent := htells.sent
      simp only [hnew, List.cons_append, sends_cons, sends_append, ht.sends_eq_nil, Deed.primitive?,
        reduceCtorEq, if_false, if_true, List.nil_append, List.length_cons,
        List.forall_mem_cons, Option.isSome_some, true_and]
      omega

/-- A call succeeded when its result did. -/
theorem succeeded_iff : succeeded x = true ↔ ∃ r, x = .ok r ∧ r.isSuccess = true := by
  cases x <;> simp [succeeded]

/-- A call whose result was read from a delivery succeeded when its status is not that of a failure. -/
theorem succeeded_iff_status (hx : ∀ r, x = .ok r → ∃ d, Response.ofDelivery d = .ok r) :
    succeeded x = true ↔ ∃ r, x = .ok r ∧ r.status < leastFailure := by
  refine succeeded_iff.trans (exists_congr fun r => and_congr_right fun hr => ?_)
  obtain ⟨d, hd⟩ := hx r hr
  exact Response.isSuccess_iff_of_ofDelivery hd

/-- A failure among the events of a call is followed by just the outcome, and is the result. -/
def FailsLast (x : Except Error Response) (outcome : Outcome) (_ : List Event) (event : Event)
    (after : List Event) : Prop :=
  ∀ operation a e, event = .recoveryFailure operation a e →
    after = [.recoveryOutcome outcome] ∧ x = .error e

/-- Attempts that are told rightly fail only at the end, when nothing but the outcome is told after them
where nothing was refused. -/
theorem failsLast_flatMap {operation : String} {outcome : Outcome} {refused : Option Action}
    {after : List Event} (hafter : refused = none → after = [.recoveryOutcome outcome])
    {pre ts : List Attempt} (hfits : Throughout (Attempt.Fits first x refused) pre ts [])
    (before : List Event) :
    Throughout (FailsLast x outcome) before (ts.flatMap (Attempt.events operation)) after := by
  induction ts generalizing pre before with
  | nil => exact .nil
  | cons t ts ih =>
    have ht := hfits [] t ts rfl
    have hrest : Throughout (Attempt.Fits first x refused) (pre ++ [t]) ts [] :=
      fun pre' x post h => by simpa using hfits (t :: pre') x post (by rw [h]; rfl)
    rw [List.flatMap_cons, Attempt.events]
    refine .append (.append (.of_forall fun event hm _ _ operation' a e h => ?_) (.cons ?_ .nil))
      (ih hrest _)
    · subst h
      simp at hm
    · intro operation' a e h
      cases hending : t.ending with
      | ok u =>
        rw [hending, Attempt.closing] at h
        cases h
      | error e =>
        rw [hending, Attempt.closing] at h
        cases h
        obtain ⟨hanswer, hx⟩ := ht.failed e hending
        obtain ⟨hpost, hrefused⟩ := ht.last hanswer
        rw [List.append_nil] at hpost
        subst hpost
        exact ⟨hafter hrefused, hx⟩

/-- A call accounts for itself: its calls, its events and its outcome tell of the same attempts, and perhaps
of an action that was refused. -/
structure Account (c : Controller) (h : Handler σ) (request : Request)
    (x : Except Error Response) (outcome : Outcome) (os : List (Observation σ))
    (first : Except Error Response) (ts : List Attempt) (refused : Option Action) : Prop where
  /-- The request is sent, and what is called after that belongs to the attempts. -/
  calls_eq : calls os = .send request first :: ts.flatMap (Attempt.calls request)
  /-- The events are those of the attempts, of the action that was refused, and of the outcome. -/
  events_eq : events os = ts.flatMap (Attempt.events request.operation) ++
    c.refusal request.operation refused ++ [.recoveryOutcome outcome]
  /-- Every attempt is told rightly. -/
  fits : Throughout (Attempt.Fits first x refused) [] ts []
  /-- A failure is told just before the outcome. -/
  fails_last : Throughout (FailsLast x outcome) [] (events os) []
  /-- The action that was refused is the one that the budget refuses. -/
  refuses : ∀ a, refused = some a ↔ c.Refuses h request os a
  /-- A refusal is the result, with the number that was reported. -/
  raised : ∀ a, refused = some a → x = .error (.recoveryExhausted a (c.limits.limitFor a))
  /-- Where nothing was refused and every attempt was followed by a send, the last answer is the result. -/
  stands : refused = none → (∀ t ∈ ts, t.answer.isSome = true) → x = Attempt.lastAnswer first ts
  /-- The outcome names the request. -/
  operation_eq : outcome.operation = request.operation
  /-- The outcome lists the attempts. -/
  actions_eq : outcome.actions = ts.map (·.action)
  /-- The outcome is a success just when the result is one. -/
  success_iff : outcome.success = true ↔ ∃ r, x = .ok r ∧ r.isSuccess = true
  /-- Where the result was read from a delivery, it is a success just when its status is below that of any
  failure. -/
  success_iff_status : (∀ r, x = .ok r → ∃ d, Response.ofDelivery d = .ok r) →
    (outcome.success = true ↔ ∃ r, x = .ok r ∧ r.status < leastFailure)
  /-- The outcome counts the sends up to the greatest number. -/
  requestsSent_eq : outcome.requestsSent.toNat = min 255 (sends os).length
  /-- There was one send more than attempts, unless the last attempt was not followed by one. -/
  sent : (sends os).length + (if ∀ t ∈ ts, t.answer.isSome = true then 0 else 1) =
    outcome.actions.length + 1

/-- Every call accounts for itself, whatever the handler does. Its events are, attempt by attempt, the
beginning with its rank and the reply that caused it, the probe that a login did without, and the one end;
then the action that the budget refused, if it refused one; and last the outcome, which counts what was
told. -/
theorem execute_accounts (c : Controller) (h : Handler σ) (request : Request) (s : σ) :
    ∃ first ts refused,
      c.Account h request (c.execute h request s).1 (c.execute h request s).2.1
        (c.observations h request s) first ts refused := by
  obtain ⟨first, s₁, os, x, p, t, -, hcourse, hrun, hobs⟩ := c.course_execute h request s
  obtain ⟨ts, refused, hactions, htells⟩ : ∃ ts refused, p.actions = ts.map (·.action) ∧
      c.Tells h request first x [⟨.send request first, s₁⟩] os [] ts refused :=
    hcourse.tells (.start c) [] rfl [] rfl rfl
  have hos : c.observations h request s =
      ⟨.send request first, s₁⟩ :: os ++ [⟨.report (.recoveryOutcome (outcome request p x)),
        h.report (.recoveryOutcome (outcome request p x)) t⟩] := by
    rw [observations, hobs]
  have hsends : (sends (c.observations h request s)).length = (sends os).length + 1 := by
    simp [hos, Deed.primitive?]
  have hevents : events (c.observations h request s) =
      ts.flatMap (Attempt.events request.operation) ++ c.refusal request.operation refused ++
        [.recoveryOutcome (outcome request p x)] := by
    simp [hos, htells.events_eq, Deed.event?]
  rw [hrun]
  refine ⟨first, ts, refused, ?_, hevents, htells.fits, ?_, ?_, htells.raised, htells.stands, rfl,
    hactions, ?_, ?_, ?_, ?_⟩
  · simp [hos, htells.calls_eq, Deed.primitive?]
  · rw [hevents, List.append_assoc]
    refine .append (failsLast_flatMap ?_ htells.fits []) ?_
    · rintro rfl
      rfl
    · refine .of_forall fun event hm _ _ operation a e h => ?_
      subst h
      cases refused <;> simp [refusal] at hm
  · intro a
    rw [hos, refuses_append rfl]
    exact htells.refuses a
  · exact succeeded_iff
  · exact succeeded_iff_status
  · have hcount := hcourse.requestsSent_eq
    have hstart : c.startProgress.requestsSent.toNat = 1 := rfl
    rw [hsends, outcome, hcount, hstart, Nat.add_comm]
  · have hsent := htells.sent
    have hlength : (outcome request p x).actions.length = ts.length := by
      rw [outcome, hactions]
      exact List.length_map _
    rw [hsends, hlength]
    omega

/-- Two refusals of the server under a limit of one exchange. -/
example : events ((Controller.mk ⟨0, 0, 1⟩ .standard).observations Script.handler (.new .get "/")
    refusedTwice) =
      [.recoveryStart "GET /" .refreshToken 1 401 "", .recoverySuccess "GET /" .refreshToken,
        .recoveryExhausted "GET /" .refreshToken 1,
        .recoveryOutcome ⟨"GET /", [.refreshToken], 2, false⟩] := by
  decide +kernel

end Controller

end SessionRecovery
