import SessionRecovery.Proofs.Client.Lockstep
import SessionRecovery.Proofs.Recovery.Lockstep

/-!
# Two clients side by side

One client works twice, on two worlds that it keeps related, and fails with the same errors in both. This is
lockstep with itself, so every operation keeps the worlds related, and all that is reported of them agrees. How
far requests, replies and credentials of the two runs may differ is a parameter.
-/

namespace SessionRecovery

open Header

/-- Everything that a client is made of keeps two worlds related. -/
structure World.Couples (names : HeaderNames) (R : World → World → Prop) : Prop extends
    World.Accords R where
  /-- Sending requests that are alike. -/
  dispatch : ∀ {r q : Request}, r.Alike q →
    Run.Couples R Response.Alike (World.dispatch names r) (World.dispatch names q)
  /-- Asking for credentials, which differ at most in the password. -/
  askCredentials :
    Run.Couples R (fun cr cr' => cr'.login = cr.login) World.askCredentials World.askCredentials

/-- Everything that a client is made of, apart from logins, keeps two worlds related and stays within the
leeway. -/
structure Client.Couples (c : Client) (L : Leeway) (R : World → World → Prop) : Prop extends
    World.Accords R where
  /-- Replies differ at most in the texts of headers. -/
  alike : ∀ {x y}, L.response x y → x.Alike y
  /-- Requests are called the same. -/
  named : ∀ {r q}, L.request r q → q.operation = r.operation
  /-- The same request may be sent. -/
  same : ∀ r, L.request r r
  /-- The refresh tokens of the sessions may be exchanged. -/
  renewal : ∀ {w v}, R w v →
    L.request (c.renewal w.session.refresh) (c.renewal v.session.refresh)
  /-- Requests that may be sent may be confirmed. -/
  confirmed : ∀ {x y r q} code, L.response x y → L.request r q →
    L.request (c.confirmed x code r) (c.confirmed y code q)
  /-- Sending. -/
  dispatch : ∀ {r q}, L.request r q → Run.Couples R L.response (c.dispatch r) (c.dispatch q)
  /-- Asking for credentials. -/
  askCredentials : Run.Couples R L.credentials World.askCredentials World.askCredentials

/-- Logins with credentials within the leeway keep two worlds related. -/
def Client.LoginCouples (c : Client) (L : Leeway) (R : World → World → Prop) : Prop :=
  ∀ {cr cr'}, L.credentials cr cr' → Run.Couples R L.response (c.login cr) (c.login cr')

namespace Client

variable {L : Leeway} {R : World → World → Prop} {c : Client}

/-- A client that keeps two worlds related goes in lockstep with itself. -/
theorem Couples.lockstep (hm : c.Couples L R) : Lockstep c c L Eq R where
  toAccords := hm.toAccords
  indistinct := Error.indistinct_eq
  complain k e f w v he hwv := by
    rw [he]
    exact hm.report (k f) hwv
  endpoints := rfl
  controller := rfl
  alike := hm.alike
  salted hxy := (hm.alike hxy).texts _
  named := hm.named
  same := hm.same
  challenge _ := hm.same _
  renewal := hm.renewal
  confirmed := hm.confirmed
  dispatch hr := Run.couples_iff_lockstep.mp (hm.dispatch hr)
  askCredentials := Run.couples_iff_lockstep.mp hm.askCredentials

/-! ## Handshakes -/

theorem updateCsrfToken_couples (hm : c.Couples L R) :
    Run.Couples R L.response c.updateCsrfToken c.updateCsrfToken :=
  Run.couples_iff_lockstep.mpr hm.lockstep.updateCsrfToken

theorem expectWelcome_couples (hm : c.Couples L R) {cr cr' : Credentials}
    (hcr : cr'.login = cr.login) {x y : Response} (hxy : L.response x y) :
    Run.Couples R L.response (expectWelcome cr x) (expectWelcome cr' y) :=
  Run.couples_iff_lockstep.mpr (hm.lockstep.expectWelcome hcr hxy)

theorem opening_couples (hm : c.Couples L R) (login : String) :
    Run.Couples R (fun t u => ∃ x y, L.response x y ∧ c.salt? x = some t ∧ c.salt? y = some u)
      (c.opening login) (c.opening login) :=
  Run.couples_iff_lockstep.mpr (hm.lockstep.opening login)

/-- Logins under one name end alike when their proofs may be sent. -/
theorem login_couples (hm : c.Couples L R) {cr cr' : Credentials} (hcr : cr'.login = cr.login)
    (hproof : ∀ {x y t u}, L.response x y → c.salt? x = some t → c.salt? y = some u →
      L.request (c.proving cr t) (c.proving cr' u)) :
    Run.Couples R L.response (c.login cr) (c.login cr') :=
  Run.couples_iff_lockstep.mpr (hm.lockstep.login hcr hproof)

theorem requestRefreshToken_couples (hm : c.Couples L R) :
    Run.Couples R L.response c.requestRefreshToken c.requestRefreshToken :=
  Run.couples_iff_lockstep.mpr hm.lockstep.requestRefreshToken

end Client

/-! ## Operations -/

/-- Two answers differ at most in their replies, which are related. -/
inductive Answer.Coupled (A : Response → Response → Prop) : Answer → Answer → Prop
  /-- Nothing. -/
  | done : Coupled A .done .done
  /-- Replies. -/
  | response {x y : Response} (h : A x y) : Coupled A (.response x) (.response y)
  /-- Results with their outcome. -/
  | summary {x y : Except Error Response} (h : Agree A x y) (outcome : Outcome) :
      Coupled A (.summary x outcome) (.summary y outcome)
  /-- Values. -/
  | value (j : Json) : Coupled A (.value j) (.value j)

/-- Answers that differ in lockstep and tell the same errors are coupled. -/
theorem Answer.coupled_of_lockstep {A : Response → Response → Prop} {x y : Answer}
    (h : Answer.Lockstep Eq A x y) : Answer.Coupled A x y := by
  cases h with
  | done => exact .done
  | response h => exact .response h
  | summary h outcome => exact .summary (Agree.iff_tally.mpr h) outcome
  | value j => exact .value j

namespace Client

variable {L : Leeway} {R : World → World → Prop} {c : Client}

/-- Operations that are coupled give answers that are, and fail for the same reasons. -/
theorem run_couples (hm : c.Couples L R) (hlogin : c.LoginCouples L R) {op op' : Operation}
    (hop : op.Coupled L R op') :
    Run.Couples R (Answer.Coupled L.response) (op.run c) (op'.run c) := by
  have hrun := hm.lockstep.run (fun hcr => Run.couples_iff_lockstep.mp (hlogin hcr)) hop
  refine Run.couples_iff_lockstep.mpr fun w v hwv => ⟨?_, (hrun w v hwv).2⟩
  exact (hrun w v hwv).1.mono fun _ _ => Answer.coupled_of_lockstep

/-! ## Values of headers -/

theorem confirmed_alike (c : Client) {previous previous' : Response}
    (hp : previous.Alike previous') (code : String) {r q : Request} (hr : r.Alike q) :
    (c.confirmed previous code r).Alike (c.confirmed previous' code q) := by
  have hcode := hr.withHeader c.names.smsCode (t := code) (u := code) Iff.rfl
  rw [confirmed, confirmed]
  rcases hp.nonEmptyText? c.names.smsToken with ⟨hx, hy⟩ | ⟨t, u, hx, hy, hw⟩
  · rw [hx, hy]
    exact hcode
  · rw [hx, hy]
    exact hcode.withHeader _ hw

end Client

/-- Runs that differ at most in the values of headers and in passwords. -/
abbrev Leeway.values : Leeway := ⟨Request.Alike, Response.Alike, fun cr cr' => cr'.login = cr.login⟩

namespace World.Couples

variable {R : World → World → Prop} {c : Client}

theorem client (hm : World.Couples c.names R) : c.Couples .values R where
  toAccords := hm.toAccords
  alike := id
  named := Request.Alike.operation
  same := .refl
  renewal hwv := Request.Alike.withHeader (.refl _) _ (hm.session hwv).refresh.writable
  confirmed code hp hr := c.confirmed_alike hp code hr
  dispatch := hm.dispatch
  askCredentials := hm.askCredentials

/-- Logins end alike when every proof can be sent. -/
theorem login (hm : World.Couples c.names R)
    (hproof : ∀ password salt, Writable (c.proof password salt)) : c.LoginCouples .values R := by
  intro cr cr' hcr
  refine Client.login_couples hm.client hcr fun _ _ _ => ?_
  have hchallenge : (c.challenge cr.login).Alike (c.challenge cr'.login) := by
    rw [show cr'.login = cr.login from hcr]
    exact .refl _
  exact hchallenge.withHeader _ (iff_of_true (hproof _ _) (hproof _ _))

end World.Couples

/-! ## Accounts -/

/-- The events that were reported so far, in order. -/
def World.events (w : World) : List Event := w.history.filterMap (·.event?)

/-- What can be learned of one operation from outside: the events that it reported, the outcome of its call,
if it tells one, and the error that it failed with, if it did. -/
structure Account where
  /-- The events. -/
  events : List Event
  /-- The outcome. -/
  outcome : Option Outcome
  /-- The error. -/
  failure : Option Error
  deriving DecidableEq

/-- The outcome that an answer tells. -/
def Answer.outcome? : Except Error Answer → Option Outcome
  | .ok (.summary _ outcome) => some outcome
  | _ => none

/-- Answers that agree tell the same outcome and the same error. -/
theorem Answer.told_of_agree {A : Response → Response → Prop} {x y : Except Error Answer}
    (h : Agree (Answer.Coupled A) x y) :
    Answer.outcome? y = Answer.outcome? x ∧ Answer.failure? y = Answer.failure? x := by
  cases h with
  | error e => exact ⟨rfl, rfl⟩
  | ok h =>
    cases h with
    | summary hxy outcome => cases hxy <;> exact ⟨rfl, rfl⟩
    | _ => exact ⟨rfl, rfl⟩

namespace Client

/-- The account of one operation. -/
def account (c : Client) (t : Bool × Operation) (w : World) : Account :=
  ⟨(c.turn t w).2.events.drop w.events.length, Answer.outcome? (c.turn t w).1,
    Answer.failure? (c.turn t w).1⟩

/-- The accounts of operations, one after another. -/
def accounts (c : Client) : List (Bool × Operation) → World → List Account
  | [], _ => []
  | t :: ts, w => c.account t w :: c.accounts ts (c.turn t w).2

variable {R : World → World → Prop} {c : Client}

/-- Operations that are coupled have the same accounts, where related worlds have reported the same events. -/
theorem accounts_couples (hm : World.Couples c.names R)
    (hproof : ∀ password salt, Writable (c.proof password salt))
    (hbegin : ∀ b (w v : World), R w v → R (w.begin b) (v.begin b))
    (hevents : ∀ w v : World, R w v → v.events = w.events) {turns turns' : List (Bool × Operation)}
    (ht : List.Forall₂ (fun t u => u.1 = t.1 ∧ t.2.Coupled .values R u.2) turns turns')
    {w v : World} (hwv : R w v) : c.accounts turns' v = c.accounts turns w := by
  induction ht generalizing w v with
  | nil => rfl
  | @cons t u ts us htu _ ih =>
    obtain ⟨b, op⟩ := t
    obtain ⟨b', op'⟩ := u
    obtain ⟨hb, hop⟩ := htu
    have hb : b' = b := hb
    subst hb
    obtain ⟨hanswer, hend⟩ := run_couples hm.client (hm.login hproof) hop _ _ (hbegin b' w v hwv)
    have hend : R (c.turn (b', op) w).2 (c.turn (b', op') v).2 := hend
    have haccount : c.account (b', op') v = c.account (b', op) w := by
      obtain ⟨houtcome, hfailure⟩ : Answer.outcome? (c.turn (b', op') v).1 =
          Answer.outcome? (c.turn (b', op) w).1 ∧
          Answer.failure? (c.turn (b', op') v).1 = Answer.failure? (c.turn (b', op) w).1 :=
        Answer.told_of_agree hanswer
      rw [account, account, hevents _ _ hwv, hevents _ _ hend, houtcome, hfailure]
    rw [accounts, accounts, haccount, ih hend]

end Client

end SessionRecovery
