import SessionRecovery.Client.Call
import SessionRecovery.Proofs.Client.Outlook
import SessionRecovery.Proofs.Recovery.Course

/-!
# Exchanges

Everything that a client sends, it sends by a dispatch that has a purpose: the caller's request or one step
of a handshake. A path leads from one world to another through such dispatches, between which the network
and the session rest and all that the provider does is accounted for, and every handshake is a path whose
steps went well up to the last one.
-/

namespace SessionRecovery

/-- Why a request is dispatched. -/
inductive Purpose where
  /-- The caller asked for it. -/
  | caller
  /-- A fresh anti-forgery token is needed. -/
  | probe
  /-- A fresh anti-forgery token would help a login. -/
  | optionalProbe
  /-- A login begins. -/
  | challenge (credentials : Credentials)
  /-- A login answers the salt it was given. -/
  | proof (credentials : Credentials) (salt : String)
  /-- The refresh token is exchanged. -/
  | exchange
  deriving DecidableEq

/-- The request that a purpose dispatches. -/
def Purpose.request (c : Client) (r : Request) (w : World) : Purpose → Request
  | .caller => r
  | .probe => .new .get c.endpoints.status
  | .optionalProbe => .new .get c.endpoints.status
  | .challenge cr => c.challenge cr.login
  | .proof cr salt =>
    (c.challenge cr.login).withHeader c.names.loginProof (c.proof cr.password salt)
  | .exchange =>
    (Request.new .post c.endpoints.refresh).withHeader c.names.refreshToken w.session.refresh

/-- A dispatch: why it was made, where it began, what it gave and where it ended. -/
structure Exchange where
  /-- Why the request was dispatched. -/
  purpose : Purpose
  /-- The world before it. -/
  before : World
  /-- What it gave. -/
  result : Except Error Response
  /-- The world after it. -/
  after : World

namespace Exchange

/-- The exchange is what the client's dispatch of the purpose's request really does. -/
def Real (c : Client) (r : Request) (x : Exchange) : Prop :=
  c.dispatch (x.purpose.request c r x.before) x.before = (x.result, x.after)

/-- The request that the exchange hands to the network. -/
def handed? (c : Client) (r : Request) (x : Exchange) : Option Outbound :=
  x.before.handed? c.names (x.purpose.request c r x.before)

/-- The reply that arrived in the exchange. -/
def Receives (x : Exchange) (d : Delivery) : Prop := x.after.received = x.before.received ++ [d]

/-- The exchange was answered by a success. -/
def Succeeds (x : Exchange) : Prop := ∃ response, x.result = .ok response ∧ response.isSuccess = true

/-- The exchange was answered by a login challenge with a salt. -/
def Accepts (c : Client) (x : Exchange) (salt : String) : Prop :=
  ∃ response, x.result = .ok response ∧
    c.controller.codes.isCredentialsRequired response.errorCode = true ∧
    c.salt? response = some salt

/-- A step of a handshake lets the handshake go on. Only the probe before a login may fail. -/
def Passes (c : Client) (x : Exchange) : Prop :=
  match x.purpose with
  | .caller => False
  | .optionalProbe => True
  | .challenge _ => ∃ salt, x.Accepts c salt
  | .probe | .proof .. | .exchange => x.Succeeds

variable {c : Client} {r : Request} {x : Exchange} {d : Delivery}

/-- Every dispatch gives what its request was answered by. -/
theorem dispatched (hx : x.Real c r) :
    World.Dispatched c.names (x.purpose.request c r x.before) x.before x.result x.after := by
  have hd := World.dispatched_dispatch c.names (x.purpose.request c r x.before) x.before
  rw [Real, Client.dispatch] at hx
  rwa [hx] at hd

/-- A reply that arrived is what the exchange gives, and its tokens are taken over. -/
theorem of_receives (hx : x.Real c r) (hd : x.Receives d) :
    x.result = Response.ofDelivery d ∧
      x.after.session = x.before.session.capture c.names d.headers := by
  rw [Receives] at hd
  obtain ⟨-, hr, -⟩ | ⟨d', hr, hs, hres⟩ := (dispatched hx).unanswered_or_answered
  · rw [hr] at hd
    exact absurd (List.self_eq_append_right.mp hd) (List.cons_ne_nil d [])
  · rw [hr] at hd
    obtain ⟨rfl, -⟩ := List.cons.inj (List.append_cancel_left hd)
    exact ⟨hres, hs⟩

/-- An exchange that was answered received the reply it gives. -/
theorem exists_of_ok {response : Response} (hx : x.Real c r) (hr : x.result = .ok response) :
    ∃ d, x.Receives d ∧ Response.ofDelivery d = .ok response := by
  have hd := dispatched hx
  rw [hr] at hd
  obtain ⟨d, hreceived, -, hread⟩ := hd.exists_delivery
  exact ⟨d, hreceived, hread⟩

/-- A step of a handshake is not the caller's request. -/
theorem Passes.ne_caller (hx : x.Passes c) : x.purpose ≠ .caller := by
  intro hp
  rw [Passes, hp] at hx
  exact hx

/-- A step that has to succeed lets the handshake go on when it does. -/
theorem Succeeds.passes (hs : x.Succeeds) (hp : x.purpose ≠ .caller)
    (hc : ∀ cr, x.purpose ≠ .challenge cr) : x.Passes c := by
  rw [Passes]
  cases hx : x.purpose with
  | caller => exact absurd hx hp
  | optionalProbe => trivial
  | challenge cr => exact absurd hx (hc cr)
  | _ => exact hs

end Exchange

/-! ## Paths -/

/-- What happened did so away from the network. -/
structure Occurrence.OffNetwork (x : Occurrence) : Prop where
  /-- Nothing was sent. -/
  sent : x.sent? = none
  /-- Nothing was received. -/
  received : x.received? = none

/-- From one world to another the session stayed, and all that happened did so away from the network. What the
provider was asked and given meanwhile is in the history, and the other outlook is the one that this led to. -/
structure World.Quiet (w w' : World) : Prop where
  /-- The session stayed. -/
  session : w'.session = w.session
  /-- What happened led from the one outlook to the other, and did so away from the network. -/
  happened : ∃ os, w.Reaches os w' ∧ ∀ x ∈ os, x.OffNetwork

namespace World.Quiet

variable {w w' w'' : World}

/-- Nothing happened. -/
theorem refl (w : World) : Quiet w w :=
  ⟨rfl, [], .refl w, fun _ hx => absurd hx List.not_mem_nil⟩

/-- One thing happened away from the network. -/
theorem of_reaches {x : Occurrence} (hs : w'.session = w.session) (h : w.Reaches [x] w')
    (hx : x.OffNetwork) : Quiet w w' :=
  ⟨hs, [x], h, fun _ hy => List.mem_singleton.mp hy ▸ hx⟩

/-- Quiet after quiet. -/
theorem trans (h : Quiet w w') (h' : Quiet w' w'') : Quiet w w'' := by
  obtain ⟨os, hos, hall⟩ := h.happened
  obtain ⟨ps, hps, hall'⟩ := h'.happened
  refine ⟨h'.session.trans h.session, os ++ ps, hos.trans hps, fun x hx => ?_⟩
  exact (List.mem_append.mp hx).elim (hall x) (hall' x)

/-- Reporting is quiet. -/
theorem report (e : Event) (w : World) : Quiet w (w.report e) :=
  .of_reaches rfl (reaches_report e w) ⟨rfl, rfl⟩

/-- Keeping a refresh token is quiet. -/
theorem save (token : String) (w : World) : Quiet w (w.save token) :=
  .of_reaches rfl (reaches_save token w) ⟨rfl, rfl⟩

/-- Asking for credentials is quiet. -/
theorem askCredentials (w : World) : Quiet w (World.askCredentials w).2 :=
  .of_reaches rfl (reaches_askCredentials w) ⟨rfl, rfl⟩

/-- Where it is quiet nothing is sent. -/
theorem sent_eq (h : Quiet w w') : w'.sent = w.sent := by
  obtain ⟨os, hos, hall⟩ := h.happened
  have hnone : os.filterMap (·.sent?) = [] :=
    List.filterMap_eq_nil_iff.mpr fun x hx => (hall x hx).sent
  rw [World.sent, hos.history, List.filterMap_append, hnone, List.append_nil, ← World.sent]

end World.Quiet

/-- From one world to another there were just some exchanges, and quiet between them. -/
inductive Path (c : Client) (r : Request) : World → List Exchange → World → Prop
  /-- There was no exchange. -/
  | quiet {w w' : World} (hq : w.Quiet w') : Path c r w [] w'
  /-- There was an exchange and then more. -/
  | step {w w' : World} {x : Exchange} {xs : List Exchange} (hq : w.Quiet x.before)
      (hx : x.Real c r) (hp : Path c r x.after xs w') : Path c r w (x :: xs) w'

namespace Path

variable {c : Client} {r : Request} {w w' w'' : World} {x : Exchange} {xs ys : List Exchange}

/-- A path after quiet. -/
theorem after_quiet (hq : w.Quiet w') (hp : Path c r w' xs w'') : Path c r w xs w'' := by
  cases hp with
  | quiet h => exact .quiet (hq.trans h)
  | step h hx hp => exact .step (hq.trans h) hx hp

/-- A path after a path. -/
theorem append (h : Path c r w xs w') (h' : Path c r w' ys w'') :
    Path c r w (xs ++ ys) w'' := by
  induction h with
  | quiet hq => exact h'.after_quiet hq
  | step hq hx hp ih => exact .step hq hx (ih h')

/-- Quiet after a path. -/
theorem before_quiet (hp : Path c r w xs w') (hq : w'.Quiet w'') : Path c r w xs w'' := by
  have h := hp.append (.quiet hq)
  rwa [List.append_nil] at h

/-- A path of one exchange. -/
theorem single (hx : x.Real c r) : Path c r x.before [x] x.after :=
  .step (.refl _) hx (.quiet (.refl _))

/-- Every exchange of a path is what the client does. -/
theorem real_of_mem (hp : Path c r w xs w') (hm : x ∈ xs) : x.Real c r := by
  induction hp with
  | quiet hq => exact absurd hm List.not_mem_nil
  | step hq hx hp ih =>
    rcases List.mem_cons.mp hm with rfl | hm
    · exact hx
    · exact ih hm

/-- All that is sent on a path is what its exchanges hand to the network. -/
theorem sent_eq (hp : Path c r w xs w') : w'.sent = w.sent ++ xs.filterMap (·.handed? c r) := by
  induction hp with
  | quiet hq =>
    rw [hq.sent_eq]
    exact (List.append_nil _).symm
  | @step w w' x xs hq hx hp ih =>
    have hone : x.after.sent = x.before.sent ++ (x.handed? c r).toList :=
      (Exchange.dispatched hx).sent_eq
    rw [ih, hone, hq.sent_eq, List.append_assoc, List.filterMap_cons]
    cases x.handed? c r <;> rfl

end Path

/-! ## Handshakes -/

/-- Exchanges of a handshake: they have its purposes in order, and all but the last let it go on. -/
structure Steps (c : Client) (ps : List Purpose) (xs : List Exchange) : Prop where
  /-- They have the purposes of the handshake in order, and possibly not all of them. -/
  order : xs.map (·.purpose) <+: ps
  /-- All but the last let the handshake go on. -/
  passed : ∀ x ∈ xs.dropLast, x.Passes c

namespace Steps

variable {c : Client} {p : Purpose} {ps : List Purpose} {x : Exchange} {xs : List Exchange}

/-- No exchanges. -/
theorem nil : Steps c ps [] := ⟨List.nil_prefix, fun _ h => absurd h List.not_mem_nil⟩

/-- One exchange. -/
theorem single (hp : x.purpose = p) : Steps c (p :: ps) [x] := by
  refine ⟨?_, fun _ h => absurd h List.not_mem_nil⟩
  rw [List.map_singleton, hp]
  exact List.cons_prefix_cons.mpr ⟨rfl, List.nil_prefix⟩

/-- One more exchange before others. -/
theorem cons (hp : x.purpose = p) (hx : x.Passes c) (hs : Steps c ps xs) :
    Steps c (p :: ps) (x :: xs) := by
  constructor
  · rw [List.map_cons, hp]
    exact List.cons_prefix_cons.mpr ⟨rfl, hs.order⟩
  · intro y hy
    cases xs with
    | nil => exact absurd hy List.not_mem_nil
    | cons z zs =>
      rcases List.mem_cons.mp hy with rfl | hy
      · exact hx
      · exact hs.passed y hy

end Steps

/-- A success is what a step expects. -/
theorem Response.expectSuccess_eq_ok {step : Step} {response response' : Response}
    (h : response.expectSuccess step = .ok response') : response.isSuccess = true := by
  rw [expectSuccess] at h
  split at h
  · assumption
  · cases h

namespace Client

variable {c : Client} {r : Request} {w w' : World} {x : Except Error Response}

/-- A probe is one exchange, whatever it is for, and it is answered by a success if it succeeds. -/
theorem updateCsrfToken_path (h : c.updateCsrfToken w = (x, w')) {p : Purpose}
    (hp : p.request c r w = .new .get c.endpoints.status) :
    ∃ z, z.purpose = p ∧ z.before = w ∧ Path c r w [z] w' ∧
      ∀ response, x = .ok response → z.Succeeds := by
  obtain ⟨y, w₁, hy⟩ : ∃ y w₁, c.dispatch (.new .get c.endpoints.status) w = (y, w₁) :=
    ⟨_, _, rfl⟩
  have hreal : (Exchange.mk p w y w₁).Real c r := by
    rw [Exchange.Real, hp, hy]
  refine ⟨⟨p, w, y, w₁⟩, rfl, rfl, ?_⟩
  cases y with
  | error e =>
    rw [updateCsrfToken, Run.bind_error hy] at h
    cases h
    exact ⟨.single hreal, fun response hx => nomatch hx⟩
  | ok answer =>
    rw [updateCsrfToken, Run.bind_ok hy] at h
    cases h
    refine ⟨.single hreal, fun response hx => ?_⟩
    exact ⟨answer, rfl, Response.expectSuccess_eq_ok hx⟩

/-- An exchange of the refresh token is one exchange, answered by a success if it succeeds. -/
theorem requestRefreshToken_path (h : c.requestRefreshToken w = (x, w')) :
    ∃ z, z.purpose = .exchange ∧ z.before = w ∧ Path c r w [z] w' ∧
      ∀ response, x = .ok response → z.Succeeds := by
  obtain ⟨y, w₁, hy⟩ : ∃ y w₁, c.dispatch ((Request.new .post c.endpoints.refresh).withHeader
      c.names.refreshToken w.session.refresh) w = (y, w₁) := ⟨_, _, rfl⟩
  have hreal : (Exchange.mk .exchange w y w₁).Real c r := hy
  have hlook : Run.look (·.session.refresh) w = (.ok w.session.refresh, w) := rfl
  rw [requestRefreshToken, Run.bind_ok hlook] at h
  refine ⟨⟨.exchange, w, y, w₁⟩, rfl, rfl, ?_⟩
  cases y with
  | error e =>
    rw [Run.bind_error hy] at h
    cases h
    exact ⟨.single hreal, fun response hx => nomatch hx⟩
  | ok answer =>
    rw [Run.bind_ok hy] at h
    cases hs : answer.expectSuccess .tokenRefresh with
    | error e =>
      rw [hs, Run.bind_error (Run.ofResult_apply _ _)] at h
      cases h
      exact ⟨.single hreal, fun response hx => nomatch hx⟩
    | ok answer' =>
      rw [hs, Run.bind_ok (Run.ofResult_apply _ _), Run.bind_ok (Run.change_apply _ _)] at h
      cases h
      refine ⟨(Path.single hreal).before_quiet (.report _ _), fun response hx => ?_⟩
      exact ⟨answer, rfl, Response.expectSuccess_eq_ok hs⟩

/-- Reading the salt is quiet, and finds one only in an accepted challenge. -/
theorem expectSalt_cases (c : Client) (answer : Response) (w : World) :
    ∃ y w', c.expectSalt answer w = (y, w') ∧ w.Quiet w' ∧ ∀ salt, y = .ok salt →
      c.controller.codes.isCredentialsRequired answer.errorCode = true ∧
      c.salt? answer = some salt := by
  rw [expectSalt]
  cases hcode : c.controller.codes.isCredentialsRequired answer.errorCode with
  | false =>
    rw [if_neg Bool.false_ne_true]
    refine ⟨_, _, rfl, .report _ w, ?_⟩
    rintro _ ⟨⟩
  | true =>
    rw [if_pos rfl]
    cases hsalt : c.salt? answer with
    | none =>
      refine ⟨_, _, rfl, .refl w, ?_⟩
      rintro _ ⟨⟩
    | some salt =>
      refine ⟨_, _, rfl, .refl w, ?_⟩
      rintro _ ⟨⟩
      exact ⟨rfl, rfl⟩

/-- Reading the answer to the proof is quiet, and welcomes a success only. -/
theorem expectWelcome_cases (cr : Credentials) (answer : Response) (w : World) :
    ∃ y w', expectWelcome cr answer w = (y, w') ∧ w.Quiet w' ∧
      ∀ response, y = .ok response → answer.isSuccess = true := by
  rw [expectWelcome]
  split
  · next hs => exact ⟨_, _, rfl, .report _ w, fun _ _ => hs⟩
  · refine ⟨_, _, rfl, .report _ w, ?_⟩
    rintro _ ⟨⟩

/-- The second half of a login is at most one exchange, answered by a success if the login succeeds. -/
theorem proof_path {cr : Credentials} {salt : String}
    (h : (do
      World.ensureActive
      let answered ← c.dispatch ((c.challenge cr.login).withHeader c.names.loginProof
        (c.proof cr.password salt))
      expectWelcome cr answered) w = (x, w')) :
    ∃ zs, Path c r w zs w' ∧ Steps c [.proof cr salt] zs ∧ ∀ response, x = .ok response →
      ∃ z, zs = [z] ∧ z.purpose = .proof cr salt ∧ z.Succeeds := by
  cases hc : w.cancelled with
  | true =>
    rw [Run.bind_error (World.ensureActive_of_cancelled hc)] at h
    cases h
    exact ⟨[], .quiet (.refl w), .nil, fun response hx => nomatch hx⟩
  | false =>
    obtain ⟨y, w₁, hy⟩ : ∃ y w₁, c.dispatch ((c.challenge cr.login).withHeader c.names.loginProof
      (c.proof cr.password salt)) w = (y, w₁) := ⟨_, _, rfl⟩
    have hreal : (Exchange.mk (.proof cr salt) w y w₁).Real c r := hy
    have hone : Steps c [.proof cr salt] [⟨.proof cr salt, w, y, w₁⟩] := .single rfl
    rw [Run.bind_ok (World.ensureActive_of_active hc)] at h
    cases y with
    | error e =>
      rw [Run.bind_error hy] at h
      cases h
      exact ⟨_, .single hreal, hone, fun response hx => nomatch hx⟩
    | ok answer =>
      obtain ⟨y', w₂, hwelcome, hq, hok⟩ := expectWelcome_cases cr answer w₁
      rw [Run.bind_ok hy, hwelcome] at h
      cases h
      refine ⟨_, (Path.single hreal).before_quiet hq, hone, fun response hx => ?_⟩
      exact ⟨_, rfl, rfl, answer, rfl, hok response hx⟩

/-- A login is no exchange, a challenge, or an accepted challenge and its proof. It succeeds only after a
proof that succeeds. -/
theorem login_path {cr : Credentials} (h : c.login cr w = (x, w')) :
    ∃ salt zs, Path c r w zs w' ∧ Steps c [.challenge cr, .proof cr salt] zs ∧
      ∀ response, x = .ok response → ∃ z z', zs = [z, z'] ∧ z.purpose = .challenge cr ∧
        z.Accepts c salt ∧ z'.purpose = .proof cr salt ∧ z'.Succeeds := by
  rw [login, Run.bind_ok (Run.change_apply _ _)] at h
  obtain ⟨w₀, hw₀⟩ : ∃ w₀, w.report (.loginStart cr.login) = w₀ := ⟨_, rfl⟩
  have hstart : w.Quiet w₀ := hw₀ ▸ .report _ w
  rw [hw₀] at h
  cases hc : w₀.cancelled with
  | true =>
    rw [Run.bind_error (World.ensureActive_of_cancelled hc)] at h
    cases h
    exact ⟨"", [], .quiet hstart, .nil, fun response hx => nomatch hx⟩
  | false =>
    obtain ⟨y, w₁, hy⟩ : ∃ y w₁, c.dispatch (c.challenge cr.login) w₀ = (y, w₁) := ⟨_, _, rfl⟩
    have hreal : (Exchange.mk (.challenge cr) w₀ y w₁).Real c r := hy
    have hpath := (Path.single hreal).after_quiet hstart
    have hone : Steps c [.challenge cr, .proof cr ""] [⟨.challenge cr, w₀, y, w₁⟩] :=
      .single rfl
    rw [Run.bind_ok (World.ensureActive_of_active hc)] at h
    cases y with
    | error e =>
      rw [Run.bind_error hy] at h
      cases h
      exact ⟨"", _, hpath, hone, fun response hx => nomatch hx⟩
    | ok answer =>
      obtain ⟨y', w₂, hsalt, hq, hok⟩ := c.expectSalt_cases answer w₁
      rw [Run.bind_ok hy] at h
      cases y' with
      | error e =>
        rw [Run.bind_error hsalt] at h
        cases h
        exact ⟨"", _, hpath.before_quiet hq, hone, fun response hx => nomatch hx⟩
      | ok salt =>
        have haccepts : (Exchange.mk (.challenge cr) w₀ (.ok answer) w₁).Accepts c salt :=
          ⟨answer, rfl, hok salt rfl⟩
        rw [Run.bind_ok hsalt] at h
        obtain ⟨zs, hzs, hsteps, hdone⟩ := proof_path (r := r) h
        refine ⟨salt, _, (hpath.before_quiet hq).append hzs, .cons rfl ⟨salt, haccepts⟩ hsteps, ?_⟩
        intro response hx
        obtain ⟨z, rfl, hp, hs⟩ := hdone response hx
        exact ⟨_, z, rfl, rfl, haccepts, hp, hs⟩

end Client

end SessionRecovery
