import SessionRecovery.Proofs.Client.Disguise
import SessionRecovery.Proofs.Client.Twins

/-!
# Passwords are never told

A program runs twice, the second time with other passwords. Everything that it learns is the same, and so is
everything that reaches the network but for one place: what the second step of a login carries as the proof,
once the server has accepted the challenge and sent a salt.
-/

namespace SessionRecovery

open World (Twins)

/-! ## Other passwords -/

/-- The credentials with the password that a key gives for them. -/
def Credentials.rekeyed (key : Credentials → String) (cr : Credentials) : Credentials :=
  { cr with password := key cr }

/-- The login name stays. -/
@[simp] theorem Credentials.login_rekeyed (key : Credentials → String) (cr : Credentials) :
    (cr.rekeyed key).login = cr.login := rfl

/-- The operation with other passwords. -/
def Operation.rekeyed (key : Credentials → String) : Operation → Operation
  | .login cr => .login (cr.rekeyed key)
  | op => op

/-- The world in which the provider gives other passwords. -/
def World.rekeyed (key : Credentials → String) (w : World) : World :=
  { w with provider := w.provider.mapCredentials (·.rekeyed key) }

namespace Client

/-! ## Histories that conceal passwords -/

/-- What the first step of a login adds to the history when its challenge is accepted, up to where the second
step is announced: the answer asks for credentials and carries the salt. -/
inductive Challenged (c : Client) (login salt : String) : List Occurrence → Prop
  /-- The challenge is sent and answered. -/
  | accepted {s : Session} {o : Outbound} {d : Delivery} {response : Response} (updated : Bool)
      (hsent : s.outbound c.names (c.challenge login) = .ok o)
      (hread : Response.ofDelivery d = .ok response)
      (hcode : c.controller.codes.isCredentialsRequired response.errorCode = true)
      (hsalt : c.salt? response = some salt) :
      Challenged c login salt
        [.reported (.loginStart login), .reported (.dispatchSend .post c.endpoints.login), .sent o,
          .received d, .reported (.dispatchResponse c.endpoints.login response.status
            response.errorCode updated), .reported (.dispatchSend .post c.endpoints.login)]

/-- Two histories are the same but for the proofs of passwords: each was sent in the second step of a login
whose challenge had been accepted, and the two requests differ at most in the header of the proof. -/
inductive Concealed (c : Client) (key : Credentials → String) :
    List Occurrence → List Occurrence → Prop
  /-- Nothing differs. -/
  | same (h : List Occurrence) : Concealed c key h h
  /-- The same happens. -/
  | add {h g : List Occurrence} (o : Occurrence) (hh : Concealed c key h g) :
      Concealed c key (h ++ [o]) (g ++ [o])
  /-- A salt is answered with proofs of two passwords. -/
  | prove {h g t : List Occurrence} {cr : Credentials} {salt : String} {s : Session} {o p : Outbound}
      (hh : Concealed c key h g) (ht : c.Challenged cr.login salt t)
      (ho : s.outbound c.names (c.proving cr salt) = .ok o)
      (hp : s.outbound c.names (c.proving (cr.rekeyed key) salt) = .ok p)
      (hop : o.SameBut c.names.loginProof p) :
      Concealed c key (h ++ t ++ [.sent o]) (g ++ t ++ [.sent p])

namespace Concealed

variable {c : Client} {key : Credentials → String} {h g : List Occurrence}

theorem lasting (c : Client) (key : Credentials → String) : Lasting (c.Concealed key) :=
  fun _ _ o hh => hh.add o

theorem append (hh : c.Concealed key h g) (t : List Occurrence) :
    c.Concealed key (h ++ t) (g ++ t) := by
  induction t generalizing h g with
  | nil => simpa using hh
  | cons o t ih =>
    rw [List.append_cons h, List.append_cons g]
    exact ih (hh.add o)

/-- What is read from a history in which requests do not count is the same in both. -/
theorem filterMap_eq {α : Type} {read : Occurrence → Option α} (hread : ∀ o, read (.sent o) = none)
    (hh : c.Concealed key h g) : g.filterMap read = h.filterMap read := by
  have hsent (o : Outbound) : [Occurrence.sent o].filterMap read = [] :=
    List.filterMap_cons_none (hread o)
  induction hh with
  | same h => rfl
  | add o _ ih => rw [List.filterMap_append, List.filterMap_append, ih]
  | prove _ _ _ _ _ ih => simp only [List.filterMap_append, ih, hsent]

end Concealed

/-! ## The two steps of a login -/

/-- A salt is read only from an answer that asks for credentials. -/
theorem expectSalt_eq_ok {c : Client} {x : Response} {salt : String} {w w' : World}
    (h : c.expectSalt x w = (.ok salt, w')) :
    w' = w ∧ c.controller.codes.isCredentialsRequired x.errorCode = true ∧
      c.salt? x = some salt := by
  rw [expectSalt] at h
  split at h
  · next hcode =>
    cases hsalt : c.salt? x with
    | none =>
      rw [hsalt] at h
      cases h
    | some t =>
      rw [hsalt] at h
      cases h
      exact ⟨rfl, hcode, rfl⟩
  · cases h

/-- A first step that gives a salt had its challenge accepted. -/
theorem challenged_of_opening {c : Client} {login salt : String} {w w' : World}
    (h : c.opening login w = (.ok salt, w')) :
    ∃ t, w'.history = w.history ++ t ∧
      c.Challenged login salt (t ++ [.reported (.dispatchSend .post c.endpoints.login)]) := by
  rw [opening] at h
  obtain ⟨_, w₁, hstart, h⟩ := Run.exists_of_bind_ok h
  obtain ⟨_, w₂, hactive, h⟩ := Run.exists_of_bind_ok h
  obtain ⟨x, w₃, hsent, h⟩ := Run.exists_of_bind_ok h
  obtain ⟨t, w₄, hsalt, h⟩ := Run.exists_of_bind_ok h
  obtain ⟨_, w₅, hactive', h⟩ := Run.exists_of_bind_ok h
  obtain ⟨ht, rfl⟩ := Prod.mk.inj h
  obtain rfl := Except.ok.inj ht
  obtain rfl : w.report (.loginStart login) = w₁ := congrArg Prod.snd hstart
  obtain rfl := World.eq_of_ensureActive hactive
  obtain rfl := World.eq_of_ensureActive hactive'
  obtain ⟨rfl, hcode, hsalt⟩ := expectSalt_eq_ok hsalt
  have hd := World.dispatched_dispatch c.names (c.challenge login) (w.report (.loginStart login))
  rw [← dispatch, hsent] at hd
  obtain ⟨o, d, updated, ho, hread, hhistory⟩ := hd.history_of_ok
  refine ⟨_, hhistory.trans (List.append_assoc ..), ?_⟩
  exact .accepted updated ho hread hcode hsalt

/-- The two proofs differ in the header of the proof only. -/
theorem proving_sameBut {c : Client} (hproof : ∀ password salt, Header.Writable (c.proof password salt))
    (key : Credentials → String) (cr : Credentials) (salt : String) :
    (c.proving cr salt).SameBut c.names.loginProof (c.proving (cr.rekeyed key) salt) where
  method := rfl
  path := rfl
  payload := rfl
  headers := by
    refine .cons ⟨rfl, Iff.rfl, fun _ => rfl⟩ (.cons ⟨rfl, ?_, fun hne => absurd rfl hne⟩ .nil)
    exact iff_of_true (hproof _ _) (hproof _ _)

/-- Logins with two passwords end alike, and conceal them. -/
theorem login_concealed {c : Client} (hproof : ∀ password salt, Header.Writable (c.proof password salt))
    (key : Credentials → String) :
    c.LoginCouples (.only (·.rekeyed key)) (Twins (·.rekeyed key) (c.Concealed key)) := by
  intro cr cr' hcr w v hwv
  obtain rfl : cr' = cr.rekeyed key := hcr
  have hlasting := Concealed.lasting c key
  have hback {w' v' : World} (h : Twins (·.rekeyed key) (Grown w.history v.history) w' v') :
      Twins (·.rekeyed key) (c.Concealed key) w' v' := by
    refine h.mono fun hgrown => ?_
    obtain ⟨t, rfl, rfl⟩ := hgrown
    exact hwv.history.append t
  -- until the salt is there both do the same, and only that is added to the histories
  have hstart : Twins (·.rekeyed key) (Grown w.history v.history) w v :=
    { hwv with history := .refl _ _ }
  have hopening := opening_couples
    (Twins.couples (f := (·.rekeyed key)) (Grown.lasting w.history v.history) c) cr.login
  rw [login_eq, login_eq, Credentials.login_rekeyed]
  rcases hopening.ends hstart with ⟨t, u, w', v', hw, hv, hsalt, hend⟩ | ⟨e, w', v', hw, hv, hend⟩
  · obtain rfl : u = t := by
      obtain ⟨x, y, hxy, hx, hy⟩ := hsalt
      obtain rfl : y = x := hxy
      exact Option.some.inj (hy.symm.trans hx)
    obtain ⟨t, hgrown, hgrown'⟩ := hend.history
    obtain ⟨t', ht', hchallenged⟩ := challenged_of_opening hw
    obtain rfl : t = t' := List.append_cancel_left (hgrown.symm.trans ht')
    have hreport : LastingFor (c.Concealed key) (c.proving cr u) (c.proving (cr.rekeyed key) u) :=
      fun k _ _ hh => hh.add _
    -- the proofs are sent from one session, so both can be built or neither
    have hsent : Agree (fun o p => c.Concealed key
        (w'.history ++ [.reported (.dispatchSend .post c.endpoints.login)] ++ [.sent o])
        (v'.history ++ [.reported (.dispatchSend .post c.endpoints.login)] ++ [.sent p]))
        (w'.session.outbound c.names (c.proving cr u))
        (w'.session.outbound c.names (c.proving (cr.rekeyed key) u)) := by
      refine (w'.session.outbound_sameBut c.names (proving_sameBut hproof key cr u)).attach.mono ?_
      rintro o p ⟨ho, hp, hop⟩
      rw [hgrown, hgrown', List.append_assoc w.history, List.append_assoc v.history]
      exact hwv.history.prove hchallenged ho hp hop
    obtain ⟨hresult, hlast⟩ := hend.dispatch c.names
      (fun _ _ _ hh => hh.add _) hreport hsent
    rw [Run.bind_ok hw, Run.bind_ok hv]
    exact Run.bind_of_agree hresult (hlast.elim hback id) fun x y hxy =>
      expectWelcome_couples (Twins.couples hlasting c) rfl hxy
  · rw [Run.bind_error hw, Run.bind_error hv]
    exact ⟨.error e, hback hend⟩

end Client

/-! ## Scripts with other passwords -/

theorem Operation.coupled_rekeyed (key : Credentials → String)
    (H : List Occurrence → List Occurrence → Prop) (op : Operation) :
    op.Coupled (.only (·.rekeyed key)) (Twins (·.rekeyed key) H) (op.rekeyed key) := by
  cases op with
  | update change => exact .update fun w v hwv => hwv.change change
  | send r => exact .send rfl
  | call d r => exact .call d rfl
  | exchange d method path payload => exact .exchange d method path payload
  | dispatch r => exact .dispatch rfl
  | login cr => exact .login rfl
  | logout => exact .logout
  | prepare => exact .prepare
  | updateCsrfToken => exact .updateCsrfToken
  | requestRefreshToken => exact .requestRefreshToken
  | updateTokens => exact .updateTokens
  | confirm previous code r => exact .confirm rfl code rfl

/-- Answers with the same replies are the same. -/
theorem Answer.Coupled.eq {x y : Answer} (h : Answer.Coupled (fun a b => b = a) x y) : y = x := by
  cases h with
  | done => rfl
  | response h => rw [h]
  | summary h outcome => rw [h.eq]
  | value j => rfl

namespace Client

/-- The answers of operations, one after another. -/
def answers (c : Client) : List (Bool × Operation) → World → List (Except Error Answer)
  | [], _ => []
  | t :: ts, w => (c.turn t w).1 :: c.answers ts (c.turn t w).2

/-- Scripts with two passwords give the same answers, and conceal the passwords. -/
theorem answers_concealed {c : Client}
    (hproof : ∀ password salt, Header.Writable (c.proof password salt)) (key : Credentials → String)
    (turns : List (Bool × Operation)) {w v : World}
    (hwv : Twins (·.rekeyed key) (c.Concealed key) w v) :
    c.answers (turns.map fun t => (t.1, t.2.rekeyed key)) v = c.answers turns w ∧
      Twins (·.rekeyed key) (c.Concealed key) (c.perform turns w)
        (c.perform (turns.map fun t => (t.1, t.2.rekeyed key)) v) := by
  induction turns generalizing w v with
  | nil => exact ⟨rfl, hwv⟩
  | cons t ts ih =>
    have hbegin : Twins (·.rekeyed key) (c.Concealed key) (w.begin t.1) (v.begin t.1) :=
      ⟨hwv.session, hwv.provider, hwv.replies, rfl, hwv.history⟩
    obtain ⟨hanswer, hend⟩ := run_couples (Twins.couples (Concealed.lasting c key) c)
      (login_concealed hproof key) (t.2.coupled_rekeyed key _) _ _ hbegin
    have hsame : (c.turn (t.1, t.2.rekeyed key) v).1 = (c.turn t w).1 :=
      (hanswer.mono fun _ _ h => h.eq).eq
    obtain ⟨hanswers, hlast⟩ := ih hend
    rw [answers, List.map_cons, answers, hsame]
    exact ⟨congrArg (List.cons _) hanswers, hlast⟩

/-- Passwords are never told. For any settings of a client that proves passwords in the default way, any
provider, replies and operations, and any other passwords in place of those that the provider gives and that
the operations name: the client is set up with the same report or the same error, and every script gives the
same answers, leaves the same session and the same stored token, and reports and saves the same. Of what was
sent, all is the same but the proofs in second steps of logins whose challenge was accepted, and these
differ at most in the values under the name of the proof's header. -/
theorem answers_rekeyed (key : Credentials → String) (settings : Settings) :
    (∀ provider replies,
      connect settings (provider.mapCredentials (·.rekeyed key)) replies =
        (connect settings provider replies).map fun x => (x.1, x.2.rekeyed key)) ∧
    ∀ turns w,
      let c := ofSettings settings
      let turns' := turns.map fun t : Bool × Operation => (t.1, t.2.rekeyed key)
      let ended := c.perform turns w
      let ended' := c.perform turns' (w.rekeyed key)
      c.answers turns' (w.rekeyed key) = c.answers turns w ∧
      ended'.session = ended.session ∧
      ended'.provider = ended.provider.mapCredentials (·.rekeyed key) ∧
      ended'.replies = ended.replies ∧
      ended'.events = ended.events ∧
      ended'.saved = ended.saved ∧
      c.Concealed key ended.history ended'.history := by
  refine ⟨fun provider replies => ?_, fun turns w => ?_⟩
  · have hsession (baseUrl : String) :
        firstSession baseUrl settings.userAgent (provider.mapCredentials (·.rekeyed key)) =
          firstSession baseUrl settings.userAgent provider := rfl
    rw [connect, connect]
    cases settings.normalizedUrl with
    | error e => rfl
    | ok baseUrl =>
      simp only [hsession, Except.map]
      rfl
  · intro c turns' ended ended'
    have hproof : c.proof = passwordProof := rfl
    obtain ⟨hanswers, hlast⟩ := answers_concealed (c := c)
      (fun password salt => hproof ▸ writable_passwordProof password salt) key turns
      (w := w) (v := w.rekeyed key) ⟨rfl, rfl, rfl, rfl, .same _⟩
    exact ⟨hanswers, hlast.session, hlast.provider, hlast.replies,
      hlast.history.filterMap_eq fun _ => rfl, hlast.history.filterMap_eq fun _ => rfl,
      hlast.history⟩

/-- Two passwords are proved differently, once a salt was sent. -/
example :
    let asking : Bytes := Utf8.encode "\x7b\"code\": \"credentials_required\"\x7d"
    let w : World := ⟨⟨"https://a", none, "", "", ""⟩, .inMemory none none,
      [⟨.ok ⟨401, [(⟨"x-auth-login-salt"⟩, [0x73])], asking⟩, .never⟩,
        ⟨.ok ⟨200, [], []⟩, .never⟩], false, []⟩
    let sent (password : String) := ((ofSettings (.new "https://a")).login ⟨"u", password⟩ w).2.sent
    (sent "p").map (·.headers.length) = [1, 2] ∧ sent "p" ≠ sent "q" := by
  decide +kernel

end Client

end SessionRecovery
