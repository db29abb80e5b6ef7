import SessionRecovery.Proofs.Client.Exchange
import SessionRecovery.Proofs.Recovery.Bounds
import SessionRecovery.Proofs.Recovery.Walk

/-!
# The conversation of a call

What a client and its server exchange in one call with recovery. The caller's request is sent again only
after its last answer asked for an action and every step of the action that has to succeed did, and once
its answer is final, or such a step has failed, nothing is sent any more.
-/

namespace SessionRecovery

namespace Exchange

/-- The caller's request was answered by a failure whose report could be read, and in the session after the
answer's tokens were taken over the failure asks for an action. -/
def Asks (c : Client) (x : Exchange) (a : Action) : Prop :=
  x.purpose = .caller ∧ a ≠ .none ∧ ∃ d api, x.Receives d ∧ leastFailure ≤ d.status ∧
    ApiError.fromBody d.body = .ok api ∧
    x.result = .ok ⟨d.status, d.headers, d.body, some api⟩ ∧
    x.after.session = x.before.session.capture c.names d.headers ∧
    Action.select c.controller.codes x.after.session ⟨d.status, d.headers, d.body, some api⟩ = a

/-- The action that the answer to the caller's request asks for. -/
def asked? (c : Client) (x : Exchange) : Option Action :=
  match x.purpose, x.result with
  | .caller, .ok response => some (Action.select c.controller.codes x.after.session response)
  | _, _ => none

/-- The actions that the answers to the caller's request asked for, in order. -/
def asked (c : Client) (xs : List Exchange) : List Action := xs.filterMap (asked? c)

variable {c : Client} {r : Request} {x : Exchange} {a : Action}

/-- An answer that selects an action asks for it. -/
theorem asks_of_select {response : Response} (hx : x.Real c r) (hp : x.purpose = .caller)
    (hr : x.result = .ok response)
    (ha : Action.select c.controller.codes x.after.session response = a) (hne : a ≠ .none) :
    x.Asks c a := by
  obtain ⟨d, hd, hread⟩ := exists_of_ok hx hr
  have hsession := (of_receives hx hd).2
  rw [Response.ofDelivery] at hread
  split at hread
  · next hstatus =>
    cases hapi : ApiError.fromBody d.body with
    | error f =>
      rw [hapi] at hread
      cases hread
    | ok api =>
      rw [hapi] at hread
      cases hread
      exact ⟨hp, hne, d, api, hd, hstatus, hapi, hr, hsession, ha⟩
  · cases hread
    exact absurd ha.symm hne

/-- An answer asks for the action that it selects only. -/
theorem Asks.asked?_eq (hx : x.Asks c a) : asked? c x = some a := by
  obtain ⟨hp, -, d, api, -, -, -, hr, -, ha⟩ := hx
  rw [asked?, hp, hr]
  exact congrArg some ha

/-- An answer that asks for an action, as the only exchange. -/
theorem Asks.asked_singleton (hx : x.Asks c a) : asked c [x] = [a] := by
  rw [asked, List.filterMap_cons, hx.asked?_eq]
  rfl

/-- The worlds in which the caller's request was sent, in order. -/
def origins (xs : List Exchange) : List World :=
  (xs.filter fun x => x.purpose = .caller).map (·.before)

/-- The worlds in which the caller's request was sent among joined exchanges. -/
theorem origins_append (xs ys : List Exchange) : origins (xs ++ ys) = origins xs ++ origins ys := by
  rw [origins, List.filter_append, List.map_append]
  rfl

/-- The caller's request before others. -/
theorem origins_cons (hp : x.purpose = .caller) (xs : List Exchange) :
    origins (x :: xs) = x.before :: origins xs := by
  simp [origins, hp]

/-- The actions of joined exchanges. -/
theorem asked_append (c : Client) (xs ys : List Exchange) :
    asked c (xs ++ ys) = asked c xs ++ asked c ys := List.filterMap_append

/-- The answer to the caller's request asks for an action that may be taken, and for which there are
credentials if it needs some. -/
def Continues (c : Client) (before : List Exchange) (x : Exchange) : Prop :=
  ∃ a, x.Asks c a ∧ (asked c before).count a < (c.controller.limits.limitFor a).toNat ∧
    (a = .login → ∃ cr, (World.askCredentials x.after).1 = .ok cr)

/-- Nothing may be sent after an exchange, given those before it. -/
inductive Halts (c : Client) (before : List Exchange) (x : Exchange) : Prop
  /-- The caller's request was answered by a status that is no failure. -/
  | done {d : Delivery} (hp : x.purpose = .caller) (hd : x.Receives d)
      (hs : d.status < leastFailure)
  /-- The answer was a failure whose report could not be read. -/
  | unreadable {d : Delivery} {f : Json.Fault} (hp : x.purpose ≠ .optionalProbe)
      (hd : x.Receives d) (hs : leastFailure ≤ d.status)
      (hf : ApiError.fromBody d.body = .error f)
  /-- There was no answer. -/
  | failed {e : Error} (hp : x.purpose ≠ .optionalProbe) (hr : x.result = .error e)
  /-- The answer asks for nothing. -/
  | settled {response : Response} (hp : x.purpose = .caller) (hr : x.result = .ok response)
      (ha : Action.select c.controller.codes x.after.session response = .none)
  /-- The answer asks for an action that was taken as often as it may. -/
  | exhausted {a : Action} (ha : x.Asks c a)
      (hn : (c.controller.limits.limitFor a).toNat ≤ (asked c before).count a)
  /-- The answer asks for a login, but there are no credentials. -/
  | unprovided {e : Error} (ha : x.Asks c .login)
      (he : (World.askCredentials x.after).1 = .error e)
  /-- A step that has to succeed was refused. -/
  | refused {response : Response}
      (hp : x.purpose = .probe ∨ x.purpose = .exchange ∨ ∃ cr salt, x.purpose = .proof cr salt)
      (hr : x.result = .ok response) (hs : response.isSuccess = false)
  /-- A login was not answered by a challenge with a salt. -/
  | unchallenged {cr : Credentials} (hp : x.purpose = .challenge cr)
      (hs : ∀ salt, ¬ x.Accepts c salt)

/-- A step that goes on was answered, unless it is the probe that may fail. -/
theorem Passes.exists_ok (hx : x.Passes c) (hp : x.purpose ≠ .optionalProbe) :
    ∃ response, x.result = .ok response := by
  rw [Passes] at hx
  cases hpur : x.purpose with
  | caller =>
    rw [hpur] at hx
    exact hx.elim
  | optionalProbe => exact absurd hpur hp
  | challenge cr =>
    rw [hpur] at hx
    obtain ⟨salt, response, hr, -⟩ := hx
    exact ⟨response, hr⟩
  | _ =>
    rw [hpur] at hx
    obtain ⟨response, hr, -⟩ := hx
    exact ⟨response, hr⟩

/-- After a halt no handshake goes on. -/
theorem Halts.not_passes {before : List Exchange} (hx : x.Real c r) (hh : x.Halts c before) :
    ¬ x.Passes c := by
  intro hpass
  cases hh with
  | done hp hd hs => exact hpass.ne_caller hp
  | unreadable hp hd hs hf =>
    obtain ⟨response, hr⟩ := hpass.exists_ok hp
    have hread := (of_receives hx hd).1
    rw [hr, Response.ofDelivery, if_pos hs, hf] at hread
    cases hread
  | failed hp hr =>
    obtain ⟨response, hr'⟩ := hpass.exists_ok hp
    rw [hr] at hr'
    cases hr'
  | settled hp hr ha => exact hpass.ne_caller hp
  | exhausted ha hn => exact hpass.ne_caller ha.1
  | unprovided ha he => exact hpass.ne_caller ha.1
  | refused hp hr hs =>
    have hsucc : x.Succeeds := by
      rw [Passes] at hpass
      rcases hp with hp | hp | ⟨cr, salt, hp⟩ <;> rwa [hp] at hpass
    obtain ⟨response', hr', hs'⟩ := hsucc
    rw [hr] at hr'
    cases hr'
    rw [hs] at hs'
    cases hs'
  | unchallenged hp hs =>
    rw [Passes, hp] at hpass
    obtain ⟨salt, ha⟩ := hpass
    exact hs salt ha

/-- After a halt no action is taken. -/
theorem Halts.not_continues {before : List Exchange} (hh : x.Halts c before) :
    ¬ x.Continues c before := by
  rintro ⟨a, ha, hlt, hcr⟩
  obtain ⟨hp', hne, d', api, hd', hs', hapi, hr', -, hsel⟩ := id ha
  have hsame {d : Delivery} (hd : x.Receives d) : d = d' :=
    (List.cons.inj (List.append_cancel_left (hd.symm.trans hd'))).1
  cases hh with
  | done hp hd hs =>
    rw [hsame hd] at hs
    rw [UInt16.lt_iff_toNat_lt] at hs
    rw [UInt16.le_iff_toNat_le] at hs'
    omega
  | unreadable hp hd hs hf =>
    rw [hsame hd, hapi] at hf
    cases hf
  | failed hp hr =>
    rw [hr'] at hr
    cases hr
  | settled hp hr hnone =>
    rw [hr'] at hr
    cases hr
    exact hne (hsel.symm.trans hnone)
  | exhausted ha' hn =>
    cases ha'.asked?_eq.symm.trans ha.asked?_eq
    omega
  | unprovided ha' he =>
    cases ha'.asked?_eq.symm.trans ha.asked?_eq
    obtain ⟨cr, hok⟩ := hcr rfl
    rw [he] at hok
    cases hok
  | refused hp hr hs =>
    rw [hp'] at hp
    rcases hp with hp | hp | ⟨cr, salt, hp⟩ <;> cases hp
  | unchallenged hp hs =>
    rw [hp'] at hp
    cases hp

end Exchange

/-! ## Actions -/

/-- The purposes of an action's handshake, in order, for the credentials and the salt of a login. -/
def Action.steps (cr : Credentials) (salt : String) : Action → List Purpose
  | .none => []
  | .refreshCsrf => [.probe]
  | .login => [.optionalProbe, .challenge cr, .proof cr salt]
  | .refreshToken => [.exchange]

/-- No handshake sends the caller's request. -/
theorem Action.caller_notMem_steps (cr : Credentials) (salt : String) (a : Action) :
    Purpose.caller ∉ a.steps cr salt := by
  cases a <;> simp [steps]

/-- The handshake of an action begins: a login asks for credentials and is given them, and any other action
begins with its first request. -/
def Action.Begins (cr : Credentials) (w w' : World) : Action → Prop
  | .login => World.askCredentials w = (.ok cr, w')
  | _ => w' = w

/-- The handshake of an action that begins in some world went well: each of its steps that has to succeed
did, the credentials included. -/
inductive Completed (c : Client) (w : World) : Action → List Exchange → Prop
  /-- A fresh anti-forgery token. -/
  | refreshCsrf {z : Exchange} (hb : z.before = w) (hp : z.purpose = .probe) (hs : z.Succeeds) :
      Completed c w .refreshCsrf [z]
  /-- A login with the credentials that the provider was asked for and gave. -/
  | login {cr : Credentials} {salt : String} {z z' z'' : Exchange}
      (hc : World.askCredentials w = (.ok cr, z.before)) (hp : z.purpose = .optionalProbe)
      (hp' : z'.purpose = .challenge cr) (hs' : z'.Accepts c salt)
      (hp'' : z''.purpose = .proof cr salt) (hs'' : z''.Succeeds) :
      Completed c w .login [z, z', z'']
  /-- An exchange of the refresh token. -/
  | refreshToken {z : Exchange} (hb : z.before = w) (hp : z.purpose = .exchange)
      (hs : z.Succeeds) : Completed c w .refreshToken [z]

/-- An action that went well is one whose exchanges all let it go on. -/
theorem Completed.passes {c : Client} {w : World} {a : Action} {zs : List Exchange}
    (h : Completed c w a zs) : ∀ z ∈ zs, z.Passes c := by
  cases h with
  | @refreshCsrf z hb hp hs =>
    have hz : z.Passes c := by rw [Exchange.Passes, hp]; exact hs
    exact fun y hy => List.mem_singleton.mp hy ▸ hz
  | @refreshToken z hb hp hs =>
    have hz : z.Passes c := by rw [Exchange.Passes, hp]; exact hs
    exact fun y hy => List.mem_singleton.mp hy ▸ hz
  | @login cr salt z z' z'' hc hp hp' hs' hp'' hs'' =>
    have hz : z.Passes c := by rw [Exchange.Passes, hp]; trivial
    have hz' : z'.Passes c := by rw [Exchange.Passes, hp']; exact ⟨salt, hs'⟩
    have hz'' : z''.Passes c := by rw [Exchange.Passes, hp'']; exact hs''
    intro y hy
    rcases List.mem_cons.mp hy with rfl | hy
    · exact hz
    · rcases List.mem_cons.mp hy with rfl | hy
      · exact hz'
      · exact List.mem_singleton.mp hy ▸ hz''

/-- An action that went well has exchanges. -/
theorem Completed.ne_nil {c : Client} {w : World} {a : Action} {zs : List Exchange}
    (h : Completed c w a zs) : zs ≠ [] := by
  cases h <;> exact List.cons_ne_nil _ _

namespace Handler

variable {c : Client} {r : Request} {operation : String} {a : Action} {s s' : World}
  {os : List (Observation World)} {x : Except Error Unit}

/-- Asking for credentials is quiet. -/
theorem asked_quiet {y : Except Error Credentials} (h : c.handler.credentials s = (y, s')) :
    s.Quiet s' := by
  have hq := World.Quiet.askCredentials s
  have hs : (World.askCredentials s).2 = s' := congrArg Prod.snd h
  rwa [hs] at hq

/-- A probe before a login is one exchange, which begins at once. -/
theorem Tries.path (ht : c.handler.Tries operation s os s') :
    ∃ z, z.purpose = .optionalProbe ∧ z.before = s ∧ Path c r s [z] s' := by
  cases ht with
  | fresh hp =>
    obtain ⟨z, hz, hb, hpath, -⟩ := Client.updateCsrfToken_path hp (p := .optionalProbe) rfl
    exact ⟨z, hz, hb, hpath⟩
  | skipped hp he =>
    obtain ⟨z, hz, hb, hpath, -⟩ := Client.updateCsrfToken_path hp (p := .optionalProbe) rfl
    exact ⟨z, hz, hb, hpath.before_quiet (.report _ _)⟩

/-- An action is a path of the steps of its handshake, which went well if the action did. The first of them
stands where the action begins, so a login sends nothing before it was given credentials. -/
theorem Takes.path (ht : c.handler.Takes operation a s os x s') (hne : a ≠ .none) :
    ∃ cr salt zs, Path c r s zs s' ∧ Steps c (a.steps cr salt) zs ∧
      (∀ z, zs.head? = some z → a.Begins cr s z.before) ∧ (x = .ok () → Completed c s a zs) := by
  have hnone (z : Exchange) : [].head? = some z → a.Begins ⟨"", ""⟩ s z.before := fun h => nomatch h
  have hone {z z' : Exchange} {zs : List Exchange} {cr : Credentials}
      (hb : a.Begins cr s z.before) (h : (z :: zs).head? = some z') : a.Begins cr s z'.before :=
    Option.some.inj h ▸ hb
  cases ht with
  | nothing => exact absurd rfl hne
  | abandoned ha hc => exact ⟨_, "", [], .quiet (.refl s), .nil, hnone, fun h => (nomatch h)⟩
  | probeFailed hc hp =>
    obtain ⟨z, hz, hb, hpath, -⟩ := Client.updateCsrfToken_path hp (p := .probe) rfl
    exact ⟨⟨"", ""⟩, "", [z], hpath, .single hz, fun _ => hone hb, fun h => (nomatch h)⟩
  | probed hc hp =>
    obtain ⟨z, hz, hb, hpath, hok⟩ := Client.updateCsrfToken_path hp (p := .probe) rfl
    exact ⟨⟨"", ""⟩, "", [z], hpath, .single hz, fun _ => hone hb,
      fun _ => .refreshCsrf hb hz (hok _ rfl)⟩
  | exchangeFailed hc hr =>
    obtain ⟨z, hz, hb, hpath, -⟩ := Client.requestRefreshToken_path (r := r) hr
    exact ⟨⟨"", ""⟩, "", [z], hpath, .single hz, fun _ => hone hb, fun h => (nomatch h)⟩
  | exchanged hc hr =>
    obtain ⟨z, hz, hb, hpath, hok⟩ := Client.requestRefreshToken_path (r := r) hr
    exact ⟨⟨"", ""⟩, "", [z], hpath.before_quiet (.save _ _), .single hz, fun _ => hone hb,
      fun _ => .refreshToken hb hz (hok _ rfl)⟩
  | unprovided hc hp =>
    exact ⟨_, "", [], .quiet (asked_quiet hp), .nil, hnone, fun h => (nomatch h)⟩
  | providedLate hc hp hc' =>
    exact ⟨_, "", [], .quiet (asked_quiet hp), .nil, hnone, fun h => (nomatch h)⟩
  | @probeAbandoned _ _ _ cr hc hp hc' ht =>
    obtain ⟨z, hz, rfl, hpath, -⟩ := Client.updateCsrfToken_path ht (p := .optionalProbe) rfl
    exact ⟨cr, "", [z], hpath.after_quiet (asked_quiet hp), .single hz, fun _ => hone hp,
      fun h => (nomatch h)⟩
  | @triedLate _ _ _ cr _ hc hp hc' ht hc'' =>
    obtain ⟨z, hz, rfl, hpath⟩ := ht.path (r := r)
    exact ⟨cr, "", [z], hpath.after_quiet (asked_quiet hp), .single hz, fun _ => hone hp,
      fun h => (nomatch h)⟩
  | @loginFailed _ _ _ _ cr _ _ hc hp hc' ht hc'' hl =>
    obtain ⟨z, hz, rfl, hpath⟩ := ht.path (r := r)
    obtain ⟨salt, zs, hzs, hsteps, -⟩ := Client.login_path (r := r) hl
    have hpass : z.Passes c := by rw [Exchange.Passes, hz]; trivial
    exact ⟨cr, salt, z :: zs, (hpath.after_quiet (asked_quiet hp)).append hzs,
      hsteps.cons hz hpass, fun _ => hone hp, fun h => (nomatch h)⟩
  | @loggedIn _ _ _ _ cr _ response hc hp hc' ht hc'' hl =>
    obtain ⟨z, hz, rfl, hpath⟩ := ht.path (r := r)
    obtain ⟨salt, zs, hzs, hsteps, hok⟩ := Client.login_path (r := r) hl
    obtain ⟨z', z'', rfl, hp', hs', hp'', hs''⟩ := hok response rfl
    have hpass : z.Passes c := by rw [Exchange.Passes, hz]; trivial
    have hlogin := (hpath.after_quiet (asked_quiet hp)).append hzs
    exact ⟨cr, salt, _, hlogin.before_quiet (.save _ _), hsteps.cons hz hpass, fun _ => hone hp,
      fun _ => .login hp hz hp' hs' hp'' hs''⟩

end Handler

/-! ## Calls -/

/-- The last exchange of the caller's request asked for an action, which began right after a report and has
come to its end, and all of it went well. -/
def Recovered (c : Client) (before : List Exchange) : Prop :=
  ∃ front z event block a, before = front ++ z :: block ∧ z.Asks c a ∧
    Completed c (z.after.report event) a block

/-- An exchange is a step of the handshake of the action that the last exchange of the caller's request
asked for. The action began right after a report, with the credentials that it needs, and nothing but the steps
before this one lies between. -/
def Underway (c : Client) (before : List Exchange) (x : Exchange) : Prop :=
  ∃ front z event first block a cr salt, before = front ++ z :: block ∧ z.Asks c a ∧
    (block ++ [x]).head? = some first ∧ a.Begins cr (z.after.report event) first.before ∧
    (block ++ [x]).map (·.purpose) <+: a.steps cr salt

/-- An exchange between others: the caller's request is the first one or follows a recovery, any other one
is a step of a handshake that is under way, and where anything follows, a step went on or an answer asked
for an action. -/
structure Permitted (c : Client) (before : List Exchange) (x : Exchange) (after : List Exchange) :
    Prop where
  /-- The caller's request is the first one or follows a recovery. -/
  resent : x.purpose = .caller → before = [] ∨ Recovered c before
  /-- Any other request is a step of a handshake that is under way. -/
  underway : x.purpose ≠ .caller → Underway c before x
  /-- Where anything follows, a step went on or an answer asked for an action. -/
  passed : after ≠ [] → x.Passes c ∨ x.Continues c before

namespace Permitted

variable {c : Client} {before after : List Exchange} {x : Exchange}

/-- The caller's request at its place, with nothing after it unless it continues. -/
theorem caller (hp : x.purpose = .caller) (hresent : before = [] ∨ Recovered c before)
    (h : after ≠ [] → x.Continues c before) : Permitted c before x after :=
  ⟨fun _ => hresent, fun hne => absurd hp hne, fun hne => .inr (h hne)⟩

/-- The caller's request at its place, with nothing after it. -/
theorem last (hp : x.purpose = .caller) (hresent : before = [] ∨ Recovered c before) :
    Permitted c before x [] := caller hp hresent fun hne => absurd rfl hne

end Permitted

namespace Steps

variable {c : Client} {a : Action} {cr : Credentials} {salt : String} {zs : List Exchange}

/-- The steps of a handshake are not the caller's request. -/
theorem ne_caller (hs : Steps c (a.steps cr salt) zs) {z : Exchange} (hz : z ∈ zs) :
    z.purpose ≠ .caller := by
  intro hp
  have hm : Purpose.caller ∈ zs.map (·.purpose) := hp ▸ List.mem_map_of_mem hz
  exact a.caller_notMem_steps cr salt (hs.order.subset hm)

/-- The steps of a handshake are no answers to the caller's request. -/
theorem asked_eq_nil (hs : Steps c (a.steps cr salt) zs) : Exchange.asked c zs = [] := by
  rw [Exchange.asked, List.filterMap_eq_nil_iff]
  intro z hz
  have hp := hs.ne_caller hz
  rw [Exchange.asked?]
  cases hpur : z.purpose with
  | caller => exact absurd hpur hp
  | _ => rfl

/-- None of the steps of a handshake sends the caller's request. -/
theorem origins_eq_nil (hs : Steps c (a.steps cr salt) zs) : Exchange.origins zs = [] := by
  have hnone : zs.filter (fun z => z.purpose = .caller) = [] :=
    List.filter_eq_nil_iff.mpr fun z hz hp => hs.ne_caller hz (of_decide_eq_true hp)
  rw [Exchange.origins, hnone, List.map_nil]

/-- The steps of a handshake are permitted after an answer that asks for its action, where nothing follows
them or all of them went on. -/
theorem permitted (hs : Steps c (a.steps cr salt) zs) {e : Exchange} (he : e.Asks c a)
    {event : Event} (hbegin : ∀ z, zs.head? = some z → a.Begins cr (e.after.report event) z.before)
    {after : List Exchange} (ha : after = [] ∨ ∀ z ∈ zs, z.Passes c) (before : List Exchange) :
    Throughout (Permitted c) (before ++ [e]) zs after := by
  intro pre x post hsplit
  have hx : x ∈ zs := by
    rw [hsplit]
    exact List.mem_append_right pre List.mem_cons_self
  refine ⟨fun hp => absurd hp (hs.ne_caller hx), fun _ => ?_, fun hne => .inl ?_⟩
  · have hpre : (pre ++ [x]).map (·.purpose) <+: zs.map (·.purpose) := by
      rw [hsplit]
      refine List.IsPrefix.map _ ⟨post, ?_⟩
      rw [List.append_assoc, List.singleton_append]
    obtain ⟨first, hfirst⟩ : ∃ first, (pre ++ [x]).head? = some first :=
      ⟨_, List.head?_eq_some_head (List.append_ne_nil_of_right_ne_nil pre (List.cons_ne_nil x []))⟩
    have hhead : zs.head? = some first := by
      rw [hsplit, List.append_cons, List.head?_append, hfirst]
      rfl
    exact ⟨before, e, event, first, pre, a, cr, salt, List.append_assoc .., he, hfirst,
      hbegin first hhead, hpre.trans hs.order⟩
  · rcases ha with rfl | hall
    · rw [List.append_nil] at hne
      refine hs.passed x ?_
      rw [hsplit, List.dropLast_append_of_ne_nil (List.cons_ne_nil x post),
        List.dropLast_cons_of_ne_nil hne]
      exact List.mem_append_right pre List.mem_cons_self
    · exact hall x hx

end Steps

namespace Controller

variable {c : Client} {r : Request} {p p' : Progress} {result x : Except Error Response}
  {s t : World} {os : List (Observation World)}

/-- A start is quiet. -/
theorem Starts.quiet {response : Response} {started : World} {a : Action} {n : UInt8} {b : Budget}
    (hs : c.controller.Starts c.handler r p response s a n b started) : s.Quiet started := by
  rw [← hs.reported]
  exact .report _ s

/-- An answer that starts an action asks for it. -/
theorem Starts.asks {response : Response} {started : World} {a : Action} {n : UInt8}
    {b : Budget} (hs : c.controller.Starts c.handler r p response s a n b started)
    {e : Exchange} (hreal : e.Real c r) (hcaller : e.purpose = .caller)
    (hres : e.result = .ok response) (hafter : e.after = s) : e.Asks c a := by
  have hsel : Action.select c.controller.codes e.after.session response = a := by
    rw [hafter]
    exact hs.selected
  exact Exchange.asks_of_select hreal hcaller hres hsel hs.needed

/-- An answer that starts an action is followed by the steps of the action's handshake, before which it
continues. -/
theorem Starts.path {response : Response} {started s' : World} {a : Action} {n : UInt8}
    {b : Budget} {y : Except Error Unit}
    (hs : c.controller.Starts c.handler r p response s a n b started)
    (ht : c.handler.Takes r.operation a started os y s') (hp : p.Counts c.controller)
    {before : List Exchange} {e : Exchange} (hasks : e.Asks c a) (hafter : e.after = s)
    (hasked : Exchange.asked c before = p.actions) :
    ∃ event cr salt zs, Path c r s zs s' ∧ Steps c (a.steps cr salt) zs ∧
      (∀ z, zs.head? = some z → a.Begins cr (e.after.report event) z.before) ∧
      (zs ≠ [] → e.Continues c before) ∧
      (y = .ok () → Completed c (e.after.report event) a zs) := by
  obtain ⟨cr, salt, zs, hpath, hsteps, hbegin, hok⟩ := ht.path (r := r) hs.needed
  have hlt := (hp.take hs.needed hs.allowed 0).2.2
  have hstarted : started =
      e.after.report (.recoveryStart r.operation a n response.status response.errorCode) := by
    rw [hafter]
    exact hs.reported.symm
  rw [← hasked] at hlt
  rw [hstarted] at hbegin hok
  refine ⟨_, cr, salt, zs, hpath.after_quiet hs.quiet, hsteps, hbegin, fun hne => ?_, hok⟩
  refine ⟨a, hasks, hlt, fun ha => ⟨cr, ?_⟩⟩
  -- the report before the question leaves what the provider answers
  have hfirst := hbegin _ (List.head?_eq_some_head hne)
  rw [ha] at hfirst
  exact congrArg Prod.fst hfirst

/-- Where nothing is sent after an action, what follows the answer that started it is the path of its
handshake, on which the caller's request is not sent. -/
theorem Starts.path_end {response : Response} {started s' t : World} {a : Action} {n : UInt8}
    {b : Budget} {y : Except Error Unit}
    (hs : c.controller.Starts c.handler r p response s a n b started)
    (ht : c.handler.Takes r.operation a started os y s') (hq : s'.Quiet t)
    (hp : p.Counts c.controller) {before : List Exchange} {e : Exchange} (hreal : e.Real c r)
    (hcaller : e.purpose = .caller) (hres : e.result = .ok response) (hafter : e.after = s)
    (hasked : Exchange.asked c before = p.actions) (hresent : before = [] ∨ Recovered c before) :
    ∃ xs, Path c r s xs t ∧ Exchange.origins xs = [] ∧
      Throughout (Permitted c) before (e :: xs) [] := by
  have hasks := hs.asks hreal hcaller hres hafter
  obtain ⟨event, cr, salt, zs, hpath, hsteps, hbegin, hcont, -⟩ :=
    hs.path ht hp hasks hafter hasked
  refine ⟨zs, hpath.before_quiet hq, hsteps.origins_eq_nil, .cons (.caller hcaller hresent ?_)
    (hsteps.permitted hasks hbegin (.inl rfl) _)⟩
  intro hne
  rw [List.append_nil] at hne
  exact hcont hne

/-- What follows an answer to the caller's request is a path of permitted exchanges, on which the request is
sent in just the worlds that the observations tell of. -/
theorem Course.path (hc : c.controller.Course c.handler r p result s os x p' t)
    (hp : p.Counts c.controller) {before : List Exchange} {e : Exchange} (hreal : e.Real c r)
    (hcaller : e.purpose = .caller) (hres : e.result = result) (hafter : e.after = s)
    (hasked : Exchange.asked c before = p.actions) (hresent : before = [] ∨ Recovered c before) :
    ∃ xs, Path c r s xs t ∧ Exchange.origins xs = Observation.origins s os ∧
      Throughout (Permitted c) before (e :: xs) [] := by
  have horigins {a : Action} {s s' : World} {os : List (Observation World)}
      {y : Except Error Unit} (ht : c.handler.Takes r.operation a s os y s') :
      Observation.origins s os = [] := Observation.origins_eq_nil ht.sends_eq_nil s
  induction hc generalizing before e with
  | failed => exact ⟨[], .quiet (.refl _), rfl, .cons (.last hcaller hresent) .nil⟩
  | settled ha => exact ⟨[], .quiet (.refl _), rfl, .cons (.last hcaller hresent) .nil⟩
  | exhausted ha hne hb =>
    exact ⟨[], .quiet (.report _ _), rfl, .cons (.last hcaller hresent) .nil⟩
  | broken hs ht =>
    obtain ⟨xs, hxs, hnone, hthrough⟩ :=
      hs.path_end ht (.report _ _) hp hreal hcaller hres hafter hasked hresent
    refine ⟨xs, hxs, ?_, hthrough⟩
    simp [Observation.origins, Deed.primitive?, hnone, horigins ht]
  | abandoned hs ht hr hcan =>
    subst hr
    obtain ⟨xs, hxs, hnone, hthrough⟩ :=
      hs.path_end ht (.report _ _) hp hreal hcaller hres hafter hasked hresent
    refine ⟨xs, hxs, ?_, hthrough⟩
    simp [Observation.origins, Deed.primitive?, hnone, horigins ht]
  | @again p p' response s started s' recovered s'' t a n b os rest result result' hs ht hr hcan
      hsend hrest ih =>
    have hasks := hs.asks hreal hcaller hres hafter
    obtain ⟨event, cr, salt, zs, hpath, hsteps, hbegin, hcont, hok⟩ :=
      hs.path ht hp hasks hafter hasked
    have hdone := hok rfl
    -- the next answer stands behind this one and its handshake, which asked for one action more
    have hnext : (Exchange.mk .caller recovered result s'').Real c r := hsend
    have hasked' : Exchange.asked c (before ++ [e] ++ zs) = p.actions ++ [a] := by
      rw [Exchange.asked_append, Exchange.asked_append, hsteps.asked_eq_nil, hasked,
        hasks.asked_singleton, List.append_nil]
    have hresent' : before ++ [e] ++ zs = [] ∨ Recovered c (before ++ [e] ++ zs) :=
      .inr ⟨before, e, event, zs, a, List.append_assoc .., hasks, hdone⟩
    obtain ⟨xs, hxs, hsame, hthrough⟩ := ih (hp.take hs.needed hs.allowed _).1 hnext rfl rfl rfl
      hasked' hresent'
    have hquiet : s'.Quiet recovered := hr ▸ .report _ s'
    refine ⟨zs ++ ⟨.caller, recovered, result, s''⟩ :: xs, ?_, ?_, ?_⟩
    · exact (hpath.before_quiet hquiet).append (.step (.refl _) hnext hxs)
    · rw [Exchange.origins_append, Exchange.origins_cons rfl, hsteps.origins_eq_nil, hsame]
      simp [Observation.origins, Deed.primitive?, horigins ht]
    · exact .cons (.caller hcaller hresent fun _ => hcont hdone.ne_nil)
        (.append (hsteps.permitted hasks hbegin (.inr hdone.passes) _) hthrough)

end Controller

namespace Client

/-- All that a call exchanges is a path of permitted exchanges, on which the caller's request is sent in just
the worlds that the observations of the call tell of, the first of them being that in which the call begins. -/
theorem send_path (c : Client) (r : Request) (w : World) :
    ∃ x xs, x.purpose = .caller ∧ Path c r w (x :: xs) (c.send r w).2 ∧
      Exchange.origins (x :: xs) =
        Observation.origins w (c.controller.observations c.handler r w) ∧
      Throughout (Permitted c) [] (x :: xs) [] := by
  obtain ⟨first, s₁, os, result, p, t, hsend, hcourse, hrun, hobs⟩ :=
    c.controller.course_execute c.handler r w
  have hreal : (Exchange.mk .caller w first s₁).Real c r := hsend
  obtain ⟨xs, hxs, hsame, hthrough⟩ :=
    hcourse.path (.start c.controller) hreal rfl rfl rfl rfl (.inl rfl)
  have hlast : t.Quiet (c.send r w).2 := by
    rw [send, sendWithOutcome, hrun]
    exact .report _ t
  refine ⟨_, xs, rfl, .step (.refl w) hreal (hxs.before_quiet hlast), ?_, hthrough⟩
  rw [Exchange.origins_cons rfl, hsame, Controller.observations, hobs]
  simp [Observation.origins, Deed.primitive?]

/-- A call never sends its request once too often. Whatever the network and the provider answer, all that a
call exchanges and sends is a path that begins with the caller's request. The request is sent again only
when its last answer was a failure whose report could be read and that asks for an action in the session
after the answer's tokens were taken over, and every step of the action that has to succeed did; anything
else that is sent is a step of such an action. A login sends nothing before the provider was asked for
credentials, right after the answer, and gave them. After an answer that is no failure, none, one that cannot be
read, or one that asks for an action at its limit, and after a step that had to succeed and failed, nothing
at all is sent. -/
theorem send_halts (c : Client) (r : Request) (w : World) :
    ∃ x xs, x.purpose = .caller ∧ Path c r w (x :: xs) (c.send r w).2 ∧
      (c.send r w).2.sent = w.sent ++ (x :: xs).filterMap (·.handed? c r) ∧
      ∀ before y after, x :: xs = before ++ y :: after →
        (y.purpose = .caller → before = [] ∨ Recovered c before) ∧
        (y.purpose ≠ .caller → Underway c before y) ∧
        (y.Halts c before → after = []) := by
  obtain ⟨x, xs, hx, hpath, -, hthrough⟩ := c.send_path r w
  refine ⟨x, xs, hx, hpath, hpath.sent_eq, fun before y after hsplit => ?_⟩
  obtain ⟨hresent, hunderway, hpassed⟩ := hthrough before y after hsplit
  refine ⟨hresent, hunderway, fun hhalts => ?_⟩
  have hy : y.Real c r := by
    refine hpath.real_of_mem ?_
    rw [hsplit]
    exact List.mem_append_right before List.mem_cons_self
  by_contra hne
  rw [List.append_nil] at hpassed
  rcases hpassed hne with hpass | hcont
  · exact hhalts.not_passes hy hpass
  · exact hhalts.not_continues hcont

end Client

end SessionRecovery
