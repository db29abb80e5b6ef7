import SessionRecovery.Proofs.Client.Coupling

/-!
# Twin worlds

Two worlds show a client the same when the session, the replies to come and whether the caller gave up are
the same in both, and the providers hold the same refresh token and give credentials that correspond. As
long as both are asked the same, they go on alike, whatever has happened in each of them before: how the two
histories are related is a parameter, which has to last when the same is added to both.
-/

namespace SessionRecovery

/-- The provider that gives other credentials in place of each. -/
def Provider.mapCredentials (f : Credentials → Credentials) (p : Provider) : Provider :=
  { p with provisions := fun n => { p.provisions n with answer := (p.provisions n).answer.map f } }

/-- Providers that give the same credentials are the same. -/
theorem Provider.mapCredentials_id (p : Provider) : p.mapCredentials id = p := by
  have hanswer (x : Except Error Credentials) : x.map id = x := by cases x <;> rfl
  simp only [mapCredentials, hanswer]

/-- A relation between histories lasts when the same is added to both. -/
def Lasting (H : List Occurrence → List Occurrence → Prop) : Prop :=
  ∀ ⦃h g⦄ o, H h g → H (h ++ [o]) (g ++ [o])

/-- A relation between histories lasts when both receive the same reply. -/
def LastingOnReceipt (H : List Occurrence → List Occurrence → Prop) : Prop :=
  ∀ ⦃h g⦄ d, H h g → H (h ++ [.received d]) (g ++ [.received d])

/-- A relation between histories lasts when both report the same of two requests. -/
def LastingFor (H : List Occurrence → List Occurrence → Prop) (r q : Request) : Prop :=
  ∀ (k : Method → String → Event) ⦃h g⦄, H h g →
    H (h ++ [.reported (k r.method r.path)]) (g ++ [.reported (k q.method q.path)])

/-- Two histories have grown by the same. -/
def Grown (h₀ g₀ h g : List Occurrence) : Prop := ∃ t, h = h₀ ++ t ∧ g = g₀ ++ t

theorem Grown.lasting (h₀ g₀ : List Occurrence) : Lasting (Grown h₀ g₀) := by
  rintro _ _ o ⟨t, rfl, rfl⟩
  exact ⟨t ++ [o], List.append_assoc .., List.append_assoc ..⟩

theorem Grown.refl (h₀ g₀ : List Occurrence) : Grown h₀ g₀ h₀ g₀ :=
  ⟨[], (List.append_nil _).symm, (List.append_nil _).symm⟩

/-- Nothing but the credentials and what has happened so far differs between two worlds. -/
structure World.Twins (f : Credentials → Credentials)
    (H : List Occurrence → List Occurrence → Prop) (w v : World) : Prop where
  /-- The sessions. -/
  session : v.session = w.session
  /-- The providers. -/
  provider : v.provider = w.provider.mapCredentials f
  /-- The replies to come. -/
  replies : v.replies = w.replies
  /-- Whether the callers gave up. -/
  cancelled : v.cancelled = w.cancelled
  /-- What has happened. -/
  history : H w.history v.history

namespace World.Twins

variable {f : Credentials → Credentials} {H H' : List Occurrence → List Occurrence → Prop}
  {w v : World} {r q : Request}

theorem mono (hH : ∀ {h g}, H h g → H' h g) (h : Twins f H w v) : Twins f H' w v :=
  { h with history := hH h.history }

theorem note (h : Twins f H w v) {o p : Occurrence}
    (hH : H' (w.history ++ [o]) (v.history ++ [p])) : Twins f H' (w.note o) (v.note p) :=
  ⟨h.session, h.provider, h.replies, h.cancelled, hH⟩

theorem report (hH : Lasting H) (e : Event) (h : Twins f H w v) :
    Twins f H (w.report e) (v.report e) := h.note (hH _ h.history)

theorem save (hH : Lasting H) (token : String) (h : Twins f H w v) :
    Twins f H (w.save token) (v.save token) := by
  refine ⟨h.session, ?_, h.replies, ?_, hH _ h.history⟩
  · simp only [World.save, h.provider, Provider.mapCredentials, Provider.save]
  · simp only [World.save, h.provider, h.cancelled, Provider.mapCredentials, Provider.save]

/-- The same change of both sessions. -/
theorem change (g : Session → Session) (h : Twins f H w v) :
    Twins f H { w with session := g w.session } { v with session := g v.session } :=
  ⟨congrArg g h.session, h.provider, h.replies, h.cancelled, h.history⟩

/-- The providers give credentials that correspond, or none for the same reason. -/
theorem askCredentials (hH : Lasting H) : Run.Couples (Twins f H) (fun cr cr' => cr' = f cr)
    World.askCredentials World.askCredentials := by
  intro w v hwv
  have hanswer : (World.askCredentials v).1 = (World.askCredentials w).1.map f := by
    simp only [World.askCredentials, hwv.provider, Provider.mapCredentials, Provider.ask]
  refine ⟨?_, hwv.session, ?_, hwv.replies, ?_, hH _ hwv.history⟩
  · rw [hanswer]
    cases (World.askCredentials w).1 with
    | error e => exact .error e
    | ok cr => exact .ok rfl
  · simp only [World.askCredentials, hwv.provider, Provider.mapCredentials, Provider.ask]
  · simp only [World.askCredentials, hwv.provider, hwv.cancelled, Provider.mapCredentials,
      Provider.ask]

/-! ## Dispatches -/

/-- What the network gives does not depend on what it is asked. -/
theorem transmit (hH : LastingOnReceipt H) {o p : Outbound}
    (h : Twins f H (w.note (.sent o)) (v.note (.sent p))) :
    (v.transmit p).1 = (w.transmit o).1 ∧ Twins f H (w.transmit o).2 (v.transmit p).2 := by
  obtain ⟨session, provider, replies, cancelled, history⟩ := w
  obtain ⟨session', provider', replies', cancelled', history'⟩ := v
  obtain ⟨hsession, hprovider, hreplies, hcancelled, hhistory⟩ := h
  simp only [World.note] at hsession hprovider hreplies hcancelled hhistory
  subst hsession hprovider hreplies hcancelled
  cases replies' with
  | nil => exact ⟨rfl, rfl, rfl, rfl, rfl, hhistory⟩
  | cons reply rest =>
    obtain ⟨answer, interruption⟩ := reply
    -- only a delivery adds to the histories
    cases interruption <;> cases answer <;>
      first
      | exact ⟨rfl, rfl, rfl, rfl, rfl, hhistory⟩
      | exact ⟨rfl, rfl, rfl, rfl, rfl, hH _ hhistory⟩

theorem await (hH : LastingOnReceipt H) (hreport : LastingFor H r q) {o p : Outbound}
    (h : Twins f H (w.note (.sent o)) (v.note (.sent p))) :
    Agree (fun d d' => d' = d) (World.await r o w).1 (World.await q p v).1 ∧
      Twins f H (World.await r o w).2 (World.await q p v).2 := by
  obtain ⟨harrival, hend⟩ := h.transmit hH
  obtain ⟨arrival, w', hw⟩ : ∃ a w', w.transmit o = (a, w') := ⟨_, _, rfl⟩
  obtain ⟨arrival', v', hv⟩ : ∃ a v', v.transmit p = (a, v') := ⟨_, _, rfl⟩
  rw [hw, hv] at harrival hend
  have harrival : arrival' = arrival := harrival
  subst harrival
  rw [World.await, World.await, hw, hv]
  cases arrival' with
  | interrupted => exact ⟨.error _, hend⟩
  | failed e =>
    exact ⟨.error _, hend.note (hreport (fun method path => .transportFailed method path e)
      hend.history)⟩
  | delivered d => exact ⟨.ok rfl, hend⟩

theorem accept (names : HeaderNames) (hreport : LastingFor H r q) (d : Delivery) :
    Run.Couples (Twins f H) (fun x y => y = x) (World.accept names r d)
      (World.accept names q d) := by
  intro w v hwv
  have htaken : Twins f H (w.takeTokens names d) (v.takeTokens names d) :=
    hwv.change (·.capture names d.headers)
  rw [World.accept, World.accept, hwv.session]
  cases Response.ofDelivery d with
  | error e =>
    exact ⟨.error e, htaken.note (hreport (fun _ path => .bodyUnreadable path d.status e)
      htaken.history)⟩
  | ok response =>
    exact ⟨.ok rfl, htaken.note (hreport (fun _ path => .dispatchResponse path response.status
      response.errorCode (w.session.captureChanges names d.headers)) htaken.history)⟩

/-- Two requests, both of which can be built or neither, are answered alike. The histories are related as
before when nothing was sent, and otherwise as after sending. -/
theorem dispatch (names : HeaderNames) (h : Twins f H w v) (hH : LastingOnReceipt H')
    (hreport : LastingFor H' r q)
    (hsent : Agree (fun o p =>
      H' (w.history ++ [.reported (.dispatchSend r.method r.path)] ++ [.sent o])
        (v.history ++ [.reported (.dispatchSend q.method q.path)] ++ [.sent p]))
      (w.session.outbound names r) (w.session.outbound names q)) :
    Agree (fun x y => y = x) (World.dispatch names r w).1 (World.dispatch names q v).1 ∧
      (Twins f H (World.dispatch names r w).2 (World.dispatch names q v).2 ∨
        Twins f H' (World.dispatch names r w).2 (World.dispatch names q v).2) := by
  have hcancelled := h.cancelled
  have hsession := h.session
  cases hc : w.cancelled with
  | true =>
    rw [World.dispatch_of_cancelled names r hc,
      World.dispatch_of_cancelled names q (hcancelled.trans hc)]
    exact ⟨.error _, .inl h⟩
  | false =>
    have hc' := hcancelled.trans hc
    cases hr : w.session.outbound names r <;> cases hq : w.session.outbound names q <;>
      rw [hr, hq] at hsent <;> cases hsent
    · rw [World.dispatch_of_unbuildable hc hr,
        World.dispatch_of_unbuildable hc' (hsession ▸ hq)]
      exact ⟨.error _, .inl h⟩
    · next o p hop =>
      have hannounced : Twins f H' ((w.announced r).note (.sent o))
          ((v.announced q).note (.sent p)) :=
        ⟨h.session, h.provider, h.replies, h.cancelled, hop⟩
      obtain ⟨hawait, hend⟩ := hannounced.await hH hreport
      rw [World.dispatch_of_built hc hr, World.dispatch_of_built hc' (hsession ▸ hq)]
      obtain ⟨hresult, hlast⟩ := Run.bind_of_agree hawait hend fun d d' hd => by
        subst hd
        exact accept names hreport d'
      exact ⟨hresult, .inr hlast⟩

/-- The same request is answered alike. -/
theorem dispatch_couples (names : HeaderNames) (hH : Lasting H) (r : Request) :
    Run.Couples (Twins f H) (fun x y => y = x) (World.dispatch names r)
      (World.dispatch names r) := by
  intro w v hwv
  obtain ⟨hresult, hend⟩ := hwv.dispatch (r := r) (q := r) names
    (fun _ _ _ hhg => hH _ hhg) (fun _ _ _ hhg => hH _ hhg)
    ((Agree.of_eq rfl).mono fun o p hop => by
      subst hop
      exact hH _ (hH _ hwv.history))
  exact ⟨hresult, hend.elim id id⟩

end World.Twins

/-- Runs that differ in nothing but the credentials. -/
abbrev Leeway.only (f : Credentials → Credentials) : Leeway :=
  ⟨fun r q => q = r, fun x y => y = x, fun cr cr' => cr' = f cr⟩

namespace World.Twins

variable {f : Credentials → Credentials} {H : List Occurrence → List Occurrence → Prop}

/-- Everything that a client is made of, apart from logins, keeps worlds twins. -/
theorem couples (hH : Lasting H) (c : Client) : c.Couples (.only f) (Twins f H) where
  report e _ _ hwv := hwv.report hH e
  cancelled := Twins.cancelled
  session hwv := hwv.session ▸ .refl _
  persist {w v} hwv := by
    rw [hwv.session]
    exact hwv.save hH _
  clear hwv := hwv.change _
  erase hwv := hwv.save hH ""
  alike {x y} hxy := by
    rw [show y = x from hxy]
    exact .refl x
  named {r q} hrq := by rw [show q = r from hrq]
  same _ := rfl
  renewal hwv := by
    rw [hwv.session]
  confirmed {x y r q} code hxy hrq := by
    rw [show y = x from hxy, show q = r from hrq]
  dispatch {r q} hrq := by
    rw [show q = r from hrq]
    exact dispatch_couples c.names hH r
  askCredentials := askCredentials hH

end World.Twins

end SessionRecovery
