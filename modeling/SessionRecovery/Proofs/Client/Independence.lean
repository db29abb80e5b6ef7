import SessionRecovery.Proofs.Client.Resend
import SessionRecovery.Proofs.Client.Twins

/-!
# Recovery does not look at the request

Two requests are sent from the same state, and both can be built there. Then the one call does what the other
does: it takes the same actions with the same answers, shows the same to the network and to the provider in
every handshake, and differs only where the caller's own request is announced, sent or named.
-/

namespace SessionRecovery

open World (Twins)

/-! ## Episodes -/

namespace World

/-- What passed between a client and the outside so far: requests, replies, and what the provider was asked
and given. Events are left out. -/
def dealings (w : World) : List Occurrence := w.history.filter (·.event?.isNone)

variable {w w' : World} {t : List Occurrence}

theorem dealings_of_history (h : w'.history = w.history ++ t) :
    w'.dealings = w.dealings ++ t.filter (·.event?.isNone) := by
  rw [dealings, h, List.filter_append]
  rfl

/-- What passed stays. -/
def Extends (w w' : World) : Prop := w.dealings <+: w'.dealings

instance : IsPreorder World Extends where
  refl _ := List.prefix_refl _
  trans _ _ _ := List.IsPrefix.trans

theorem extends_of_history (h : w'.history = w.history ++ t) : w.Extends w' :=
  ⟨_, (dealings_of_history h).symm⟩

/-- Everything that a client is made of adds to what passed. -/
theorem extends_moves (names : HeaderNames) : World.Moves names Extends where
  dispatch r w := by
    obtain ⟨t, ht⟩ := (dispatched_dispatch names r w).exists_history
    exact extends_of_history ht
  report e w := extends_of_history rfl
  askCredentials w _ := extends_of_history rfl
  save token w := extends_of_history rfl

end World

/-- One primitive with its answer, or one event, and what passed between the client and the outside
meanwhile. -/
structure Episode where
  /-- The primitive or the event. -/
  deed : Deed
  /-- What passed. -/
  dealings : List Occurrence

/-- The episodes of observations that began in a given world. -/
def episodes (w : World) : List (Observation World) → List Episode
  | [] => []
  | o :: os => ⟨o.deed, o.after.dealings.drop w.dealings.length⟩ :: episodes o.after os

theorem episodes_append (w : World) (os ps : List (Observation World)) :
    episodes w (os ++ ps) = episodes w os ++ episodes (Observation.latest w os) ps := by
  induction os generalizing w with
  | nil => rfl
  | cons o os ih => rw [List.cons_append, episodes, episodes, ih, Observation.latest, List.cons_append]

/-- All that passes during a walk passes in its episodes. -/
theorem Handler.Walk.dealings_eq {h : Handler World} {r : Request} {w v : World}
    {os : List (Observation World)} (hm : h.Moves World.Extends) (hw : h.Walk r w os v) :
    v.dealings = w.dealings ++ (episodes w os).flatMap (·.dealings) := by
  induction hw with
  | nil w => exact (List.append_nil _).symm
  | @cons w v o os ho _ ih =>
    obtain ⟨t, ht⟩ := ho.moves hm
    rw [episodes, List.flatMap_cons, ih, ← ht, List.drop_left, List.append_assoc]

/-- Two episodes of calls of two requests correspond: they are the same, but for how events call the request
and for the request itself where it is sent, from one and the same session. -/
inductive Episode.Mirrors (names : HeaderNames) (r q : Request) : Episode → Episode → Prop
  /-- An event of the call. -/
  | report (k : String → Event) : Mirrors names r q ⟨.report (k r.operation), []⟩
      ⟨.report (k q.operation), []⟩
  /-- Anything else than sending the request: a probe, a login, an exchange, or dealing with the provider. -/
  | same {d : Deed} (hd : d.primitive? ≠ some .send) (os : List Occurrence) :
      Mirrors names r q ⟨d, os⟩ ⟨d, os⟩
  /-- The caller had given up before the request was sent. -/
  | unsent (x : Except Error Response) : Mirrors names r q ⟨.send r x, []⟩ ⟨.send q x, []⟩
  /-- The request was sent, and answered by the same reply or not at all. -/
  | sent {s : Session} {o p : Outbound} (ho : s.outbound names r = .ok o)
      (hp : s.outbound names q = .ok p) (x : Except Error Response) (ds : List Delivery) :
      Mirrors names r q ⟨.send r x, .sent o :: ds.map .received⟩
        ⟨.send q x, .sent p :: ds.map .received⟩

/-- Two histories have grown by two requests and the same replies, events aside. -/
def Answered (o p : Outbound) (h₀ g₀ h g : List Occurrence) : Prop :=
  ∃ t t' : List Occurrence, ∃ ds : List Delivery, h = h₀ ++ t ∧ g = g₀ ++ t' ∧
    t.filter (·.event?.isNone) = .sent o :: ds.map .received ∧
    t'.filter (·.event?.isNone) = .sent p :: ds.map .received

namespace Answered

variable {o p : Outbound} {h₀ g₀ : List Occurrence}

theorem received : LastingOnReceipt (Answered o p h₀ g₀) := by
  rintro _ _ d ⟨t, t', ds, rfl, rfl, ht, ht'⟩
  refine ⟨t ++ [.received d], t' ++ [.received d], ds ++ [d], List.append_assoc ..,
    List.append_assoc .., ?_, ?_⟩
  · rw [List.filter_append, ht, List.map_append]
    rfl
  · rw [List.filter_append, ht', List.map_append]
    rfl

theorem reported (r q : Request) : LastingFor (Answered o p h₀ g₀) r q := by
  rintro k _ _ ⟨t, t', ds, rfl, rfl, ht, ht'⟩
  refine ⟨t ++ [.reported (k r.method r.path)], t' ++ [.reported (k q.method q.path)], ds,
    List.append_assoc .., List.append_assoc .., ?_, ?_⟩
  · rw [List.filter_append, ht]
    exact List.append_nil _
  · rw [List.filter_append, ht']
    exact List.append_nil _

theorem sent (e e' : Event) : Answered o p h₀ g₀ (h₀ ++ [.reported e] ++ [.sent o])
    (g₀ ++ [.reported e'] ++ [.sent p]) :=
  ⟨_, _, [], List.append_assoc .., List.append_assoc .., rfl, rfl⟩

end Answered

namespace Client

/-! ## Two calls in parallel -/

/-- Two observed calls from one world, after corresponding episodes. -/
structure Parallel (c : Client) (r q : Request) (w₀ : World)
    (s t : World × List (Observation World)) : Prop where
  /-- The worlds that were reached show the client the same. -/
  twins : Twins id (fun _ _ => True) s.1 t.1
  /-- The observations of the first call lead to its world. -/
  reached : Observation.latest w₀ s.2 = s.1
  /-- The observations of the second call lead to its world. -/
  reached' : Observation.latest w₀ t.2 = t.1
  /-- The session was carried on. -/
  carries : w₀.Carries c.names s.1
  /-- The episodes so far correspond. -/
  mirrors : List.Forall₂ (Episode.Mirrors c.names r q) (episodes w₀ s.2) (episodes w₀ t.2)

namespace Parallel

variable {c : Client} {r q : Request} {w₀ w v w' v' : World} {os ps : List (Observation World)}

theorem start (c : Client) (r q : Request) (w : World) : c.Parallel r q w (w, []) (w, []) :=
  ⟨⟨rfl, (Provider.mapCredentials_id _).symm, rfl, rfl, trivial⟩, rfl, rfl, .refl c.names _, .nil⟩

/-- One more episode in each call. -/
theorem step (h : c.Parallel r q w₀ (w, os) (v, ps)) {d d' : Deed} {t t' : List Occurrence}
    (htwins : Twins id (fun _ _ => True) w' v') (hcarries : w.Carries c.names w')
    (ht : w'.history = w.history ++ t) (ht' : v'.history = v.history ++ t')
    (hd : Episode.Mirrors c.names r q ⟨d, t.filter (·.event?.isNone)⟩
      ⟨d', t'.filter (·.event?.isNone)⟩) :
    c.Parallel r q w₀ (w', os ++ [⟨d, w'⟩]) (v', ps ++ [⟨d', v'⟩]) where
  twins := htwins
  reached := Observation.latest_concat ..
  reached' := Observation.latest_concat ..
  carries := h.carries.trans hcarries
  mirrors := by
    have hone {u u' : World} {us : List (Observation World)} {e : Deed} {a : List Occurrence}
        (hu : Observation.latest w₀ us = u) (ha : u'.history = u.history ++ a) :
        episodes w₀ (us ++ [⟨e, u'⟩]) = episodes w₀ us ++ [⟨e, a.filter (·.event?.isNone)⟩] := by
      rw [episodes_append, hu, episodes, episodes, World.dealings_of_history ha, List.drop_left]
    rw [hone h.reached ht, hone h.reached' ht']
    exact List.rel_append h.mirrors (.cons hd .nil)

/-- A primitive that does not depend on the request does the same in both calls. -/
theorem observing {α : Type} {deed : Except Error α → Deed} {run : Run World α}
    (hrun : ∀ h₀ g₀, Run.Couples (Twins id (Grown h₀ g₀)) (fun x y => y = x) run run)
    (hcarries : Run.Moves (World.Carries c.names) run)
    (hd : ∀ x, (deed x).primitive? ≠ some .send) :
    Run.Couples (c.Parallel r q w₀) (fun x y => y = x) (Handler.observing deed run)
      (Handler.observing deed run) := by
  rintro ⟨w, os⟩ ⟨v, ps⟩ h
  have hstart : Twins id (Grown w.history v.history) w v := { h.twins with history := .refl _ _ }
  obtain ⟨hresult, hend⟩ := hrun _ _ w v hstart
  obtain ⟨t, ht, ht'⟩ := hend.history
  refine ⟨hresult, ?_⟩
  have hsame : (run v).1 = (run w).1 := hresult.eq
  change c.Parallel r q w₀ ((run w).2, os ++ [⟨deed (run w).1, _⟩])
    ((run v).2, ps ++ [⟨deed (run v).1, _⟩])
  rw [hsame]
  exact h.step (hend.mono fun _ => trivial) (hcarries w) ht ht' (.same (hd _) _)

/-- The two requests are sent from the same session, and answered alike. -/
theorem resend {o p : Outbound} (hr : w₀.session.outbound c.names r = .ok o)
    (hq : w₀.session.outbound c.names q = .ok p) :
    Run.Couples (c.Parallel r q w₀) (fun x y => y = x) (c.handler.observed.resend r)
      (c.handler.observed.resend q) := by
  rintro ⟨w, os⟩ ⟨v, ps⟩ h
  -- both requests could be built at first, so both still can
  obtain ⟨o', ho'⟩ := h.carries.exists_outbound hr
  obtain ⟨p', hp'⟩ := h.carries.exists_outbound hq
  have hstart : Twins id (fun h g => h = w.history ∧ g = v.history) w v :=
    { h.twins with history := ⟨rfl, rfl⟩ }
  have hsent : Agree (fun o p => Answered o' p' w.history v.history
        (w.history ++ [.reported (.dispatchSend r.method r.path)] ++ [.sent o])
        (v.history ++ [.reported (.dispatchSend q.method q.path)] ++ [.sent p]))
      (w.session.outbound c.names r) (w.session.outbound c.names q) := by
    rw [ho', hp']
    exact .ok (.sent _ _)
  obtain ⟨hresult, hend⟩ := hstart.dispatch c.names Answered.received (.reported r q) hsent
  refine ⟨hresult, ?_⟩
  have hsame : (c.dispatch q v).1 = (c.dispatch r w).1 := hresult.eq
  have hcarries : w.Carries c.names (c.dispatch r w).2 :=
    (World.carries_moves c.names).dispatch r w
  change c.Parallel r q w₀ ((c.dispatch r w).2, os ++ [⟨.send r (c.dispatch r w).1, _⟩])
    ((c.dispatch q v).2, ps ++ [⟨.send q (c.dispatch q v).1, _⟩])
  rw [hsame]
  rcases hend with hend | hend
  · obtain ⟨hh, hg⟩ := hend.history
    exact h.step (hend.mono fun _ => trivial) hcarries (hh.trans (List.append_nil _).symm)
      (hg.trans (List.append_nil _).symm) (.unsent _)
  · obtain ⟨t, t', ds, hh, hg, ht, ht'⟩ := hend.history
    refine h.step (hend.mono fun _ => trivial) hcarries hh hg ?_
    rw [ht, ht']
    exact .sent ho' hp' _ ds

/-- Everything that recovery is made of does the same in both calls. -/
theorem couples {o p : Outbound} (hr : w₀.session.outbound c.names r = .ok o)
    (hq : w₀.session.outbound c.names q = .ok p) :
    Handler.Couples (c.Parallel r q w₀) (fun x y => y = x) (fun cr cr' => cr' = cr)
      c.handler.observed c.handler.observed r q where
  resend := resend hr hq
  refreshCsrf := observing
    (fun h₀ g₀ => updateCsrfToken_couples (Twins.couples (Grown.lasting h₀ g₀) c))
    (updateCsrfToken_moves (World.carries_moves c.names).toSpeaks) nofun
  credentials := observing (fun h₀ g₀ => Twins.askCredentials (Grown.lasting h₀ g₀))
    (fun w => .refl c.names w.session) nofun
  login cr cr' hcr := by
    subst hcr
    refine observing (fun h₀ g₀ => ?_)
      (login_moves (World.carries_moves c.names).toSpeaks cr') nofun
    refine login_couples (Twins.couples (Grown.lasting h₀ g₀) c) rfl ?_
    intro x y t u hxy ht hu
    obtain rfl : y = x := hxy
    rw [Option.some.inj (hu.symm.trans ht)]
  refreshToken := observing
    (fun h₀ g₀ => requestRefreshToken_couples (Twins.couples (Grown.lasting h₀ g₀) c))
    (requestRefreshToken_moves (World.carries_moves c.names).toSpeaks) nofun
  persist s t h := by
    obtain ⟨w, os⟩ := s
    obtain ⟨v, ps⟩ := t
    have hsaved := h.twins.save (fun _ _ _ _ => trivial) w.session.refresh
    have hpersisted : c.handler.persist v = v.save w.session.refresh := by
      rw [← h.twins.session]
      rfl
    simp only [Handler.observed, hpersisted]
    exact h.step hsaved (.refl c.names _) rfl rfl (.same (by decide) _)
  cancelled s t h := h.twins.cancelled
  report k s t h := by
    obtain ⟨w, os⟩ := s
    obtain ⟨v, ps⟩ := t
    exact h.step (h.twins.note trivial) (.refl c.names _) rfl rfl (.report k)
  select codes s t x y h hxy := by
    have hsession : t.1.session = s.1.session := h.twins.session
    obtain rfl : y = x := hxy
    exact congrArg (Action.select codes · y) hsession
  answer x y hxy := by
    obtain rfl : y = x := hxy
    exact ⟨rfl, rfl⟩

end Parallel

/-- Recovery does not look at the request that is recovered. When two requests can both be built from the
session, sending the one or the other, with the same replies to come, gives the same result and the same
outcome but for the name of the request, and leaves the same session, provider and replies. The two calls
consist of corresponding episodes, in which all that passes between the client and the outside is the same
but the caller's own request: every probe, login and exchange shows the network the same, and the provider
is asked and given the same. -/
theorem sendWithOutcome_independent (c : Client) (w : World) {r q : Request} {o p : Outbound}
    (hr : w.session.outbound c.names r = .ok o) (hq : w.session.outbound c.names q = .ok p) :
    let (result, outcome, ended) := c.sendWithOutcome r w
    let (result', outcome', ended') := c.sendWithOutcome q w
    let es := episodes w (c.controller.observations c.handler r w)
    let es' := episodes w (c.controller.observations c.handler q w)
    result' = result ∧ outcome' = { outcome with operation := q.operation } ∧
    ended'.session = ended.session ∧ ended'.provider = ended.provider ∧
    ended'.replies = ended.replies ∧
    List.Forall₂ (Episode.Mirrors c.names r q) es es' ∧
    ended.dealings = w.dealings ++ es.flatMap (·.dealings) ∧
    ended'.dealings = w.dealings ++ es'.flatMap (·.dealings) := by
  obtain ⟨hresult, houtcome, hend⟩ :=
    Controller.execute_couples (Parallel.couples hr hq) c.controller (Parallel.start c r q w)
  have hwalk (r : Request) := (c.controller.walk_observations c.handler r w).1
  have hmoves := handler_moves (World.extends_moves c.names)
  rw [Controller.execute_observed, Controller.execute_observed] at hresult houtcome hend
  have hprovider := hend.twins.provider
  rw [Provider.mapCredentials_id] at hprovider
  exact ⟨hresult.eq, houtcome, hend.twins.session, hprovider, hend.twins.replies, hend.mirrors,
    (hwalk r).dealings_eq hmoves, (hwalk q).dealings_eq hmoves⟩

/-- A world whose server refuses a request for want of an anti-forgery token, gives one, and accepts. -/
def probing : World :=
  ⟨⟨"https://a", none, "t", "r", ""⟩, .inMemory none none,
    [⟨.ok ⟨403, [], Utf8.encode "\x7b\"code\":\"csrf_token_invalid\",\"message\":\"\"\x7d"⟩, .never⟩,
      ⟨.ok ⟨200, [(⟨"x-csrf"⟩, [0x63])], []⟩, .never⟩, ⟨.ok ⟨200, [], []⟩, .never⟩], false, []⟩

/-- Reading one thing and writing another recover by the same probe, and end alike. -/
theorem sendWithOutcome_independent_probing :
    let c := ofSettings (.new "https://a")
    let r := Request.new .get "/a"
    let q := ((Request.new .post "/b").withPayload (.str "x")).withHeader "x-own" "1"
    (c.sendWithOutcome q probing).1 = (c.sendWithOutcome r probing).1 ∧
    (c.sendWithOutcome r probing).2.1 = ⟨"GET /a", [.refreshCsrf], 2, true⟩ ∧
    (c.sendWithOutcome q probing).2.1 = ⟨"POST /b", [.refreshCsrf], 2, true⟩ ∧
    (c.sendWithOutcome r probing).2.2.sent.map (·.url) =
      ["https://a/a", "https://a/status/check", "https://a/a"] ∧
    (c.sendWithOutcome q probing).2.2.sent.map (·.url) =
      ["https://a/b", "https://a/status/check", "https://a/b"] := by
  intro c r q
  have hr : probing.session.outbound c.names r =
      .ok ⟨.get, "https://a/a", [(⟨"x-auth-access-token"⟩, [0x74])], none⟩ := by decide +kernel
  have hq : probing.session.outbound c.names q = .ok ⟨.post, "https://a/b",
      [(⟨"x-auth-access-token"⟩, [0x74]), (⟨"x-own"⟩, [0x31])], some [0x22, 0x78, 0x22]⟩ := by
    decide +kernel
  refine ⟨(sendWithOutcome_independent c probing hr hq).1, ?_, ?_, ?_, ?_⟩ <;> decide +kernel

end Client

end SessionRecovery
