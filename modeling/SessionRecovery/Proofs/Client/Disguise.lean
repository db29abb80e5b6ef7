import SessionRecovery.Proofs.Client.Coupling
import SessionRecovery.Proofs.Session.Disguise

/-!
# Token values are never told

A program runs twice, the second time with every token in disguise: those of the session, the stored one, and
those that the replies bring. Both runs report the same events, tell the same outcomes and fail with the same
errors, so nothing but the emptiness, the length and the equality of tokens can be learned from outside.
-/

namespace SessionRecovery

open Header

/-! ## Proofs of passwords -/

theorem Base64.visible_symbol (n : Nat) :
    0x20 ≤ (Base64.symbol n).toNat ∧ (Base64.symbol n).toNat ≤ 0x7E := by
  have hcode {m : Nat} (hm : m < 0x80) : (Char.ofNat m).toNat = m := by
    have hvalid : m.isValidChar := .inl (by omega)
    rw [Char.ofNat, dif_pos hvalid]
    rfl
  unfold Base64.symbol
  split
  · rw [hcode (by omega)]
    omega
  split
  · rw [hcode (by omega)]
    omega
  split
  · rw [hcode (by omega)]
    omega
  split <;> decide

theorem Base64.visible_encode (bs : Bytes) : Visible (String.ofList (Base64.encode bs)) := by
  intro ch hch
  rw [String.toList_ofList] at hch
  have hpad : 0x20 ≤ '='.toNat ∧ '='.toNat ≤ 0x7E := by decide
  induction bs using Base64.encode.induct with
  | case1 => exact absurd hch List.not_mem_nil
  | case2 a =>
    simp only [Base64.encode, List.mem_cons, List.not_mem_nil, or_false] at hch
    rcases hch with rfl | rfl | rfl | rfl
    exacts [visible_symbol _, visible_symbol _, hpad, hpad]
  | case3 a b =>
    simp only [Base64.encode, List.mem_cons, List.not_mem_nil, or_false] at hch
    rcases hch with rfl | rfl | rfl | rfl
    exacts [visible_symbol _, visible_symbol _, visible_symbol _, hpad]
  | case4 a b c rest ih =>
    simp only [Base64.encode, List.mem_cons] at hch
    rcases hch with rfl | rfl | rfl | rfl | hch
    exacts [visible_symbol _, visible_symbol _, visible_symbol _, visible_symbol _, ih hch]

/-- The proof of a password can always be sent. -/
theorem writable_passwordProof (password salt : String) : Writable (passwordProof password salt) :=
  (Base64.visible_encode _).writable

/-! ## Worlds in disguise -/

namespace Disguise

variable (f : Disguise)

/-- A reply as it came over the wire, in disguise. -/
def delivery (names : HeaderNames) (d : Delivery) : Delivery :=
  { d with headers := f.fields names d.headers }

/-- A reply in disguise. -/
def response (names : HeaderNames) (r : Response) : Response :=
  { r with headers := f.fields names r.headers }

/-- What the network gives, in disguise. -/
def reply (names : HeaderNames) (r : Reply) : Reply :=
  { r with answer := r.answer.map (f.delivery names) }

/-- A provider with its refresh token in disguise. -/
def provider (p : Provider) : Provider := { p with stored := p.stored.map f.text }

/-- What a client works on, with all tokens in disguise. -/
def world (names : HeaderNames) (w : World) : World :=
  { w with
    session := f.session w.session
    provider := f.provider w.provider
    replies := w.replies.map (f.reply names) }

theorem alike_response (names : HeaderNames) (r : Response) : r.Alike (f.response names r) :=
  ⟨rfl, rfl, rfl, f.isSome_nonEmptyText?_fields⟩

theorem ofDelivery_delivery (names : HeaderNames) (d : Delivery) :
    Response.ofDelivery (f.delivery names d) = (Response.ofDelivery d).map (f.response names) := by
  rw [Response.ofDelivery, Response.ofDelivery, delivery]
  split
  · cases ApiError.fromBody d.body <;> rfl
  · rfl

/-- One world is the other in disguise, and the same events have been reported in both. -/
structure Veils (names : HeaderNames) (w v : World) : Prop where
  /-- The sessions. -/
  session : v.session = f.session w.session
  /-- The providers. -/
  provider : v.provider = f.provider w.provider
  /-- The replies to come. -/
  replies : v.replies = w.replies.map (f.reply names)
  /-- Whether the callers gave up. -/
  cancelled : v.cancelled = w.cancelled
  /-- The events. -/
  events : v.events = w.events

theorem getD_map_text (t : Option String) : (t.map f.text).getD "" = f.text (t.getD "") := by
  cases t with
  | none => exact f.text_empty.symm
  | some t => rfl

/-- The provider resumes in disguise with what it resumes with, in disguise. -/
theorem refreshToken_provider (p : Provider) :
    (f.provider p).refreshToken = p.refreshToken.map f.text := by
  rw [Provider.refreshToken, Provider.refreshToken, provider, f.filter_map_text]

theorem veils_world (names : HeaderNames) (w : World) : f.Veils names w (f.world names w) :=
  ⟨rfl, rfl, rfl, rfl, rfl⟩

end Disguise

namespace World

@[simp] theorem events_note (w : World) (o : Occurrence) :
    (w.note o).events = w.events ++ o.event?.toList := by
  rw [events, events, note, List.filterMap_append]
  cases o <;> rfl

@[simp] theorem events_report (w : World) (e : Event) : (w.report e).events = w.events ++ [e] :=
  w.events_note (.reported e)

@[simp] theorem events_save (w : World) (token : String) : (w.save token).events = w.events := by
  simp [events, save, Occurrence.event?]

@[simp] theorem events_askCredentials (w : World) : (askCredentials w).2.events = w.events := by
  simp [events, askCredentials, Occurrence.event?]

/-- Handing a request to the network reports nothing. -/
@[simp] theorem events_transmit (w : World) (o : Outbound) :
    (w.transmit o).2.events = w.events := by
  obtain ⟨arrival, w', h⟩ : ∃ a w', w.transmit o = (a, w') := ⟨_, _, rfl⟩
  rw [h, events, events, history_of_transmit h, List.filterMap_append]
  cases arrival <;> simp [Arrival.delivery?, Occurrence.event?]

end World

namespace Disguise

variable {f : Disguise} {names : HeaderNames} {w v : World}

theorem Veils.note (h : f.Veils names w v) {o p : Occurrence} (he : p.event? = o.event?) :
    f.Veils names (w.note o) (v.note p) := by
  refine ⟨h.session, h.provider, h.replies, h.cancelled, ?_⟩
  rw [World.events_note, World.events_note, h.events, he]

theorem Veils.report (h : f.Veils names w v) (e : Event) :
    f.Veils names (w.report e) (v.report e) := h.note rfl

/-- A token is saved in disguise. -/
theorem Veils.save (h : f.Veils names w v) (token : String) :
    f.Veils names (w.save token) (v.save (f.text token)) := by
  refine ⟨h.session, ?_, h.replies, ?_, ?_⟩
  · simp only [World.save, h.provider, Disguise.provider, Provider.save, Option.map_some]
  · simp only [World.save, h.provider, h.cancelled, Disguise.provider, Provider.save]
  · rw [World.events_save, World.events_save, h.events]

/-- How waiting for a reply ends, in disguise. -/
def arrival (f : Disguise) (names : HeaderNames) : World.Arrival → World.Arrival
  | .interrupted => .interrupted
  | .failed e => .failed e
  | .delivered d => .delivered (f.delivery names d)

/-- The network gives the same in disguise, whatever is asked of it. -/
theorem Veils.transmit (h : f.Veils names w v) (o p : Outbound) :
    (v.transmit p).1 = f.arrival names (w.transmit o).1 ∧
      f.Veils names (w.transmit o).2 (v.transmit p).2 := by
  have hevents : (v.transmit p).2.events = (w.transmit o).2.events := by
    rw [World.events_transmit, World.events_transmit, h.events]
  obtain ⟨session, provider, replies, cancelled, history⟩ := w
  obtain ⟨session', provider', replies', cancelled', history'⟩ := v
  obtain ⟨hsession, hprovider, hreplies, hcancelled, -⟩ := h
  simp only at hsession hprovider hreplies hcancelled
  subst hsession hprovider hreplies hcancelled
  cases replies with
  | nil => exact ⟨rfl, rfl, rfl, rfl, rfl, hevents⟩
  | cons reply rest =>
    obtain ⟨answer, interruption⟩ := reply
    cases interruption <;> cases answer <;> exact ⟨rfl, rfl, rfl, rfl, rfl, hevents⟩

/-- A request is answered by the same reply in disguise, or not at all for the same reason. -/
theorem await_couples {r q : Request} (hr : r.Alike q) (o p : Outbound) :
    Run.Couples (f.Veils names) (fun d d' => d' = f.delivery names d) (World.await r o)
      (World.await q p) := by
  intro w v hwv
  obtain ⟨harrival, hend⟩ := hwv.transmit o p
  obtain ⟨arrival, w', hw⟩ : ∃ a w', w.transmit o = (a, w') := ⟨_, _, rfl⟩
  obtain ⟨arrival', v', hv⟩ : ∃ a v', v.transmit p = (a, v') := ⟨_, _, rfl⟩
  rw [hw, hv] at harrival hend
  have harrival : arrival' = f.arrival names arrival := harrival
  subst harrival
  rw [World.await, World.await, hw, hv, hr.method, hr.path]
  cases arrival with
  | interrupted => exact ⟨.error _, hend⟩
  | failed e => exact ⟨.error _, hend.report _⟩
  | delivered d => exact ⟨.ok rfl, hend⟩

/-- The tokens of a reply are taken over in disguise, and it is read as before. -/
theorem accept_couples {r q : Request} (hr : r.Alike q) (d : Delivery) :
    Run.Couples (f.Veils names) Response.Alike (World.accept names r d)
      (World.accept names q (f.delivery names d)) := by
  intro w v hwv
  have hchanges : v.session.captureChanges names (f.delivery names d).headers =
      w.session.captureChanges names d.headers := by
    rw [hwv.session]
    exact f.captureChanges_session _ _ _
  have htaken : f.Veils names (w.takeTokens names d) (v.takeTokens names (f.delivery names d)) := by
    refine ⟨?_, hwv.provider, hwv.replies, hwv.cancelled, hwv.events⟩
    simp only [World.takeTokens]
    rw [hwv.session]
    exact f.capture_session _ _ _
  rw [World.accept, World.accept, hchanges, f.ofDelivery_delivery, hr.path]
  cases hd : Response.ofDelivery d with
  | error e => exact ⟨.error e, htaken.report _⟩
  | ok response => exact ⟨.ok (f.alike_response names response), htaken.report _⟩

theorem dispatch_couples {r q : Request} (hr : r.Alike q) :
    Run.Couples (f.Veils names) Response.Alike (World.dispatch names r) (World.dispatch names q) := by
  rw [World.dispatch, World.dispatch]
  refine .bind (World.ensureActive_couples Veils.cancelled) fun _ _ _ => ?_
  have hbuild : Run.Couples (f.Veils names) Outbound.Alike (World.build names r)
      (World.build names q) := by
    intro w v hwv
    refine ⟨?_, hwv⟩
    rw [World.build, World.build, hwv.session]
    exact Session.outbound_alike (f.alike_session w.session) names hr
  refine .bind hbuild fun o p _ => ?_
  refine .bind (.change fun w v hwv => ?_) fun _ _ _ => ?_
  · rw [hr.method, hr.path]
    exact hwv.report _
  refine .bind (await_couples hr o p) fun d d' hd => ?_
  subst hd
  exact accept_couples hr d

/-- Everything that a client is made of keeps one world the other in disguise. -/
theorem couples (f : Disguise) (names : HeaderNames) : World.Couples names (f.Veils names) where
  dispatch := dispatch_couples
  report e _ _ hwv := hwv.report e
  cancelled := Veils.cancelled
  session {w v} hwv := by
    rw [hwv.session]
    exact f.alike_session _
  askCredentials := by
    intro w v hwv
    have hask : (World.askCredentials v).1 = (World.askCredentials w).1 := by
      rw [World.askCredentials, World.askCredentials, hwv.provider]
      rfl
    refine ⟨(Agree.of_eq hask).mono fun cr cr' h => by rw [h], hwv.session, ?_, hwv.replies, ?_, ?_⟩
    · simp only [World.askCredentials, hwv.provider, Provider.ask, Disguise.provider]
    · simp only [World.askCredentials, hwv.provider, hwv.cancelled, Provider.ask, Disguise.provider]
    · rw [World.events_askCredentials, World.events_askCredentials, hwv.events]
  persist {w v} hwv := by
    rw [hwv.session]
    exact hwv.save _
  clear {w v} hwv := by
    refine ⟨?_, hwv.provider, hwv.replies, hwv.cancelled, hwv.events⟩
    simp only [hwv.session, f.clearTokens_session]
  erase {w v} hwv := by
    have hsave := hwv.save ""
    rwa [f.text_empty] at hsave

/-! ## Scripts in disguise -/

/-- An operation of a script, and the one that stands in its place in disguise: the same one, but a change
of the session is one of the disguised session, and the reply that a confirmation refers to may be in
disguise. -/
inductive Operates (f : Disguise) (names : HeaderNames) : Operation → Operation → Prop
  /-- The same operation. -/
  | same {op : Operation} (h : ∀ change, op ≠ .update change) : Operates f names op op
  /-- A change of the session. -/
  | update {change change' : Session → Session}
      (h : ∀ s, change' (f.session s) = f.session (change s)) :
      Operates f names (.update change) (.update change')
  /-- A confirmation that refers to an earlier reply. -/
  | confirm (previous : Response) (code : String) (r : Request) :
      Operates f names (.confirm previous code r) (.confirm (f.response names previous) code r)

theorem Operates.coupled {op op' : Operation} (h : f.Operates names op op') :
    op.Coupled .values (f.Veils names) op' := by
  cases h with
  | update h =>
    refine .update fun w v hwv => ⟨?_, hwv.provider, hwv.replies, hwv.cancelled, hwv.events⟩
    simp only [hwv.session, h]
  | confirm previous code r => exact .confirm (f.alike_response names previous) code (.refl r)
  | same h =>
    cases op with
    | update change => exact absurd rfl (h change)
    | send r => exact .send (.refl r)
    | call d r => exact .call d (.refl r)
    | exchange d method path payload => exact .exchange d method path payload
    | dispatch r => exact .dispatch (.refl r)
    | login cr => exact .login rfl
    | logout => exact .logout
    | prepare => exact .prepare
    | updateCsrfToken => exact .updateCsrfToken
    | requestRefreshToken => exact .requestRefreshToken
    | updateTokens => exact .updateTokens
    | confirm previous code r => exact .confirm (Response.Alike.refl previous) code (.refl r)

end Disguise

namespace Client

/-- A client is set up in disguise as it is without: it reports the same, and works on the disguised world. -/
theorem connect_disguised (f : Disguise) (settings : Settings) (provider : Provider)
    (replies : List Reply) :
    connect settings (f.provider provider) (replies.map (f.reply settings.headers)) =
      (connect settings provider replies).map fun x => (x.1, f.world settings.headers x.2) := by
  rw [connect, connect]
  cases settings.normalizedUrl with
  | error e => rfl
  | ok baseUrl =>
    have hsession : firstSession baseUrl settings.userAgent (f.provider provider) =
        f.session (firstSession baseUrl settings.userAgent provider) := by
      simp only [firstSession, Disguise.session, f.refreshToken_provider, f.getD_map_text,
        Session.new, f.text_empty]
    have hresumed := (f.alike_session (firstSession baseUrl settings.userAgent provider)).hasRefresh
    simp only [hsession, hresumed, Except.map]
    rfl

/-- Token values are never told. For any settings of a client that proves passwords in the default way, and
any script of operations, replies and provider answers, the script in disguise sets the client up with the
same report or the same error, and from every world each of its operations reports the same events, tells
the same outcome and fails with the same error, if it does. -/
theorem accounts_disguised (f : Disguise) (settings : Settings)
    {turns turns' : List (Bool × Operation)}
    (ht : List.Forall₂ (fun t u => u.1 = t.1 ∧ f.Operates settings.headers t.2 u.2) turns turns') :
    (∀ provider replies,
      connect settings (f.provider provider) (replies.map (f.reply settings.headers)) =
        (connect settings provider replies).map fun x => (x.1, f.world settings.headers x.2)) ∧
    ∀ w, (ofSettings settings).accounts turns' (f.world settings.headers w) =
      (ofSettings settings).accounts turns w := by
  have hproof : (ofSettings settings).proof = passwordProof := rfl
  refine ⟨connect_disguised f settings, fun w => ?_⟩
  refine accounts_couples (f.couples settings.headers)
    (fun password salt => hproof ▸ writable_passwordProof password salt)
    (fun b w v hwv => ⟨hwv.session, hwv.provider, hwv.replies, rfl, hwv.events⟩)
    (fun w v hwv => hwv.events) (ht.imp fun t u h => ⟨h.1, h.2.coupled⟩) (f.veils_world _ w)

end Client

/-- Reversing every token is a disguise. -/
def Disguise.reversal : Disguise where
  map t := ⟨String.ofList t.1.toList.reverse, fun ch hch => by
    rw [String.toList_ofList, List.mem_reverse] at hch
    exact t.2 ch hch⟩
  injective s t h := by
    have htext := congrArg Subtype.val h
    simp only [String.ofList_inj, List.reverse_inj, String.toList_inj] at htext
    exact Subtype.ext htext
  length_eq t := by
    rw [← String.length_toList, String.toList_ofList, List.length_reverse, String.length_toList]

namespace Client

/-- A world in which the server gives new tokens, then finds the access token expired and exchanges it. -/
def renewing : World :=
  let granting (name : String) (token : String) : Reply :=
    ⟨.ok ⟨200, [(⟨name⟩, Utf8.encode token)], []⟩, .never⟩
  ⟨⟨"https://a", none, "", "r1", ""⟩, .inMemory none (some "r1"),
    [granting "x-csrf" "ab", granting "x-auth-access-token" "cd",
      ⟨.ok ⟨401, [], Utf8.encode "\x7b\"code\":\"token_expired\",\"message\":\"\"\x7d"⟩, .never⟩,
      granting "x-auth-refresh-token" "r2", ⟨.ok ⟨200, [], []⟩, .never⟩], false, []⟩

/-- Probing, exchanging the refresh token, and sending a request that recovers give the same accounts when
every token is read backwards, though the sessions come to hold other tokens. -/
theorem accounts_disguised_reversal :
    (ofSettings (.new "https://a")).accounts [(false, .updateTokens), (false, .send (.new .get "/"))]
        (Disguise.reversal.world .standard renewing) =
      (ofSettings (.new "https://a")).accounts [(false, .updateTokens), (false, .send (.new .get "/"))]
        renewing ∧
    ((ofSettings (.new "https://a")).perform
        [(false, .updateTokens), (false, .send (.new .get "/"))] renewing).session =
      ⟨"https://a", none, "cd", "r2", "ab"⟩ ∧
    ((ofSettings (.new "https://a")).perform [(false, .updateTokens), (false, .send (.new .get "/"))]
        (Disguise.reversal.world .standard renewing)).session = ⟨"https://a", none, "dc", "2r", "ba"⟩ := by
  refine ⟨(accounts_disguised Disguise.reversal (.new "https://a") ?_).2 renewing, by decide +kernel,
    by decide +kernel⟩
  exact .cons ⟨rfl, .same fun _ h => nomatch h⟩ (.cons ⟨rfl, .same fun _ h => nomatch h⟩ .nil)

end Client

end SessionRecovery
