import SessionRecovery.Proofs.Client.Conversation
import SessionRecovery.Proofs.Client.Outlook
import SessionRecovery.Proofs.Client.Replay
import SessionRecovery.Proofs.Recovery.Cost

/-!
# What a call costs

The limits of recovery bound how many requests one call hands to the network, how often it asks the provider
for credentials and how often it gives the provider something to keep. For a handshake never starts a recovery
of its own: whatever is sent besides the caller's request is a step of the one handshake that the last answer
to this request asked for.
-/

namespace SessionRecovery

/-! ## The provider -/

/-- The provider was not called. -/
def Occurrence.SparesProvider (x : Occurrence) : Prop := x ≠ .asked ∧ x.saved? = none

/-- Speaking with the server spares the provider. -/
theorem World.allows_sparesProvider : Allows Occurrence.SparesProvider where
  sent _ := ⟨fun h => (nomatch h), rfl⟩
  received _ := ⟨fun h => (nomatch h), rfl⟩
  reported _ := ⟨fun h => (nomatch h), rfl⟩

namespace World

variable {w w' : World}

/-- What proceeds and spares the provider asks it for nothing and gives it nothing. -/
theorem Proceeds.provider_spared (h : Proceeds Occurrence.SparesProvider w w') :
    w'.asked = w.asked ∧ w'.saved = w.saved := by
  obtain ⟨os, hos, -, hall⟩ := h
  have hasked : os.count .asked = 0 :=
    List.count_eq_zero.mpr fun hm => (hall _ hm).1 rfl
  have hsaved : os.filterMap (·.saved?) = [] :=
    List.filterMap_eq_nil_iff.mpr fun x hx => (hall x hx).2
  constructor
  · rw [asked, asked, hos.history, List.count_append, hasked, Nat.add_zero]
  · rw [saved, saved, hos.history, List.filterMap_append, hsaved, List.append_nil]

/-- Giving the provider something to keep does not ask for anything. -/
@[simp] theorem asked_save (w : World) (token : String) : (w.save token).asked = w.asked := by
  simp [asked, save]

/-- What the provider is given is the last thing that it was given. -/
@[simp] theorem saved_save (w : World) (token : String) :
    (w.save token).saved = w.saved ++ [token] := by
  simp [saved, save, Occurrence.saved?]

/-- Asking for credentials is one question. -/
@[simp] theorem asked_askCredentials (w : World) : (askCredentials w).2.asked = w.asked + 1 := by
  simp [asked, askCredentials]

/-- Asking for credentials gives the provider nothing. -/
@[simp] theorem saved_askCredentials (w : World) : (askCredentials w).2.saved = w.saved := by
  simp [saved, askCredentials, Occurrence.saved?]

/-- A report asks for nothing. -/
@[simp] theorem asked_report (w : World) (e : Event) : (w.report e).asked = w.asked := by
  simp [asked, report, note]

/-- A report gives the provider nothing. -/
@[simp] theorem saved_report (w : World) (e : Event) : (w.report e).saved = w.saved := by
  simp [saved, report, note, Occurrence.saved?]

/-- Forgetting the tokens leaves what happened before. -/
theorem history_forgotten (w : World) : w.history <+: w.forgotten.history := by
  rw [forgotten, report, note]
  exact (List.prefix_append _ _).trans (List.prefix_append _ _)

/-- Forgetting the tokens sends nothing. -/
@[simp] theorem sent_forgotten (w : World) : w.forgotten.sent = w.sent := by
  rw [forgotten, sent_report, sent_save]
  rfl

/-- Forgetting the tokens asks for nothing. -/
@[simp] theorem asked_forgotten (w : World) : w.forgotten.asked = w.asked := by
  rw [forgotten, asked_report, asked_save]
  rfl

/-- Forgetting the tokens gives the provider the empty one. -/
@[simp] theorem saved_forgotten (w : World) : w.forgotten.saved = w.saved ++ [""] := by
  rw [forgotten, saved_report, saved_save]
  rfl

end World

/-! ## The network -/

/-- On a path no more is sent than there are exchanges. -/
theorem Path.length_sent_le {c : Client} {r : Request} {w w' : World} {xs : List Exchange}
    (hp : Path c r w xs w') : w'.sent.length ≤ w.sent.length + xs.length := by
  rw [hp.sent_eq, List.length_append]
  exact Nat.add_le_add_left (List.length_filterMap_le _ _) _

/-- A handshake has no more exchanges than steps. -/
theorem Steps.length_le {c : Client} {ps : List Purpose} {xs : List Exchange}
    (hs : Steps c ps xs) : xs.length ≤ ps.length := by
  have hle := hs.order.length_le
  rwa [List.length_map] at hle

namespace Client

/-- What a primitive of a client sends at most. -/
def requests : Primitive → Nat
  | .send => 1
  | .csrf => 1
  | .credentials => 0
  | .login => 2
  | .refresh => 1
  | .persist => 0

/-- What a primitive of a client asks the provider. -/
def questions : Primitive → Nat
  | .credentials => 1
  | _ => 0

/-- What a primitive of a client gives the provider to keep. -/
def deposits : Primitive → Nat
  | .persist => 1
  | _ => 0

variable (c : Client)

/-- Handshakes send no more requests than they have steps. -/
theorem charges_requests : c.handler.Charges (·.sent.length) requests where
  resend r w := by
    have hreal : (Exchange.mk .caller w (c.dispatch r w).1 (c.dispatch r w).2).Real c r := rfl
    exact (Path.single hreal).length_sent_le
  refreshCsrf w := by
    obtain ⟨z, -, -, hpath, -⟩ := updateCsrfToken_path (c := c) (r := .new .get "") (w := w) rfl
      (p := .probe) rfl
    exact hpath.length_sent_le
  credentials w := Nat.le_of_eq (congrArg List.length (World.sent_askCredentials w))
  login cr w := by
    have hrun : c.login cr w = ((c.login cr w).1, (c.login cr w).2) := rfl
    obtain ⟨salt, zs, hpath, hsteps, -⟩ := login_path (r := .new .get "") hrun
    exact Nat.le_trans hpath.length_sent_le (Nat.add_le_add_left hsteps.length_le _)
  refreshToken w := by
    obtain ⟨z, -, -, hpath, -⟩ := requestRefreshToken_path (c := c) (r := .new .get "") (w := w) rfl
    exact hpath.length_sent_le
  persist w := Nat.le_of_eq (congrArg List.length (World.sent_save w _))
  report e w := Nat.le_of_eq (congrArg List.length (World.sent_report w e))

/-- Everything that a handshake is made of spares the provider. -/
theorem speaks_sparingly : World.Speaks c.names (World.Proceeds Occurrence.SparesProvider) :=
  World.proceeds_speaks c.names World.allows_sparesProvider

/-- Only asking for credentials asks the provider for something. -/
theorem charges_questions : c.handler.Charges World.asked questions where
  resend r w := Nat.le_of_eq (c.speaks_sparingly.dispatch r w).provider_spared.1
  refreshCsrf w := Nat.le_of_eq (updateCsrfToken_moves c.speaks_sparingly w).provider_spared.1
  credentials w := Nat.le_of_eq (World.asked_askCredentials w)
  login cr w := Nat.le_of_eq (login_moves c.speaks_sparingly cr w).provider_spared.1
  refreshToken w :=
    Nat.le_of_eq (requestRefreshToken_moves c.speaks_sparingly w).provider_spared.1
  persist w := Nat.le_of_eq (World.asked_save w _)
  report e w := Nat.le_of_eq (World.asked_report w e)

/-- Only handing the refresh token over gives the provider something to keep. -/
theorem charges_deposits : c.handler.Charges (·.saved.length) deposits := by
  have spared {w w' : World} (h : w.Proceeds Occurrence.SparesProvider w') :
      w'.saved.length ≤ w.saved.length :=
    Nat.le_of_eq (congrArg List.length h.provider_spared.2)
  exact {
    resend := fun r w => spared (c.speaks_sparingly.dispatch r w)
    refreshCsrf := fun w => spared (updateCsrfToken_moves c.speaks_sparingly w)
    credentials := fun w => Nat.le_of_eq (congrArg List.length (World.saved_askCredentials w))
    login := fun cr w => spared (login_moves c.speaks_sparingly cr w)
    refreshToken := fun w => spared (requestRefreshToken_moves c.speaks_sparingly w)
    persist := fun w => by
      have hsaved : (c.handler.persist w).saved = w.saved ++ [w.session.refresh] :=
        World.saved_save w _
      rw [hsaved, List.length_append]
      exact Nat.le_refl _
    report := fun e w => Nat.le_of_eq (congrArg List.length (World.saved_report w e)) }

end Client

/-! ## Calls -/

/-- What happened from one world to another costs no more than the limits allow for one call, where something
more may have been given to the provider to keep. -/
structure RecoveryLimits.Affords (l : RecoveryLimits) (extra : Nat) (w w' : World) : Prop where
  /-- What happened before stays. -/
  history : w.history <+: w'.history
  /-- The requests that were handed to the network. -/
  sent : w'.sent.length ≤ w.sent.length +
    (1 + 2 * l.csrfRefreshes.toNat + 4 * l.logins.toNat + 2 * l.tokenRefreshes.toNat)
  /-- The questions for credentials. -/
  asked : w'.asked ≤ w.asked + l.logins.toNat
  /-- The refresh tokens that the provider was given to keep. -/
  saved : w'.saved.length ≤ w.saved.length + (l.logins.toNat + l.tokenRefreshes.toNat + extra)

/-- All that was sent from one world to another is a caller's request and the handshakes that the answers to
this request asked for: it was sent first, and then only after such a handshake came to its end; anything else
is a step of such a handshake, and nothing was sent after a step that did not let its handshake go on. -/
def Client.Unnested (c : Client) (r : Request) (w w' : World) : Prop :=
  ∃ xs v, Path c r w xs v ∧ w'.sent = w.sent ++ xs.filterMap (·.handed? c r) ∧
    ∀ before y after, xs = before ++ y :: after →
      (y.purpose = .caller → before = [] ∨ Recovered c before) ∧
      (y.purpose ≠ .caller → Underway c before y ∧ (¬ y.Passes c → after = []))

namespace Client

variable (c : Client) (r : Request) (w : World)

/-- A call with recovery costs no more than its limits allow. -/
theorem affords_send : c.controller.limits.Affords 0 w (c.send r w).2 := by
  obtain ⟨os, hos, -⟩ := send_moves (World.proceeds_moves c.names) r w
  have hend : (c.controller.execute c.handler r w).2.2 = (c.send r w).2 := rfl
  have hsent := c.charges_requests.execute_le c.controller r w
  have hasked := c.charges_questions.execute_le c.controller r w
  have hsaved := c.charges_deposits.execute_le c.controller r w
  simp only [hend, RecoveryLimits.cost, Action.price, Action.block, requests, questions, deposits,
    List.cons_append, List.nil_append, total] at hsent hasked hsaved
  exact ⟨⟨os, hos.history.symm⟩, by omega, by omega, by omega⟩

/-- In a call with recovery no handshake starts a recovery. -/
theorem unnested_send : c.Unnested r w (c.send r w).2 := by
  obtain ⟨x, xs, -, hpath, -, hthrough⟩ := c.send_path r w
  refine ⟨x :: xs, _, hpath, hpath.sent_eq, fun before y after hsplit => ?_⟩
  obtain ⟨hresent, hunderway, hpassed⟩ := hthrough before y after hsplit
  rw [List.append_nil] at hpassed
  refine ⟨hresent, fun hp => ⟨hunderway hp, fun hstuck => ?_⟩⟩
  by_contra hne
  rcases hpassed hne with hpass | ⟨a, hasks, -⟩
  · exact hstuck hpass
  · exact hp hasks.1

/-- A logout costs no more than its call, and gives the provider at most one thing more to keep. -/
theorem affords_logout : c.controller.limits.Affords 1 w (c.logout w).2 := by
  have hsend := c.affords_send (.new .post c.endpoints.logout) w
  obtain ⟨x, w', hx, ⟨e, -, hrun⟩ | ⟨response, response', -, hrun⟩⟩ := c.logout_cases w
  · rw [hx] at hsend
    rw [hrun]
    exact ⟨hsend.history, hsend.sent, hsend.asked, Nat.le_trans hsend.saved (Nat.le_succ _)⟩
  · rw [hx] at hsend
    rw [hrun]
    refine ⟨hsend.history.trans w'.history_forgotten, ?_, ?_, ?_⟩
    · rw [World.sent_forgotten]
      exact hsend.sent
    · rw [World.asked_forgotten]
      exact hsend.asked
    · rw [World.saved_forgotten, List.length_append, List.length_singleton]
      exact Nat.add_le_add_right hsend.saved 1

/-- In a logout no handshake starts a recovery. -/
theorem unnested_logout : c.Unnested (.new .post c.endpoints.logout) w (c.logout w).2 := by
  obtain ⟨xs, v, hpath, hsent, hplaces⟩ := c.unnested_send (.new .post c.endpoints.logout) w
  refine ⟨xs, v, hpath, ?_, hplaces⟩
  obtain ⟨x, w', hx, ⟨e, -, hrun⟩ | ⟨response, response', -, hrun⟩⟩ := c.logout_cases w
  · rw [hrun, ← hsent, hx]
  · rw [hrun, ← hsent, hx, World.sent_forgotten]

/-- The cost of a call is bounded by the limits. Whatever the network and the provider do, one call hands at
most one request to the network, two more for each fresh anti-forgery token, four for each login and two for
each exchange of the refresh token that it may try; it asks for credentials once for each login, and saves a
refresh token once for each login and each exchange. No handshake starts a recovery of its own. The same holds
of a confirmation and of a logout, which may save once more. -/
theorem calls_afforded (c : Client) (w : World) :
    (∀ r, c.controller.limits.Affords 0 w (c.send r w).2 ∧ c.Unnested r w (c.send r w).2) ∧
    (c.controller.limits.Affords 1 w (c.logout w).2 ∧
      c.Unnested (.new .post c.endpoints.logout) w (c.logout w).2) ∧
    ∀ previous code r,
      c.controller.limits.Affords 0 w (c.sendConfirmation previous code r w).2 ∧
      c.Unnested (c.confirmed previous code r) w (c.sendConfirmation previous code r w).2 :=
  ⟨fun r => ⟨c.affords_send r w, c.unnested_send r w⟩, ⟨c.affords_logout w, c.unnested_logout w⟩,
    fun _ _ _ => ⟨c.affords_send _ w, c.unnested_send _ w⟩⟩

-- a server that refuses a call for each reason in turn has it reach all three bounds
example :
    let refusing (code : String) (headers : Header.Fields) : Reply :=
      ⟨.ok ⟨401, headers, Utf8.encode ("\x7b\"code\":\"" ++ code ++ "\",\"message\":\"\"\x7d")⟩, .never⟩
    let granting : Reply := ⟨.ok ⟨200, [], []⟩, .never⟩
    let settings : Settings := { Settings.new "https://a" with recovery := ⟨1, 1, 1⟩ }
    let c : Client := { ofSettings settings with proof := fun _ salt => salt }
    let w : World := ⟨⟨"https://a", none, "a", "r", ""⟩, .inMemory (some ⟨"u", "p"⟩) (some "r"),
      [refusing "csrf_token_invalid" [], granting,
        refusing "session_expired" [], granting,
        refusing "credentials_required" [(⟨"x-auth-login-salt"⟩, [0x73])], granting,
        refusing "token_expired" [], granting, granting], false, []⟩
    let v := (c.send (.new .get "/") w).2
    v.sent.length = 1 + 2 + 4 + 2 ∧ v.asked = 1 ∧ v.saved.length = 1 + 1 := by
  decide +kernel

end Client

end SessionRecovery
