import Mathlib.Control.Monad.Basic
import SessionRecovery.Proofs.Client.Dispatch
import SessionRecovery.Proofs.Client.Motion

/-!
# What is to come

The replies, the provider's answers and whether the caller has given up are fixed by what a client began
with and by what has happened since. So the moment at which the caller gives up can be read off the history,
and from there on a client hands nothing to the network and asks nobody for credentials.
-/

namespace SessionRecovery

/-- What is to come: everything outside a client that decides how it goes on. -/
structure Outlook where
  /-- The replies that are still to come. -/
  replies : List Reply
  /-- The provider of credentials. -/
  provider : Provider
  /-- The caller gave up. -/
  cancelled : Bool

namespace Outlook

/-- What is to come after something happened. A reply is used up by its request, and whoever gives up while the
reply is under way has given up from the request on. -/
def after (l : Outlook) : Occurrence → Outlook
  | .sent _ =>
    match l.replies with
    | [] => l
    | reply :: rest =>
      ⟨rest, l.provider, l.cancelled || decide (reply.interruption ≠ .never)⟩
  | .asked => ⟨l.replies, l.provider.ask.2, l.cancelled || l.provider.ask.1.interrupts⟩
  | .saved token =>
    ⟨l.replies, (l.provider.save token).2, l.cancelled || (l.provider.save token).1⟩
  | .received _ => l
  | .reported _ => l

/-- What is to come after some things happened, one after another. -/
def follow (l : Outlook) (os : List Occurrence) : Outlook := os.foldl after l

end Outlook

/-- The client goes out: it sends a request or asks for credentials. -/
inductive Occurrence.GoesOut : Occurrence → Prop
  /-- A request was handed to the network. -/
  | sent (request : Outbound) : GoesOut (.sent request)
  /-- The provider was asked for credentials. -/
  | asked : GoesOut .asked

/-- While some things happened, the client did not go out any more once the caller gave up. -/
def Outlook.Heeds (l : Outlook) : List Occurrence → Prop
  | [] => True
  | x :: xs => (l.cancelled = true → ¬ x.GoesOut) ∧ (l.after x).Heeds xs

namespace Outlook

variable {l : Outlook} {x : Occurrence} {os ps : List Occurrence}

/-- What is to come after joined occurrences. -/
theorem follow_append (l : Outlook) (os ps : List Occurrence) :
    l.follow (os ++ ps) = (l.follow os).follow ps := List.foldl_append

/-- Whoever gave up does not come back. -/
theorem cancelled_after (h : l.cancelled = true) (x : Occurrence) : (l.after x).cancelled = true := by
  cases x with
  | sent request =>
    rw [after]
    cases l.replies with
    | nil => exact h
    | cons reply rest => exact (congrArg (· || _) h).trans (Bool.true_or _)
  | asked => exact (congrArg (· || _) h).trans (Bool.true_or _)
  | saved token => exact (congrArg (· || _) h).trans (Bool.true_or _)
  | received d => exact h
  | reported e => exact h

/-- Joined occurrences are heeded when each part is. -/
theorem heeds_append : l.Heeds (os ++ ps) ↔ l.Heeds os ∧ (l.follow os).Heeds ps := by
  induction os generalizing l with
  | nil => exact ⟨fun h => ⟨trivial, h⟩, fun h => h.2⟩
  | cons x os ih =>
    rw [List.cons_append, Heeds, Heeds, ih, and_assoc]
    rfl

/-- What stays inside is heeded. -/
theorem heeds_singleton (h : ¬ x.GoesOut) : l.Heeds [x] := ⟨fun _ => h, trivial⟩

/-- At every place the client goes out only if the caller has not given up. -/
theorem Heeds.not_goesOut (h : l.Heeds (os ++ x :: ps)) (hc : (l.follow os).cancelled = true) :
    ¬ x.GoesOut := (heeds_append.mp h).2.1 hc

end Outlook

namespace World

/-- What is to come in a world. -/
def outlook (w : World) : Outlook := ⟨w.replies, w.provider, w.cancelled⟩

/-- From one world to another just some things happened, which led from the one outlook to the other. -/
structure Reaches (w : World) (os : List Occurrence) (w' : World) : Prop where
  /-- The history grew by these things. -/
  history : w'.history = w.history ++ os
  /-- They led to the other outlook. -/
  outlook : w'.outlook = w.outlook.follow os

/-- From one world to another only things of some kind happened, and the client did not go out any more once
the caller gave up. -/
def Proceeds (Q : Occurrence → Prop) (w w' : World) : Prop :=
  ∃ os, w.Reaches os w' ∧ w.outlook.Heeds os ∧ ∀ x ∈ os, Q x

variable {names : HeaderNames} {r : Request} {o : Outbound} {w w' w'' : World} {arrival : Arrival}
  {os ps : List Occurrence} {Q : Occurrence → Prop}

/-- Nothing happened. -/
theorem Reaches.refl (w : World) : w.Reaches [] w := ⟨(List.append_nil _).symm, rfl⟩

/-- Some things happened and then others. -/
theorem Reaches.trans (h : w.Reaches os w') (h' : w'.Reaches ps w'') :
    w.Reaches (os ++ ps) w'' := by
  constructor
  · rw [h'.history, h.history, List.append_assoc]
  · rw [h'.outlook, h.outlook, Outlook.follow_append]

/-- A report leaves what is to come. -/
theorem reaches_report (e : Event) (w : World) : w.Reaches [.reported e] (w.report e) := ⟨rfl, rfl⟩

/-- Keeping a refresh token uses up what the provider does. -/
theorem reaches_save (token : String) (w : World) : w.Reaches [.saved token] (w.save token) :=
  ⟨rfl, rfl⟩

/-- Asking for credentials uses up what the provider answers. -/
theorem reaches_askCredentials (w : World) : w.Reaches [.asked] (askCredentials w).2 := ⟨rfl, rfl⟩

/-- A change of the session is no occurrence. -/
theorem reaches_session (s : Session) (w : World) : w.Reaches [] { w with session := s } :=
  ⟨(List.append_nil _).symm, rfl⟩

/-- Handing a request to the network uses up a reply. -/
theorem reaches_of_transmit (h : w.transmit o = (arrival, w')) :
    w.Reaches (.sent o :: (arrival.delivery?.map .received).toList) w' := by
  refine ⟨history_of_transmit h, ?_⟩
  have hafter : w'.outlook = w.outlook.after (.sent o) := by
    rw [transmit] at h
    cases hr : w.replies with
    | nil =>
      simp only [note, hr] at h
      obtain ⟨rfl, rfl⟩ := Prod.mk.inj h
      simp [outlook, Outlook.after, hr]
    | cons reply rest =>
      obtain ⟨answer, interruption⟩ := reply
      cases interruption <;> cases answer <;> simp only [note, hr] at h <;>
        obtain ⟨rfl, rfl⟩ := Prod.mk.inj h <;> simp [outlook, Outlook.after, hr]
  rw [hafter]
  cases arrival <;> rfl

instance (Q : Occurrence → Prop) : IsPreorder World (Proceeds Q) where
  refl w := ⟨[], .refl w, trivial, fun _ h => absurd h List.not_mem_nil⟩
  trans := by
    rintro a b c ⟨os, hos, ho, hq⟩ ⟨ps, hps, hp, hq'⟩
    rw [hos.outlook] at hp
    refine ⟨os ++ ps, hos.trans hps, Outlook.heeds_append.mpr ⟨ho, hp⟩, fun x hx => ?_⟩
    exact (List.mem_append.mp hx).elim (hq x) (hq' x)

/-- One thing that stays inside. -/
theorem Reaches.proceeds {x : Occurrence} (h : w.Reaches [x] w') (hx : ¬ x.GoesOut) (hq : Q x) :
    Proceeds Q w w' :=
  ⟨[x], h, Outlook.heeds_singleton hx, fun _ hy => List.mem_singleton.mp hy ▸ hq⟩

/-- Nothing that is noted. -/
theorem Reaches.proceeds_of_nil (h : w.Reaches [] w') : Proceeds Q w w' :=
  ⟨[], h, trivial, fun _ hy => absurd hy List.not_mem_nil⟩

/-- What speaking with the server is made of. -/
structure Allows (Q : Occurrence → Prop) : Prop where
  /-- Requests are sent. -/
  sent : ∀ o, Q (.sent o)
  /-- Replies are received. -/
  received : ∀ d, Q (.received d)
  /-- Events are reported. -/
  reported : ∀ e, Q (.reported e)

/-- A request is handed to the network by whoever has not given up. -/
theorem proceeds_of_transmit (hq : Allows Q) (hc : w.cancelled = false)
    (h : w.transmit o = (arrival, w')) : Proceeds Q w w' := by
  have hl : w.outlook.cancelled = false := hc
  refine ⟨_, reaches_of_transmit h, ⟨fun hc' => ?_, ?_⟩, fun x hx => ?_⟩
  · rw [hl] at hc'
    cases hc'
  · cases arrival with
    | delivered d => exact Outlook.heeds_singleton fun h => nomatch h
    | _ => trivial
  · rcases List.mem_cons.mp hx with rfl | hx
    · exact hq.sent o
    · cases arrival with
      | delivered d => exact List.mem_singleton.mp hx ▸ hq.received d
      | _ => exact absurd hx List.not_mem_nil

/-- A report stays inside. -/
theorem proceeds_report (hq : Allows Q) (e : Event) (w : World) : Proceeds Q w (w.report e) :=
  (reaches_report e w).proceeds (fun h => nomatch h) (hq.reported e)

/-- A dispatch sends its request only if the caller has not given up. -/
theorem Dispatched.proceeds (hq : Allows Q) {x : Except Error Response}
    (hd : Dispatched names r w x w') : Proceeds Q w w' := by
  have hsent {o : Outbound} {arrival : Arrival} {w' : World} (hc : w.cancelled = false)
      (ht : (w.announced r).transmit o = (arrival, w')) : Proceeds Q w w' :=
    IsTrans.trans _ _ _ (proceeds_report hq _ w) (proceeds_of_transmit (w := w.announced r) hq hc ht)
  have htaken (d : Delivery) (w' : World) : Proceeds Q w' (w'.takeTokens names d) :=
    (reaches_session _ w').proceeds_of_nil
  cases hd with
  | cancelled hc => exact Std.Refl.refl w
  | unbuildable hc hb => exact Std.Refl.refl w
  | interrupted hc hb ht => exact hsent hc ht
  | failed hc hb ht => exact IsTrans.trans _ _ _ (hsent hc ht) (proceeds_report hq _ _)
  | unreadable hc hb ht hd =>
    exact IsTrans.trans _ _ _ (IsTrans.trans _ _ _ (hsent hc ht) (htaken _ _))
      (proceeds_report hq _ _)
  | answered hc hb ht hd =>
    exact IsTrans.trans _ _ _ (IsTrans.trans _ _ _ (hsent hc ht) (htaken _ _))
      (proceeds_report hq _ _)

/-- Everything that a handshake is made of proceeds. -/
theorem proceeds_speaks (names : HeaderNames) (hq : Allows Q) : Speaks names (Proceeds Q) where
  dispatch r w := (dispatched_dispatch names r w).proceeds hq
  report e w := proceeds_report hq e w

/-- The provider is asked for credentials only while the caller has not given up. -/
theorem proceeds_consults (names : HeaderNames) (hq : Allows Q) (hasked : Q .asked) :
    Consults names (Proceeds Q) where
  toSpeaks := proceeds_speaks names hq
  askCredentials w hc := by
    have hl : w.outlook.cancelled = false := hc
    refine ⟨[.asked], reaches_askCredentials w, ⟨fun hc' => ?_, trivial⟩, fun x hx => ?_⟩
    · rw [hl] at hc'
      cases hc'
    · exact List.mem_singleton.mp hx ▸ hasked

/-- Everything that a client is made of proceeds. -/
theorem proceeds_moves (names : HeaderNames) : World.Moves names (Proceeds fun _ => True) where
  toConsults := proceeds_consults names ⟨fun _ => trivial, fun _ => trivial, fun _ => trivial⟩ trivial
  save token w := (reaches_save token w).proceeds (fun h => nomatch h) trivial

end World

end SessionRecovery
