import Mathlib.Order.Defs.Unbundled
import SessionRecovery.Proofs.Recovery.Course

/-!
# Motion along a relation

A computation moves along a relation when it leads from every state to a related one. Motion along a
preorder is kept by everything that computations are made of, and by recovery as soon as every primitive
of its handler has it, so a fact about one primitive after another becomes a fact about a whole call.
-/

namespace SessionRecovery

variable {σ α β : Type} {R : σ → σ → Prop}

namespace Run

/-- A computation leads from every state to a related one, whether it fails or not. -/
def Moves (R : σ → σ → Prop) (r : Run σ α) : Prop := ∀ s, R s (r s).2

namespace Moves

/-- The end of a computation that moves. -/
theorem of_eq {r : Run σ α} (hr : Moves R r) {s s' : σ} {x : Except Error α}
    (hx : r s = (x, s')) : R s s' := by
  have hs := hr s
  rwa [hx] at hs

/-- A change of related states. -/
theorem change {f : σ → σ} (h : ∀ s, R s (f s)) : Moves R (Run.change f) := h

/-- Two computations in a row. -/
theorem bind [IsTrans σ R] {r : Run σ α} {f : α → Run σ β} (hr : Moves R r)
    (hf : ∀ x, Moves R (f x)) : Moves R (r >>= f) := by
  intro s
  have hs := hr s
  rw [Run.bind_apply]
  split
  · next x s' hx =>
    rw [hx] at hs
    exact IsTrans.trans _ _ _ hs (hf x s')
  · next e s' hx =>
    rw [hx] at hs
    exact hs

variable [Std.Refl R]

/-- A given value. -/
theorem pure (x : α) : Moves R (Pure.pure x : Run σ α) := fun s => Std.Refl.refl s

/-- A failure. -/
theorem fail (e : Error) : Moves R (Run.fail e : Run σ α) := fun s => Std.Refl.refl s

/-- A look at the state. -/
theorem look (f : σ → α) : Moves R (Run.look f) := fun s => Std.Refl.refl s

/-- A known result. -/
theorem ofResult (x : Except Error α) : Moves R (Run.ofResult x : Run σ α) :=
  fun s => Std.Refl.refl s

end Moves

end Run

/-- Every primitive of a handler but handing the refresh token over moves along a relation, in the states in
which recovery calls it: nobody is asked for credentials once the caller gave up. -/
structure Handler.Consults (R : σ → σ → Prop) (h : Handler σ) : Prop where
  /-- Sending. -/
  resend : ∀ request, Run.Moves R (h.resend request)
  /-- Getting an anti-forgery token. -/
  refreshCsrf : Run.Moves R h.refreshCsrf
  /-- Asking for credentials. -/
  credentials : ∀ s, h.cancelled s = false → R s (h.credentials s).2
  /-- Logging in. -/
  login : ∀ cr, Run.Moves R (h.login cr)
  /-- Exchanging the refresh token. -/
  refreshToken : Run.Moves R h.refreshToken
  /-- Reporting. -/
  report : ∀ e s, R s (h.report e s)

/-- Every primitive of a handler moves along a relation. -/
structure Handler.Moves (R : σ → σ → Prop) (h : Handler σ) : Prop extends Handler.Consults R h where
  /-- Handing the refresh token over. -/
  persist : ∀ s, R s (h.persist s)

/-- Every primitive of a handler but handing the refresh token over moves along a relation, and so does handing
it over where recovery does: right after a login or an exchange that went well. -/
structure Handler.HandsOver (R : σ → σ → Prop) (h : Handler σ) : Prop extends
    Handler.Consults R h where
  /-- Logging in and handing the refresh token over. -/
  afterLogin : ∀ {cr s r t}, h.login cr s = (.ok r, t) → R s (h.persist t)
  /-- Exchanging the refresh token and handing it over. -/
  afterExchange : ∀ {s r t}, h.refreshToken s = (.ok r, t) → R s (h.persist t)

/-- Asking for credentials moves while the caller has not given up. -/
theorem Handler.Consults.credentials_of_eq {h : Handler σ} (hm : h.Consults R) {s s' : σ}
    {x : Except Error Credentials} (hc : h.cancelled s = false) (hx : h.credentials s = (x, s')) :
    R s s' := by
  have hs := hm.credentials s hc
  rwa [hx] at hs

/-- The beginning of an action moves. -/
theorem Controller.Starts.moves {c : Controller} {h : Handler σ} {request : Request}
    {p : Progress} {response : Response} {s t : σ} {a : Action} {n : UInt8} {b : Budget}
    (hm : h.Consults R) (hs : c.Starts h request p response s a n b t) : R s t := by
  rw [← hs.reported]
  exact hm.report _ _

variable [IsPreorder σ R]

namespace Handler

variable {h : Handler σ} {operation : String} {a : Action} {s s' : σ}
  {os : List (Observation σ)} {x : Except Error Unit}

/-- A probe before a login moves as its primitives do. -/
theorem Tries.moves (hm : h.Consults R) (ht : h.Tries operation s os s') : R s s' := by
  cases ht with
  | fresh hp => exact hm.refreshCsrf.of_eq hp
  | skipped hp he =>
    exact IsTrans.trans _ _ _ (hm.refreshCsrf.of_eq hp) (hm.report _ _)

/-- An action moves as its primitives do, or it goes well and the last thing it does is to hand the refresh
token over, right after a login or an exchange that went well. -/
theorem Takes.moves_or_persists (hm : h.Consults R) (ht : h.Takes operation a s os x s') :
    R s s' ∨ x = .ok () ∧ ∃ u v r, R s u ∧ R u v ∧
      ((∃ cr, h.login cr u = (.ok r, v)) ∨ h.refreshToken u = (.ok r, v)) ∧ s' = h.persist v := by
  cases ht with
  | nothing => exact .inl (Std.Refl.refl s)
  | abandoned ha hc => exact .inl (Std.Refl.refl s)
  | probeFailed hc hp => exact .inl (hm.refreshCsrf.of_eq hp)
  | probed hc hp => exact .inl (hm.refreshCsrf.of_eq hp)
  | exchangeFailed hc hr => exact .inl (hm.refreshToken.of_eq hr)
  | exchanged hc hr =>
    exact .inr ⟨rfl, s, _, _, Std.Refl.refl s, hm.refreshToken.of_eq hr, .inr hr, rfl⟩
  | unprovided hc hp => exact .inl (hm.credentials_of_eq hc hp)
  | providedLate hc hp hc' => exact .inl (hm.credentials_of_eq hc hp)
  | probeAbandoned hc hp hc' ht =>
    have hs := hm.credentials_of_eq hc hp
    exact .inl (IsTrans.trans _ _ _ hs (hm.refreshCsrf.of_eq ht))
  | triedLate hc hp hc' ht hc'' =>
    exact .inl (IsTrans.trans _ _ _ (hm.credentials_of_eq hc hp) (ht.moves hm))
  | loginFailed hc hp hc' ht hc'' hl =>
    have hs := IsTrans.trans _ _ _ (hm.credentials_of_eq hc hp) (ht.moves hm)
    exact .inl (IsTrans.trans _ _ _ hs ((hm.login _).of_eq hl))
  | @loggedIn _ s₁ s₂ t cr os r hc hp hc' ht hc'' hl =>
    have hs := IsTrans.trans _ _ _ (hm.credentials_of_eq hc hp) (ht.moves hm)
    exact .inr ⟨rfl, s₂, t, r, hs, (hm.login cr).of_eq hl, .inl ⟨cr, hl⟩, rfl⟩

/-- Whatever moves along handing the refresh token over moves along doing so after a handshake. -/
theorem Moves.toHandsOver (hm : h.Moves R) : h.HandsOver R where
  toConsults := hm.toConsults
  afterLogin hl := IsTrans.trans _ _ _ ((hm.login _).of_eq hl) (hm.persist _)
  afterExchange hr := IsTrans.trans _ _ _ (hm.refreshToken.of_eq hr) (hm.persist _)

/-- An action moves as primitives do that hand the refresh token over after a handshake only. -/
theorem Takes.moves_handsOver (hm : h.HandsOver R) (ht : h.Takes operation a s os x s') :
    R s s' := by
  obtain hs | ⟨-, u, v, r, hu, -, ⟨cr, hl⟩ | hr, rfl⟩ := ht.moves_or_persists hm.toConsults
  · exact hs
  · exact IsTrans.trans _ _ _ hu (hm.afterLogin hl)
  · exact IsTrans.trans _ _ _ hu (hm.afterExchange hr)

/-- An action moves as all primitives do. -/
theorem Takes.moves (hm : h.Moves R) (ht : h.Takes operation a s os x s') : R s s' :=
  ht.moves_handsOver hm.toHandsOver

end Handler

namespace Controller

variable {c : Controller} {h : Handler σ} {request : Request} {p p' : Progress}
  {result x : Except Error Response} {s t : σ} {os : List (Observation σ)}

/-- A course moves as primitives do that hand the refresh token over after a handshake only. -/
theorem Course.moves_handsOver (hm : h.HandsOver R)
    (hc : c.Course h request p result s os x p' t) : R s t := by
  induction hc with
  | failed => exact Std.Refl.refl _
  | settled ha => exact Std.Refl.refl _
  | exhausted ha hne hb => exact hm.report _ _
  | broken hs ht =>
    have hstart := IsTrans.trans _ _ _ (hs.moves hm.toConsults) (ht.moves_handsOver hm)
    exact IsTrans.trans _ _ _ hstart (hm.report _ _)
  | abandoned hs ht hr hcan =>
    have hstart := IsTrans.trans _ _ _ (hs.moves hm.toConsults) (ht.moves_handsOver hm)
    rw [← hr]
    exact IsTrans.trans _ _ _ hstart (hm.report _ _)
  | again hs ht hr hcan hsend hrest ih =>
    have hstart := IsTrans.trans _ _ _ (hs.moves hm.toConsults) (ht.moves_handsOver hm)
    have hdone := IsTrans.trans _ _ _ hstart (hr ▸ hm.report _ _)
    have hsent := IsTrans.trans _ _ _ hdone ((hm.resend _).of_eq hsend)
    exact IsTrans.trans _ _ _ hsent ih

/-- A course moves as the primitives of its handler do. -/
theorem Course.moves (hm : h.Moves R) (hc : c.Course h request p result s os x p' t) : R s t :=
  hc.moves_handsOver hm.toHandsOver

/-- A whole call moves as primitives do that hand the refresh token over after a handshake only. -/
theorem execute_moves_handsOver (hm : h.HandsOver R) (c : Controller) (request : Request) (s : σ) :
    R s (c.execute h request s).2.2 := by
  obtain ⟨first, s₁, os, x, p, t, hsend, hcourse, hrun, -⟩ := c.course_execute h request s
  rw [hrun]
  have hs := IsTrans.trans _ _ _ ((hm.resend request).of_eq hsend) (hcourse.moves_handsOver hm)
  exact IsTrans.trans _ _ _ hs (hm.report _ _)

/-- A whole call moves as the primitives of its handler do. -/
theorem execute_moves (hm : h.Moves R) (c : Controller) (request : Request) (s : σ) :
    R s (c.execute h request s).2.2 := c.execute_moves_handsOver hm.toHandsOver request s

end Controller

end SessionRecovery
