import SessionRecovery.Proofs.Recovery.Motion
import SessionRecovery.Proofs.Recovery.Lockstep

/-!
# The walk of a call

Every observation of a call is a primitive of the handler run in the state that the observation before it
left, so the states of a call form one walk, and the states in which the request was sent can be read off
the observations.
-/

namespace SessionRecovery

variable {σ : Type}

namespace Observation

/-- The state after some observations that began in a given one. -/
def latest (s : σ) : List (Observation σ) → σ
  | [] => s
  | o :: os => latest o.after os

/-- One more observation leads to its own state. -/
theorem latest_concat (s : σ) (os : List (Observation σ)) (o : Observation σ) :
    latest s (os ++ [o]) = o.after := by
  induction os generalizing s with
  | nil => rfl
  | cons o os ih => exact ih o.after

/-- The state after joined observations. -/
theorem latest_append (s : σ) (os ps : List (Observation σ)) :
    latest s (os ++ ps) = latest (latest s os) ps := by
  induction os generalizing s with
  | nil => rfl
  | cons o os ih => exact ih o.after

/-- The states in which the request was sent, in observations that began in a given state. -/
def origins (s : σ) : List (Observation σ) → List σ
  | [] => []
  | o :: os =>
    if o.deed.primitive? = some .send then s :: origins o.after os else origins o.after os

/-- The states in which the request was sent among joined observations. -/
@[simp] theorem origins_append (s : σ) (os ps : List (Observation σ)) :
    origins s (os ++ ps) = origins s os ++ origins (latest s os) ps := by
  induction os generalizing s with
  | nil => rfl
  | cons o os ih =>
    rw [List.cons_append, origins, origins, latest, ih]
    split <;> rfl

/-- Where nothing was sent there is no state in which it was. -/
theorem origins_eq_nil {os : List (Observation σ)} (h : sends os = []) (s : σ) :
    origins s os = [] := by
  induction os generalizing s with
  | nil => rfl
  | cons o os ih =>
    rw [sends_cons] at h
    split at h
    · cases h
    · next hsend => rw [origins, if_neg hsend, ih h]

end Observation

namespace Handler

/-- An observation is what a primitive of the handler really does in a state. The only request that is sent is
the caller's, and nobody is asked for credentials once the caller gave up. -/
def Shows (h : Handler σ) (request : Request) (s : σ) (o : Observation σ) : Prop :=
  match o.deed with
  | .send r result => r = request ∧ h.resend r s = (result, o.after)
  | .csrf result => h.refreshCsrf s = (result, o.after)
  | .credentials result => h.cancelled s = false ∧ h.credentials s = (result, o.after)
  | .login credentials result => h.login credentials s = (result, o.after)
  | .refresh result => h.refreshToken s = (result, o.after)
  | .persist => h.persist s = o.after
  | .report event => h.report event s = o.after

/-- The state that a primitive leaves when it is called in a given one. -/
def effect (h : Handler σ) (s : σ) : Deed → σ
  | .send request _ => (h.resend request s).2
  | .csrf _ => (h.refreshCsrf s).2
  | .credentials _ => (h.credentials s).2
  | .login credentials _ => (h.login credentials s).2
  | .refresh _ => (h.refreshToken s).2
  | .persist => h.persist s
  | .report event => h.report event s

/-- Each observation is what a primitive does in the state that the one before it left. -/
inductive Walk (h : Handler σ) (request : Request) : σ → List (Observation σ) → σ → Prop
  /-- Nothing was observed. -/
  | nil (s : σ) : Walk h request s [] s
  /-- One observation and those after it. -/
  | cons {s t : σ} {o : Observation σ} {os : List (Observation σ)} (ho : h.Shows request s o)
      (hos : Walk h request o.after os t) : Walk h request s (o :: os) t

variable {h : Handler σ} {request : Request} {operation : String} {a : Action} {s t u : σ}
  {o : Observation σ} {os ps : List (Observation σ)}

/-- A primitive moves along a relation as the handler's primitives do. -/
theorem Shows.moves {R : σ → σ → Prop} (hm : h.Moves R) (ho : h.Shows request s o) :
    R s o.after := by
  obtain ⟨deed, after⟩ := o
  cases deed with
  | send r result => exact (hm.resend r).of_eq ho.2
  | csrf result => exact hm.refreshCsrf.of_eq ho
  | credentials result => exact hm.credentials_of_eq ho.1 ho.2
  | login credentials result => exact (hm.login credentials).of_eq ho
  | refresh result => exact hm.refreshToken.of_eq ho
  | persist =>
    have hp : h.persist s = after := ho
    exact hp ▸ hm.persist s
  | report event =>
    have hr : h.report event s = after := ho
    exact hr ▸ hm.report event s

/-- An observation ends in the state that its primitive leaves. -/
theorem Shows.after_eq (ho : h.Shows request s o) : o.after = h.effect s o.deed := by
  obtain ⟨deed, after⟩ := o
  cases deed with
  | send r result =>
    obtain ⟨rfl, hrun⟩ := ho
    exact (congrArg Prod.snd hrun).symm
  | credentials result => exact (congrArg Prod.snd ho.2).symm
  | persist => exact Eq.symm ho
  | report event => exact Eq.symm ho
  | _ => exact (congrArg Prod.snd ho).symm

namespace Walk

/-- A walk of one observation. -/
theorem single (ho : h.Shows request s o) : h.Walk request s [o] o.after := .cons ho (.nil _)

/-- A walk after a walk. -/
theorem append (hos : h.Walk request s os t) (hps : h.Walk request t ps u) :
    h.Walk request s (os ++ ps) u := by
  induction hos with
  | nil => exact hps
  | cons ho _ ih => exact .cons ho (ih hps)

/-- Whatever the primitives of the handler keep leads to every state in which the request was sent. -/
theorem moves_of_mem_origins {R : σ → σ → Prop} [IsPreorder σ R] (hm : h.Moves R)
    (hos : h.Walk request s os t) {v : σ} (hv : v ∈ Observation.origins s os) : R s v := by
  induction hos with
  | nil => exact absurd hv List.not_mem_nil
  | @cons s t o os ho _ ih =>
    have hrest (hv : v ∈ Observation.origins o.after os) : R s v :=
      IsTrans.trans _ _ _ (ho.moves hm) (ih hv)
    rw [Observation.origins] at hv
    split at hv
    · rcases List.mem_cons.mp hv with rfl | hv
      · exact Std.Refl.refl v
      · exact hrest hv
    · exact hrest hv

/-- The observed sends of a walk are what sending the request does in the states in which it was sent. -/
theorem sends_eq (hos : h.Walk request s os t) :
    Observation.sends os = (Observation.origins s os).map fun v =>
      ⟨.send request (h.resend request v).1, (h.resend request v).2⟩ := by
  induction hos with
  | nil => rfl
  | @cons s t o os ho _ ih =>
    rw [Observation.sends_cons, Observation.origins, ih]
    obtain ⟨deed, after⟩ := o
    cases deed with
    | send r result =>
      obtain ⟨rfl, hsend⟩ := ho
      have hsend : h.resend r s = (result, after) := hsend
      simp [Deed.primitive?, hsend]
    | _ => rfl

end Walk

/-- A probe before a login is a walk. -/
theorem Tries.walk (ht : h.Tries operation s os t) (request : Request) :
    h.Walk request s os t := by
  cases ht with
  | fresh hp => exact .single hp
  | skipped hp he => exact .cons hp (.single rfl)

/-- An action is a walk. -/
theorem Takes.walk {x : Except Error Unit} (ht : h.Takes operation a s os x t)
    (request : Request) : h.Walk request s os t := by
  cases ht with
  | nothing => exact .nil s
  | abandoned ha hc => exact .nil s
  | probeFailed hc hp => exact .single hp
  | probed hc hp => exact .single hp
  | exchangeFailed hc hr => exact .single hr
  | exchanged hc hr => exact .cons hr (.single rfl)
  | unprovided hc hp => exact .single ⟨hc, hp⟩
  | providedLate hc hp hc' => exact .single ⟨hc, hp⟩
  | probeAbandoned hc hp hc' ht => exact .cons ⟨hc, hp⟩ (.single ht)
  | triedLate hc hp hc' ht hc'' => exact .cons ⟨hc, hp⟩ (ht.walk request)
  | loginFailed hc hp hc' ht hc'' hl =>
    exact .cons ⟨hc, hp⟩ ((ht.walk request).append (.single hl))
  | loggedIn hc hp hc' ht hc'' hl =>
    exact .cons ⟨hc, hp⟩ ((ht.walk request).append (.cons hl (.single rfl)))

end Handler

namespace Controller

open Observation

variable {c : Controller} {h : Handler σ} {request : Request} {p p' : Progress}
  {result x : Except Error Response} {s t : σ} {os : List (Observation σ)}

/-- A course is a walk. -/
theorem Course.walk (hc : c.Course h request p result s os x p' t) : h.Walk request s os t := by
  induction hc with
  | failed => exact .nil _
  | settled ha => exact .nil _
  | exhausted ha hne hb => exact .single rfl
  | broken hs ht => exact .cons hs.reported ((ht.walk request).append (.single rfl))
  | abandoned hs ht hr hcan => exact .cons hs.reported ((ht.walk request).append (.single hr))
  | again hs ht hr hcan hsend hrest ih =>
    exact .cons hs.reported ((ht.walk request).append (.cons hr (.cons ⟨rfl, hsend⟩ ih)))

/-- A request is sent again only in states in which the caller has not given up. -/
theorem Course.active_of_mem_origins (hc : c.Course h request p result s os x p' t) {v : σ}
    (hv : v ∈ origins s os) : h.cancelled v = false := by
  -- an action sends nothing, so every new state is one in which the caller was found not to have given up
  induction hc with
  | failed => exact absurd hv List.not_mem_nil
  | settled ha => exact absurd hv List.not_mem_nil
  | exhausted ha hne hb => exact absurd hv List.not_mem_nil
  | broken hs ht =>
    simp [origins, origins_eq_nil ht.sends_eq_nil, Deed.primitive?] at hv
  | abandoned hs ht hr hcan =>
    simp [origins, origins_eq_nil ht.sends_eq_nil, Deed.primitive?] at hv
  | again hs ht hr hcan hsend hrest ih =>
    simp only [List.cons_append, origins, origins_append, origins_eq_nil ht.sends_eq_nil,
      Deed.primitive?, reduceCtorEq, if_false, if_true, List.nil_append] at hv
    rcases List.mem_cons.mp hv with rfl | hv
    · exact hcan
    · exact ih hv

/-- A whole call is a walk, which begins with sending the request; it is sent again only in states in which
the caller has not given up. -/
theorem walk_observations (c : Controller) (h : Handler σ) (request : Request) (s : σ) :
    h.Walk request s (c.observations h request s) (c.execute h request s).2.2 ∧
    ∃ later, origins s (c.observations h request s) = s :: later ∧
      ∀ v ∈ later, h.cancelled v = false := by
  obtain ⟨first, s₁, os, x, p, t, hsend, hcourse, hrun, hobs⟩ := c.course_execute h request s
  rw [observations, hobs, hrun]
  constructor
  · exact .cons ⟨rfl, hsend⟩ (hcourse.walk.append (.single rfl))
  · refine ⟨origins s₁ os, ?_, fun v hv => hcourse.active_of_mem_origins hv⟩
    simp [origins, Deed.primitive?]

end Controller

end SessionRecovery

/-! ## Traces

What a traced handler notes of a call can be read off the observations of the call: each deed is one note, and
the token that is handed over is the one of the session before it. -/

namespace SessionRecovery

variable {σ : Type}

open Observation

/-- The note of a deed that is done in a session. -/
def Deed.note (session : Session) : Deed → Note
  | .send r _ => .call (.send r.method r.path)
  | .csrf _ => .call .csrf
  | .credentials _ => .call .credentials
  | .login cr _ => .call (.login cr)
  | .refresh _ => .call .refresh
  | .persist => .call (.persist session.refresh)
  | .report e => .event e

/-- The line about a step that failed and that a call did without. -/
def Note.isRemark : Note → Bool
  | .event (.bestEffortFailed ..) => true
  | _ => false

/-- The notes of observations that began in a given state. -/
def Observation.notes (session : σ → Session) (s : σ) : List (Observation σ) → List Note
  | [] => []
  | o :: os => o.deed.note (session s) :: notes session o.after os

/-- The notes of joined observations. -/
theorem Observation.notes_append (session : σ → Session) (s : σ) (os ps : List (Observation σ)) :
    notes session s (os ++ ps) = notes session s os ++ notes session (latest s os) ps := by
  induction os generalizing s with
  | nil => rfl
  | cons o os ih => rw [List.cons_append, notes, notes, latest, ih, List.cons_append]

namespace Handler

/-- A traced state and an observed one tell of the same run from a state on. -/
structure Notes (h : Handler σ) (s : σ) (u : σ × List Note) (v : σ × List (Observation σ)) :
    Prop where
  /-- They are in one state. -/
  state : v.1 = u.1
  /-- It is the one after the last observation. -/
  latest : latest s v.2 = v.1
  /-- The notes are those of the observations. -/
  notes : u.2 = notes h.session s v.2

/-- One more deed is noted and observed. -/
theorem Notes.concat {h : Handler σ} {s : σ} {u : σ × List Note} {v : σ × List (Observation σ)}
    (hn : h.Notes s u v) (d : Deed) (t : σ) :
    h.Notes s (t, u.2 ++ [d.note (h.session u.1)]) (t, v.2 ++ [⟨d, t⟩]) where
  state := rfl
  latest := latest_concat s v.2 ⟨d, t⟩
  notes := by
    rw [notes_append, hn.latest, hn.state, ← hn.notes]
    rfl

/-- What is noted of a primitive is what is observed of it. -/
theorem Notes.couples {α : Type} {h : Handler σ} {s : σ} {call : HandlerCall}
    {deed : Except Error α → Deed} (hdeed : ∀ x session, (deed x).note session = .call call)
    (r : Run σ α) : Run.Couples (h.Notes s) (fun x y => y = x) (noting call r) (observing deed r) := by
  rintro ⟨_, ns⟩ ⟨u, os⟩ hn
  obtain rfl := hn.state
  have hmore := hn.concat (deed (r u).1) (r u).2
  rw [hdeed] at hmore
  exact ⟨.of_eq rfl, hmore⟩

/-- A traced handler and an observed one do the same. -/
theorem traced_observed (h : Handler σ) (s : σ) (request : Request) :
    Couples (h.Notes s) (fun x y => y = x) (fun x y => y = x) h.traced h.observed request request where
  resend := Notes.couples (fun _ _ => rfl) _
  refreshCsrf := Notes.couples (fun _ _ => rfl) _
  credentials := Notes.couples (fun _ _ => rfl) _
  login cr cr' hcr := by
    subst hcr
    exact Notes.couples (fun _ _ => rfl) _
  refreshToken := Notes.couples (fun _ _ => rfl) _
  persist := by
    rintro ⟨_, ns⟩ ⟨u, os⟩ hn
    obtain rfl := hn.state
    exact hn.concat .persist (h.persist u)
  cancelled u v hn := congrArg h.cancelled hn.state
  report k := by
    rintro ⟨_, ns⟩ ⟨u, os⟩ hn
    obtain rfl := hn.state
    exact hn.concat (.report (k request.operation)) (h.report (k request.operation) u)
  select codes u v x y hn hxy := by
    subst hxy
    exact congrArg (fun state => Action.select codes (h.session state) y) hn.state
  answer x y hxy := by
    subst hxy
    exact ⟨rfl, rfl⟩

end Handler

/-- The trace of a call consists of the notes of its observations. -/
theorem Controller.notes_observations (c : Controller) (h : Handler σ) (request : Request) (s : σ) :
    (c.execute h.traced request (s, [])).2.2.2 =
      notes h.session s (c.observations h request s) := by
  obtain ⟨-, -, hend⟩ := execute_couples (h.traced_observed s request) c
    (s := (s, [])) (t := (s, [])) ⟨rfl, rfl, rfl⟩
  exact hend.notes

end SessionRecovery
