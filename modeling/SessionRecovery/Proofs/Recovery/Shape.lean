import SessionRecovery.Proofs.Recovery.Course

/-!
# The shape of a call with recovery

The primitives that a call uses are told by the actions it took: it sends its request, and after the block
of every action it sends it again. Only the last block may be cut short, and then the call ends with the
error that cut it. A login uses the credentials just given, and a refresh token is handed over right after
every login and every exchange that went well and at no other time.
-/

namespace SessionRecovery

variable {σ : Type}

/-- The primitives of a call that takes some actions to their ends. -/
def schedule (actions : List Action) : List Primitive :=
  .send :: actions.flatMap fun a => a.block ++ [.send]

/-- One more action adds its block and one more send. -/
theorem schedule_concat (actions : List Action) (a : Action) :
    schedule (actions ++ [a]) = schedule actions ++ a.block ++ [.send] := by
  simp only [schedule, List.flatMap_append, List.flatMap_singleton, List.cons_append,
    List.append_assoc]

/-- A call of a primitive between others: a login follows its credentials and one probe, whatever may
have brought a new refresh token is followed by handing it over, and nothing else is. -/
def Ordered (before : List Deed) (d : Deed) (after : List Deed) : Prop :=
  (∀ cr x, d = .login cr x → ∃ pre y, before = pre ++ [.credentials (.ok cr), .csrf y]) ∧
  (d.Renews → ∃ post, after = .persist :: post) ∧
  (d = .persist → ∃ pre d', before = pre ++ [d'] ∧ d'.Renews)

namespace Ordered

variable {before after : List Deed}

/-- A send is in order everywhere. -/
theorem send (request : Request) (x : Except Error Response) :
    Ordered before (.send request x) after :=
  ⟨fun _ _ h => (nomatch h), fun h => h.elim, fun h => (nomatch h)⟩

/-- A probe is in order everywhere. -/
theorem csrf (x : Except Error Response) : Ordered before (.csrf x) after :=
  ⟨fun _ _ h => (nomatch h), fun h => h.elim, fun h => (nomatch h)⟩

/-- Asking for credentials is in order everywhere. -/
theorem credentials (x : Except Error Credentials) : Ordered before (.credentials x) after :=
  ⟨fun _ _ h => (nomatch h), fun h => h.elim, fun h => (nomatch h)⟩

/-- A failed login is in order after its credentials. -/
theorem loginFailed (cr : Credentials) (y : Except Error Response) (e : Error) :
    Ordered (before ++ [.credentials (.ok cr)] ++ [.csrf y]) (.login cr (.error e)) after := by
  refine ⟨?_, fun h => h.elim, fun h => (nomatch h)⟩
  rintro _ _ ⟨⟩
  exact ⟨before, y, List.append_assoc ..⟩

/-- A login is in order after its credentials and before its token is handed over. -/
theorem login (cr : Credentials) (y : Except Error Response) (r : Response) :
    Ordered (before ++ [.credentials (.ok cr)] ++ [.csrf y]) (.login cr (.ok r))
      (.persist :: after) := by
  refine ⟨?_, fun _ => ⟨after, rfl⟩, fun h => (nomatch h)⟩
  rintro _ _ ⟨⟩
  exact ⟨before, y, List.append_assoc ..⟩

/-- A failed exchange is in order everywhere. -/
theorem refreshFailed (e : Error) : Ordered before (.refresh (.error e)) after :=
  ⟨fun _ _ h => (nomatch h), fun h => h.elim, fun h => (nomatch h)⟩

/-- An exchange is in order before its token is handed over. -/
theorem refresh (r : Response) : Ordered before (.refresh (.ok r)) (.persist :: after) :=
  ⟨fun _ _ h => (nomatch h), fun _ => ⟨after, rfl⟩, fun h => (nomatch h)⟩

/-- Handing over is in order after what may have brought a new token. -/
theorem persist {d : Deed} (hd : d.Renews) : Ordered (before ++ [d]) .persist after :=
  ⟨fun _ _ h => (nomatch h), fun h => h.elim, fun _ => ⟨before, d, rfl, hd⟩⟩

end Ordered

/-- What a call with some result shows of its actions. -/
inductive Shape (h : Handler σ) (x : Except Error Response) :
    List (Observation σ) → List Action → Prop
  /-- Every action was taken to its end and followed by a send. -/
  | whole {os : List (Observation σ)} {actions : List Action}
      (hp : Observation.primitives os = schedule actions) : Shape h x os actions
  /-- The last action was cut short, or not followed by a send, by the error that ends the call. -/
  | cut {before rest : List (Observation σ)} {o : Observation σ} {init : List Action} {a : Action}
      {e : Error} (hs : o.deed.started? = some a)
      (hb : Observation.primitives before = schedule init)
      (hr : Observation.primitives rest <+: a.block) (hx : x = .error e)
      (he : h.Raises (o :: rest) e) : Shape h x (before ++ o :: rest) (init ++ [a])

open Observation

/-- Events after the calls leave the shape. -/
theorem Shape.append {h : Handler σ} {x : Except Error Response} {os ps : List (Observation σ)}
    {actions : List Action} (hs : Shape h x os actions) (hp : primitives ps = [])
    (hc : calls ps = []) : Shape h x (os ++ ps) actions := by
  cases hs with
  | whole hw =>
    refine .whole ?_
    rw [primitives_append, hp, List.append_nil, hw]
  | cut hstart hb hr hx he =>
    rw [List.append_assoc, List.cons_append]
    refine .cut hstart hb ?_ hx (he.append hc)
    rwa [primitives_append, hp, List.append_nil]

namespace Handler

variable {h : Handler σ} {operation : String} {a : Action} {s s' : σ}
  {os : List (Observation σ)} {x : Except Error Unit}

/-- A probe before a login is one call. -/
theorem Tries.exists_calls_eq (ht : h.Tries operation s os s') : ∃ y, calls os = [.csrf y] := by
  cases ht with
  | fresh hp => exact ⟨_, rfl⟩
  | skipped hp he => exact ⟨_, rfl⟩

/-- The calls of an action are in order. -/
theorem Takes.ordered (ht : h.Takes operation a s os x s') (before after : List Deed) :
    Throughout Ordered before (calls os) after := by
  cases ht with
  | nothing => exact .nil
  | abandoned ha hc => exact .nil
  | probeFailed hc hp => exact .cons (.csrf _) .nil
  | probed hc hp => exact .cons (.csrf _) .nil
  | exchangeFailed hc hr => exact .cons (.refreshFailed _) .nil
  | exchanged hc hr => exact .cons (.refresh _) (.cons (.persist trivial) .nil)
  | unprovided hc hp => exact .cons (.credentials _) .nil
  | providedLate hc hp hc' => exact .cons (.credentials _) .nil
  | probeAbandoned hc hp hc' ht => exact .cons (.credentials _) (.cons (.csrf _) .nil)
  | triedLate hc hp hc' ht hc'' =>
    obtain ⟨y, hy⟩ := ht.exists_calls_eq
    rw [calls_cons, hy]
    exact .cons (.credentials _) (.cons (.csrf _) .nil)
  | loginFailed hc hp hc' ht hc'' hl =>
    obtain ⟨y, hy⟩ := ht.exists_calls_eq
    rw [List.cons_append, calls_cons, calls_append, hy]
    exact .cons (.credentials _) (.cons (.csrf _) (.cons (.loginFailed _ _ _) .nil))
  | loggedIn hc hp hc' ht hc'' hl =>
    obtain ⟨y, hy⟩ := ht.exists_calls_eq
    rw [List.cons_append, calls_cons, calls_append, hy]
    exact .cons (.credentials _) (.cons (.csrf _)
      (.cons (.login _ _ _) (.cons (.persist trivial) .nil)))

end Handler

namespace Controller

variable {c : Controller} {h : Handler σ} {request : Request} {p p' : Progress}
  {result x : Except Error Response} {s t : σ} {os : List (Observation σ)}

/-- The calls of a course are in order. -/
theorem Course.ordered (hc : c.Course h request p result s os x p' t) (before after : List Deed) :
    Throughout Ordered before (calls os) after := by
  induction hc generalizing before with
  | failed => exact .nil
  | settled ha => exact .nil
  | exhausted ha hne hb => exact .nil
  | broken hs ht =>
    rw [List.cons_append, calls_cons, calls_append]
    exact .append (ht.ordered _ _) .nil
  | abandoned hs ht hr hcan =>
    rw [List.cons_append, calls_cons, calls_append]
    exact .append (ht.ordered _ _) .nil
  | again hs ht hr hcan hsend hrest ih =>
    rw [List.cons_append, calls_cons, calls_append]
    exact .append (ht.ordered _ _) (.cons (.send _ _) (ih _))

/-- A course that goes on from a schedule has the shape of its actions. -/
theorem Course.shape (hc : c.Course h request p result s os x p' t)
    (before : List (Observation σ)) (hb : primitives before = schedule p.actions) :
    Shape h x (before ++ os) p'.actions := by
  induction hc generalizing before with
  | failed =>
    rw [List.append_nil]
    exact .whole hb
  | settled ha =>
    rw [List.append_nil]
    exact .whole hb
  | exhausted ha hne hbud => exact (Shape.whole hb).append rfl rfl
  | broken hs ht =>
    have hpre := ht.primitives_prefix
    rw [List.cons_append]
    refine .cut rfl hb ?_ rfl ((ht.raises rfl).append rfl)
    rwa [primitives_append, show primitives [_] = [] from rfl, List.append_nil]
  | abandoned hs ht hr hcan =>
    have hall := ht.primitives_eq
    rw [List.cons_append]
    refine .cut rfl hb ?_ rfl
      (.gone (List.mem_cons_of_mem _ (List.mem_append_right _ (List.mem_singleton_self _))) hcan)
    refine ⟨[], ?_⟩
    rw [primitives_append, show primitives [_] = [] from rfl, List.append_nil, List.append_nil,
      hall]
  | @again p p' response s started' s' recovered s'' t a n b os rest result result' hs ht hr hcan
      hsend hrest ih =>
    have hall := ht.primitives_eq
    have hnext := ih (before ++ ⟨.report (.recoveryStart request.operation a n response.status
      response.errorCode), started'⟩ :: os ++
        [⟨.report (.recoverySuccess request.operation a), recovered⟩,
          ⟨.send request result, s''⟩]) (by
      rw [schedule_concat]
      simp [hb, hall, Deed.primitive?])
    simpa only [List.append_assoc, List.cons_append, List.nil_append] using hnext

/-- The shape of every call with recovery: it sends its request, and after the block of every action it
sends it again, where only the last block may be cut short by the error that ends the call; a login uses
exactly the credentials just returned; and the refresh token is handed over once, immediately, after every
login and every exchange that went well, and at no other time. -/
theorem execute_shape (c : Controller) (h : Handler σ) (request : Request) (s : σ) :
    Shape h (c.execute h request s).1 (c.observations h request s)
      (c.execute h request s).2.1.actions ∧
    Throughout Ordered [] (calls (c.observations h request s)) [] := by
  obtain ⟨first, s₁, os, x, p, t, -, hcourse, hrun, hobs⟩ := c.course_execute h request s
  have hos : c.observations h request s =
      ⟨.send request first, s₁⟩ :: os ++ [⟨.report (.recoveryOutcome (outcome request p x)),
        h.report (.recoveryOutcome (outcome request p x)) t⟩] := by
    rw [observations, hobs]
  rw [hos, hrun]
  constructor
  · exact (hcourse.shape [⟨.send request first, s₁⟩] rfl).append rfl rfl
  · rw [calls_append, calls_cons]
    exact .append (.cons (.send _ _) (hcourse.ordered _ _)) .nil

end Controller

end SessionRecovery
