import SessionRecovery.Recovery.Call

/-!
# What a controller asks of a handler

An observed handler does what another one does and keeps, in order, every primitive that was called with
the answer it gave, every event, and the state after each of them. The calls, the answers and the states
of a run can then be spoken about as one list.
-/

namespace SessionRecovery

/-! ## Conditions on every entry of a list -/

/-- Every entry of a list meets a condition on what comes before it, itself and what comes after it,
where the list itself stands between two others. -/
def Throughout {α : Type} (Q : List α → α → List α → Prop) (before l after : List α) : Prop :=
  ∀ pre x post, l = pre ++ x :: post → Q (before ++ pre) x (post ++ after)

namespace Throughout

variable {α : Type} {Q : List α → α → List α → Prop} {before l m after : List α} {x : α}

/-- An empty list has no entry. -/
theorem nil : Throughout Q before [] after := by
  intro pre x post h
  exact absurd h (List.append_ne_nil_of_right_ne_nil pre (List.cons_ne_nil x post)).symm

/-- A condition on joined lists is one on each of them. -/
theorem append (hl : Throughout Q before l (m ++ after))
    (hm : Throughout Q (before ++ l) m after) : Throughout Q before (l ++ m) after := by
  intro pre x post h
  rcases List.append_eq_append_iff.mp h with ⟨as, rfl, has⟩ | ⟨bs, rfl, hbs⟩
  · rw [← List.append_assoc]
    exact hm as x post has
  · cases bs with
    | nil =>
      have hx := hm [] x post hbs.symm
      simpa only [List.append_nil] using hx
    | cons y ys =>
      rw [List.cons_append] at hbs
      obtain ⟨rfl, rfl⟩ := List.cons.inj hbs
      rw [List.append_assoc]
      exact hl pre x ys rfl

/-- A condition on a longer list is one on its first entry and one on the others. -/
theorem cons (hx : Q before x (l ++ after)) (hl : Throughout Q (before ++ [x]) l after) :
    Throughout Q before (x :: l) after := by
  refine append (l := [x]) ?_ hl
  intro pre y post h
  rcases List.cons_eq_append_iff.mp h with ⟨rfl, hy⟩ | ⟨pre', rfl, hy⟩
  · obtain ⟨rfl, rfl⟩ := List.cons.inj hy
    rwa [List.append_nil]
  · exact absurd hy.symm (List.append_ne_nil_of_right_ne_nil pre' (List.cons_ne_nil y post))

/-- A condition that every entry meets wherever it stands. -/
theorem of_forall (h : ∀ x ∈ l, ∀ before after, Q before x after) : Throughout Q before l after := by
  intro pre x post hsplit
  have hx : x ∈ l := by
    rw [hsplit]
    exact List.mem_append_right pre List.mem_cons_self
  exact h x hx _ _

/-- A condition that follows from another one holds wherever the other does. -/
theorem mono {Q' : List α → α → List α → Prop} (h : Throughout Q before l after)
    (hq : ∀ before x after, Q before x after → Q' before x after) :
    Throughout Q' before l after := fun pre x post hsplit => hq _ _ _ (h pre x post hsplit)

end Throughout

/-! ## Deeds -/

/-- A call of a primitive with its answer, or an event. -/
inductive Deed where
  /-- The request was sent once. -/
  | send (request : Request) (result : Except Error Response)
  /-- A fresh anti-forgery token was asked for. -/
  | csrf (result : Except Error Response)
  /-- The credentials were asked for. -/
  | credentials (result : Except Error Credentials)
  /-- A login was tried with some credentials. -/
  | login (credentials : Credentials) (result : Except Error Response)
  /-- The refresh token was exchanged. -/
  | refresh (result : Except Error Response)
  /-- The refresh token was handed over for keeping. -/
  | persist
  /-- An event was reported. -/
  | report (event : Event)

/-- The primitives that speak to the outside. -/
inductive Primitive where
  /-- Sending the request. -/
  | send
  /-- Asking for an anti-forgery token. -/
  | csrf
  /-- Asking for the credentials. -/
  | credentials
  /-- Logging in. -/
  | login
  /-- Exchanging the refresh token. -/
  | refresh
  /-- Handing the refresh token over. -/
  | persist
  deriving DecidableEq

namespace Deed

/-- The primitive that was called; an event calls none. -/
def primitive? : Deed → Option Primitive
  | .send .. => some .send
  | .csrf _ => some .csrf
  | .credentials _ => some .credentials
  | .login .. => some .login
  | .refresh _ => some .refresh
  | .persist => some .persist
  | .report _ => none

/-- The error that a failed call raises; whoever cannot give credentials has none available. -/
def raised? : Deed → Option Error
  | .send _ (.error e) => some e
  | .csrf (.error e) => some e
  | .credentials (.error e) => some e.asCredentialsUnavailable
  | .login _ (.error e) => some e
  | .refresh (.error e) => some e
  | _ => none

/-- The call itself says that an action is exhausted. -/
def exhausts (d : Deed) : Bool :=
  match d.raised? with
  | some (.recoveryExhausted _ _) => true
  | _ => false

/-- What a call raises is no exhaustion when the call does not say so. -/
theorem raised_ne_exhausted {d : Deed} (h : d.exhausts = false) (a : Action) (n : UInt8) :
    d.raised? ≠ some (.recoveryExhausted a n) := by
  intro hr
  rw [exhausts, hr] at h
  cases h

/-- The action that begins with an event. -/
def started? : Deed → Option Action
  | .report (.recoveryStart _ a _ _ _) => some a
  | _ => none

/-- A login or an exchange that succeeded, after which the refresh token may be a new one. -/
def Renews : Deed → Prop
  | .login _ (.ok _) => True
  | .refresh (.ok _) => True
  | _ => False

end Deed

/-- A deed and the state after it. -/
structure Observation (σ : Type) where
  /-- What was done. -/
  deed : Deed
  /-- The state after it. -/
  after : σ

namespace Observation

variable {σ : Type}

/-- The primitives that were called, in order. -/
def primitives (os : List (Observation σ)) : List Primitive := os.filterMap (·.deed.primitive?)

/-- The deeds other than events, in order. -/
def calls (os : List (Observation σ)) : List Deed :=
  (os.map (·.deed)).filter (·.primitive?.isSome)

/-- The actions that began, in order. -/
def started (os : List (Observation σ)) : List Action := os.filterMap (·.deed.started?)

/-- The observations of the request being sent. -/
def sends (os : List (Observation σ)) : List (Observation σ) :=
  os.filter (·.deed.primitive? = some .send)

/-- Without observations there is no primitive. -/
@[simp] theorem primitives_nil : primitives ([] : List (Observation σ)) = [] := rfl

/-- Without observations there is no call. -/
@[simp] theorem calls_nil : calls ([] : List (Observation σ)) = [] := rfl

/-- Without observations no action begins. -/
@[simp] theorem started_nil : started ([] : List (Observation σ)) = [] := rfl

/-- Without observations nothing is sent. -/
@[simp] theorem sends_nil : sends ([] : List (Observation σ)) = [] := rfl

/-- The primitives of one observation and of those after it. -/
@[simp] theorem primitives_cons (o : Observation σ) (os : List (Observation σ)) :
    primitives (o :: os) = o.deed.primitive?.toList ++ primitives os := by
  rw [primitives, List.filterMap_cons]
  cases o.deed.primitive? <;> rfl

/-- The call of one observation and those after it. -/
@[simp] theorem calls_cons (o : Observation σ) (os : List (Observation σ)) :
    calls (o :: os) = if o.deed.primitive?.isSome then o.deed :: calls os else calls os := by
  rw [calls, calls, List.map_cons, List.filter_cons]

/-- The actions that one observation and those after it begin. -/
@[simp] theorem started_cons (o : Observation σ) (os : List (Observation σ)) :
    started (o :: os) = o.deed.started?.toList ++ started os := by
  rw [started, List.filterMap_cons]
  cases o.deed.started? <;> rfl

/-- One observation stands among the sends when it is one. -/
@[simp] theorem sends_cons (o : Observation σ) (os : List (Observation σ)) :
    sends (o :: os) = if o.deed.primitive? = some .send then o :: sends os else sends os := by
  simp only [sends, List.filter_cons, decide_eq_true_eq]

/-- Primitives of joined observations. -/
@[simp] theorem primitives_append (os ps : List (Observation σ)) :
    primitives (os ++ ps) = primitives os ++ primitives ps := List.filterMap_append

/-- Calls of joined observations. -/
@[simp] theorem calls_append (os ps : List (Observation σ)) :
    calls (os ++ ps) = calls os ++ calls ps := by
  rw [calls, calls, calls, List.map_append, List.filter_append]

/-- Started actions of joined observations. -/
@[simp] theorem started_append (os ps : List (Observation σ)) :
    started (os ++ ps) = started os ++ started ps := List.filterMap_append

/-- Sends of joined observations. -/
@[simp] theorem sends_append (os ps : List (Observation σ)) :
    sends (os ++ ps) = sends os ++ sends ps := List.filter_append ..

/-- Nothing was sent where sending was not among the primitives. -/
theorem sends_eq_nil {os : List (Observation σ)} (h : Primitive.send ∉ primitives os) :
    sends os = [] := by
  rw [sends, List.filter_eq_nil_iff]
  intro o ho hs
  exact h (List.mem_filterMap.mpr ⟨o, ho, of_decide_eq_true hs⟩)

/-- A list without sends holds none. -/
theorem notMem_of_sends_eq_nil {os : List (Observation σ)} {o : Observation σ}
    (h : sends os = []) (ho : o.deed.primitive? = some .send) : o ∉ os := by
  intro hm
  exact List.filter_eq_nil_iff.mp h o hm (decide_eq_true ho)

/-- What comes before the last send and what comes after it are told by the list. -/
theorem eq_of_last_send {before before' rest rest' : List (Observation σ)} {o o' : Observation σ}
    (h : before ++ o :: rest = before' ++ o' :: rest') (ho : o.deed.primitive? = some .send)
    (ho' : o'.deed.primitive? = some .send) (hr : sends rest = []) (hr' : sends rest' = []) :
    before = before' ∧ o = o' ∧ rest = rest' := by
  rcases List.append_eq_append_iff.mp h with ⟨as, rfl, has⟩ | ⟨bs, rfl, hbs⟩
  · cases as with
    | nil =>
      obtain ⟨rfl, rfl⟩ := List.cons.inj has
      exact ⟨(List.append_nil before).symm, rfl, rfl⟩
    | cons y ys =>
      have hrest : rest = ys ++ o' :: rest' := (List.cons.inj has).2
      have hm : o' ∈ rest := by rw [hrest]; exact List.mem_append_right ys List.mem_cons_self
      exact absurd hm (notMem_of_sends_eq_nil hr ho')
  · cases bs with
    | nil =>
      obtain ⟨rfl, rfl⟩ := List.cons.inj hbs
      exact ⟨List.append_nil before', rfl, rfl⟩
    | cons y ys =>
      have hrest : rest' = ys ++ o :: rest := (List.cons.inj hbs).2
      have hm : o ∈ rest' := by rw [hrest]; exact List.mem_append_right ys List.mem_cons_self
      exact absurd hm (notMem_of_sends_eq_nil hr' ho)

/-- Every call is the deed of an observation. -/
theorem exists_of_mem_calls {os : List (Observation σ)} {d : Deed} (h : d ∈ calls os) :
    ∃ o ∈ os, o.deed = d :=
  List.mem_map.mp (List.mem_filter.mp h).1

end Observation

namespace Handler

variable {σ α : Type}

/-- Runs a primitive and keeps what was done. -/
def observing (deed : Except Error α → Deed) (r : Run σ α) :
    Run (σ × List (Observation σ)) α := fun s =>
  let (x, s') := r s.1
  (x, s', s.2 ++ [⟨deed x, s'⟩])

/-- The handler that also keeps everything that is done. -/
def observed (h : Handler σ) : Handler (σ × List (Observation σ)) where
  resend request := observing (.send request) (h.resend request)
  session s := h.session s.1
  refreshCsrf := observing .csrf h.refreshCsrf
  credentials := observing .credentials h.credentials
  login c := observing (.login c) (h.login c)
  refreshToken := observing .refresh h.refreshToken
  persist s := (h.persist s.1, s.2 ++ [⟨.persist, h.persist s.1⟩])
  cancelled s := h.cancelled s.1
  report e s := (h.report e s.1, s.2 ++ [⟨.report e, h.report e s.1⟩])

end Handler

/-! ## Recorded computations -/

namespace Run

variable {σ α β : Type}

/-- A computation gives a result in some state, and its observed twin gives the same with some
observations more. -/
structure Records (r : Run σ α) (r' : Run (σ × List (Observation σ)) α) (s : σ)
    (os : List (Observation σ)) (x : Except Error α) (s' : σ) : Prop where
  /-- The computation itself. -/
  plain : r s = (x, s')
  /-- Its twin. -/
  twin : ∀ before, r' (s, before) = (x, s', before ++ os)

namespace Records

variable {r : Run σ α} {r' : Run (σ × List (Observation σ)) α} {f : α → Run σ β}
  {f' : α → Run (σ × List (Observation σ)) β} {s s' t : σ} {os ps : List (Observation σ)}

/-- After a value the second computation records what it adds. -/
theorem bind_ok {y : α} {x : Except Error β} (h : Records r r' s os (.ok y) s')
    (hf : Records (f y) (f' y) s' ps x t) : Records (r >>= f) (r' >>= f') s (os ++ ps) x t := by
  refine ⟨?_, fun before => ?_⟩
  · rw [Run.bind_ok h.plain, hf.plain]
  · rw [Run.bind_ok (h.twin before), hf.twin, List.append_assoc]

/-- A failure ends both computations. -/
theorem bind_error {e : Error} (h : Records r r' s os (.error e) s') :
    Records (r >>= f) (r' >>= f') s os (.error e) s' := by
  refine ⟨?_, fun before => ?_⟩
  · rw [Run.bind_error h.plain]
  · rw [Run.bind_error (h.twin before)]

/-- A given value records nothing. -/
theorem pure (y : α) : Records (Pure.pure y) (Pure.pure y) s [] (.ok y) s := by
  refine ⟨rfl, fun before => ?_⟩
  rw [List.append_nil]
  rfl

end Records

end Run

namespace Handler

variable {σ α : Type} {h : Handler σ} {s s' : σ}

/-- A primitive records what was done. -/
theorem records_observing (deed : Except Error α → Deed) {r : Run σ α} {x : Except Error α}
    (hx : r s = (x, s')) : Run.Records r (observing deed r) s [⟨deed x, s'⟩] x s' := by
  refine ⟨hx, fun before => ?_⟩
  rw [observing, hx]

/-- Credentials that were given are recorded. -/
theorem records_provided {cr : Credentials} (hx : h.credentials s = (.ok cr, s')) :
    Run.Records h.availableCredentials h.observed.availableCredentials s
      [⟨.credentials (.ok cr), s'⟩] (.ok cr) s' := by
  have ho := (records_observing .credentials hx).twin
  refine ⟨by rw [availableCredentials, hx], fun before => ?_⟩
  rw [availableCredentials, show h.observed.credentials (s, before) = _ from ho before]

/-- Credentials that were not given are recorded. -/
theorem records_unprovided {e : Error} (hx : h.credentials s = (.error e, s')) :
    Run.Records h.availableCredentials h.observed.availableCredentials s
      [⟨.credentials (.error e), s'⟩] (.error e.asCredentialsUnavailable) s' := by
  have ho := (records_observing .credentials hx).twin
  refine ⟨by rw [availableCredentials, hx], fun before => ?_⟩
  rw [availableCredentials, show h.observed.credentials (s, before) = _ from ho before]

/-- Handing the refresh token over is recorded. -/
theorem records_persist (s : σ) :
    Run.Records (Run.change h.persist) (Run.change h.observed.persist) s
      [⟨.persist, h.persist s⟩] (.ok ()) (h.persist s) := ⟨rfl, fun _ => rfl⟩

/-- A caller that did not give up goes on, and nothing is recorded. -/
theorem records_active (hc : h.cancelled s = false) :
    Run.Records h.ensureActive h.observed.ensureActive s [] (.ok ()) s := by
  have hc' (before : List (Observation σ)) : h.observed.cancelled (s, before) = false := hc
  refine ⟨?_, fun before => ?_⟩
  · rw [ensureActive, hc, if_neg Bool.false_ne_true]
  · rw [ensureActive, hc', if_neg Bool.false_ne_true, List.append_nil]

/-- A caller that gave up goes on no more, and nothing is recorded. -/
theorem records_cancelled (hc : h.cancelled s = true) :
    Run.Records h.ensureActive h.observed.ensureActive s [] (.error .cancelled) s := by
  have hc' (before : List (Observation σ)) : h.observed.cancelled (s, before) = true := hc
  refine ⟨?_, fun before => ?_⟩
  · rw [ensureActive, hc, if_pos rfl]
  · rw [ensureActive, hc', if_pos rfl, List.append_nil]

/-- Reporting, observed. -/
theorem observed_report (e : Event) (os : List (Observation σ)) :
    h.observed.report e (s, os) = (h.report e s, os ++ [⟨.report e, h.report e s⟩]) := rfl

/-- An error comes from the last call, or the caller gave up at some state on the way. -/
def Raises (h : Handler σ) (os : List (Observation σ)) (e : Error) : Prop :=
  (∃ d, (Observation.calls os).getLast? = some d ∧ d.raised? = some e) ∨
    (e = .cancelled ∧ ∃ o ∈ os, h.cancelled o.after = true)

/-- The error of the last observation is one that is raised. -/
theorem Raises.last {e : Error} {o : Observation σ} (ho : o.deed.raised? = some e)
    (os : List (Observation σ)) : h.Raises (os ++ [o]) e := by
  have hcall : o.deed.primitive?.isSome = true := by
    cases hd : o.deed with
    | report e => rw [hd] at ho; cases ho
    | _ => rfl
  refine .inl ⟨o.deed, ?_, ho⟩
  have hone : Observation.calls [o] = [o.deed] := List.filter_cons_of_pos hcall
  rw [Observation.calls_append, hone, List.getLast?_concat]

/-- A caller that gave up at some state on the way is a reason to raise. -/
theorem Raises.gone {os : List (Observation σ)} {o : Observation σ} (ho : o ∈ os)
    (hc : h.cancelled o.after = true) : h.Raises os .cancelled := .inr ⟨rfl, o, ho, hc⟩

/-- What comes after the calls does not change what is raised. -/
theorem Raises.append {os ps : List (Observation σ)} {e : Error} (hr : h.Raises os e)
    (hp : Observation.calls ps = []) : h.Raises (os ++ ps) e := by
  rcases hr with ⟨d, hd, he⟩ | ⟨rfl, o, ho, hc⟩
  · refine .inl ⟨d, ?_, he⟩
    rw [Observation.calls_append, hp, List.append_nil, hd]
  · exact .gone (List.mem_append_left ps ho) hc

end Handler

end SessionRecovery
