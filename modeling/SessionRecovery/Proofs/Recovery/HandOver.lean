import SessionRecovery.Proofs.Recovery.Walk

/-!
# Handing the refresh token over

The observations of a call tell in which states, and by which actions, the refresh token was handed over for
keeping. Only an action hands it over, and the exchange does so with a refresh token in hand: it was selected
because there was one, and nothing that an exchange does takes it away.
-/

namespace SessionRecovery

variable {σ : Type}

/-- One time that the refresh token is handed over. -/
structure HandOver (σ : Type) where
  /-- The action that hands it over; there may be none. -/
  action : Action
  /-- The state in which it is handed over. -/
  before : σ

namespace Observation

/-- The action that is under way after some observations, which began during a given one. -/
def underway (a : Action) : List (Observation σ) → Action
  | [] => a
  | o :: os => underway (o.deed.started?.getD a) os

/-- The hand-overs in observations that began during a given action and in a given state. -/
def handOvers (a : Action) (s : σ) : List (Observation σ) → List (HandOver σ)
  | [] => []
  | o :: os =>
    if o.deed.primitive? = some .persist then
      ⟨a, s⟩ :: handOvers (o.deed.started?.getD a) o.after os
    else handOvers (o.deed.started?.getD a) o.after os

variable {a : Action} {s : σ} {d : HandOver σ} {os : List (Observation σ)}

/-- What is under way after joined observations. -/
theorem underway_append (a : Action) (os ps : List (Observation σ)) :
    underway a (os ++ ps) = underway (underway a os) ps := by
  induction os generalizing a with
  | nil => rfl
  | cons o os ih => exact ih _

/-- Where no action begins, the same one stays under way. -/
theorem underway_eq {os : List (Observation σ)} (hs : started os = []) (a : Action) :
    underway a os = a := by
  induction os generalizing a with
  | nil => rfl
  | cons o os ih =>
    rw [started_cons, List.append_eq_nil_iff] at hs
    have ho : o.deed.started? = none := Option.toList_eq_nil_iff.mp hs.1
    rw [underway, ho, Option.getD_none]
    exact ih hs.2 a

/-- An action is under way from the report of its beginning on. -/
theorem underway_report (before os : List (Observation σ)) (operation : String) (a : Action)
    (n : UInt8) (status : UInt16) (code : String) (s : σ) :
    underway .none (before ++ [⟨.report (.recoveryStart operation a n status code), s⟩] ++ os) =
      underway a os := by
  rw [underway_append, underway_append]
  rfl

@[simp] theorem handOvers_append (a : Action) (s : σ) (os ps : List (Observation σ)) :
    handOvers a s (os ++ ps) =
      handOvers a s os ++ handOvers (underway a os) (latest s os) ps := by
  induction os generalizing a s with
  | nil => rfl
  | cons o os ih =>
    simp only [List.cons_append, handOvers, underway, latest, ih]
    split <;> rfl

/-- Where no action begins, every hand-over is made by the one that is under way. -/
theorem action_of_mem_handOvers (hs : started os = []) (hd : d ∈ handOvers a s os) :
    d.action = a := by
  induction os generalizing s with
  | nil => exact absurd hd List.not_mem_nil
  | cons o os ih =>
    rw [started_cons, List.append_eq_nil_iff] at hs
    have ho : o.deed.started? = none := Option.toList_eq_nil_iff.mp hs.1
    rw [handOvers, ho, Option.getD_none] at hd
    split at hd
    · rcases List.mem_cons.mp hd with rfl | hd
      · rfl
      · exact ih hs.2 hd
    · exact ih hs.2 hd

end Observation

open Observation

namespace Handler

variable {h : Handler σ} {request : Request} {operation : String} {a b : Action} {s t : σ}
  {d : HandOver σ} {os : List (Observation σ)}

/-- Whatever the primitives of the handler keep leads to every state in which the token was handed over. -/
theorem Walk.moves_of_mem_handOvers {R : σ → σ → Prop} [IsPreorder σ R] (hm : h.Moves R)
    (hw : h.Walk request s os t) (hd : d ∈ handOvers a s os) : R s d.before := by
  induction hw generalizing a with
  | nil => exact absurd hd List.not_mem_nil
  | @cons s t o os ho _ ih =>
    have hrest (hd : d ∈ handOvers (o.deed.started?.getD a) o.after os) : R s d.before :=
      IsTrans.trans _ _ _ (ho.moves hm) (ih hd)
    rw [handOvers] at hd
    split at hd
    · rcases List.mem_cons.mp hd with rfl | hd
      · exact Std.Refl.refl _
      · exact hrest hd
    · exact hrest hd

/-- A refresh token that was there is there. -/
def KeepsRefresh (h : Handler σ) (s t : σ) : Prop :=
  (h.session s).hasRefresh = true → (h.session t).hasRefresh = true

instance (h : Handler σ) : IsPreorder σ h.KeepsRefresh where
  refl _ := id
  trans _ _ _ hst htu hs := htu (hst hs)

/-- The token is handed over on account of an action, and an exchange of the refresh token has one. -/
def Warranted (h : Handler σ) (d : HandOver σ) : Prop :=
  d.action ≠ .none ∧ (d.action = .refreshToken → (h.session d.before).hasRefresh = true)

end Handler

/-- The refresh token is exchanged only where there is one. -/
theorem Action.hasRefresh_of_select {codes : ErrorCodes} {session : Session} {r : Response}
    (h : select codes session r = .refreshToken) : session.hasRefresh = true := by
  cases hs : session.hasRefresh with
  | true => rfl
  | false =>
    unfold select at h
    split at h
    · cases h
    · simp only [forCode, hs, Bool.not_false, Bool.true_or] at h
      split at h <;> cases h

namespace Controller

variable {c : Controller} {h : Handler σ} {request : Request} {p p' : Progress}
  {response : Response} {result x : Except Error Response} {s started t : σ} {a b : Action}
  {n : UInt8} {budget : Budget} {os : List (Observation σ)} {d : HandOver σ}

/-- What an action hands over is warranted by the answer that asked for the action. -/
theorem Starts.warranted {y : Except Error Unit} (hm : h.Moves h.KeepsRefresh)
    (hs : c.Starts h request p response s a n budget started)
    (ht : h.Takes request.operation a started os y t) (hd : d ∈ handOvers a started os) :
    h.Warranted d := by
  have ha := action_of_mem_handOvers ht.started_eq_nil hd
  refine ⟨ha ▸ hs.needed, fun hr => ?_⟩
  have hselect : Action.select c.codes (h.session s) response = .refreshToken := by
    rw [hs.selected, ← ha, hr]
  have hkept : h.KeepsRefresh s d.before :=
    IsTrans.trans _ _ _ (hs.moves hm.toConsults) ((ht.walk request).moves_of_mem_handOvers hm hd)
  exact hkept (Action.hasRefresh_of_select hselect)

/-- After an answer the token is handed over only where that is warranted. -/
theorem Course.warranted (hm : h.Moves h.KeepsRefresh)
    (hc : c.Course h request p result s os x p' t) (hd : d ∈ handOvers b s os) :
    h.Warranted d := by
  -- each turn of the loop reports its action first, so the hand-overs in it are those of the action
  induction hc generalizing b with
  | failed => exact absurd hd List.not_mem_nil
  | settled ha => exact absurd hd List.not_mem_nil
  | exhausted ha hne hb => exact absurd hd List.not_mem_nil
  | broken hs ht =>
    simp only [List.cons_append, handOvers, handOvers_append, Deed.primitive?, Deed.started?,
      reduceCtorEq, if_false, List.append_nil, Option.getD_some] at hd
    exact hs.warranted hm ht hd
  | abandoned hs ht hr hcan =>
    simp only [List.cons_append, handOvers, handOvers_append, Deed.primitive?, Deed.started?,
      reduceCtorEq, if_false, List.append_nil, Option.getD_some] at hd
    exact hs.warranted hm ht hd
  | again hs ht hr hcan hsend hrest ih =>
    simp only [List.cons_append, handOvers, handOvers_append, Deed.primitive?, Deed.started?,
      reduceCtorEq, Option.some.injEq, if_false, Option.getD_some, Option.getD_none,
      List.mem_append] at hd
    exact hd.elim (hs.warranted hm ht) ih

/-- In a whole call the token is handed over only where that is warranted, in states to which everything
leads that the primitives of the handler keep. -/
theorem warranted_observations {R : σ → σ → Prop} [IsPreorder σ R] (hm : h.Moves h.KeepsRefresh)
    (hr : h.Moves R) (hd : d ∈ handOvers .none s (c.observations h request s)) :
    R s d.before ∧ h.Warranted d := by
  refine ⟨(c.walk_observations h request s).1.moves_of_mem_handOvers hr hd, ?_⟩
  obtain ⟨first, s₁, os, x, p, t, hsend, hcourse, hrun, hobs⟩ := c.course_execute h request s
  rw [observations, hobs] at hd
  simp only [List.cons_append, handOvers, handOvers_append, Deed.primitive?, Deed.started?,
    reduceCtorEq, Option.some.injEq, if_false, List.append_nil, Option.getD_none] at hd
  exact hcourse.warranted hm hd

end Controller

end SessionRecovery
