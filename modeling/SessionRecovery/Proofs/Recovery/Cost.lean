import SessionRecovery.Proofs.Recovery.Bounds
import SessionRecovery.Proofs.Recovery.Shape
import SessionRecovery.Proofs.Recovery.Walk

/-!
# The cost of a call with recovery

Every primitive of a handler raises a measure of the state by no more than its price. A call uses its
primitives by the schedule of its actions, and the limits bound the actions, so prices and limits together
bound what a whole call costs.
-/

namespace SessionRecovery

variable {σ : Type}

/-- What all entries of a list cost together. -/
def total {α : Type} (price : α → Nat) : List α → Nat
  | [] => 0
  | x :: xs => price x + total price xs

theorem total_append {α : Type} (price : α → Nat) (xs ys : List α) :
    total price (xs ++ ys) = total price xs + total price ys := by
  induction xs with
  | nil => exact (Nat.zero_add _).symm
  | cons x xs ih => rw [List.cons_append, total, total, ih, Nat.add_assoc]

/-- The price of an action: that of its primitives and of the send that follows them. -/
def Action.price (price : Primitive → Nat) (a : Action) : Nat := total price (a.block ++ [.send])

/-- The most that a call costs under some limits. -/
def RecoveryLimits.cost (l : RecoveryLimits) (price : Primitive → Nat) : Nat :=
  price .send + l.csrfRefreshes.toNat * Action.refreshCsrf.price price +
    l.logins.toNat * Action.login.price price +
    l.tokenRefreshes.toNat * Action.refreshToken.price price

/-- A schedule costs its first send and the price of each action. -/
theorem total_schedule (price : Primitive → Nat) (actions : List Action) :
    total price (schedule actions) = price .send + total (Action.price price) actions := by
  rw [schedule, total]
  congr 1
  induction actions with
  | nil => rfl
  | cons a actions ih => rw [List.flatMap_cons, total_append, total, ih, Action.price]

/-- What actions cost is told by how often each kind of action is among them. -/
theorem total_prices (price : Action → Nat) (actions : List Action) :
    total price actions =
      actions.count .none * price .none + actions.count .refreshCsrf * price .refreshCsrf +
        actions.count .login * price .login + actions.count .refreshToken * price .refreshToken := by
  induction actions with
  | nil => simp [total]
  | cons a actions ih =>
    rw [total, ih]
    cases a <;> simp [Nat.add_mul] <;> omega

/-- Actions that stay within the limits cost no more than the limits allow. -/
theorem Progress.Counts.total_schedule_le {c : Controller} {p : Progress} (hp : p.Counts c)
    (price : Primitive → Nat) :
    total price (schedule p.actions) ≤ c.limits.cost price := by
  have hnone : p.actions.count .none = 0 := Nat.le_zero.mp (hp.within .none)
  have hcsrf := Nat.mul_le_mul_right (Action.refreshCsrf.price price) (hp.within .refreshCsrf)
  have hlogin := Nat.mul_le_mul_right (Action.login.price price) (hp.within .login)
  have hrefresh := Nat.mul_le_mul_right (Action.refreshToken.price price) (hp.within .refreshToken)
  simp only [RecoveryLimits.limitFor] at hcsrf hlogin hrefresh
  rw [total_schedule, total_prices, hnone, RecoveryLimits.cost]
  omega

open Observation

/-- The primitives of a call begin the schedule of its actions. -/
theorem Shape.primitives_begin {h : Handler σ} {x : Except Error Response}
    {os : List (Observation σ)} {actions : List Action} (hs : Shape h x os actions) :
    primitives os <+: schedule actions := by
  cases hs with
  | whole hp => exact ⟨[], by rw [List.append_nil, hp]⟩
  | @cut before rest o init a e hstart hb hr hx he =>
    have hnone : o.deed.primitive? = none := by
      cases hd : o.deed with
      | report event => rfl
      | _ => rw [hd] at hstart; cases hstart
    obtain ⟨later, hlater⟩ := hr
    refine ⟨later ++ [.send], ?_⟩
    rw [primitives_append, primitives_cons, hnone, hb, schedule_concat, ← hlater]
    simp

/-- Every primitive of a handler raises a measure of the state by no more than its price, and reporting does
not raise it. -/
structure Handler.Charges (h : Handler σ) (measure : σ → Nat) (price : Primitive → Nat) : Prop where
  /-- Sending. -/
  resend : ∀ request s, measure (h.resend request s).2 ≤ measure s + price .send
  /-- Getting an anti-forgery token. -/
  refreshCsrf : ∀ s, measure (h.refreshCsrf s).2 ≤ measure s + price .csrf
  /-- Asking for credentials. -/
  credentials : ∀ s, measure (h.credentials s).2 ≤ measure s + price .credentials
  /-- Logging in. -/
  login : ∀ cr s, measure (h.login cr s).2 ≤ measure s + price .login
  /-- Exchanging the refresh token. -/
  refreshToken : ∀ s, measure (h.refreshToken s).2 ≤ measure s + price .refresh
  /-- Handing the refresh token over. -/
  persist : ∀ s, measure (h.persist s) ≤ measure s + price .persist
  /-- Reporting. -/
  report : ∀ e s, measure (h.report e s) ≤ measure s

namespace Handler.Charges

variable {h : Handler σ} {measure : σ → Nat} {price : Primitive → Nat} {request : Request}
  {s t : σ}

/-- What is observed costs the price of its primitive. -/
theorem shows_le (hc : h.Charges measure price) {o : Observation σ}
    (ho : h.Shows request s o) :
    measure o.after ≤ measure s + total price (primitives [o]) := by
  rw [ho.after_eq]
  obtain ⟨deed, after⟩ := o
  cases deed with
  | send r result => exact hc.resend r s
  | csrf result => exact hc.refreshCsrf s
  | credentials result => exact hc.credentials s
  | login credentials result => exact hc.login credentials s
  | refresh result => exact hc.refreshToken s
  | persist => exact hc.persist s
  | report event => exact hc.report event s

/-- A walk costs the prices of its primitives. -/
theorem walk_le (hc : h.Charges measure price) {os : List (Observation σ)}
    (hw : h.Walk request s os t) :
    measure t ≤ measure s + total price (primitives os) := by
  induction hw with
  | nil => exact Nat.le_add_right _ _
  | cons ho hos ih =>
    have hone := hc.shows_le ho
    rw [primitives_cons, total_append]
    simp only [primitives_cons, primitives_nil, List.append_nil] at hone
    omega

/-- A call costs no more than its limits allow. -/
theorem execute_le (hc : h.Charges measure price) (c : Controller) (request : Request) (s : σ) :
    measure (c.execute h request s).2.2 ≤ measure s + c.limits.cost price := by
  obtain ⟨first, s₁, os, x, p, t, hsend, hcourse, hrun, -⟩ := c.course_execute h request s
  have hwalk : h.Walk request s (⟨.send request first, s₁⟩ :: os) t := .cons ⟨rfl, hsend⟩ hcourse.walk
  obtain ⟨later, hlater⟩ := (hcourse.shape [⟨.send request first, s₁⟩] rfl).primitives_begin
  have hbound := (hcourse.counts (.start c)).total_schedule_le price
  rw [← hlater, total_append] at hbound
  have hcost := hc.walk_le hwalk
  have hreport := hc.report (.recoveryOutcome (Controller.outcome request p x)) t
  rw [hrun]
  simp only [List.singleton_append] at hbound
  dsimp only
  omega

end Handler.Charges

end SessionRecovery
