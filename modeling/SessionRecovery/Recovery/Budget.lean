import SessionRecovery.Response
import SessionRecovery.Session.Basic
import SessionRecovery.Settings.Basic
import SessionRecovery.Error

/-!
# What may be done about a reply

A reply asks for an action, and a budget allows it or not.
-/

/-! ## The action for a reply

Which action a reply asks for, given the session after it: a stale anti-forgery token comes first, then
whatever needs a login, then an exchange of the refresh token. A success asks for nothing. -/

namespace SessionRecovery

/-- The action that a failure of a given code asks for. -/
def Action.forCode (codes : ErrorCodes) (session : Session) (code : String) : Action :=
  if codes.isCsrf code then .refreshCsrf
  else if !session.hasRefresh || codes.isRelogin code || codes.isLoginFailed code then .login
  else if !session.hasAccess || codes.isRefresh code then .refreshToken
  else .none

/-- The action that a reply asks for. -/
def Action.select (codes : ErrorCodes) (session : Session) (r : Response) : Action :=
  match r.failure with
  | .none => .none
  | .some api => forCode codes session api.code

/-- A success asks for nothing. -/
theorem Action.select_of_isSuccess {codes : ErrorCodes} {session : Session} {r : Response}
    (h : r.isSuccess = true) : select codes session r = .none := by
  unfold select
  cases hf : r.failure with
  | none => rfl
  | some api => simp [Response.isSuccess, hf] at h

/-! ## The budget of a call

How often each action has been taken for one call. An action can be taken once more only while its count
is below its limit, so what is left shrinks with every action taken. -/

/-- The actions taken for one call. -/
structure Budget where
  /-- The limits. -/
  limits : RecoveryLimits
  /-- Fresh anti-forgery tokens. -/
  csrf : UInt8
  /-- Logins. -/
  login : UInt8
  /-- Exchanges of the refresh token. -/
  refresh : UInt8
  deriving DecidableEq

namespace Budget

/-- The budget of a call that has taken no action. -/
def full (limits : RecoveryLimits) : Budget := ⟨limits, 0, 0, 0⟩

/-- How often an action has been taken. -/
def used (b : Budget) : Action → UInt8
  | .none => 0
  | .refreshCsrf => b.csrf
  | .login => b.login
  | .refreshToken => b.refresh

/-- The budget with an action counted once more. -/
def count (b : Budget) : Action → Budget
  | .none => b
  | .refreshCsrf => { b with csrf := b.csrf + 1 }
  | .login => { b with login := b.login + 1 }
  | .refreshToken => { b with refresh := b.refresh + 1 }

/-- Takes an action: gives its number among its like, and the budget after it. -/
def consume (b : Budget) (a : Action) : Except Error (UInt8 × Budget) :=
  if a = .none then .ok (0, b)
  else if b.limits.limitFor a ≤ b.used a then .error (.recoveryExhausted a (b.used a))
  else .ok (b.used a + 1, b.count a)

/-- How many actions are left. -/
def remaining (b : Budget) : Nat :=
  (b.limits.csrfRefreshes.toNat - b.csrf.toNat) + (b.limits.logins.toNat - b.login.toNat) +
    (b.limits.tokenRefreshes.toNat - b.refresh.toNat)

/-- Counting below a bound of the same width does not overflow. -/
theorem toNat_succ_of_lt {n limit : UInt8} (h : ¬ limit ≤ n) : (n + 1).toNat = n.toNat + 1 := by
  have hlt : n.toNat < limit.toNat := by
    rw [UInt8.le_iff_toNat_le] at h
    omega
  have := limit.toNat_lt
  rw [UInt8.toNat_add]
  simp only [UInt8.toNat_one]
  omega

/-- Every action taken leaves fewer. -/
theorem remaining_consume {b b' : Budget} {a : Action} {n : UInt8} (ha : a ≠ .none)
    (h : b.consume a = .ok (n, b')) : b'.remaining < b.remaining := by
  unfold consume at h
  rw [if_neg ha] at h
  split at h
  · cases h
  · next hlt =>
    simp only [Except.ok.injEq, Prod.mk.injEq] at h
    obtain ⟨-, rfl⟩ := h
    have hsucc := toNat_succ_of_lt hlt
    rw [UInt8.le_iff_toNat_le] at hlt
    cases a with
    | none => exact absurd rfl ha
    | refreshCsrf =>
      simp only [used, RecoveryLimits.limitFor] at hlt hsucc
      simp only [remaining, count, hsucc]
      omega
    | login =>
      simp only [used, RecoveryLimits.limitFor] at hlt hsucc
      simp only [remaining, count, hsucc]
      omega
    | refreshToken =>
      simp only [used, RecoveryLimits.limitFor] at hlt hsucc
      simp only [remaining, count, hsucc]
      omega

end Budget

end SessionRecovery
