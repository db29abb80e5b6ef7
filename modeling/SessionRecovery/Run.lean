import SessionRecovery.Error

/-!
# Runs

A computation that changes a state and may fail. A failure ends the computation and keeps the state that
was reached.
-/

namespace SessionRecovery

/-- A computation over a state. -/
def Run (σ α : Type) := σ → Except Error α × σ

namespace Run

/-- Gives a value. -/
def give {σ α : Type} (x : α) : Run σ α := fun s => (.ok x, s)

/-- Goes on with the value of a computation; a failure ends both. -/
def andThen {σ α β : Type} (r : Run σ α) (f : α → Run σ β) : Run σ β := fun s =>
  match r s with
  | (.ok x, s') => f x s'
  | (.error e, s') => (.error e, s')

instance {σ : Type} : Monad (Run σ) where
  pure := give
  bind := andThen

/-- Fails. -/
def fail {σ α : Type} (e : Error) : Run σ α := fun s => (.error e, s)

/-- Looks at the state. -/
def look {σ α : Type} (f : σ → α) : Run σ α := fun s => (.ok (f s), s)

/-- Changes the state. -/
def change {σ : Type} (f : σ → σ) : Run σ Unit := fun s => (.ok (), f s)

/-- Gives a result that is known already. -/
def ofResult {σ α : Type} (r : Except Error α) : Run σ α := fun s => (r, s)

/-- A given value leaves the state. -/
@[simp] theorem pure_apply {σ α : Type} (x : α) (s : σ) :
    (pure x : Run σ α) s = (.ok x, s) := rfl

/-- A failure leaves the state. -/
@[simp] theorem fail_apply {σ α : Type} (e : Error) (s : σ) :
    (fail e : Run σ α) s = (.error e, s) := rfl

/-- A look leaves the state. -/
@[simp] theorem look_apply {σ α : Type} (f : σ → α) (s : σ) : look f s = (.ok (f s), s) := rfl

/-- A change never fails. -/
@[simp] theorem change_apply {σ : Type} (f : σ → σ) (s : σ) : change f s = (.ok (), f s) := rfl

/-- A known result leaves the state. -/
@[simp] theorem ofResult_apply {σ α : Type} (r : Except Error α) (s : σ) :
    ofResult r s = (r, s) := rfl

/-- The second computation starts where the first one ended. -/
theorem bind_apply {σ α β : Type} (r : Run σ α) (f : α → Run σ β) (s : σ) :
    (r >>= f) s = match r s with
      | (.ok x, s') => f x s'
      | (.error e, s') => (.error e, s') := rfl

/-- After a value the second computation goes on. -/
theorem bind_ok {σ α β : Type} {r : Run σ α} {f : α → Run σ β} {s s' : σ} {x : α}
    (h : r s = (.ok x, s')) : (r >>= f) s = f x s' := by
  rw [bind_apply, h]

/-- A failure ends both computations. -/
theorem bind_error {σ α β : Type} {r : Run σ α} {f : α → Run σ β} {s s' : σ} {e : Error}
    (h : r s = (.error e, s')) : (r >>= f) s = (.error e, s') := by
  rw [bind_apply, h]

instance {σ : Type} : LawfulMonad (Run σ) := by
  refine LawfulMonad.mk' (Run σ) (fun r => ?_) (fun _ _ => rfl) (fun r f g => ?_)
  · funext s
    change (r >>= pure) s = r s
    rw [bind_apply]
    rcases r s with ⟨_ | _, _⟩ <;> rfl
  · funext s
    simp only [bind_apply]
    rcases r s with ⟨_ | _, _⟩ <;> rfl

/-- A second computation that gives a value began where the first one gave one. -/
theorem exists_of_bind_ok {σ α β : Type} {r : Run σ α} {f : α → Run σ β} {s t : σ} {y : β}
    (h : (r >>= f) s = (.ok y, t)) : ∃ x s', r s = (.ok x, s') ∧ f x s' = (.ok y, t) := by
  obtain ⟨x, s', hr⟩ : ∃ x s', r s = (x, s') := ⟨_, _, rfl⟩
  cases x with
  | error e =>
    rw [bind_error hr] at h
    cases h
  | ok x =>
    rw [bind_ok hr] at h
    exact ⟨x, s', hr, h⟩

/-- What leaves the state and is done after a computation changes neither where it ends nor its failure. -/
theorem bind_of_still {σ α β : Type} (r : Run σ α) (f : α → Run σ β) (hf : ∀ x t, (f x t).2 = t)
    (s : σ) : ((r >>= f) s).2 = (r s).2 ∧ ∀ e, (r s).1 = .error e → ((r >>= f) s).1 = .error e := by
  obtain ⟨x, s', hx⟩ : ∃ x s', r s = (x, s') := ⟨_, _, rfl⟩
  rw [hx]
  cases x with
  | error e =>
    rw [bind_error hx]
    exact ⟨rfl, fun e' he => congrArg Except.error (Except.error.inj he)⟩
  | ok x =>
    rw [bind_ok hx]
    exact ⟨hf x s', fun e he => (nomatch he)⟩

end Run

end SessionRecovery
