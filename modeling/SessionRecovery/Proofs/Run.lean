import Mathlib.Logic.Basic
import SessionRecovery.Run

/-!
# Runs

What holds of runs however they are put together: when they succeed, and what two of them have in common.
-/

/-! ## Steps that may fail

Steps taken one after the other succeed when all of them do, and fail with the fault of the first that fails.
The first entry of a list that a search ends at is told by the entries in front of it. -/

namespace SessionRecovery

variable {ε α β : Type}

/-- Two steps give a result when the first gives something from which the second gives it. -/
theorem bind_eq_ok_iff {x : Except ε α} {f : α → Except ε β} {b : β} :
    x >>= f = .ok b ↔ ∃ a, x = .ok a ∧ f a = .ok b := by
  cases x with
  | error e => exact ⟨fun h => (nomatch h), fun ⟨_, h, _⟩ => (nomatch h)⟩
  | ok a => exact ⟨fun h => ⟨a, rfl, h⟩, fun ⟨_, rfl, h⟩ => h⟩

/-- Two steps fail when the first does, or when the second does with what the first gives. -/
theorem bind_eq_error_iff {x : Except ε α} {f : α → Except ε β} {fault : ε} :
    x >>= f = .error fault ↔ x = .error fault ∨ ∃ a, x = .ok a ∧ f a = .error fault := by
  cases x with
  | error e => simp [bind, Except.bind]
  | ok a => simp [bind, Except.bind]

/-- A search ends at one of the entries of a list, and passes all in front of it. -/
def FirstIn (ends passes : α → Prop) (entries : List α) : Prop :=
  ∃ earlier entry later, entries = earlier ++ entry :: later ∧ ends entry ∧ ∀ v ∈ earlier, passes v

variable {ends passes : α → Prop} {first : α} {entries : List α}

/-- There is nothing to end at in an empty list. -/
@[simp] theorem firstIn_nil : ¬ FirstIn ends passes [] := by
  rintro ⟨earlier, entry, later, h, -⟩
  exact absurd h.symm (List.append_ne_nil_of_right_ne_nil earlier (List.cons_ne_nil entry later))

/-- A search ends at the first entry, or passes it and ends at a later one. -/
theorem firstIn_cons_iff :
    FirstIn ends passes (first :: entries) ↔ ends first ∨ passes first ∧ FirstIn ends passes entries := by
  constructor
  · rintro ⟨earlier, entry, later, h, hends, hpasses⟩
    cases earlier with
    | nil =>
      cases h
      exact .inl hends
    | cons v earlier =>
      cases h
      have hlater := fun w hw => hpasses w (List.mem_cons_of_mem _ hw)
      exact .inr ⟨hpasses _ List.mem_cons_self, earlier, entry, later, rfl, hends, hlater⟩
  · rintro (hends | ⟨hfirst, earlier, entry, later, rfl, hends, hpasses⟩)
    · exact ⟨[], first, entries, rfl, hends, fun v hv => absurd hv List.not_mem_nil⟩
    · exact ⟨first :: earlier, entry, later, rfl, hends, List.forall_mem_cons.mpr ⟨hfirst, hpasses⟩⟩

end SessionRecovery

/-! ## Two runs in lockstep

What two runs have in common is stated by three relations: one between the states that they have reached, one
between the values that they give, and one between the errors that they fail with. Runs go in lockstep when
related states lead to related states, and either to related values or to related errors. Everything that
computations are made of keeps them in lockstep. -/

namespace SessionRecovery

/-- Two results are related values, or related errors. -/
inductive Tally {ε ζ α β : Type} (E : ε → ζ → Prop) (A : α → β → Prop) :
    Except ε α → Except ζ β → Prop
  /-- Both give values. -/
  | ok {x : α} {y : β} (h : A x y) : Tally E A (.ok x) (.ok y)
  /-- Both fail. -/
  | error {e : ε} {f : ζ} (h : E e f) : Tally E A (.error e) (.error f)

namespace Tally

variable {ε ζ α β γ δ : Type} {E : ε → ζ → Prop} {A : α → β → Prop} {B : γ → δ → Prop}

theorem mono {A' : α → β → Prop} (h : ∀ x y, A x y → A' x y) {x : Except ε α} {y : Except ζ β}
    (hxy : Tally E A x y) : Tally E A' x y := by
  cases hxy with
  | ok ha => exact .ok (h _ _ ha)
  | error he => exact .error he

theorem of_eq {E : ε → ε → Prop} (hE : ∀ e, E e e) {x y : Except ε α} (h : y = x) :
    Tally E (fun a b => b = a) x y := by
  subst h
  cases y with
  | ok a => exact .ok rfl
  | error e => exact .error (hE e)

theorem bind {x : Except ε α} {y : Except ζ β} {f : α → Except ε γ} {g : β → Except ζ δ}
    (hxy : Tally E A x y) (hf : ∀ a b, A a b → Tally E B (f a) (g b)) :
    Tally E B (x >>= f) (y >>= g) := by
  cases hxy with
  | ok ha => exact hf _ _ ha
  | error he => exact .error he

/-- Results that tally by equality give the same value or none. -/
theorem toOption_eq {x : Except ε α} {y : Except ζ α} (h : Tally E (fun a b => b = a) x y) :
    y.toOption = x.toOption := by
  cases h with
  | ok ha => exact congrArg some ha
  | error _ => rfl

end Tally

namespace Run

variable {σ τ α β γ δ : Type} {R : σ → τ → Prop} {E : Error → Error → Prop} {A : α → β → Prop}
  {B : γ → δ → Prop}

/-- From related states, two runs give results that tally and end in related states. -/
def Lockstep (R : σ → τ → Prop) (E : Error → Error → Prop) (A : α → β → Prop) (r : Run σ α)
    (q : Run τ β) : Prop :=
  ∀ s t, R s t → Tally E A (r s).1 (q t).1 ∧ R (r s).2 (q t).2

/-- Two runs whose results tally succeed together or fail together. -/
theorem ends_of_tally {r : Run σ α} {q : Run τ β} {s : σ} {t : τ}
    (hresult : Tally E A (r s).1 (q t).1) (hend : R (r s).2 (q t).2) :
    (∃ x y s' t', r s = (.ok x, s') ∧ q t = (.ok y, t') ∧ A x y ∧ R s' t') ∨
    ∃ e f s' t', r s = (.error e, s') ∧ q t = (.error f, t') ∧ E e f ∧ R s' t' := by
  obtain ⟨x, s', hx⟩ : ∃ x s', r s = (x, s') := ⟨_, _, rfl⟩
  obtain ⟨y, t', hy⟩ : ∃ y t', q t = (y, t') := ⟨_, _, rfl⟩
  rw [hx, hy] at hresult hend
  cases hresult with
  | ok ha => exact .inl ⟨_, _, s', t', hx, hy, ha, hend⟩
  | error he => exact .inr ⟨_, _, s', t', hx, hy, he, hend⟩

/-- After two runs whose results tally, runs in lockstep go on in lockstep. -/
theorem bind_of_tally {r : Run σ α} {q : Run τ β} {f : α → Run σ γ} {g : β → Run τ δ} {s : σ}
    {t : τ} (hresult : Tally E A (r s).1 (q t).1) (hend : R (r s).2 (q t).2)
    (hf : ∀ x y, A x y → Lockstep R E B (f x) (g y)) :
    Tally E B ((r >>= f) s).1 ((q >>= g) t).1 ∧ R ((r >>= f) s).2 ((q >>= g) t).2 := by
  rcases ends_of_tally hresult hend with
    ⟨x, y, s', t', hx, hy, ha, hst⟩ | ⟨e, e', s', t', hx, hy, he, hst⟩
  · rw [Run.bind_ok hx, Run.bind_ok hy]
    exact hf x y ha s' t' hst
  · rw [Run.bind_error hx, Run.bind_error hy]
    exact ⟨.error he, hst⟩

namespace Lockstep

theorem pure {x : α} {y : β} (h : A x y) :
    Lockstep R E A (Pure.pure x : Run σ α) (Pure.pure y : Run τ β) := fun _ _ hst => ⟨.ok h, hst⟩

theorem fail {e f : Error} (h : E e f) :
    Lockstep R E A (Run.fail e : Run σ α) (Run.fail f : Run τ β) := fun _ _ hst => ⟨.error h, hst⟩

theorem ofResult {x : Except Error α} {y : Except Error β} (h : Tally E A x y) :
    Lockstep R E A (Run.ofResult x : Run σ α) (Run.ofResult y : Run τ β) := fun _ _ hst => ⟨h, hst⟩

theorem look {f : σ → α} {g : τ → β} (h : ∀ s t, R s t → A (f s) (g t)) :
    Lockstep R E A (Run.look f) (Run.look g) := fun s t hst => ⟨.ok (h s t hst), hst⟩

theorem change {f : σ → σ} {g : τ → τ} (h : ∀ s t, R s t → R (f s) (g t)) :
    Lockstep R E (fun _ _ => True) (Run.change f) (Run.change g) := fun s t hst =>
  ⟨.ok trivial, h s t hst⟩

/-- Runs in lockstep succeed together or fail together from related states. -/
theorem ends {r : Run σ α} {q : Run τ β} (hr : Lockstep R E A r q) {s : σ} {t : τ} (hst : R s t) :
    (∃ x y s' t', r s = (.ok x, s') ∧ q t = (.ok y, t') ∧ A x y ∧ R s' t') ∨
    ∃ e f s' t', r s = (.error e, s') ∧ q t = (.error f, t') ∧ E e f ∧ R s' t' :=
  ends_of_tally (hr s t hst).1 (hr s t hst).2

/-- Two computations in a row. -/
theorem bind {r : Run σ α} {q : Run τ β} {f : α → Run σ γ} {g : β → Run τ δ}
    (hr : Lockstep R E A r q) (hf : ∀ x y, A x y → Lockstep R E B (f x) (g y)) :
    Lockstep R E B (r >>= f) (q >>= g) := fun s t hst =>
  bind_of_tally (hr s t hst).1 (hr s t hst).2 hf

end Lockstep

end Run

end SessionRecovery

/-! ## Two runs side by side

What two runs have in common is stated by two relations: one between the states that they have reached, and
one between the values that they give. Runs are coupled when related states lead to related states, and
either to related values or to one and the same error. Everything that computations are made of keeps runs
coupled. -/

namespace SessionRecovery

/-- Two results are related values, or the same error. -/
inductive Agree {ε α β : Type} (A : α → β → Prop) : Except ε α → Except ε β → Prop
  /-- Both give values. -/
  | ok {x : α} {y : β} (h : A x y) : Agree A (.ok x) (.ok y)
  /-- Both fail in the same way. -/
  | error (e : ε) : Agree A (.error e) (.error e)

namespace Agree

variable {ε α β γ δ : Type} {A : α → β → Prop} {B : γ → δ → Prop}

theorem mono {A' : α → β → Prop} (h : ∀ x y, A x y → A' x y) {x : Except ε α} {y : Except ε β}
    (hxy : Agree A x y) : Agree A' x y := by
  cases hxy with
  | ok ha => exact .ok (h _ _ ha)
  | error e => exact .error e

theorem of_eq {x y : Except ε α} (h : y = x) : Agree (fun a b => b = a) x y := by
  subst h
  cases y with
  | ok a => exact .ok rfl
  | error e => exact .error e

theorem eq {x y : Except ε α} (h : Agree (fun a b => b = a) x y) : y = x := by
  cases h with
  | ok h => rw [h]
  | error e => rfl

/-- The related values are those that are given. -/
theorem attach {x : Except ε α} {y : Except ε β} (h : Agree A x y) :
    Agree (fun a b => x = .ok a ∧ y = .ok b ∧ A a b) x y := by
  cases h with
  | ok h => exact .ok ⟨rfl, rfl, h⟩
  | error e => exact .error e

theorem bind {x : Except ε α} {y : Except ε β} {f : α → Except ε γ} {g : β → Except ε δ}
    (hxy : Agree A x y) (hf : ∀ a b, A a b → Agree B (f a) (g b)) :
    Agree B (x >>= f) (y >>= g) := by
  cases hxy with
  | ok ha => exact hf _ _ ha
  | error e => exact .error e

/-- Results agree when they tally and the errors are the same. -/
theorem iff_tally {x : Except ε α} {y : Except ε β} : Agree A x y ↔ Tally Eq A x y := by
  constructor
  · rintro (h | e)
    · exact .ok h
    · exact .error rfl
  · rintro (h | rfl)
    · exact .ok h
    · exact .error _

/-- Results that agree tally, whatever errors are related. -/
theorem tally {E : ε → ε → Prop} (hE : ∀ e, E e e) {x : Except ε α} {y : Except ε β} (h : Agree A x y) :
    Tally E A x y := by
  cases h with
  | ok ha => exact .ok ha
  | error e => exact .error (hE e)

end Agree

namespace Run

variable {σ τ α β γ δ : Type} {R : σ → τ → Prop} {A : α → β → Prop} {B : γ → δ → Prop}

/-- From related states, two runs give results that agree and end in related states. -/
def Couples (R : σ → τ → Prop) (A : α → β → Prop) (r : Run σ α) (q : Run τ β) : Prop :=
  ∀ s t, R s t → Agree A (r s).1 (q t).1 ∧ R (r s).2 (q t).2

/-- Runs are coupled when they go in lockstep and fail with the same errors. -/
theorem couples_iff_lockstep {r : Run σ α} {q : Run τ β} : Couples R A r q ↔ Lockstep R Eq A r q := by
  simp only [Couples, Lockstep, Agree.iff_tally]

/-- Two runs whose results agree succeed together or fail together. -/
theorem ends_of_agree {r : Run σ α} {q : Run τ β} {s : σ} {t : τ}
    (hresult : Agree A (r s).1 (q t).1) (hend : R (r s).2 (q t).2) :
    (∃ x y s' t', r s = (.ok x, s') ∧ q t = (.ok y, t') ∧ A x y ∧ R s' t') ∨
    ∃ e s' t', r s = (.error e, s') ∧ q t = (.error e, t') ∧ R s' t' := by
  obtain ⟨x, s', hx⟩ : ∃ x s', r s = (x, s') := ⟨_, _, rfl⟩
  obtain ⟨y, t', hy⟩ : ∃ y t', q t = (y, t') := ⟨_, _, rfl⟩
  rw [hx, hy] at hresult hend
  cases hresult with
  | ok ha => exact .inl ⟨_, _, s', t', hx, hy, ha, hend⟩
  | error e => exact .inr ⟨e, s', t', hx, hy, hend⟩

/-- After two runs whose results agree, coupled runs go on alike. -/
theorem bind_of_agree {r : Run σ α} {q : Run τ β} {f : α → Run σ γ} {g : β → Run τ δ} {s : σ}
    {t : τ} (hresult : Agree A (r s).1 (q t).1) (hend : R (r s).2 (q t).2)
    (hf : ∀ x y, A x y → Couples R B (f x) (g y)) :
    Agree B ((r >>= f) s).1 ((q >>= g) t).1 ∧ R ((r >>= f) s).2 ((q >>= g) t).2 := by
  rcases ends_of_agree hresult hend with ⟨x, y, s', t', hx, hy, ha, hst⟩ | ⟨e, s', t', hx, hy, hst⟩
  · rw [Run.bind_ok hx, Run.bind_ok hy]
    exact hf x y ha s' t' hst
  · rw [Run.bind_error hx, Run.bind_error hy]
    exact ⟨.error e, hst⟩

namespace Couples

/-- Coupled runs go in lockstep, whatever errors are related. -/
theorem lockstep {E : Error → Error → Prop} (hE : ∀ e, E e e) {r : Run σ α} {q : Run τ β}
    (h : Couples R A r q) : Lockstep R E A r q :=
  fun s t hst => ⟨(h s t hst).1.tally hE, (h s t hst).2⟩

theorem pure {x : α} {y : β} (h : A x y) :
    Couples R A (Pure.pure x : Run σ α) (Pure.pure y : Run τ β) := fun _ _ hst => ⟨.ok h, hst⟩

theorem fail (e : Error) : Couples R A (Run.fail e : Run σ α) (Run.fail e : Run τ β) :=
  fun _ _ hst => ⟨.error e, hst⟩

theorem ofResult {x : Except Error α} {y : Except Error β} (h : Agree A x y) :
    Couples R A (Run.ofResult x : Run σ α) (Run.ofResult y : Run τ β) := fun _ _ hst => ⟨h, hst⟩

theorem look {f : σ → α} {g : τ → β} (h : ∀ s t, R s t → A (f s) (g t)) :
    Couples R A (Run.look f) (Run.look g) := fun s t hst => ⟨.ok (h s t hst), hst⟩

theorem change {f : σ → σ} {g : τ → τ} (h : ∀ s t, R s t → R (f s) (g t)) :
    Couples R (fun _ _ => True) (Run.change f) (Run.change g) := fun s t hst =>
  ⟨.ok trivial, h s t hst⟩

/-- Coupled runs from related states succeed together or fail together. -/
theorem ends {r : Run σ α} {q : Run τ β} (hr : Couples R A r q) {s : σ} {t : τ} (hst : R s t) :
    (∃ x y s' t', r s = (.ok x, s') ∧ q t = (.ok y, t') ∧ A x y ∧ R s' t') ∨
    ∃ e s' t', r s = (.error e, s') ∧ q t = (.error e, t') ∧ R s' t' :=
  ends_of_agree (hr s t hst).1 (hr s t hst).2

/-- Two computations in a row. -/
theorem bind {r : Run σ α} {q : Run τ β} {f : α → Run σ γ} {g : β → Run τ δ}
    (hr : Couples R A r q) (hf : ∀ x y, A x y → Couples R B (f x) (g y)) :
    Couples R B (r >>= f) (q >>= g) := fun s t hst =>
  bind_of_agree (hr s t hst).1 (hr s t hst).2 hf

end Couples

end Run

end SessionRecovery
