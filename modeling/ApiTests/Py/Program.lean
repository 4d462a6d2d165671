import Mathlib.Tactic.Common

/-!
# Programs on a state that may raise

`Program σ ε α` is a computation on a state `σ` that returns an `α` or raises an `ε`, and keeps the
state it has reached either way, as a Python function does that writes files on its way to an
exception. A `Triple` says from where the computation starts, and what holds where it returns and where
it raises.

Results:
* `Triple.bind`, `Triple.handle`, `Triple.withCleanup`: **the rules for a sequence, for `try` with a
  handler and for `try` with a cleanup**.
* `Keeps.bind`, `Keeps.handle`: **a predicate that every step keeps is kept by the whole.**
* `bind_returns`, `handle_returns`: a whole that returns, taken apart.
-/

namespace ApiTests.Py

/-- A computation on a state that returns or raises. -/
def Program (σ ε α : Type) : Type := σ → Except ε α × σ

namespace Program

variable {σ ε α β : Type}

instance : Monad (Program σ ε) where
  pure a := fun s => (.ok a, s)
  bind x f := fun s =>
    match x s with
    | (.ok a, s') => f a s'
    | (.error e, s') => (.error e, s')

/-- `raise e`. -/
def raise (e : ε) : Program σ ε α := fun s => (.error e, s)

/-- The state. -/
def get : Program σ ε σ := fun s => (.ok s, s)

def modify (f : σ → σ) : Program σ ε Unit := fun s => (.ok (), f s)

/-- A computation without a state. -/
def lift (x : Except ε α) : Program σ ε α := fun s => (x, s)

/-- `try: x` with `except e: handler(e)`. -/
def handle (x : Program σ ε α) (handler : ε → Program σ ε α) : Program σ ε α := fun s =>
  match x s with
  | (.ok a, s') => (.ok a, s')
  | (.error e, s') => handler e s'

/-- `try: x` with `finally: cleanup`. What the cleanup raises comes in place of what `x` raised. -/
def withCleanup (x : Program σ ε α) (cleanup : Program σ ε Unit) : Program σ ε α := fun s =>
  match x s with
  | (result, s') =>
    match cleanup s' with
    | (.ok _, s'') => (result, s'')
    | (.error e, s'') => (.error e, s'')

/-- **From `P` a return is in `Q`, a raise in `E`.** -/
def Triple (P : σ → Prop) (x : Program σ ε α) (Q : α → σ → Prop) (E : ε → σ → Prop) : Prop :=
  ∀ s, P s → match x s with
    | (.ok a, s') => Q a s'
    | (.error e, s') => E e s'

variable {P P' : σ → Prop} {Q Q' : α → σ → Prop} {R : β → σ → Prop} {E E' : ε → σ → Prop}
  {x : Program σ ε α} {f : α → Program σ ε β}

theorem Triple.returns (h : Triple P x Q E) {s s' : σ} {a : α} (hs : P s) (hx : x s = (.ok a, s')) :
    Q a s' := by
  have := h s hs
  rwa [hx] at this

theorem Triple.weaken (h : Triple P x Q E) (hP : ∀ s, P' s → P s) (hQ : ∀ a s, Q a s → Q' a s)
    (hE : ∀ e s, E e s → E' e s) : Triple P' x Q' E' := by
  intro s hs
  have := h s (hP s hs)
  cases hx : x s with
  | mk result s' =>
    rw [hx] at this
    cases result with
    | ok a => exact hQ a s' this
    | error e => exact hE e s' this

/-- What `P` says of every state, it says once. -/
theorem Triple.assume {c : Prop} (hc : ∀ s, P s → c) (h : c → Triple P x Q E) : Triple P x Q E :=
  fun s hs => h (hc s hs) s hs

/-- A state that some `i` describes. -/
theorem Triple.ofExists {ι : Sort*} {P : ι → σ → Prop} (h : ∀ i, Triple (P i) x Q E) :
    Triple (fun s => ∃ i, P i s) x Q E := by
  rintro s ⟨i, hs⟩
  exact h i s hs

/-- A fact that goes with the state. -/
theorem Triple.ofAnd {c : Prop} (h : c → Triple P x Q E) : Triple (fun s => c ∧ P s) x Q E := by
  rintro s ⟨hc, hs⟩
  exact h hc s hs

theorem Triple.pure {a : α} (h : ∀ s, P s → Q a s) :
    Triple P (Pure.pure a : Program σ ε α) Q E := h

/-- **A sequence.** -/
theorem Triple.bind (hx : Triple P x Q E) (hf : ∀ a, Triple (Q a) (f a) R E) :
    Triple P (x >>= f) R E := by
  intro s hs
  have := hx s hs
  change match (match x s with
    | (.ok a, s') => f a s'
    | (.error e, s') => (.error e, s')) with
    | (.ok b, s') => R b s'
    | (.error e, s') => E e s'
  cases h : x s with
  | mk result s' =>
    rw [h] at this
    cases result with
    | ok a => exact hf a s' this
    | error e => exact this

theorem Triple.raise {e : ε} (h : ∀ s, P s → E e s) :
    Triple P (Program.raise e : Program σ ε α) Q E := h

theorem Triple.get {Q : σ → σ → Prop} (h : ∀ s, P s → Q s s) :
    Triple P (Program.get : Program σ ε σ) Q E := h

/-- The state that is read is one that `P` admits. -/
theorem Triple.getBind {f : σ → Program σ ε β} (h : ∀ s, P s → Triple P (f s) R E) :
    Triple P (Program.get >>= f) R E := fun s hs => h s hs s hs

/-- The state that is read is the one the rest starts from. -/
theorem Triple.getEq {f : σ → Program σ ε β} (h : ∀ s, P s → Triple (fun s' => s' = s) (f s) R E) :
    Triple P (Program.get >>= f) R E := fun s hs => h s hs s rfl

theorem Triple.modify {g : σ → σ} {Q : Unit → σ → Prop} (h : ∀ s, P s → Q () (g s)) :
    Triple P (Program.modify g : Program σ ε Unit) Q E := h

theorem Triple.lift {y : Except ε α} (hok : ∀ a, y = .ok a → ∀ s, P s → Q a s)
    (herror : ∀ e, y = .error e → ∀ s, P s → E e s) : Triple P (Program.lift y) Q E := by
  intro s hs
  cases y with
  | ok a => exact hok a rfl s hs
  | error e => exact herror e rfl s hs

/-- **`try` with a handler.** -/
theorem Triple.handle {handler : ε → Program σ ε α} (hx : Triple P x Q E')
    (hhandler : ∀ e, Triple (E' e) (handler e) Q E) : Triple P (Program.handle x handler) Q E := by
  intro s hs
  have := hx s hs
  unfold Program.handle
  cases h : x s with
  | mk result s' =>
    rw [h] at this
    cases result with
    | ok a => exact this
    | error e => exact hhandler e s' this

/-- **`try` with a cleanup**, which runs behind a return and behind a raise. -/
theorem Triple.withCleanup {cleanup : Program σ ε Unit} {M : α → σ → Prop} {F : ε → σ → Prop}
    (hx : Triple P x M F) (hreturn : ∀ a, Triple (M a) cleanup (fun _ => Q a) E)
    (hraise : ∀ e, Triple (F e) cleanup (fun _ => E e) E) :
    Triple P (Program.withCleanup x cleanup) Q E := by
  intro s hs
  have hrun := hx s hs
  unfold Program.withCleanup
  rcases h : x s with ⟨result, s'⟩
  rw [h] at hrun
  cases result with
  | ok a =>
    have hclean := hreturn a s' hrun
    rcases hc : cleanup s' with ⟨done, s''⟩
    rw [hc] at hclean
    simp only [hc]
    cases done with
    | ok u => exact hclean
    | error e => exact hclean
  | error e =>
    have hclean := hraise e s' hrun
    rcases hc : cleanup s' with ⟨done, s''⟩
    rw [hc] at hclean
    simp only [hc]
    cases done with
    | ok u => exact hclean
    | error e' => exact hclean

theorem Triple.ite {c : Prop} [Decidable c] {y : Program σ ε α} (ht : c → Triple P x Q E)
    (hf : ¬ c → Triple P y Q E) : Triple P (if c then x else y) Q E := by
  by_cases h : c
  · rw [if_pos h]
    exact ht h
  · rw [if_neg h]
    exact hf h

/-! ## Kept predicates -/

/-- The computation keeps `P`, wherever it ends. -/
def Keeps (P : σ → Prop) (x : Program σ ε α) : Prop := Triple P x (fun _ => P) fun _ => P

theorem Keeps.pure {a : α} : Keeps P (Pure.pure a : Program σ ε α) := fun _ h => h

theorem Keeps.raise {e : ε} : Keeps P (Program.raise e : Program σ ε α) := fun _ h => h

theorem Keeps.get : Keeps P (Program.get : Program σ ε σ) := fun _ h => h

theorem Keeps.modify {g : σ → σ} (h : ∀ s, P s → P (g s)) :
    Keeps P (Program.modify g : Program σ ε Unit) := h

theorem Keeps.handle {handler : ε → Program σ ε α} (hx : Keeps P x) (hhandler : ∀ e, Keeps P (handler e)) :
    Keeps P (Program.handle x handler) := Triple.handle hx hhandler

theorem Keeps.lift {y : Except ε α} : Keeps P (Program.lift y : Program σ ε α) :=
  Triple.lift (fun _ _ _ h => h) fun _ _ _ h => h

theorem Keeps.bind (hx : Keeps P x) (hf : ∀ a, Keeps P (f a)) : Keeps P (x >>= f) :=
  Triple.bind hx hf

theorem Keeps.ite {c : Prop} [Decidable c] {y : Program σ ε α} (hx : Keeps P x) (hy : Keeps P y) :
    Keeps P (if c then x else y) :=
  Triple.ite (fun _ => hx) fun _ => hy

/-! ## Computations that return -/

variable {s s' s'' : σ} {a : α} {b : β}

/-- **A sequence returns iff both do.** -/
theorem bind_returns :
    (x >>= f) s = (.ok b, s'') ↔ ∃ a s', x s = (.ok a, s') ∧ f a s' = (.ok b, s'') := by
  change (match x s with
    | (.ok a, s') => f a s'
    | (.error e, s') => (.error e, s')) = (.ok b, s'') ↔ _
  cases h : x s with
  | mk result s₁ =>
    cases result with
    | ok a =>
      constructor
      · exact fun hf => ⟨a, s₁, rfl, hf⟩
      · rintro ⟨a', s', heq, hf⟩
        cases heq
        exact hf
    | error e =>
      constructor
      · intro hf
        cases hf
      · rintro ⟨a', s', heq, -⟩
        cases heq

theorem pure_returns {c : α} : (Pure.pure c : Program σ ε α) s = (.ok a, s') ↔ c = a ∧ s = s' := by
  constructor
  · intro h
    cases h
    exact ⟨rfl, rfl⟩
  · rintro ⟨rfl, rfl⟩
    rfl

theorem lift_returns {y : Except ε α} :
    (Program.lift y : Program σ ε α) s = (.ok a, s') ↔ y = .ok a ∧ s = s' := by
  unfold Program.lift
  rw [Prod.mk.injEq]

theorem raise_returns {e : ε} : ¬ (Program.raise e : Program σ ε α) s = (.ok a, s') := by
  intro h
  cases h

/-- A `try` returns with its body or with its handler. -/
theorem handle_returns {handler : ε → Program σ ε α}
    (h : Program.handle x handler s = (.ok a, s'')) :
    x s = (.ok a, s'') ∨ ∃ e s', x s = (.error e, s') ∧ handler e s' = (.ok a, s'') := by
  unfold Program.handle at h
  cases hx : x s with
  | mk result s₁ =>
    rw [hx] at h
    cases result with
    | ok c => exact Or.inl h
    | error e => exact Or.inr ⟨e, s₁, rfl, h⟩

/-! ## Sequences from a state -/

theorem bind_apply (x : Program σ ε α) (f : α → Program σ ε β) (s : σ) :
    (x >>= f) s = match x s with
      | (.ok a, s') => f a s'
      | (.error e, s') => (.error e, s') := rfl

theorem bind_of_ok {x : Program σ ε α} {f : α → Program σ ε β} {s s' : σ} {a : α}
    (h : x s = (.ok a, s')) : (x >>= f) s = f a s' := by
  rw [bind_apply, h]

theorem bind_of_error {x : Program σ ε α} {f : α → Program σ ε β} {s s' : σ} {e : ε}
    (h : x s = (.error e, s')) : (x >>= f) s = (.error e, s') := by
  rw [bind_apply, h]

theorem bind_assoc {γ : Type} (x : Program σ ε α) (f : α → Program σ ε β) (g : β → Program σ ε γ) :
    (x >>= f) >>= g = x >>= fun a => f a >>= g := by
  funext s
  rw [bind_apply, bind_apply, bind_apply]
  rcases x s with ⟨result, s'⟩
  cases result with
  | ok a => rfl
  | error e => rfl

end Program

end ApiTests.Py
