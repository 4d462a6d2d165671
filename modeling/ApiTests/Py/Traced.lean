import ApiTests.Py.Program

/-!
# Programs that call on the outside

A program that reads files, starts processes or sends requests makes calls: an operation has an answer
of its own type, or raises. What it answers is up to an `Oracle`, which is told every call made before.
The state of a `Traced` program is its trace, every call with its answer, so that what is proved of it
is proved whatever the outside does.

Results:
* `Triple.perform`: **the rule for a call**.
* `Triple.performed`: the rule for a call that is known to answer.
-/

namespace ApiTests.Py

/-- A call and its answer. -/
structure Performed (ε : Type) {Op : Type} (Answer : Op → Type) where
  op : Op
  answer : Except ε (Answer op)

section

variable {ε Op : Type} {Answer : Op → Type}

/-- The calls of a program, the first one first. -/
abbrev Trace (ε : Type) {Op : Type} (Answer : Op → Type) : Type := List (Performed ε Answer)

/-- What the outside answers, behind the calls made so far. -/
def Oracle (ε : Type) {Op : Type} (Answer : Op → Type) : Type :=
  Trace ε Answer → (op : Op) → Except ε (Answer op)

/-- A program whose state is its trace. -/
abbrev Traced (ε : Type) {Op : Type} (Answer : Op → Type) (α : Type) : Type :=
  Program (Trace ε Answer) ε α

/-- A call. -/
def perform (oracle : Oracle ε Answer) (op : Op) : Traced ε Answer (Answer op) := fun trace =>
  (oracle trace op, trace ++ [⟨op, oracle trace op⟩])

/-- No call of the oracle raises. -/
def Oracle.Answers (oracle : Oracle ε Answer) : Prop := ∀ trace op, ∃ a, oracle trace op = .ok a

namespace Program

variable {oracle : Oracle ε Answer} {op : Op} {P : Trace ε Answer → Prop}
  {Q : Answer op → Trace ε Answer → Prop} {E : ε → Trace ε Answer → Prop}

/-- **A call.** -/
theorem Triple.perform (hok : ∀ a trace, P trace → Q a (trace ++ [⟨op, .ok a⟩]))
    (herror : ∀ e trace, P trace → E e (trace ++ [⟨op, .error e⟩])) :
    Triple P (Py.perform oracle op) Q E := by
  intro trace htrace
  unfold Py.perform
  cases oracle trace op with
  | ok a => exact hok a trace htrace
  | error e => exact herror e trace htrace

/-- A call that answers. -/
theorem Triple.performed (hanswers : oracle.Answers)
    (hok : ∀ a trace, P trace → Q a (trace ++ [⟨op, .ok a⟩])) :
    Triple P (Py.perform oracle op) Q E := by
  intro trace htrace
  obtain ⟨a, ha⟩ := hanswers trace op
  unfold Py.perform
  rw [ha]
  exact hok a trace htrace

end Program

end

end ApiTests.Py
