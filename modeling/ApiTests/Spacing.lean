import Mathlib.Algebra.Order.Floor.Ring
import Mathlib.Data.List.Chain
import Mathlib.Tactic.FieldSimp
import Mathlib.Tactic.Linarith

/-!
# Spaced readings of a clock

A list of readings, the latest first, is `Spaced d` when consecutive ones are at least `d` apart.
Nothing here is about a program: the readings are elements of any ordered field.

Results:
* `Spaced.filter`: dropping readings keeps the rest spaced.
* `Spaced.length_le_ceil`: readings that all lie less than `width` apart are at most `⌈width / d⌉`.
* `Spaced.count_le_ceil`: **a half-open window of length `width` holds at most `⌈width / d⌉`**.
-/

namespace ApiTests.Spacing

variable {α : Type*} [Field α] [LinearOrder α]

/-- Consecutive readings are at least `d` apart, the latest standing first. -/
def Spaced (d : α) (readings : List α) : Prop :=
  readings.IsChain fun later earlier => earlier + d ≤ later

variable {d : α} {readings : List α}

theorem spaced_nil : Spaced d ([] : List α) := List.IsChain.nil

/-- A later reading in front. -/
theorem Spaced.cons (h : Spaced d readings) {x : α} (hx : ∀ y ∈ readings.head?, y + d ≤ x) :
    Spaced d (x :: readings) :=
  List.isChain_cons.mpr ⟨hx, h⟩

variable [IsStrictOrderedRing α]

/-- Any two readings, not only neighbours, are `d` apart. -/
theorem spaced_iff_pairwise (hd : 0 ≤ d) :
    Spaced d readings ↔ readings.Pairwise fun later earlier => earlier + d ≤ later := by
  have : IsTrans α fun later earlier => earlier + d ≤ later :=
    ⟨fun x y z hxy hyz => by linarith⟩
  exact List.isChain_iff_pairwise

theorem Spaced.filter (hd : 0 ≤ d) (h : Spaced d readings) (p : α → Bool) :
    Spaced d (readings.filter p) :=
  (spaced_iff_pairwise hd).mpr (((spaced_iff_pairwise hd).mp h).filter p)

/-- `n + 1` spaced readings span `n` distances. -/
theorem Spaced.span_le (h : Spaced d readings) {x y : α} (hx : readings.head? = some x)
    (hy : readings.getLast? = some y) : y + (readings.length - 1 : α) * d ≤ x := by
  induction readings generalizing x with
  | nil => nomatch hx
  | cons z zs ih =>
    obtain rfl : z = x := by simpa using hx
    cases zs with
    | nil =>
      obtain rfl : z = y := by simpa using hy
      simp
    | cons z' zs =>
      obtain ⟨hz, htail⟩ := List.isChain_cons_cons.mp h
      have hlast : (z' :: zs).getLast? = some y := by
        rw [← hy, List.getLast?_cons_cons]
      have := ih htail rfl hlast
      simp only [List.length_cons, Nat.cast_add, Nat.cast_one] at this ⊢
      linarith

variable [FloorSemiring α]

/-- Readings that lie less than `width` apart. -/
theorem Spaced.length_le_ceil (hd : 0 < d) (h : Spaced d readings) {width : α}
    (hwidth : ∀ x ∈ readings, ∀ y ∈ readings, x < y + width) :
    readings.length ≤ ⌈width / d⌉₊ := by
  cases hhead : readings.head? with
  | none =>
    rw [List.head?_eq_none_iff.mp hhead]
    exact Nat.zero_le _
  | some x =>
    have hne : readings ≠ [] := fun hnil => by simp [hnil] at hhead
    have hlast := List.getLast?_eq_some_getLast hne
    have hspan := h.span_le hhead hlast
    have hlt := hwidth x (List.mem_of_mem_head? hhead) _ (List.getLast_mem hne)
    have hfew : (readings.length - 1 : α) * d < width := by linarith
    have hfew : (readings.length - 1 : α) < width / d := (lt_div_iff₀ hd).mpr hfew
    have hpos : 0 < readings.length := List.length_pos_iff.mpr hne
    have hcast : ((readings.length - 1 : ℕ) : α) < width / d := by
      rwa [Nat.cast_sub hpos, Nat.cast_one]
    have := Nat.lt_ceil.mpr hcast
    omega

/-- **A half-open window of length `width` holds at most `⌈width / d⌉` spaced readings**, whichever
of its ends it contains. -/
theorem Spaced.count_le_ceil (hd : 0 < d) (h : Spaced d readings) (a width : α) :
    (readings.filter fun x => decide (a ≤ x ∧ x < a + width)).length ≤ ⌈width / d⌉₊ ∧
      (readings.filter fun x => decide (a < x ∧ x ≤ a + width)).length ≤ ⌈width / d⌉₊ := by
  constructor <;> refine (h.filter hd.le _).length_le_ceil hd fun x hx y hy => ?_ <;>
    · have hx := of_decide_eq_true (List.mem_filter.mp hx).2
      have hy := of_decide_eq_true (List.mem_filter.mp hy).2
      linarith [hx.1, hx.2, hy.1, hy.2]

end ApiTests.Spacing
