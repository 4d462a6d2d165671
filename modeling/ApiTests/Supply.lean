import Mathlib.Data.Finset.Card
import Mathlib.Data.List.TakeDrop
import Mathlib.Data.Set.Function
import Mathlib.Order.Interval.Finset.Nat

/-!
# Demands met by earlier supplies

A sequence supplies and demands units of several kinds. It is *met* when each demand can be given a
supply of its kind that stands before it, no supply twice.

Results:
* `card_indices`: how many positions hold a thing.
* `met_iff`: **a sequence is met iff at each moment no kind has been demanded more than supplied.**
-/

namespace ApiTests.Supply

variable {κ : Type}

/-- One element of a sequence. -/
inductive Token (κ : Type) where
  | supply (kind : κ)
  | demand (kind : κ)
  | other
  deriving Repr, DecidableEq

/-- The positions of a thing in a list. -/
def indices [DecidableEq κ] (l : List (Token κ)) (t : Token κ) : Finset Nat :=
  (Finset.range l.length).filter fun i => l[i]? = some t

/-- `supplier` gives each demand an earlier supply of its kind. -/
structure Meets (l : List (Token κ)) (supplier : Nat → Nat) : Prop where
  before : ∀ i kind, l[i]? = some (.demand kind) →
    supplier i < i ∧ l[supplier i]? = some (.supply kind)
  distinct : Set.InjOn supplier {i | ∃ kind, l[i]? = some (.demand kind)}

/-- **Each demand has an earlier supply of its kind for itself.** -/
def Met (l : List (Token κ)) : Prop := ∃ supplier, Meets l supplier

variable [DecidableEq κ] {l : List (Token κ)}

/-- No kind is demanded more than supplied. -/
def Enough (l : List (Token κ)) : Prop :=
  ∀ kind, l.count (.demand kind) ≤ l.count (.supply kind)

theorem mem_indices {t : Token κ} {i : Nat} : i ∈ indices l t ↔ l[i]? = some t := by
  unfold indices
  rw [Finset.mem_filter, Finset.mem_range, and_iff_right_iff_imp]
  intro h
  obtain ⟨hi, -⟩ := List.getElem?_eq_some_iff.mp h
  exact hi

theorem indices_append_singleton (l : List (Token κ)) (t u : Token κ) :
    indices (l ++ [u]) t = if u = t then insert l.length (indices l t) else indices l t := by
  ext i
  rw [mem_indices]
  rcases lt_trichotomy i l.length with hi | rfl | hi
  · rw [List.getElem?_append_left hi]
    split_ifs
    · rw [Finset.mem_insert, mem_indices, or_iff_right hi.ne]
    · rw [mem_indices]
  · have hnone : l.length ∉ indices l t := by
      rw [mem_indices, List.getElem?_eq_none le_rfl]
      exact fun h => nomatch h
    rw [List.getElem?_concat_length, Option.some.injEq]
    split_ifs with h
    · exact iff_of_true h (Finset.mem_insert_self _ _)
    · exact iff_of_false h hnone
  · have hpast : (l ++ [u])[i]? = none := List.getElem?_eq_none (by simp; omega)
    have hnone : i ∉ indices l t := by
      rw [mem_indices, List.getElem?_eq_none hi.le]
      exact fun h => nomatch h
    rw [hpast]
    refine iff_of_false (fun h => nomatch h) ?_
    split_ifs
    · rw [Finset.mem_insert, not_or]
      exact ⟨hi.ne', hnone⟩
    · exact hnone

/-- How many positions hold a thing. -/
theorem card_indices (l : List (Token κ)) (t : Token κ) : (indices l t).card = l.count t := by
  induction l using List.reverseRecOn with
  | nil => rfl
  | append_singleton l u ih =>
    have hnone : l.length ∉ indices l t := by
      rw [mem_indices, List.getElem?_eq_none le_rfl]
      exact fun h => nomatch h
    rw [indices_append_singleton, List.count_append, List.count_singleton, ← ih]
    by_cases h : u = t
    · rw [if_pos h, if_pos (beq_iff_eq.mpr h), Finset.card_insert_of_notMem hnone]
    · rw [if_neg h, if_neg (fun hbeq => h (beq_iff_eq.mp hbeq))]
      rfl

/-- At each moment a met sequence has supplied what it has demanded. -/
theorem Meets.enough_take {supplier : Nat → Nat} (h : Meets l supplier) (n : Nat) :
    Enough (l.take n) := by
  intro kind
  rw [← card_indices, ← card_indices]
  refine Finset.card_le_card_of_injOn supplier (fun i hi => ?_) (fun i hi j hj heq => ?_)
  · have hi := mem_indices.mp (Finset.mem_coe.mp hi)
    rw [List.getElem?_take] at hi
    split_ifs at hi with hn
    obtain ⟨hlt, hsupply⟩ := h.before i kind hi
    rw [Finset.mem_coe, mem_indices, List.getElem?_take, if_pos (hlt.trans hn), hsupply]
  · have hdemand : ∀ i, i ∈ indices (l.take n) (.demand kind) → l[i]? = some (.demand kind) := by
      intro i hi
      have hi := mem_indices.mp hi
      rw [List.getElem?_take] at hi
      split_ifs at hi
      exact hi
    exact h.distinct ⟨kind, hdemand i hi⟩ ⟨kind, hdemand j hj⟩ heq

/-- A supply that no demand has. -/
theorem Meets.exists_unused {supplier : Nat → Nat} (h : Meets l supplier) {kind : κ}
    (hcount : l.count (.demand kind) < l.count (.supply kind)) :
    ∃ j, l[j]? = some (.supply kind) ∧ ∀ i kind', l[i]? = some (.demand kind') → supplier i ≠ j := by
  rw [← card_indices, ← card_indices] at hcount
  have himage : ((indices l (.demand kind)).image supplier).card < (indices l (.supply kind)).card :=
    Finset.card_image_le.trans_lt hcount
  obtain ⟨j, hj, hunused⟩ := Finset.exists_mem_notMem_of_card_lt_card himage
  refine ⟨j, mem_indices.mp hj, fun i kind' hi heq => hunused ?_⟩
  obtain ⟨-, hsupply⟩ := h.before i kind' hi
  rw [heq, mem_indices.mp hj] at hsupply
  cases hsupply
  exact Finset.mem_image.mpr ⟨i, mem_indices.mpr hi, heq⟩

omit [DecidableEq κ] in
/-- The position of an element of a longer list. -/
theorem getElem?_append_singleton {u t : Token κ} {i : Nat} (h : (l ++ [u])[i]? = some t) :
    (i < l.length ∧ l[i]? = some t) ∨ (i = l.length ∧ u = t) := by
  obtain ⟨hi, -⟩ := List.getElem?_eq_some_iff.mp h
  rw [List.length_append, List.length_singleton, Nat.lt_succ_iff_lt_or_eq] at hi
  rcases hi with hi | rfl
  · rw [List.getElem?_append_left hi] at h
    exact .inl ⟨hi, h⟩
  · rw [List.getElem?_concat_length, Option.some.injEq] at h
    exact .inr ⟨rfl, h⟩

omit [DecidableEq κ] in
/-- One more element, which is given the unused supply `j` if it is a demand. -/
theorem Meets.append_singleton {supplier : Nat → Nat} (h : Meets l supplier) {u : Token κ} {j : Nat}
    (hu : ∀ kind, u = .demand kind → l[j]? = some (.supply kind) ∧
      ∀ i kind', l[i]? = some (.demand kind') → supplier i ≠ j) :
    Meets (l ++ [u]) fun i => if i = l.length then j else supplier i := by
  refine ⟨fun i kind hi => ?_, ?_⟩
  · rcases getElem?_append_singleton hi with ⟨hlt, hi⟩ | ⟨rfl, hu'⟩
    · obtain ⟨hbefore, hsupply⟩ := h.before i kind hi
      rw [if_neg hlt.ne, List.getElem?_append_left (hbefore.trans hlt)]
      exact ⟨hbefore, hsupply⟩
    · obtain ⟨hsupply, -⟩ := hu kind hu'
      obtain ⟨hj, -⟩ := List.getElem?_eq_some_iff.mp hsupply
      rw [if_pos rfl, List.getElem?_append_left hj]
      exact ⟨hj, hsupply⟩
  · rintro i ⟨kind, hi⟩ i' ⟨kind', hi'⟩ heq
    simp only at heq
    rcases getElem?_append_singleton hi with ⟨hlt, hi⟩ | ⟨rfl, hu'⟩
    · rcases getElem?_append_singleton hi' with ⟨hlt', hi'⟩ | ⟨rfl, hu'⟩
      · rw [if_neg hlt.ne, if_neg hlt'.ne] at heq
        exact h.distinct ⟨kind, hi⟩ ⟨kind', hi'⟩ heq
      · rw [if_neg hlt.ne, if_pos rfl] at heq
        exact absurd heq ((hu kind' hu').2 i kind hi)
    · rcases getElem?_append_singleton hi' with ⟨hlt', hi'⟩ | ⟨rfl, -⟩
      · rw [if_pos rfl, if_neg hlt'.ne] at heq
        exact absurd heq.symm ((hu kind hu').2 i' kind' hi')
      · rfl

/-- **A sequence is met iff at each moment no kind has been demanded more than supplied.** -/
theorem met_iff (l : List (Token κ)) : Met l ↔ ∀ n, Enough (l.take n) := by
  refine ⟨fun ⟨_, h⟩ n => h.enough_take n, ?_⟩
  induction l using List.reverseRecOn with
  | nil =>
    intro _
    exact ⟨id, fun i kind h => by simp at h, fun i hi => by simp at hi⟩
  | append_singleton l u ih =>
    intro hcount
    have hprefix : ∀ n, Enough (l.take n) := by
      intro n kind
      have h := hcount (min n l.length) kind
      rw [List.take_append_of_le_length (Nat.min_le_right n l.length)] at h
      rwa [← List.take_eq_take_min] at h
    obtain ⟨supplier, h⟩ := ih hprefix
    cases u with
    | supply kind => exact ⟨_, h.append_singleton (j := 0) fun _ hu => nomatch hu⟩
    | other => exact ⟨_, h.append_singleton (j := 0) fun _ hu => nomatch hu⟩
    | demand kind =>
      have hwhole := hcount (l.length + 1) kind
      rw [List.take_of_length_le (by simp), List.count_append, List.count_append,
        List.count_singleton_self, List.count_singleton] at hwhole
      have hmore : l.count (.demand kind) < l.count (.supply kind) :=
        Nat.lt_of_succ_le (by simpa using hwhole)
      obtain ⟨j, hj, hunused⟩ := h.exists_unused hmore
      refine ⟨_, h.append_singleton (j := j) fun kind' hu => ?_⟩
      cases hu
      exact ⟨hj, hunused⟩

end ApiTests.Supply
