import ApiTests.Py.Dict
import Mathlib.Algebra.BigOperators.Group.Finset.Basic
import Mathlib.Algebra.Ring.Nat

/-!
# `collections.Counter`

A dictionary of counts, filled by a loop of `counter[key] += 1`.

Results:
* `getD_counter`, `mem_keys_counter`: it holds the number of times each key was met.
* `sum_count_of_subset`: **the counts of distinct keys that cover a list add up to its length.**
-/

namespace ApiTests.Py

variable {κ : Type} [DecidableEq κ]

/-- `counter[key] += 1`; an absent key counts as `0`. -/
def Dict.increment (counter : Dict κ Int) (key : κ) : Dict κ Int :=
  counter.update (.single key (counter.getD key 0 + 1))

/-- The counter after a loop over the keys. -/
def counterOf (keys : List κ) : Dict κ Int := keys.foldl Dict.increment .empty

theorem Dict.getD_increment (counter : Dict κ Int) (key k : κ) :
    (counter.increment key).getD k 0 = counter.getD k 0 + if k = key then 1 else 0 := by
  unfold Dict.increment
  by_cases h : k = key
  · subst h
    have hget := Dict.get?_update_of_some (d := counter)
      ((Dict.get?_single k (counter.getD k 0 + 1) k).trans (if_pos rfl))
    rw [Dict.getD, hget, if_pos rfl]
    rfl
  · have hget := Dict.get?_update_of_none (d := counter)
      ((Dict.get?_single key (counter.getD key 0 + 1) k).trans (if_neg h))
    rw [Dict.getD, hget, if_neg h, Int.add_zero]
    rfl

theorem getD_foldl_increment (keys : List κ) (counter : Dict κ Int) (k : κ) :
    (keys.foldl Dict.increment counter).getD k 0 = counter.getD k 0 + (keys.count k : Int) := by
  induction keys generalizing counter with
  | nil => simp
  | cons key keys ih =>
    rw [List.foldl_cons, ih, Dict.getD_increment, List.count_cons]
    by_cases h : k = key
    · simp only [h, if_pos, beq_self_eq_true]
      omega
    · have h' : ¬ (key == k) = true := fun heq => h (eq_of_beq heq).symm
      simp only [if_neg h, if_neg h']
      omega

@[simp] theorem getD_counterOf (keys : List κ) (k : κ) :
    (counterOf keys).getD k 0 = (keys.count k : Int) := by
  rw [counterOf, getD_foldl_increment]
  exact Int.zero_add _

@[simp] theorem mem_keys_counterOf {keys : List κ} {k : κ} :
    k ∈ (counterOf keys).entries.map Prod.fst ↔ k ∈ keys := by
  have hfold : ∀ (keys : List κ) (counter : Dict κ Int),
      k ∈ (keys.foldl Dict.increment counter).entries.map Prod.fst ↔
        k ∈ counter.entries.map Prod.fst ∨ k ∈ keys := by
    intro keys
    induction keys with
    | nil => simp
    | cons key keys ih =>
      intro counter
      rw [List.foldl_cons, ih, Dict.increment, Dict.mem_keys_update_single, List.mem_cons, or_assoc]
  rw [counterOf, hfold]
  simp [Dict.empty]

/-- **The counts of distinct keys that cover a list add up to its length.** -/
theorem sum_count_of_subset {keys l : List κ} (hnodup : keys.Nodup) (hsub : ∀ k ∈ l, k ∈ keys) :
    (keys.map fun k => l.count k).sum = l.length := by
  have hcover : ∀ k ∈ (l : Multiset κ), k ∈ keys.toFinset := fun k hk =>
    List.mem_toFinset.mpr (hsub k hk)
  have hsum := Multiset.sum_count_eq_card hcover
  simp only [Multiset.coe_count, Multiset.coe_card] at hsum
  rw [← hsum, List.sum_toFinset _ hnodup]

end ApiTests.Py
