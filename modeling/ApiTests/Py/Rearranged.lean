import ApiTests.Py.Checks
import ApiTests.Py.Sorted
import Mathlib.Data.List.Perm.Basic

/-!
# Lists related item by item, in any order

`Rearranged R xs ys` says that `ys` is made of partners of the items of `xs`, one each, in any order.
It composes `List.Forall₂` with `List.Perm`.

Results:
* `Rearranged.symm`, `Rearranged.imp`: the relation turned around, and a weaker one.
* `Rearranged.forall₂_left`: what is read of the items is rearranged with them.
* `Rearranged.sortBy`: **sorted by a key that partners share, the partners meet.**
-/

namespace ApiTests.Py

variable {α β γ δ κ : Type}

/-- The items of `ys` are partners of those of `xs`, in any order. -/
def Rearranged (R : α → β → Prop) (xs : List α) (ys : List β) : Prop :=
  Relation.Comp (List.Forall₂ R) List.Perm xs ys

variable {R : α → β → Prop} {xs : List α} {ys : List β}

theorem Rearranged.of_forall₂ (h : List.Forall₂ R xs ys) : Rearranged R xs ys := ⟨ys, h, .refl ys⟩

theorem Rearranged.of_perm_left {xs' : List α} (hperm : xs'.Perm xs) (h : Rearranged R xs ys) :
    Rearranged R xs' ys := by
  obtain ⟨zs, hzs, hys⟩ := h
  obtain ⟨zs', hzs', hperm'⟩ := List.perm_comp_forall₂ hperm hzs
  exact ⟨zs', hzs', hperm'.trans hys⟩

theorem Rearranged.of_perm_right {ys' : List β} (h : Rearranged R xs ys) (hperm : ys.Perm ys') :
    Rearranged R xs ys' := by
  obtain ⟨zs, hzs, hys⟩ := h
  exact ⟨zs, hzs, hys.trans hperm⟩

theorem Rearranged.symm (h : Rearranged R xs ys) : Rearranged (flip R) ys xs := by
  obtain ⟨zs, hzs, hys⟩ := h
  exact (Rearranged.of_forall₂ hzs.flip).of_perm_left hys.symm

theorem Rearranged.imp {S : α → β → Prop} (h : Rearranged R xs ys)
    (himp : ∀ x ∈ xs, ∀ y ∈ ys, R x y → S x y) : Rearranged S xs ys := by
  obtain ⟨zs, hzs, hys⟩ := h
  exact ⟨zs, forall₂_imp_mem hzs fun x hx z hz => himp x hx z (hys.mem_iff.mp hz), hys⟩

theorem Rearranged.map {S : γ → δ → Prop} {f : α → γ} {g : β → δ} (h : Rearranged R xs ys)
    (hRS : ∀ x y, R x y → S (f x) (g y)) : Rearranged S (xs.map f) (ys.map g) := by
  obtain ⟨zs, hzs, hys⟩ := h
  refine ⟨zs.map g, ?_, hys.map g⟩
  rw [List.forall₂_map_left_iff, List.forall₂_map_right_iff]
  exact hzs.imp hRS

/-- Each item has its partner. -/
theorem Rearranged.exists_mem (h : Rearranged R xs ys) {x : α} (hx : x ∈ xs) : ∃ y ∈ ys, R x y := by
  obtain ⟨zs, hzs, hys⟩ := h
  obtain ⟨y, hy, hxy⟩ := exists_of_forall₂ hzs hx
  exact ⟨y, hys.mem_iff.mp hy, hxy⟩

/-- What partners share is rearranged. -/
theorem Rearranged.map_perm {f : α → γ} {g : β → γ} (h : Rearranged R xs ys)
    (hfg : ∀ x y, R x y → f x = g y) : (xs.map f).Perm (ys.map g) := by
  obtain ⟨zs, hzs, hys⟩ := h
  have heq : xs.map f = zs.map g := by
    rw [← List.forall₂_eq_eq_eq, List.forall₂_map_left_iff, List.forall₂_map_right_iff]
    exact hzs.imp hfg
  rw [heq]
  exact hys.map g

/-- What is read of the items is read of their partners, in order. -/
theorem forall₂_of_left {P : α → γ → Prop} {Q : β → γ → Prop} {zs : List γ} (h : List.Forall₂ R xs ys)
    (hread : List.Forall₂ P xs zs) (hstep : ∀ x y z, R x y → P x z → Q y z) : List.Forall₂ Q ys zs := by
  induction h generalizing zs with
  | nil =>
    cases hread
    exact .nil
  | cons hxy _ ih =>
    cases hread with
    | cons hxz hrest => exact .cons (hstep _ _ _ hxy hxz) (ih hrest)

/-- Results that are made of others. -/
theorem forall₂_of_made {P : α → β → Prop} {Q : α → γ → Prop} {f : γ → β} (h : List.Forall₂ P xs ys)
    (hmade : ∀ x y, P x y → ∃ z, Q x z ∧ y = f z) : ∃ zs, List.Forall₂ Q xs zs ∧ ys = zs.map f := by
  induction h with
  | nil => exact ⟨[], .nil, rfl⟩
  | cons hxy _ ih =>
    obtain ⟨z, hz, rfl⟩ := hmade _ _ hxy
    obtain ⟨zs, hzs, rfl⟩ := ih
    exact ⟨z :: zs, .cons hz hzs, rfl⟩

/-- **What is read of the items is rearranged with them.** -/
theorem Rearranged.forall₂_left {P : α → γ → Prop} {Q : β → δ → Prop} {S : γ → δ → Prop}
    {zs : List γ} (h : Rearranged R xs ys) (hread : List.Forall₂ P xs zs)
    (hstep : ∀ x ∈ xs, ∀ y ∈ ys, ∀ z, R x y → P x z → ∃ w, Q y w ∧ S z w) :
    ∃ ws, List.Forall₂ Q ys ws ∧ Rearranged S zs ws := by
  obtain ⟨mid, hmid, hperm⟩ := h
  have hboth : ∃ ws, List.Forall₂ Q mid ws ∧ List.Forall₂ S zs ws := by
    have hstep' : ∀ x ∈ xs, ∀ y ∈ mid, ∀ z, R x y → P x z → ∃ w, Q y w ∧ S z w :=
      fun x hx y hy => hstep x hx y (hperm.mem_iff.mp hy)
    clear hperm hstep
    induction hmid generalizing zs with
    | nil =>
      cases hread
      exact ⟨[], .nil, .nil⟩
    | @cons x y xs mid hxy hmid ih =>
      obtain ⟨z, zs', hxz, hread', rfl⟩ := List.forall₂_cons_left_iff.mp hread
      obtain ⟨w, hyw, hzw⟩ := hstep' x List.mem_cons_self y List.mem_cons_self z hxy hxz
      obtain ⟨ws, hQ, hS⟩ := ih hread' fun x hx y hy =>
        hstep' x (List.mem_cons_of_mem _ hx) y (List.mem_cons_of_mem _ hy)
      exact ⟨w :: ws, .cons hyw hQ, .cons hzw hS⟩
  obtain ⟨ws, hQ, hS⟩ := hboth
  obtain ⟨ws', hQ', hws⟩ := List.perm_comp_forall₂ hperm.symm hQ
  exact ⟨ws', hQ', ws, hS, hws.symm⟩

/-- **Sorted by a key that partners share, the partners meet.** -/
theorem Rearranged.sortBy [LinearOrder κ] {f : α → κ} {g : β → κ} (h : Rearranged R xs ys)
    (hfg : ∀ x y, R x y → f x = g y) (hnodup : (xs.map f).Nodup) :
    List.Forall₂ R (Py.sortBy f xs) (Py.sortBy g ys) := by
  obtain ⟨mid, hmid, hperm⟩ := h.of_perm_left (sortBy_perm f xs)
  have hkeys : (Py.sortBy f xs).map f = mid.map g := by
    rw [← List.forall₂_eq_eq_eq, List.forall₂_map_left_iff, List.forall₂_map_right_iff]
    exact hmid.imp hfg
  have hsorted : mid.Pairwise fun a b => g a ≤ g b := by
    have hpairwise := List.pairwise_map.mpr (sortBy_pairwise f xs)
    rw [hkeys] at hpairwise
    exact List.pairwise_map.mp hpairwise
  have hdistinct : (mid.map g).Nodup := by
    rw [← hkeys]
    exact ((sortBy_perm f xs).map f).nodup_iff.mpr hnodup
  have heq : mid = Py.sortBy g ys := by
    refine (hperm.trans (sortBy_perm g ys).symm).eq_of_pairwise (fun a b ha hb hle hle' => ?_) hsorted
      (sortBy_pairwise g ys)
    exact List.inj_on_of_nodup_map hdistinct ha
      (hperm.mem_iff.mpr (mem_sortBy.mp hb)) (le_antisymm hle hle')
  rw [← heq]
  exact hmid

end ApiTests.Py
