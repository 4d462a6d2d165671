import ApiTests.Py.Text

/-!
# `str.replace`

`replaceAll old new t` is `t.replace(old, new)` for a text `old` that is not empty: the occurrences
are those found from the left, each behind the one before. `replaceFirst` is `t.replace(old, new, 1)`.

Results:
* `replaceAll_append`, `replaceAll_cons`: what happens at an occurrence, and where none begins.
* `replaceAll_singleton`: one character is replaced wherever it stands.
* `replaceAll_blocks`: **two characters are replaced block by block** in a text made of blocks.
* `countP_replaceAll`: a replacement keeps the count of what is neither in `old` nor in `new`.
* `replaceFirst_append`: the first occurrence is the one before which `old` cannot begin.
-/

namespace ApiTests.Py

/-- The replacement, `skip` characters of an occurrence being left to drop. -/
def replaceFrom (old new : Text) : Nat → Text → Text
  | _, [] => []
  | skip + 1, _ :: t => replaceFrom old new skip t
  | 0, c :: t =>
    if old <+: c :: t then new ++ replaceFrom old new (old.length - 1) t
    else c :: replaceFrom old new 0 t

/-- `t.replace(old, new)`. -/
def replaceAll (old new t : Text) : Text := replaceFrom old new 0 t

/-- `t.replace(old, new)` for any `old`: the empty text stands before every character and at the end. -/
def replaceText (old new t : Text) : Text :=
  if old = [] then new ++ t.flatMap fun c => c :: new else replaceAll old new t

/-- `t.replace(old, new, 1)`. -/
def replaceFirst (old new : Text) : Text → Text
  | [] => []
  | c :: t =>
    if old <+: c :: t then new ++ (c :: t).drop old.length else c :: replaceFirst old new t

variable {old new : Text}

theorem replaceFrom_eq_drop : ∀ (skip : Nat) (t : Text),
    replaceFrom old new skip t = replaceAll old new (t.drop skip)
  | 0, t => rfl
  | skip + 1, [] => by rw [List.drop_nil]; rfl
  | skip + 1, _ :: t => by rw [replaceFrom, replaceFrom_eq_drop skip t, List.drop_succ_cons]

@[simp] theorem replaceAll_nil : replaceAll old new [] = [] := rfl

/-- At an occurrence. -/
theorem replaceAll_append (hold : old ≠ []) (t : Text) :
    replaceAll old new (old ++ t) = new ++ replaceAll old new t := by
  obtain ⟨a, old, rfl⟩ := List.exists_cons_of_ne_nil hold
  have hprefix : (a :: old) <+: a :: (old ++ t) := List.prefix_append (a :: old) t
  rw [List.cons_append, replaceAll, replaceFrom, if_pos hprefix, replaceFrom_eq_drop,
    List.length_cons, Nat.add_sub_cancel, List.drop_left]

/-- Where no occurrence begins. -/
theorem replaceAll_cons {c : Nat} {t : Text} (h : ¬ old <+: c :: t) :
    replaceAll old new (c :: t) = c :: replaceAll old new t := by
  rw [replaceAll, replaceFrom, if_neg h]
  rfl

/-- One character is replaced wherever it stands. -/
theorem replaceAll_singleton (a : Nat) : ∀ t : Text,
    replaceAll [a] new t = t.flatMap fun c => if c = a then new else [c]
  | [] => rfl
  | c :: t => by
    rw [List.flatMap_cons, ← replaceAll_singleton a t]
    by_cases hc : c = a
    · subst hc
      rw [if_pos rfl]
      exact replaceAll_append (List.cons_ne_nil c []) t
    · rw [if_neg hc]
      refine replaceAll_cons fun hprefix => hc ?_
      exact (List.cons_prefix_cons.mp hprefix).1.symm

/-- **Two characters are replaced block by block**: a block is the pair, or the first with another
that cannot begin the pair, or one character that is not the first. -/
theorem replaceAll_blocks {a b : Nat} {f g : Nat → Text} : ∀ {t : Text},
    (∀ c ∈ t, (f c = [a, b] ∧ g c = new) ∨
      (∃ d, d ≠ a ∧ d ≠ b ∧ f c = [a, d] ∧ g c = [a, d]) ∨ (∃ d, d ≠ a ∧ f c = [d] ∧ g c = [d])) →
    replaceAll [a, b] new (t.flatMap f) = t.flatMap g
  | [], _ => rfl
  | c :: t, h => by
    have ih := replaceAll_blocks fun d hd => h d (List.mem_cons_of_mem _ hd)
    have hsingle : ∀ d u, d ≠ a → replaceAll [a, b] new (d :: u) = d :: replaceAll [a, b] new u :=
      fun d u hd => replaceAll_cons fun hprefix => hd (List.cons_prefix_cons.mp hprefix).1.symm
    rw [List.flatMap_cons, List.flatMap_cons]
    rcases h c List.mem_cons_self with ⟨hf, hg⟩ | ⟨d, hda, hdb, hf, hg⟩ | ⟨d, hda, hf, hg⟩
    · rw [hf, hg, replaceAll_append (List.cons_ne_nil a [b]), ih]
    · have hpair : ¬ [a, b] <+: a :: d :: t.flatMap f := by
        intro hprefix
        exact hdb (List.cons_prefix_cons.mp (List.cons_prefix_cons.mp hprefix).2).1.symm
      rw [hf, hg, List.cons_append, List.singleton_append, replaceAll_cons hpair, hsingle d _ hda, ih]
      rfl
    · rw [hf, hg, List.singleton_append, hsingle d _ hda, ih]
      rfl

/-- A replacement keeps the count of what is neither in `old` nor in `new`. -/
theorem countP_replaceAll {P : Nat → Bool} (hne : old ≠ []) (hold : old.countP P = 0)
    (hnew : new.countP P = 0) (t : Text) : (replaceAll old new t).countP P = t.countP P := by
  induction h : t.length using Nat.strong_induction_on generalizing t with
  | _ n ih =>
    by_cases hprefix : old <+: t
    · obtain ⟨u, rfl⟩ := hprefix
      have hshorter : u.length < n := by
        have := List.length_pos_of_ne_nil hne
        rw [List.length_append] at h
        omega
      rw [replaceAll_append hne, List.countP_append, List.countP_append, ih u.length hshorter u rfl,
        hold, hnew]
    · cases t with
      | nil => rfl
      | cons c t =>
        rw [replaceAll_cons hprefix, List.countP_cons, List.countP_cons,
          ih t.length (by rw [← h, List.length_cons]; omega) t rfl]

/-- The first occurrence is the one before which `old` cannot begin. -/
theorem replaceFirst_append {a : Nat} : ∀ {u : Text}, a ∉ u → ∀ v,
    replaceFirst (a :: old) new (u ++ (a :: old ++ v)) = u ++ (new ++ v)
  | [], _, v => by
    have hprefix : (a :: old) <+: a :: (old ++ v) := List.prefix_append (a :: old) v
    rw [List.nil_append, List.nil_append, List.cons_append, replaceFirst, if_pos hprefix,
      List.length_cons, List.drop_succ_cons, List.drop_left]
  | c :: u, hu, v => by
    have hne : ¬ (a :: old) <+: c :: (u ++ (a :: old ++ v)) := fun hprefix =>
      hu ((List.cons_prefix_cons.mp hprefix).1 ▸ List.mem_cons_self)
    rw [List.cons_append, replaceFirst, if_neg hne,
      replaceFirst_append fun h => hu (List.mem_cons_of_mem _ h)]
    rfl

end ApiTests.Py
