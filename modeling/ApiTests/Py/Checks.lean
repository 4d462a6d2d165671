import ApiTests.Py.Text
import Mathlib.Data.List.Forall2
import Mathlib.Data.List.Nodup
import Mathlib.Tactic.Common

/-!
# Checks that raise, and loops that refuse a key they have met

`Except ε α` is a computation that raises an `ε` or returns an `α`. Two shapes of loop recur in the
program's readers: `for x in xs: check(x)` (`checkAll`), and a loop that reads an item, refuses its
key if it is in the set of keys met so far, and goes on to use the item (`collect`).

Results:
* `bind_eq_ok_iff`, `raiseWhen_eq_ok`, `checkAll_eq_ok`: when a sequence of checks passes.
* `checkAll_eq_error`: **which of them raises**.
* `collect_eq_ok`: **such a loop returns iff every item reads, the keys are distinct and every item
  passes its last check**, and then it has one result an item, in order.
* `collect_returns_iff`, `mem_collect_iff`: the same without the list of read items.
-/

namespace ApiTests.Py

variable {ε α β γ κ : Type}

/-- `if condition: raise e`. -/
def raiseWhen (condition : Prop) [Decidable condition] (e : ε) : Except ε Unit :=
  if condition then .error e else .ok ()

@[simp] theorem raiseWhen_eq_ok {condition : Prop} [Decidable condition] {e : ε} {u : Unit} :
    raiseWhen condition e = .ok u ↔ ¬ condition := by
  unfold raiseWhen
  split <;> simp_all

/-- A sequence of two computations returns iff both do. -/
theorem bind_eq_ok_iff {x : Except ε α} {f : α → Except ε β} {b : β} :
    (x >>= f) = .ok b ↔ ∃ a, x = .ok a ∧ f a = .ok b := by
  cases x with
  | error e => exact ⟨fun h => (nomatch h), fun ⟨_, h, _⟩ => (nomatch h)⟩
  | ok a => exact ⟨fun h => ⟨a, rfl, h⟩, fun ⟨_, h, h'⟩ => by cases h; exact h'⟩

/-- A sequence of two computations raises iff the first one does, or the second one after it. -/
theorem bind_eq_error_iff {x : Except ε α} {f : α → Except ε β} {e : ε} :
    (x >>= f) = .error e ↔ x = .error e ∨ ∃ a, x = .ok a ∧ f a = .error e := by
  cases x with
  | error e' => simp [bind, Except.bind]
  | ok a => simp [bind, Except.bind]

/-- A computation raises iff it does not return. -/
theorem exists_error_iff {x : Except ε α} : (∃ e, x = .error e) ↔ ¬ ∃ a, x = .ok a := by
  cases x <;> simp

/-- `for x in xs: check(x)`. -/
def checkAll (check : α → Except ε Unit) : List α → Except ε Unit
  | [] => .ok ()
  | x :: xs => do
    check x
    checkAll check xs

theorem checkAll_eq_ok {check : α → Except ε Unit} {u : Unit} {xs : List α} :
    checkAll check xs = .ok u ↔ ∀ x ∈ xs, check x = .ok () := by
  induction xs with
  | nil => simp [checkAll]
  | cons x xs ih =>
    rw [checkAll, List.forall_mem_cons, bind_eq_ok_iff, ← ih]
    exact ⟨fun ⟨_, hx, hxs⟩ => ⟨hx, hxs⟩, fun ⟨hx, hxs⟩ => ⟨(), hx, hxs⟩⟩

/-- **A loop raises iff one of its checks raises and those before it pass.** -/
theorem checkAll_eq_error {check : α → Except ε Unit} {e : ε} {xs : List α} :
    checkAll check xs = .error e ↔ ∃ before x after, xs = before ++ x :: after ∧
      (∀ y ∈ before, check y = .ok ()) ∧ check x = .error e := by
  induction xs with
  | nil => simp [checkAll]
  | cons x xs ih =>
    rw [checkAll, bind_eq_error_iff, ih]
    constructor
    · rintro (hx | ⟨_, hx, before, y, after, rfl, hbefore, hy⟩)
      · exact ⟨[], x, xs, rfl, fun _ h => (nomatch h), hx⟩
      · exact ⟨x :: before, y, after, rfl, List.forall_mem_cons.mpr ⟨hx, hbefore⟩, hy⟩
    · rintro ⟨before, y, after, hsplit, hbefore, hy⟩
      cases before with
      | nil =>
        obtain ⟨rfl, rfl⟩ := List.cons.inj hsplit
        exact .inl hy
      | cons z before =>
        obtain ⟨rfl, rfl⟩ := List.cons.inj hsplit
        rw [List.forall_mem_cons] at hbefore
        exact .inr ⟨(), hbefore.1, before, y, after, rfl, hbefore.2, hy⟩

/-- `[read(x) for x in xs]`. -/
def readAll (read : α → Except ε β) : List α → Except ε (List β)
  | [] => .ok []
  | x :: xs => do
    let b ← read x
    let rest ← readAll read xs
    .ok (b :: rest)

theorem readAll_eq_ok {read : α → Except ε β} {xs : List α} {bs : List β} :
    readAll read xs = .ok bs ↔ List.Forall₂ (fun x b => read x = .ok b) xs bs := by
  induction xs generalizing bs with
  | nil => simp [readAll, eq_comm]
  | cons x xs ih =>
    simp only [readAll, bind_eq_ok_iff, ih, List.forall₂_cons_left_iff, Except.ok.injEq]
    constructor
    · rintro ⟨b, hb, rest, hrest, rfl⟩
      exact ⟨b, rest, hb, hrest, rfl⟩
    · rintro ⟨b, rest, hb, hrest, rfl⟩
      exact ⟨b, hb, rest, hrest, rfl⟩

/-- Reading items of which each reads in one way at most. -/
theorem readAll_eq_map {read : α → Except ε β} {P : α → Prop} {f : α → β} {xs : List α}
    (h : ∀ x ∈ xs, ∀ b, read x = .ok b ↔ P x ∧ b = f x) {bs : List β} :
    readAll read xs = .ok bs ↔ (∀ x ∈ xs, P x) ∧ bs = xs.map f := by
  induction xs generalizing bs with
  | nil => simp [readAll, eq_comm]
  | cons x xs ih =>
    rw [List.forall_mem_cons] at h
    simp only [readAll, bind_eq_ok_iff, h.1, ih h.2, Except.ok.injEq, List.forall_mem_cons,
      List.map_cons]
    constructor
    · rintro ⟨b, ⟨hx, rfl⟩, rest, ⟨hxs, rfl⟩, rfl⟩
      exact ⟨⟨hx, hxs⟩, rfl⟩
    · rintro ⟨⟨hx, hxs⟩, rfl⟩
      exact ⟨_, ⟨hx, rfl⟩, _, ⟨hxs, rfl⟩, rfl⟩

theorem readAll_map {read : β → Except ε γ} {f : α → β} {xs : List α} :
    readAll read (xs.map f) = readAll (fun x => read (f x)) xs := by
  induction xs with
  | nil => rfl
  | cons x xs ih => rw [List.map_cons, readAll, ih, readAll]

/-- Reading numbered items, whose results do not depend on the numbers. -/
theorem readAll_zipIdx_eq_ok {read : α × Nat → Except ε β} {R : α → β → Prop}
    (h : ∀ x n b, read (x, n) = .ok b ↔ R x b) {xs : List α} {bs : List β} (n : Nat) :
    readAll read (xs.zipIdx n) = .ok bs ↔ List.Forall₂ R xs bs := by
  induction xs generalizing bs n with
  | nil => simp [readAll, eq_comm]
  | cons x xs ih =>
    simp only [List.zipIdx_cons, readAll, bind_eq_ok_iff, h, ih, List.forall₂_cons_left_iff,
      Except.ok.injEq]
    constructor
    · rintro ⟨b, hb, rest, hrest, rfl⟩
      exact ⟨b, rest, hb, hrest, rfl⟩
    · rintro ⟨b, rest, hb, hrest, rfl⟩
      exact ⟨b, hb, rest, hrest, rfl⟩

/-- The first item that does not read. -/
theorem readAll_zipIdx_eq_error {read : α × Nat → Except ε β} {e : ε} {R : α → β → Prop}
    {Trips : α → Prop} (h : ∀ x n b, read (x, n) = .ok b ↔ R x b)
    (hTrips : ∀ x n, read (x, n) = .error e ↔ Trips x) {xs : List α} (n : Nat) :
    readAll read (xs.zipIdx n) = .error e ↔
      ∃ before x after, xs = before ++ x :: after ∧ (∃ bs, List.Forall₂ R before bs) ∧ Trips x := by
  induction xs generalizing n with
  | nil => simp [readAll]
  | cons x xs ih =>
    rw [List.zipIdx_cons, readAll, bind_eq_error_iff, hTrips]
    constructor
    · rintro (htrips | ⟨b, hb, hrest⟩)
      · exact ⟨[], x, xs, rfl, ⟨[], .nil⟩, htrips⟩
      · rcases bind_eq_error_iff.mp hrest with hrest | ⟨bs, -, hok⟩
        · obtain ⟨before, y, after, rfl, ⟨bs, hbs⟩, hy⟩ := (ih (n + 1)).mp hrest
          exact ⟨x :: before, y, after, rfl, ⟨b :: bs, .cons ((h x n b).mp hb) hbs⟩, hy⟩
        · cases hok
    · rintro ⟨before, y, after, hsplit, ⟨bs, hbs⟩, hy⟩
      cases hbs with
      | nil =>
        obtain ⟨rfl, rfl⟩ := List.cons.inj hsplit
        exact .inl hy
      | cons hb hrest =>
        obtain ⟨rfl, rfl⟩ := List.cons.inj hsplit
        refine .inr ⟨_, (h _ n _).mpr hb, bind_eq_error_iff.mpr (.inl ?_)⟩
        exact (ih (n + 1)).mpr ⟨_, y, after, rfl, ⟨_, hrest⟩, hy⟩

/-! ## Lists related item by item -/

/-- A list has related partners iff each of its items has one. -/
theorem exists_forall₂_iff {R : α → β → Prop} {xs : List α} :
    (∃ bs, List.Forall₂ R xs bs) ↔ ∀ x ∈ xs, ∃ b, R x b := by
  induction xs with
  | nil => simp
  | cons x xs ih =>
    rw [List.forall_mem_cons, ← ih]
    constructor
    · rintro ⟨bs, h⟩
      cases h with
      | cons hb hrest => exact ⟨⟨_, hb⟩, _, hrest⟩
    · rintro ⟨⟨b, hb⟩, bs, hrest⟩
      exact ⟨b :: bs, .cons hb hrest⟩

theorem map_eq_map_of_forall₂ {R : α → β → Prop} {f : α → κ} {g : β → κ} {xs : List α} {bs : List β}
    (h : List.Forall₂ R xs bs) (hR : ∀ x b, R x b → f x = g b) : xs.map f = bs.map g := by
  induction h with
  | nil => rfl
  | cons hb _ ih => rw [List.map_cons, List.map_cons, hR _ _ hb, ih]

theorem exists_of_forall₂ {R : α → β → Prop} {xs : List α} {bs : List β} (h : List.Forall₂ R xs bs)
    {x : α} (hx : x ∈ xs) : ∃ b ∈ bs, R x b := by
  induction h with
  | nil => exact absurd hx List.not_mem_nil
  | cons hb _ ih =>
    rcases List.mem_cons.mp hx with rfl | hx
    · exact ⟨_, List.mem_cons_self, hb⟩
    · obtain ⟨b, hmem, hR⟩ := ih hx
      exact ⟨b, List.mem_cons_of_mem _ hmem, hR⟩

theorem mem_of_forall₂ {R : α → β → Prop} {xs : List α} {bs : List β} (h : List.Forall₂ R xs bs)
    {b : β} (hb : b ∈ bs) : ∃ x ∈ xs, R x b := by
  induction h with
  | nil => exact absurd hb List.not_mem_nil
  | cons hx _ ih =>
    rcases List.mem_cons.mp hb with rfl | hb
    · exact ⟨_, List.mem_cons_self, hx⟩
    · obtain ⟨x, hmem, hR⟩ := ih hb
      exact ⟨x, List.mem_cons_of_mem _ hmem, hR⟩

theorem forall₂_imp_mem {R S : α → β → Prop} {l : List α} {l' : List β}
    (h : List.Forall₂ R l l') (hS : ∀ a ∈ l, ∀ b ∈ l', R a b → S a b) : List.Forall₂ S l l' := by
  induction h with
  | nil => exact .nil
  | cons hab _ ih =>
    refine .cons (hS _ List.mem_cons_self _ List.mem_cons_self hab) (ih fun a ha b hb => ?_)
    exact hS a (List.mem_cons_of_mem _ ha) b (List.mem_cons_of_mem _ hb)

/-! ## The loop with a set of keys -/

section Collect

variable [DecidableEq κ] (read : α → Except ε β) (key : β → κ) (clash : β → β → ε)
  (finish : β → Except ε γ)

/-- The loop over `xs`: read an item, refuse a key that is among `seen`, finish. -/
def collect : List β → List α → Except ε (List γ)
  | _, [] => .ok []
  | seen, x :: xs => do
    let b ← read x
    match seen.find? fun previous => key previous = key b with
    | some previous => .error (clash previous b)
    | none => do
      let c ← finish b
      let rest ← collect (b :: seen) xs
      .ok (c :: rest)

variable {read key clash finish}

theorem find?_key_eq_none {seen : List β} {b : β} :
    (seen.find? fun previous => key previous = key b) = none ↔ ∀ s ∈ seen, key s ≠ key b := by
  simp

/-- **The loop returns iff the items read, their keys are new and distinct, and they finish.** -/
theorem collect_eq_ok {seen : List β} {xs : List α} {cs : List γ} :
    collect read key clash finish seen xs = .ok cs ↔
      ∃ bs, List.Forall₂ (fun x b => read x = .ok b) xs bs ∧ (bs.map key).Nodup ∧
        (∀ b ∈ bs, ∀ s ∈ seen, key s ≠ key b) ∧
        List.Forall₂ (fun b c => finish b = .ok c) bs cs := by
  induction xs generalizing seen cs with
  | nil =>
    constructor
    · intro h
      cases h
      exact ⟨[], .nil, List.nodup_nil, by simp, .nil⟩
    · rintro ⟨bs, hread, -, -, hfinish⟩
      cases hread
      cases hfinish
      rfl
  | cons x xs ih =>
    rw [collect, bind_eq_ok_iff]
    constructor
    · rintro ⟨b, hb, h⟩
      cases hfind : seen.find? fun previous => key previous = key b with
      | some previous =>
        rw [hfind] at h
        cases h
      | none =>
        rw [hfind] at h
        obtain ⟨c, hc, h⟩ := bind_eq_ok_iff.mp h
        obtain ⟨rest, hrest, h⟩ := bind_eq_ok_iff.mp h
        cases h
        obtain ⟨bs, hread, hnodup, hnew, hfinish⟩ := ih.mp hrest
        refine ⟨b :: bs, .cons hb hread, ?_, ?_, .cons hc hfinish⟩
        · rw [List.map_cons, List.nodup_cons]
          refine ⟨fun hmem => ?_, hnodup⟩
          obtain ⟨b', hb', hkey⟩ := List.mem_map.mp hmem
          exact hnew b' hb' b List.mem_cons_self hkey.symm
        · intro b' hb' s hs
          rcases List.mem_cons.mp hb' with rfl | hb'
          · exact find?_key_eq_none.mp hfind s hs
          · exact hnew b' hb' s (List.mem_cons_of_mem _ hs)
    · rintro ⟨bs, hread, hnodup, hnew, hfinish⟩
      obtain ⟨b, bs', hb, hread', rfl⟩ := List.forall₂_cons_left_iff.mp hread
      obtain ⟨c, cs', hc, hfinish', rfl⟩ := List.forall₂_cons_left_iff.mp hfinish
      rw [List.map_cons, List.nodup_cons] at hnodup
      refine ⟨b, hb, ?_⟩
      rw [find?_key_eq_none.mpr (hnew b List.mem_cons_self)]
      refine bind_eq_ok_iff.mpr ⟨c, hc, bind_eq_ok_iff.mpr ⟨cs', ih.mpr ⟨bs', hread', hnodup.2, ?_,
        hfinish'⟩, rfl⟩⟩
      intro b' hb' s hs
      rcases List.mem_cons.mp hs with rfl | hs
      · exact fun hkey => hnodup.1 (List.mem_map.mpr ⟨b', hb', hkey.symm⟩)
      · exact hnew b' (List.mem_cons_of_mem _ hb') s hs

/-- **When the loop returns at all**, the keys being told from the items. -/
theorem collect_returns_iff {id : α → Option κ}
    (hid : ∀ x b, read x = .ok b → id x = some (key b)) {xs : List α} :
    (∃ cs, collect read key clash finish [] xs = .ok cs) ↔
      (∀ x ∈ xs, ∃ b c, read x = .ok b ∧ finish b = .ok c) ∧ (xs.map id).Nodup := by
  have hkeys : ∀ {bs : List β}, List.Forall₂ (fun x b => read x = .ok b) xs bs →
      ((xs.map id).Nodup ↔ (bs.map key).Nodup) := by
    intro bs hread
    have hsome : Function.Injective (@some κ) := fun _ _ => Option.some.inj
    rw [map_eq_map_of_forall₂ hread hid, ← List.nodup_map_iff hsome, List.map_map]
    rfl
  constructor
  · rintro ⟨cs, h⟩
    obtain ⟨bs, hread, hnodup, -, hfinish⟩ := collect_eq_ok.mp h
    refine ⟨fun x hx => ?_, (hkeys hread).mpr hnodup⟩
    obtain ⟨b, hb, hxb⟩ := exists_of_forall₂ hread hx
    obtain ⟨c, -, hbc⟩ := exists_of_forall₂ hfinish hb
    exact ⟨b, c, hxb, hbc⟩
  · rintro ⟨hall, hnodup⟩
    obtain ⟨bs, hread⟩ := exists_forall₂_iff.mpr fun x hx =>
      (hall x hx).imp fun b hb => hb.choose_spec.1
    have hdone : ∀ b ∈ bs, ∃ c, finish b = .ok c := by
      intro b hb
      obtain ⟨x, hx, hread⟩ := mem_of_forall₂ hread hb
      obtain ⟨b', c, hb', hc⟩ := hall x hx
      rw [hread, Except.ok.injEq] at hb'
      exact ⟨c, hb' ▸ hc⟩
    obtain ⟨cs, hfinish⟩ := exists_forall₂_iff.mpr hdone
    exact ⟨cs, collect_eq_ok.mpr ⟨bs, hread, (hkeys hread).mp hnodup, by simp, hfinish⟩⟩

/-- **What the loop returns**: the finished items. -/
theorem mem_collect_iff {seen : List β} {xs : List α} {cs : List γ}
    (h : collect read key clash finish seen xs = .ok cs) {c : γ} :
    c ∈ cs ↔ ∃ x ∈ xs, ∃ b, read x = .ok b ∧ finish b = .ok c := by
  obtain ⟨bs, hread, -, -, hfinish⟩ := collect_eq_ok.mp h
  constructor
  · intro hc
    obtain ⟨b, hb, hbc⟩ := mem_of_forall₂ hfinish hc
    obtain ⟨x, hx, hxb⟩ := mem_of_forall₂ hread hb
    exact ⟨x, hx, b, hxb, hbc⟩
  · rintro ⟨x, hx, b, hxb, hbc⟩
    obtain ⟨b', hb', hxb'⟩ := exists_of_forall₂ hread hx
    rw [hxb, Except.ok.injEq] at hxb'
    subst hxb'
    obtain ⟨c', hc', hbc'⟩ := exists_of_forall₂ hfinish hb'
    rw [hbc, Except.ok.injEq] at hbc'
    rwa [hbc']

/-- What is read as it is. -/
theorem eq_of_forall₂_ok {bs cs : List β}
    (h : List.Forall₂ (fun b c => (.ok b : Except ε β) = .ok c) bs cs) : cs = bs := by
  rw [← List.forall₂_eq_eq_eq]
  exact h.flip.imp fun _ _ h => (Except.ok.inj h).symm

/-- A loop that keeps what it reads has no key twice. -/
theorem nodup_of_collect {seen : List β} {xs : List α} {bs : List β}
    (h : collect read key clash .ok seen xs = .ok bs) : (bs.map key).Nodup := by
  obtain ⟨_, -, hnodup, -, hfinish⟩ := collect_eq_ok.mp h
  rwa [eq_of_forall₂_ok hfinish]

/-- A loop that only refuses keys: it returns its items. -/
theorem collect_keys_eq_ok {seen xs cs : List β} : collect .ok key clash .ok seen xs = .ok cs ↔
    cs = xs ∧ (xs.map key).Nodup ∧ ∀ x ∈ xs, ∀ s ∈ seen, key s ≠ key x := by
  rw [collect_eq_ok]
  constructor
  · rintro ⟨bs, hread, hnodup, hnew, hfinish⟩
    obtain rfl := eq_of_forall₂_ok hread
    exact ⟨eq_of_forall₂_ok hfinish, hnodup, hnew⟩
  · rintro ⟨rfl, hnodup, hnew⟩
    exact ⟨cs, List.forall₂_same.mpr fun _ _ => rfl, hnodup, hnew,
      List.forall₂_same.mpr fun _ _ => rfl⟩

/-- All that such a loop raises is about two items. -/
theorem collect_keys_error {seen xs : List β} {e : ε}
    (h : collect .ok key clash .ok seen xs = .error e) : ∃ b b', e = clash b b' := by
  induction xs generalizing seen with
  | nil => cases h
  | cons x xs ih =>
    rw [collect] at h
    rcases bind_eq_error_iff.mp h with h | ⟨b, hb, h⟩
    · cases h
    · cases hfind : seen.find? fun previous => key previous = key b with
      | some previous =>
        rw [hfind] at h
        exact ⟨previous, b, (Except.error.inj h).symm⟩
      | none =>
        rw [hfind] at h
        rcases bind_eq_error_iff.mp h with h | ⟨c, -, h⟩
        · cases h
        · rcases bind_eq_error_iff.mp h with h | ⟨rest, -, h⟩
          · exact ih h
          · cases h

/-- **A loop that only checks its items** returns them as they are. -/
theorem collect_check_eq_ok {check : β → Except ε β} (hcheck : ∀ b c, check b = .ok c → c = b)
    {xs cs : List β} : collect .ok key clash check [] xs = .ok cs ↔
      cs = xs ∧ (xs.map key).Nodup ∧ ∀ x ∈ xs, check x = .ok x := by
  constructor
  · intro h
    obtain ⟨bs, hread, hnodup, -, hfinish⟩ := collect_eq_ok.mp h
    obtain rfl := eq_of_forall₂_ok hread
    have hcs : cs = bs := by
      rw [← List.forall₂_eq_eq_eq]
      exact hfinish.flip.imp fun c b h => hcheck b c h
    refine ⟨hcs, hnodup, fun x hx => ?_⟩
    obtain ⟨c, -, hc⟩ := exists_of_forall₂ hfinish hx
    rwa [hcheck x c hc] at hc
  · rintro ⟨rfl, hnodup, hall⟩
    exact collect_eq_ok.mpr ⟨cs, List.forall₂_same.mpr fun _ _ => rfl, hnodup, by simp,
      List.forall₂_same.mpr hall⟩

end Collect

end ApiTests.Py
