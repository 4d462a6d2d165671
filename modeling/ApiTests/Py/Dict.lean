import Mathlib.Data.List.Nodup
import Mathlib.Data.List.Perm.Subperm
import Mathlib.Tactic.Common

/-!
# Insertion-ordered dictionaries

A Python `dict` is its list of entries in insertion order, no key twice. `update` is `dict.update`:
a key that is there keeps its place and gets the new value, a new key goes to the end.

Results: `mem_entries_iff` (an entry is a lookup), `get?_update` (reading after an update),
`get?_erase`, `entries_ofList` (a dictionary display without repeated keys is its own list) and
`length_ofList_eq_iff` (and has its length only then).
-/

namespace ApiTests.Py

variable {κ ν : Type} [DecidableEq κ]

/-- A `dict`. -/
structure Dict (κ ν : Type) where
  entries : List (κ × ν)
  nodup : (entries.map Prod.fst).Nodup

namespace Dict

omit [DecidableEq κ] in
theorem ext {d e : Dict κ ν} (h : d.entries = e.entries) : d = e := by
  obtain ⟨l, hl⟩ := d
  obtain ⟨m, hm⟩ := e
  subst h
  rfl

instance [DecidableEq ν] : DecidableEq (Dict κ ν) := fun d e =>
  decidable_of_iff (d.entries = e.entries) ⟨ext, fun h => h ▸ rfl⟩

/-- `{}`. -/
def empty : Dict κ ν := ⟨[], List.nodup_nil⟩

/-- The value stored for `k`. -/
def get? (d : Dict κ ν) (k : κ) : Option ν := d.entries.lookup k

/-- `d.get(k, v)`. -/
def getD (d : Dict κ ν) (k : κ) (v : ν) : ν := (d.get? k).getD v

theorem get?_eq_none_iff {d : Dict κ ν} {k : κ} : d.get? k = none ↔ k ∉ d.entries.map Prod.fst := by
  rw [get?, List.lookup_eq_none_iff, List.mem_map]
  constructor
  · rintro h ⟨e, he, rfl⟩
    simpa using h e he
  · intro h e he
    have : k ≠ e.1 := fun hk => h ⟨e, he, hk.symm⟩
    simpa using this

omit [DecidableEq κ] in
theorem lookup_of_mem [BEq κ] [LawfulBEq κ] {l : List (κ × ν)} (hl : (l.map Prod.fst).Nodup)
    {k : κ} {v : ν} (h : (k, v) ∈ l) : l.lookup k = some v := by
  induction l with
  | nil => exact absurd h List.not_mem_nil
  | cons e l ih =>
    obtain ⟨k', v'⟩ := e
    rw [List.map_cons, List.nodup_cons] at hl
    rcases List.mem_cons.mp h with h | h
    · cases h
      exact List.lookup_cons_self
    · have hne : k ≠ k' := fun hk => hl.1 (List.mem_map.mpr ⟨(k, v), h, hk⟩)
      rw [List.lookup_cons, beq_false_of_ne hne]
      exact ih hl.2 h

omit [DecidableEq κ] in
/-- A lookup in a list of entries with distinct keys. -/
theorem lookup_eq_some_iff_mem [BEq κ] [LawfulBEq κ] {l : List (κ × ν)}
    (hl : (l.map Prod.fst).Nodup) {k : κ} {v : ν} : l.lookup k = some v ↔ (k, v) ∈ l := by
  refine ⟨fun h => ?_, lookup_of_mem hl⟩
  obtain ⟨l₁, l₂, hl, -⟩ := List.lookup_eq_some_iff.mp h
  rw [hl]
  exact List.mem_append_right _ List.mem_cons_self

/-- **An entry is what a lookup finds.** -/
theorem mem_entries_iff {d : Dict κ ν} {k : κ} {v : ν} :
    (k, v) ∈ d.entries ↔ d.get? k = some v :=
  (lookup_eq_some_iff_mem d.nodup).symm

/-! ## Updating -/

/-- `u`'s value for an entry's key, or the entry's own. -/
def override (u : Dict κ ν) (e : κ × ν) : κ × ν := (e.1, u.getD e.1 e.2)

/-- `dict.update`. -/
def update (d u : Dict κ ν) : Dict κ ν where
  entries := d.entries.map (override u) ++ u.entries.filter fun e => d.get? e.1 = none
  nodup := by
    rw [List.map_append, List.map_map]
    have hsame : (Prod.fst ∘ override u : κ × ν → κ) = Prod.fst := rfl
    rw [hsame, List.nodup_append']
    refine ⟨d.nodup, u.nodup.sublist (List.filter_sublist.map _), fun k hk hk' => ?_⟩
    obtain ⟨e, he, rfl⟩ := List.mem_map.mp hk'
    have := (List.mem_filter.mp he).2
    exact absurd hk (get?_eq_none_iff.mp (by simpa using this))

theorem entries_update (d u : Dict κ ν) : (d.update u).entries =
    d.entries.map (override u) ++ u.entries.filter fun e => d.get? e.1 = none := rfl

theorem lookup_map_override (u : Dict κ ν) (l : List (κ × ν)) (k : κ) :
    (l.map (override u)).lookup k = (l.lookup k).map fun v => u.getD k v := by
  induction l with
  | nil => rfl
  | cons e l ih =>
    obtain ⟨k', v'⟩ := e
    rw [List.map_cons, override, List.lookup_cons, List.lookup_cons]
    cases hk : k == k' with
    | true =>
      rw [beq_iff_eq] at hk
      subst hk
      rfl
    | false => exact ih

theorem lookup_filter_key (q : κ → Bool) (l : List (κ × ν)) {k : κ} (hk : q k = true) :
    (l.filter fun e => q e.1).lookup k = l.lookup k := by
  induction l with
  | nil => rfl
  | cons e l ih =>
    obtain ⟨k', v'⟩ := e
    rw [List.lookup_cons]
    by_cases hq : q k' = true
    · rw [List.filter_cons_of_pos (by exact hq), List.lookup_cons, ih]
    · rw [List.filter_cons_of_neg (by exact hq), ih]
      have hne : (k == k') = false := beq_false_of_ne (by rintro rfl; exact hq hk)
      rw [hne]

/-- **Reading after an update.** -/
theorem get?_update (d u : Dict κ ν) (k : κ) :
    (d.update u).get? k = (u.get? k).or (d.get? k) := by
  simp only [get?, update, List.lookup_append, lookup_map_override]
  cases hd : d.entries.lookup k with
  | some v =>
    simp only [Option.map_some, Option.some_or, getD, get?]
    cases u.entries.lookup k <;> rfl
  | none =>
    simp only [Option.map_none, Option.none_or, Option.or_none]
    exact lookup_filter_key (fun k => decide (d.entries.lookup k = none)) u.entries
      (decide_eq_true hd)

theorem get?_update_of_none {d u : Dict κ ν} {k : κ} (h : u.get? k = none) :
    (d.update u).get? k = d.get? k := by
  rw [get?_update, h, Option.none_or]

theorem get?_update_of_some {d u : Dict κ ν} {k : κ} {v : ν} (h : u.get? k = some v) :
    (d.update u).get? k = some v := by
  rw [get?_update, h, Option.some_or]

/-- The entries whose keys satisfy `P` are pairwise distinct under `f`. -/
def DistinctOn {μ : Type} (P : κ → Prop) (f : ν → μ) (d : Dict κ ν) : Prop :=
  ∀ ⦃k k' v v'⦄, P k → P k' → d.get? k = some v → d.get? k' = some v' → f v = f v' → k = k'

/-- **An update keeps entries distinct** if it touches one key of the class at most, with a value no
other entry of the class has. -/
theorem DistinctOn.update {μ : Type} {P : κ → Prop} {f : ν → μ} {d u : Dict κ ν}
    (h : d.DistinctOn P f) (k₀ : κ) (hkey : ∀ k v, P k → u.get? k = some v → k = k₀)
    (hnew : ∀ v, u.get? k₀ = some v → ∀ k w, P k → k ≠ k₀ → d.get? k = some w → f w ≠ f v) :
    (d.update u).DistinctOn P f := by
  -- An entry of the class is the update's own, or an old one elsewhere.
  have hsplit : ∀ k v, P k → (d.update u).get? k = some v →
      (k = k₀ ∧ u.get? k₀ = some v) ∨ (u.get? k = none ∧ d.get? k = some v) := by
    intro k v hk hget
    rw [get?_update] at hget
    cases hu : u.get? k with
    | none =>
      rw [hu, Option.none_or] at hget
      exact Or.inr ⟨rfl, hget⟩
    | some w =>
      rw [hu, Option.some_or] at hget
      obtain rfl := hkey k w hk hu
      exact Or.inl ⟨rfl, hu.trans hget⟩
  intro k k' v v' hk hk' hv hv' hsame
  by_contra hne
  rcases hsplit k v hk hv with ⟨rfl, hu⟩ | ⟨-, hd⟩ <;>
    rcases hsplit k' v' hk' hv' with ⟨hk₀, hu'⟩ | ⟨-, hd'⟩
  · exact hne hk₀.symm
  · exact hnew v hu k' v' hk' (Ne.symm hne) hd' hsame.symm
  · subst hk₀
    exact hnew v' hu' k v hk hne hd hsame
  · exact hne (h hk hk' hd hd' hsame)

/-- `dict.pop` of a key, without the value. -/
def erase (d : Dict κ ν) (k : κ) : Dict κ ν where
  entries := d.entries.filter fun e => decide (e.1 ≠ k)
  nodup := d.nodup.sublist (List.filter_sublist.map _)

theorem get?_erase_of_ne (d : Dict κ ν) {k q : κ} (h : q ≠ k) : (d.erase k).get? q = d.get? q :=
  lookup_filter_key (fun q => decide (q ≠ k)) d.entries (decide_eq_true h)

theorem get?_erase_self (d : Dict κ ν) (k : κ) : (d.erase k).get? k = none := by
  rw [get?_eq_none_iff]
  intro hmem
  obtain ⟨e, he, rfl⟩ := List.mem_map.mp hmem
  exact of_decide_eq_true (List.mem_filter.mp he).2 rfl

/-! ## Dictionary displays -/

/-- `{k: v}`. -/
def single (k : κ) (v : ν) : Dict κ ν := ⟨[(k, v)], List.nodup_singleton k⟩

/-- The display `{k₁: v₁, …}`: a repeated key keeps its first place and its last value. -/
def ofList (l : List (κ × ν)) : Dict κ ν := l.foldl (fun d e => d.update (single e.1 e.2)) empty

theorem get?_single (k : κ) (v : ν) (q : κ) :
    (single k v).get? q = if q = k then some v else none := by
  by_cases h : q = k
  · simp [single, get?, h]
  · simp [single, get?, h]

theorem entries_update_single {d : Dict κ ν} {k : κ} {v : ν} (h : d.get? k = none) :
    (d.update (single k v)).entries = d.entries ++ [(k, v)] := by
  have hmap : d.entries.map (override (single k v)) = d.entries := by
    conv_rhs => rw [← List.map_id d.entries]
    refine List.map_congr_left fun e he => ?_
    have hne : e.1 ≠ k := by
      rintro rfl
      exact get?_eq_none_iff.mp h (List.mem_map.mpr ⟨e, he, rfl⟩)
    simp [override, getD, get?_single, hne]
  have hfilter : (single k v).entries.filter (fun e => d.get? e.1 = none) = [(k, v)] := by
    simp [single, h]
  rw [entries_update, hmap, hfilter]

theorem entries_foldl_update : ∀ (l : List (κ × ν)) (d : Dict κ ν),
    ((d.entries ++ l).map Prod.fst).Nodup →
      (l.foldl (fun d e => d.update (single e.1 e.2)) d).entries = d.entries ++ l
  | [], d, _ => (List.append_nil _).symm
  | e :: l, d, h => by
    have hnone : d.get? e.1 = none := by
      rw [get?_eq_none_iff]
      intro hm
      rw [List.map_append, List.nodup_append'] at h
      exact h.2.2 hm List.mem_cons_self
    have hentries := entries_update_single (v := e.2) hnone
    rw [List.foldl_cons, entries_foldl_update l _ (by rw [hentries]; simpa using h), hentries]
    simp

/-- **A display without repeated keys is its own list of entries.** -/
theorem entries_ofList {l : List (κ × ν)} (h : (l.map Prod.fst).Nodup) :
    (ofList l).entries = l :=
  entries_foldl_update l empty h

theorem get?_ofList_eq_some_iff {l : List (κ × ν)} (h : (l.map Prod.fst).Nodup) {k : κ} {v : ν} :
    (ofList l).get? k = some v ↔ (k, v) ∈ l := by
  rw [← mem_entries_iff, entries_ofList h]

theorem get?_ofList_eq_none_iff {l : List (κ × ν)} (h : (l.map Prod.fst).Nodup) {k : κ} :
    (ofList l).get? k = none ↔ k ∉ l.map Prod.fst := by
  rw [get?_eq_none_iff, entries_ofList h]

/-- **`{key(a): a for a in l}` with distinct keys.** -/
theorem get?_keyed {key : ν → κ} {l : List ν} (h : (l.map key).Nodup) {k : κ} {a : ν} :
    (ofList (l.map fun a => (key a, a))).get? k = some a ↔ a ∈ l ∧ key a = k := by
  have hkeys : ((l.map fun a => (key a, a)).map Prod.fst).Nodup := by rwa [List.map_map]
  rw [get?_ofList_eq_some_iff hkeys, List.mem_map]
  constructor
  · rintro ⟨b, hb, heq⟩
    cases heq
    exact ⟨hb, rfl⟩
  · rintro ⟨hmem, rfl⟩
    exact ⟨a, hmem, rfl⟩

theorem mem_keys_update_single {d : Dict κ ν} {k q : κ} {v : ν} :
    q ∈ (d.update (single k v)).entries.map Prod.fst ↔ q ∈ d.entries.map Prod.fst ∨ q = k := by
  rw [← not_iff_not, ← get?_eq_none_iff, get?_update, get?_single, not_or, ← get?_eq_none_iff]
  by_cases h : q = k
  · simp [h]
  · simp [h]

theorem mem_keys_ofList {l : List (κ × ν)} {q : κ} :
    q ∈ (ofList l).entries.map Prod.fst ↔ q ∈ l.map Prod.fst := by
  have hfold : ∀ (l : List (κ × ν)) (d : Dict κ ν),
      q ∈ (l.foldl (fun d e => d.update (single e.1 e.2)) d).entries.map Prod.fst ↔
        q ∈ d.entries.map Prod.fst ∨ q ∈ l.map Prod.fst := by
    intro l
    induction l with
    | nil => simp
    | cons e l ih =>
      intro d
      rw [List.foldl_cons, ih, mem_keys_update_single, List.map_cons, List.mem_cons, or_assoc]
  rw [ofList, hfold]
  simp [empty]

/-- **A display keeps its length iff no key repeats.** -/
theorem length_ofList_eq_iff {l : List (κ × ν)} :
    (ofList l).entries.length = l.length ↔ (l.map Prod.fst).Nodup := by
  constructor
  · intro hlength
    have hsub : (ofList l).entries.map Prod.fst ⊆ l.map Prod.fst := fun _ => mem_keys_ofList.mp
    have hperm := ((ofList l).nodup.subperm hsub).perm_of_length_le (by simp [hlength])
    exact hperm.nodup_iff.mp (ofList l).nodup
  · exact fun h => by rw [entries_ofList h]

theorem ofList_singleton (k : κ) (v : ν) : ofList [(k, v)] = single k v :=
  ext (entries_ofList (List.nodup_singleton k))

end Dict

end ApiTests.Py
