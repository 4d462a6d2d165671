import ApiTests.Py.JsonEqual
import ApiTests.Py.JsonRoundTrip

/-!
# What sorting the keys of a value leaves

A value and the same value with its dicts sorted hold the same under every key, and `==` does not tell
them apart.

Results:
* `keysDistinct_sortKeys`, `lookup_sortKeys`: the keys stay distinct, and hold what they held.
* **`pyEq_sortKeys_left`**, **`pyEq_sortKeys_right`**: `==` with any value is as it was.
-/

namespace ApiTests.Py

variable {ν α : Type}

/-- A dict whose entries are sorted holds the same. -/
theorem lookup_sortByKey {entries : List (Text × α)} (h : (entries.map Prod.fst).Nodup) (key : Text) :
    (sortByKey entries).lookup key = entries.lookup key := by
  refine Option.ext fun x => ?_
  rw [Dict.lookup_eq_some_iff_mem (nodup_sortByKey h), Dict.lookup_eq_some_iff_mem h, mem_sortByKey]

theorem lookup_map_snd {β : Type} (f : α → β) (entries : List (Text × α)) (key : Text) :
    (entries.map fun e => (e.1, f e.2)).lookup key = (entries.lookup key).map f := by
  induction entries with
  | nil => rfl
  | cons e entries ih =>
    rw [List.map_cons, List.lookup_cons, List.lookup_cons, ih]
    cases key == e.1 <;> rfl

/-- The entries of a dict, sorted, and their values. -/
def sortEntries (entries : List (Text × Json ν)) : List (Text × Json ν) :=
  (sortByKey entries).map fun e => (e.1, e.2.sortKeys)

theorem sortKeys_dict_eq (entries : List (Text × Json ν)) :
    (Json.dict entries).sortKeys = .dict (sortEntries entries) := Json.sortKeys_dict entries

theorem map_fst_sortEntries (entries : List (Text × Json ν)) :
    (sortEntries entries).map Prod.fst = (sortByKey entries).map Prod.fst := by
  rw [sortEntries, List.map_map]
  rfl

theorem mem_sortEntries {entries : List (Text × Json ν)} {key : Text} {x' : Json ν} :
    (key, x') ∈ sortEntries entries ↔ ∃ x, (key, x) ∈ entries ∧ x' = x.sortKeys := by
  rw [sortEntries, List.mem_map]
  constructor
  · rintro ⟨e, he, heq⟩
    cases heq
    exact ⟨e.2, mem_sortByKey.mp he, rfl⟩
  · rintro ⟨x, hx, rfl⟩
    exact ⟨(key, x), mem_sortByKey.mpr hx, rfl⟩

theorem mem_keys_sortEntries {entries : List (Text × Json ν)} {key : Text} :
    key ∈ (sortEntries entries).map Prod.fst ↔ key ∈ entries.map Prod.fst := by
  rw [map_fst_sortEntries]
  exact ((List.perm_insertionSort _ entries).map Prod.fst).mem_iff

/-- **What a key holds**, sorted. -/
theorem lookup_sortKeys {entries : List (Text × Json ν)} (h : (entries.map Prod.fst).Nodup) (key : Text) :
    (sortEntries entries).lookup key = (entries.lookup key).map Json.sortKeys := by
  rw [sortEntries, lookup_map_snd, lookup_sortByKey h]

theorem keysDistinct_sortKeys {v : Json ν} (h : v.KeysDistinct) : v.sortKeys.KeysDistinct := by
  induction v using Json.induction with
  | list items ih =>
    rw [Json.keysDistinct_list_iff] at h
    rw [Json.sortKeys, Json.sortKeysItems_eq, Json.keysDistinct_list_iff]
    exact List.forall_mem_map.mpr fun x hx => ih x hx (h x hx)
  | dict entries ih =>
    rw [Json.keysDistinct_dict_iff] at h
    rw [sortKeys_dict_eq, Json.keysDistinct_dict_iff, map_fst_sortEntries]
    refine ⟨nodup_sortByKey h.1, fun e he => ?_⟩
    obtain ⟨x, hx, heq⟩ := mem_sortEntries.mp (show (e.1, e.2) ∈ sortEntries entries from he)
    rw [heq]
    exact ih (e.1, x) hx (h.2 (e.1, x) hx)
  | _ => exact trivial

section Equal

variable {x y : Json PyNumber}

/-- A value is equal to itself. -/
theorem pyEq_self (hx : x.KeysDistinct) : pyEq x x = true := by
  induction x using Json.induction with
  | list items ih =>
    rw [Json.keysDistinct_list_iff] at hx
    have hall : ∀ x ∈ items, pyEq x x = true := fun x hmem => ih x hmem (hx x hmem)
    rw [pyEq]
    clear ih hx
    induction items with
    | nil => rfl
    | cons x items ih =>
      rw [List.forall_mem_cons] at hall
      rw [pyEqItems, hall.1, ih hall.2, Bool.and_self]
  | dict entries ih =>
    obtain ⟨hnodup, hvalues⟩ := Json.keysDistinct_dict_iff.mp hx
    refine (pyEq_dict_iff hnodup hnodup).mpr ⟨fun _ => Iff.rfl, fun key a b ha hb => ?_⟩
    obtain rfl : a = b := Option.some.inj
      (((Dict.lookup_eq_some_iff_mem hnodup).mpr ha).symm.trans ((Dict.lookup_eq_some_iff_mem hnodup).mpr hb))
    exact ih (key, a) ha (hvalues _ ha)
  | _ => simp [pyEq]

/-- **`==` does not see the order of keys** in its first argument. -/
theorem pyEq_sortKeys_left (hx : x.KeysDistinct) : ∀ {y : Json PyNumber}, y.KeysDistinct →
    (pyEq x.sortKeys y = true ↔ pyEq x y = true) := by
  induction x using Json.induction with
  | list items ih =>
    intro y hy
    rw [Json.keysDistinct_list_iff] at hx
    rw [Json.sortKeys, Json.sortKeysItems_eq]
    cases y with
    | list items' =>
      rw [Json.keysDistinct_list_iff] at hy
      rw [pyEq, pyEq, pyEqItems_iff, pyEqItems_iff, List.length_map, List.zip_map_left,
        List.forall_mem_map]
      refine and_congr_right' (forall₂_congr fun p hp => ?_)
      obtain ⟨hp, hp'⟩ := List.of_mem_zip (show (p.1, p.2) ∈ items.zip items' from hp)
      exact ih p.1 hp (hx p.1 hp) (hy p.2 hp')
    | _ => rw [pyEq, pyEq] <;> simp
  | dict entries ih =>
    intro y hy
    have hentries := Json.keysDistinct_dict_iff.mp hx
    have hsorted := Json.keysDistinct_dict_iff.mp (sortKeys_dict_eq entries ▸ keysDistinct_sortKeys hx)
    rw [sortKeys_dict_eq]
    cases y with
    | dict entries' =>
      have hy := Json.keysDistinct_dict_iff.mp hy
      rw [pyEq_dict_iff hsorted.1 hy.1, pyEq_dict_iff hentries.1 hy.1]
      simp only [mem_keys_sortEntries, mem_sortEntries]
      refine and_congr_right' ⟨fun h key x z hx hz => ?_, fun h key x' z hx' hz => ?_⟩
      · exact (ih (key, x) hx (hentries.2 _ hx) (hy.2 _ hz)).mp (h key _ z ⟨x, hx, rfl⟩ hz)
      · obtain ⟨x, hx, rfl⟩ := hx'
        exact (ih (key, x) hx (hentries.2 _ hx) (hy.2 _ hz)).mpr (h key x z hx hz)
    | _ => rw [pyEq, pyEq] <;> simp
  | _ => exact fun _ => Iff.rfl

/-- **`==` does not see the order of keys** in its second argument. -/
theorem pyEq_sortKeys_right (hx : x.KeysDistinct) : ∀ {y : Json PyNumber}, y.KeysDistinct →
    (pyEq x y.sortKeys = true ↔ pyEq x y = true) := by
  induction x using Json.induction with
  | list items ih =>
    intro y hy
    rw [Json.keysDistinct_list_iff] at hx
    cases y with
    | list items' =>
      rw [Json.keysDistinct_list_iff] at hy
      rw [Json.sortKeys, Json.sortKeysItems_eq, pyEq, pyEq, pyEqItems_iff, pyEqItems_iff,
        List.length_map, List.zip_map_right, List.forall_mem_map]
      refine and_congr_right' (forall₂_congr fun p hp => ?_)
      obtain ⟨hp, hp'⟩ := List.of_mem_zip (show (p.1, p.2) ∈ items.zip items' from hp)
      exact ih p.1 hp (hx p.1 hp) (hy p.2 hp')
    | dict entries' => rw [sortKeys_dict_eq, pyEq, pyEq] <;> simp
    | _ => exact Iff.rfl
  | dict entries ih =>
    intro y hy
    have hentries := Json.keysDistinct_dict_iff.mp hx
    cases y with
    | dict entries' =>
      have hsorted := Json.keysDistinct_dict_iff.mp
        (sortKeys_dict_eq entries' ▸ keysDistinct_sortKeys hy)
      have hy := Json.keysDistinct_dict_iff.mp hy
      rw [sortKeys_dict_eq, pyEq_dict_iff hentries.1 hsorted.1, pyEq_dict_iff hentries.1 hy.1]
      simp only [mem_keys_sortEntries, mem_sortEntries]
      refine and_congr_right' ⟨fun h key x z hx hz => ?_, fun h key x z' hx hz' => ?_⟩
      · exact (ih (key, x) hx (hentries.2 _ hx) (hy.2 _ hz)).mp (h key x _ hx ⟨z, hz, rfl⟩)
      · obtain ⟨z, hz, rfl⟩ := hz'
        exact (ih (key, x) hx (hentries.2 _ hx) (hy.2 _ hz)).mpr (h key x z hx hz)
    | list items' => rw [Json.sortKeys, pyEq, pyEq] <;> simp
    | _ => exact Iff.rfl
  | _ =>
    intro y hy
    cases y with
    | list items' => rw [Json.sortKeys, pyEq, pyEq] <;> simp
    | dict entries' => rw [sortKeys_dict_eq, pyEq, pyEq] <;> simp
    | _ => exact Iff.rfl

end Equal

end ApiTests.Py
