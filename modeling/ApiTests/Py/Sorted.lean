import ApiTests.Py.Text
import Mathlib.Data.List.Lex
import Mathlib.Data.List.Nodup
import Mathlib.Data.List.Sort
import Mathlib.Data.Prod.Lex

/-!
# `sorted(items, key=...)`

Sorting by a key in a linear order, stable as Python's. A key of several texts is compared text by
text (`Lex`), a text by its code points.

Results:
* `sortBy_perm`, `sortBy_pairwise`: the sorted list has the same items, in order.
* `sortBy_eq_of_perm`: **where no two items have one key, the order of the input does not matter.**
-/

namespace ApiTests.Py

variable {α κ : Type} [LinearOrder κ]

/-- `sorted(items, key=key)`. -/
def sortBy (key : α → κ) (items : List α) : List α := items.insertionSort fun a b => key a ≤ key b

theorem sortBy_perm (key : α → κ) (items : List α) : (sortBy key items).Perm items :=
  List.perm_insertionSort _ _

@[simp] theorem mem_sortBy {key : α → κ} {items : List α} {a : α} :
    a ∈ sortBy key items ↔ a ∈ items := (sortBy_perm key items).mem_iff

@[simp] theorem sortBy_eq_nil {key : α → κ} {items : List α} : sortBy key items = [] ↔ items = [] := by
  rw [← List.length_eq_zero_iff, (sortBy_perm key items).length_eq, List.length_eq_zero_iff]

theorem sortBy_pairwise (key : α → κ) (items : List α) :
    (sortBy key items).Pairwise fun a b => key a ≤ key b := by
  have : Std.Total fun a b : α => key a ≤ key b := ⟨fun a b => le_total (key a) (key b)⟩
  have : IsTrans α fun a b => key a ≤ key b := ⟨fun _ _ _ h h' => le_trans h h'⟩
  exact List.pairwise_insertionSort _ _

/-- Items with distinct keys stand in strict order. -/
theorem sortBy_strict {key : α → κ} {items : List α} (h : (items.map key).Nodup) :
    (sortBy key items).Pairwise fun a b => key a < key b := by
  have hnodup : ((sortBy key items).map key).Nodup :=
    ((sortBy_perm key items).map key).nodup_iff.mpr h
  rw [List.Nodup, List.pairwise_map] at hnodup
  exact (sortBy_pairwise key items).imp₂ (fun _ _ hle hne => lt_of_le_of_ne hle hne) hnodup

/-- **Sorting forgets the order of items with distinct keys.** -/
theorem sortBy_eq_of_perm {key : α → κ} {items items' : List α} (h : (items.map key).Nodup)
    (hperm : items.Perm items') : sortBy key items = sortBy key items' := by
  have hsame : (sortBy key items).Perm (sortBy key items') :=
    ((sortBy_perm key items).trans hperm).trans (sortBy_perm key items').symm
  refine hsame.eq_of_pairwise (fun a b ha hb hle hle' => ?_) (sortBy_pairwise key items)
    (sortBy_pairwise key items')
  exact List.inj_on_of_nodup_map h (mem_sortBy.mp ha)
    (hperm.mem_iff.mpr (mem_sortBy.mp hb)) (le_antisymm hle hle')

/-- `sorted(texts)`. -/
def sortTexts (texts : List Text) : List Text := sortBy (fun t => t) texts

@[simp] theorem mem_sortTexts {texts : List Text} {t : Text} : t ∈ sortTexts texts ↔ t ∈ texts :=
  mem_sortBy

@[simp] theorem sortTexts_eq_nil {texts : List Text} : sortTexts texts = [] ↔ texts = [] :=
  sortBy_eq_nil

/-- Sorting forgets the order of texts. -/
theorem sortTexts_perm {texts texts' : List Text} (h : texts.Perm texts') :
    sortTexts texts = sortTexts texts' := by
  have hsame : (sortTexts texts).Perm (sortTexts texts') :=
    ((sortBy_perm _ texts).trans h).trans (sortBy_perm _ texts').symm
  exact hsame.eq_of_pairwise (fun _ _ _ _ hle hle' => le_antisymm hle hle') (sortBy_pairwise _ texts)
    (sortBy_pairwise _ texts')

/-- `", ".join(texts)`. -/
def joinTexts (texts : List Text) : Text := (lit ", ").intercalate texts

/-- A key of three texts. -/
def keyOfTexts (a b c : Text) : Text ×ₗ Text ×ₗ Text := toLex (a, toLex (b, c))

theorem keyOfTexts_inj {a b c a' b' c' : Text} :
    keyOfTexts a b c = keyOfTexts a' b' c' ↔ a = a' ∧ b = b' ∧ c = c' := by
  unfold keyOfTexts
  rw [toLex_inj, Prod.mk.injEq, toLex_inj, Prod.mk.injEq]

end ApiTests.Py
