import ApiTests.Py.Text
import Mathlib.Tactic.IntervalCases

/-!
# UTF-8

`encodeUtf8` is `str.encode("utf-8")`, which raises on a lone surrogate. `decodeUtf8Ignore` is
`bytes.decode("utf-8", errors="ignore")` as a machine that reads one byte at a time: `Owed` is a
character begun, with what its next byte may be; a byte that does not fit drops the character begun
and is read again as a first byte.

Results:
* `spells_utf8Bytes`: **the bytes of a character spell it**: each fits, and the last one finishes it.
* `longest_decodeUtf8Ignore`: **of bytes that are cut, the decoder keeps the longest prefix of the
  text that fits.**
-/

namespace ApiTests.Py

/-- A surrogate, which UTF-8 does not encode. -/
def isSurrogate (c : Nat) : Bool := 0xD800 ≤ c && c ≤ 0xDFFF

/-- The bytes of one character. -/
def utf8Bytes (c : Nat) : List Nat :=
  if c < 0x80 then [c]
  else if c < 0x800 then [0xC0 + c / 64, 0x80 + c % 64]
  else if c < 0x10000 then [0xE0 + c / 4096, 0x80 + c / 64 % 64, 0x80 + c % 64]
  else [0xF0 + c / 262144, 0x80 + c / 4096 % 64, 0x80 + c / 64 % 64, 0x80 + c % 64]

/-- `str.encode("utf-8")`; `none` is its `UnicodeEncodeError`. -/
def encodeUtf8 (t : Text) : Option (List Nat) :=
  if t.any isSurrogate then none else some (t.flatMap utf8Bytes)

/-- ASCII text is its own UTF-8. -/
theorem flatMap_utf8Bytes_of_ascii : ∀ {t : Text}, (∀ c ∈ t, c < 128) → t.flatMap utf8Bytes = t
  | [], _ => rfl
  | c :: t, h => by
    have hc : utf8Bytes c = [c] := if_pos (h c List.mem_cons_self)
    rw [List.flatMap_cons, hc, List.singleton_append,
      flatMap_utf8Bytes_of_ascii fun d hd => h d (List.mem_cons_of_mem _ hd)]

/-- A character begun: its bits so far, the bytes it still needs, the range of the next one. -/
structure Owed where
  bits : Nat
  tails : Nat
  low : Nat
  high : Nat

/-- A first byte: a character, or one begun, or neither. -/
def readLead (b : Nat) : Option Nat × Option Owed :=
  if b < 0x80 then (some b, none)
  else if 0xC2 ≤ b ∧ b ≤ 0xDF then (none, some ⟨b - 0xC0, 1, 0x80, 0xBF⟩)
  else if b = 0xE0 then (none, some ⟨0, 2, 0xA0, 0xBF⟩)
  else if b = 0xED then (none, some ⟨0xD, 2, 0x80, 0x9F⟩)
  else if 0xE1 ≤ b ∧ b ≤ 0xEF then (none, some ⟨b - 0xE0, 2, 0x80, 0xBF⟩)
  else if b = 0xF0 then (none, some ⟨0, 3, 0x90, 0xBF⟩)
  else if 0xF1 ≤ b ∧ b ≤ 0xF3 then (none, some ⟨b - 0xF0, 3, 0x80, 0xBF⟩)
  else if b = 0xF4 then (none, some ⟨4, 3, 0x80, 0x8F⟩)
  else (none, none)

/-- One byte. -/
def readByte : Option Owed → Nat → Option Nat × Option Owed
  | none, b => readLead b
  | some owed, b =>
    if owed.low ≤ b ∧ b ≤ owed.high then
      if owed.tails = 1 then (some (owed.bits * 64 + (b - 0x80)), none)
      else (none, some ⟨owed.bits * 64 + (b - 0x80), owed.tails - 1, 0x80, 0xBF⟩)
    else readLead b

/-- The characters read; one begun and not finished is dropped. -/
def decodeFrom : Option Owed → List Nat → Text
  | _, [] => []
  | owed, b :: bs => (readByte owed b).1.toList ++ decodeFrom (readByte owed b).2 bs

/-- `bytes.decode("utf-8", errors="ignore")`. -/
def decodeUtf8Ignore (bs : List Nat) : Text := decodeFrom none bs

/-! ## The bytes of a character -/

/-- A code point of a text without surrogates. -/
def IsScalar (c : Nat) : Prop := c < 0x110000 ∧ isSurrogate c = false

instance (c : Nat) : Decidable (IsScalar c) := inferInstanceAs (Decidable (_ ∧ _))

/-- The texts without surrogates: the ones that have a UTF-8 encoding. -/
def IsScalarText (t : Text) : Prop := ∀ c ∈ t, IsScalar c

instance (t : Text) : Decidable (IsScalarText t) := inferInstanceAs (Decidable (∀ c ∈ t, _))

/-- Read from `owed` on, the bytes all fit and the last one finishes the character. -/
inductive Spells (c : Nat) : Option Owed → List Nat → Prop
  | last {owed : Option Owed} {b : Nat} (hfits : ∀ o ∈ owed, o.low ≤ b ∧ b ≤ o.high)
      (hread : readByte owed b = (some c, none)) : Spells c owed [b]
  | next {owed : Option Owed} {b : Nat} {next : Owed} {bs : List Nat}
      (hfits : ∀ o ∈ owed, o.low ≤ b ∧ b ≤ o.high) (hread : readByte owed b = (none, some next))
      (hrest : Spells c (some next) bs) : Spells c owed (b :: bs)

/-- The first byte of two. -/
theorem readLead_two {n : Nat} (hlow : 2 ≤ n) (hhigh : n < 32) :
    readLead (0xC0 + n) = (none, some ⟨n, 1, 0x80, 0xBF⟩) := by
  interval_cases n <;> rfl

/-- The first byte of three. -/
theorem readLead_three {n : Nat} (hn : n < 16) :
    readLead (0xE0 + n) = (none, some ⟨n, 2, if n = 0 then 0xA0 else 0x80,
      if n = 0xD then 0x9F else 0xBF⟩) := by
  interval_cases n <;> rfl

/-- The first byte of four. -/
theorem readLead_four {n : Nat} (hn : n < 5) :
    readLead (0xF0 + n) = (none, some ⟨n, 3, if n = 0 then 0x90 else 0x80,
      if n = 4 then 0x8F else 0xBF⟩) := by
  interval_cases n <;> rfl

/-- Where no character is begun, any byte may come. -/
theorem forall_owed_none {P : Owed → Prop} : ∀ o ∈ (none : Option Owed), P o :=
  fun o ho => absurd ho (Option.not_mem_none o)

theorem Spells.lead {c b : Nat} {next : Owed} {bs : List Nat} (h : readLead b = (none, some next))
    (hrest : Spells c (some next) bs) : Spells c none (b :: bs) :=
  .next forall_owed_none h hrest

theorem Spells.tail {c bits tails low high b : Nat} {bs : List Nat} (hlow : low ≤ b)
    (hhigh : b ≤ high) (htails : tails ≠ 1)
    (hrest : Spells c (some ⟨bits * 64 + (b - 0x80), tails - 1, 0x80, 0xBF⟩) bs) :
    Spells c (some ⟨bits, tails, low, high⟩) (b :: bs) := by
  refine .next (fun o ho => ?_) ?_ hrest
  · rw [← Option.some.inj ho]
    exact ⟨hlow, hhigh⟩
  · rw [readByte, if_pos ⟨hlow, hhigh⟩, if_neg htails]

theorem Spells.finish {c bits low high b : Nat} (hlow : low ≤ b) (hhigh : b ≤ high)
    (hvalue : bits * 64 + (b - 0x80) = c) : Spells c (some ⟨bits, 1, low, high⟩) [b] := by
  refine .last (fun o ho => ?_) ?_
  · rw [← Option.some.inj ho]
    exact ⟨hlow, hhigh⟩
  · rw [readByte, if_pos ⟨hlow, hhigh⟩, if_pos rfl, hvalue]

/-- **The bytes of a character spell it.** -/
theorem spells_utf8Bytes {c : Nat} (hc : IsScalar c) : Spells c none (utf8Bytes c) := by
  obtain ⟨hmax, hs⟩ := hc
  have hsurrogate : c < 0xD800 ∨ 0xDFFF < c := by
    simp only [isSurrogate, Bool.and_eq_false_iff, decide_eq_false_iff_not] at hs
    omega
  unfold utf8Bytes
  split_ifs with h1 h2 h3
  · refine .last forall_owed_none ?_
    rw [readByte, readLead, if_pos h1]
  · refine .lead (readLead_two (by omega) (by omega)) ?_
    exact .finish (by omega) (by omega) (by omega)
  · refine .lead (readLead_three (by omega)) ?_
    refine .tail (by split_ifs <;> omega) (by split_ifs <;> omega) (by omega) ?_
    exact .finish (by omega) (by omega) (by omega)
  · refine .lead (readLead_four (by omega)) ?_
    refine .tail (by split_ifs <;> omega) (by split_ifs <;> omega) (by omega) ?_
    refine .tail (by omega) (by omega) (by omega) ?_
    exact .finish (by omega) (by omega) (by omega)

/-! ## Bytes that are cut -/

/-- A character that is spelled is read, whatever follows. -/
theorem decodeFrom_append {c : Nat} {owed : Option Owed} {bs : List Nat} (h : Spells c owed bs)
    (rest : List Nat) : decodeFrom owed (bs ++ rest) = c :: decodeFrom none rest := by
  induction h with
  | last _ hread =>
    rw [List.singleton_append, decodeFrom, hread]
    rfl
  | next _ hread _ ih =>
    rw [List.cons_append, decodeFrom, hread, ih]
    rfl

/-- A character that is cut is dropped. -/
theorem decodeFrom_take {c : Nat} {owed : Option Owed} {bs : List Nat} (h : Spells c owed bs) :
    ∀ n, n < bs.length → decodeFrom owed (bs.take n) = [] := by
  induction h with
  | last =>
    intro n hn
    rw [Nat.lt_one_iff.mp hn]
    rfl
  | next _ hread _ ih =>
    intro n hn
    cases n with
    | zero => rfl
    | succ n =>
      rw [List.take_succ_cons, decodeFrom, hread, ih n (Nat.lt_of_succ_lt_succ hn)]
      rfl

/-- The longest prefix of a text with at most `n` bytes. -/
structure IsLongestPrefix (t : Text) (n : Nat) (p : Text) : Prop where
  isPrefix : p <+: t
  fits : (p.flatMap utf8Bytes).length ≤ n
  longest : ∀ q, q <+: t → (q.flatMap utf8Bytes).length ≤ n → q <+: p

/-- **Of bytes that are cut, the decoder keeps the longest prefix of the text that fits.** -/
theorem longest_decodeUtf8Ignore : ∀ {t : Text}, (∀ c ∈ t, IsScalar c) → ∀ n,
    IsLongestPrefix t n (decodeUtf8Ignore ((t.flatMap utf8Bytes).take n))
  | [], _, n => by
    rw [List.flatMap_nil, List.take_nil]
    exact ⟨List.nil_prefix, Nat.zero_le n, fun _ hq _ => hq⟩
  | c :: t, h, n => by
    have hspells := spells_utf8Bytes (h c List.mem_cons_self)
    rw [List.flatMap_cons]
    by_cases hn : (utf8Bytes c).length ≤ n
    · -- The first character fits, and the others have what is left.
      have ht : ∀ d ∈ t, IsScalar d := fun d hd => h d (List.mem_cons_of_mem _ hd)
      obtain ⟨hpre, hfits, hlongest⟩ := longest_decodeUtf8Ignore ht (n - (utf8Bytes c).length)
      rw [List.take_append, List.take_of_length_le hn, decodeUtf8Ignore, decodeFrom_append hspells]
      refine ⟨List.cons_prefix_cons.mpr ⟨rfl, hpre⟩, ?_, fun q hq hlength => ?_⟩
      · rw [List.flatMap_cons, List.length_append]
        exact Nat.add_le_of_le_sub' hn hfits
      · cases q with
        | nil => exact List.nil_prefix
        | cons d q =>
          obtain ⟨rfl, hrest⟩ := List.cons_prefix_cons.mp hq
          rw [List.flatMap_cons, List.length_append] at hlength
          exact List.cons_prefix_cons.mpr ⟨rfl, hlongest q hrest (by omega)⟩
    · -- The first character is cut.
      rw [Nat.not_le] at hn
      rw [List.take_append_of_le_length hn.le, decodeUtf8Ignore, decodeFrom_take hspells n hn]
      refine ⟨List.nil_prefix, Nat.zero_le n, fun q hq hlength => ?_⟩
      cases q with
      | nil => exact List.nil_prefix
      | cons d q =>
        obtain ⟨rfl, -⟩ := List.cons_prefix_cons.mp hq
        rw [List.flatMap_cons, List.length_append] at hlength
        omega

end ApiTests.Py
