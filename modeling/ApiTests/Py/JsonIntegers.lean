import ApiTests.Py.JsonEqual
import ApiTests.Py.JsonRead
import Mathlib.Data.Nat.Digits.Lemmas

/-!
# Integers in a JSON document

`str(n)` and `int(text)` of decimal integers, as `json` writes and reads them. `integers` are the
numbers of documents without floats.

Results:
* `readIntText_intText`: **an integer is read as it is written.**
* `lawful_integers`: **the integers of a document read back.**
-/

namespace ApiTests.Py

/-- `str(n)` of a natural number. -/
def natText (n : Nat) : Text := if n = 0 then [48] else ((Nat.digits 10 n).map (48 + ·)).reverse

/-- `str(n)`. -/
def intText : Int → Text
  | .ofNat n => natText n
  | .negSucc n => 45 :: natText (n + 1)

/-- `int(text)` of decimal digits. -/
def readNatText (t : Text) : Nat := Nat.ofDigits 10 (t.reverse.map (· - 48))

/-- `int(text)`. -/
def readIntText (t : Text) : Int :=
  if t.head? = some 45 then -(readNatText t.tail : Int) else readNatText t

theorem readNatText_natText (n : Nat) : readNatText (natText n) = n := by
  by_cases hn : n = 0
  · subst hn
    decide
  · have hid : ((fun c => c - 48) ∘ fun d => 48 + d) = id := by
      funext d
      simp
    rw [natText, if_neg hn, readNatText, List.reverse_reverse, List.map_map, hid, List.map_id,
      Nat.ofDigits_digits]

/-- A natural number is written as `0`, or with a first digit that is not `0`. -/
theorem natText_cases (n : Nat) : natText n = [48] ∨ ∃ c digits, natText n = c :: digits ∧
    (49 ≤ c ∧ c ≤ 57) ∧ ∀ d ∈ digits, isDigit d = true := by
  by_cases hn : n = 0
  · exact Or.inl (if_pos hn)
  · refine Or.inr ?_
    have hne := Nat.digits_ne_nil_iff_ne_zero (b := 10).mpr hn
    have hlast := Nat.getLast_digit_ne_zero 10 hn
    have hdigit : ∀ d ∈ Nat.digits 10 n, d < 10 := fun d hd => Nat.digits_lt_base (by decide) hd
    obtain ⟨init, last, heq⟩ : ∃ init last, Nat.digits 10 n = init ++ [last] :=
      ⟨_, _, (List.dropLast_append_getLast hne).symm⟩
    have hzero : last ≠ 0 := by simpa [heq] using hlast
    refine ⟨48 + last, (init.map (48 + ·)).reverse, ?_, ?_, fun d hd => ?_⟩
    · rw [natText, if_neg hn, heq]
      simp
    · have := hdigit last (by simp [heq])
      omega
    · rw [List.mem_reverse, List.mem_map] at hd
      obtain ⟨e, he, rfl⟩ := hd
      have := hdigit e (by simp [heq, he])
      simp only [isDigit, Bool.and_eq_true, decide_eq_true_eq]
      omega

/-- **An integer is read as it is written.** -/
theorem readIntText_intText (n : Int) : readIntText (intText n) = n := by
  cases n with
  | ofNat n =>
    have hhead : ¬ (natText n).head? = some 45 := by
      rcases natText_cases n with h | ⟨c, digits, h, hc, -⟩
      · simp [h]
      · rw [h, List.head?_cons, Option.some.injEq]
        omega
    rw [intText, readIntText, if_neg hhead, readNatText_natText]
    rfl
  | negSucc n =>
    have hhead : (45 :: natText (n + 1)).head? = some 45 := rfl
    rw [intText, readIntText, if_pos hhead, List.tail_cons, readNatText_natText]
    rfl

/-- The numbers of documents without floats. -/
def integers : JsonNumbers PyNumber where
  write
    | .int n => intText n
    | .float _ => lit "0.0"
  ofInt t := some (.int (readIntText t))
  ofFloat _ := none
  constant _ := none

theorem stops_head {rest : Text} (h : Stops rest) :
    (∀ c ∈ rest.head?, isDigit c = false) ∧ rest.head? ≠ some 46 ∧
      rest.head? ≠ some 101 ∧ rest.head? ≠ some 69 := by
  have hnone : ∀ c, rest.head? = some c → isDigit c = false ∧ c ≠ 46 ∧ c ≠ 101 ∧ c ≠ 69 := by
    intro c hc
    have := h c hc
    simpa [extendsNumber, not_or, and_assoc] using this
  exact ⟨fun c hc => (hnone c hc).1, fun hc => (hnone _ hc).2.1 rfl, fun hc => (hnone _ hc).2.2.1 rfl,
    fun hc => (hnone _ hc).2.2.2 rfl⟩

/-- What stops a number has no fraction and no exponent. -/
theorem readFraction_of_stops {rest : Text} (h : Stops rest) : readFraction rest = ([], rest) :=
  if_neg fun hfraction => (stops_head h).2.1 hfraction.1

theorem readExponent_of_stops {rest : Text} (h : Stops rest) : readExponent rest = ([], rest) := by
  cases rest with
  | nil => rfl
  | cons c rest =>
    obtain ⟨-, -, he, hE⟩ := stops_head h
    rw [readExponent]
    refine if_neg fun hexponent => ?_
    rcases hexponent.1 with rfl | rfl
    · exact he rfl
    · exact hE rfl

/-- Digits are taken up to what stops them. -/
theorem takeWhile_digits {digits rest : Text} (hdigits : ∀ d ∈ digits, isDigit d = true)
    (hrest : Stops rest) : (digits ++ rest).takeWhile isDigit = digits ∧
      (digits ++ rest).dropWhile isDigit = rest := by
  have hstop := (stops_head hrest).1
  rw [List.takeWhile_append_of_pos hdigits, List.dropWhile_append_of_pos hdigits]
  cases rest with
  | nil => simp
  | cons c rest =>
    have hc : ¬ isDigit c = true := by simp [hstop c rfl]
    rw [List.takeWhile_cons_of_neg hc, List.dropWhile_cons_of_neg hc, List.append_nil]
    exact ⟨rfl, rfl⟩

theorem readNatural_natText (n : Nat) {rest : Text} (hrest : Stops rest) :
    readNatural (natText n ++ rest) = some (natText n, rest) := by
  rcases natText_cases n with h | ⟨c, digits, h, hc, hdigits⟩
  · rw [h]
    rfl
  · obtain ⟨htake, hdrop⟩ := takeWhile_digits hdigits hrest
    have hdigit : isDigit c = true := by
      simp only [isDigit, Bool.and_eq_true, decide_eq_true_eq]
      omega
    have hzero : c ≠ 48 := by omega
    rw [h, List.cons_append, readNatural, if_neg hzero, if_pos hdigit, htake, hdrop]

/-- The integer part of a written integer is the integer. -/
theorem readInteger_intText (n : Int) {rest : Text} (hrest : Stops rest) :
    readInteger (intText n ++ rest) = some (intText n, rest) := by
  cases n with
  | ofNat m =>
    have hhead : ¬ (natText m ++ rest).head? = some 45 := by
      rcases natText_cases m with h | ⟨c, digits, h, hc, -⟩
      · simp [h]
      · rw [h, List.cons_append, List.head?_cons, Option.some.injEq]
        omega
    rw [intText, readInteger, if_neg hhead, readNatural_natText m hrest]
  | negSucc m =>
    have hhead : (45 :: natText (m + 1) ++ rest).head? = some 45 := rfl
    rw [intText, readInteger, if_pos hhead, List.cons_append, List.tail_cons,
      readNatural_natText (m + 1) hrest]
    rfl

theorem readsBack_int (n : Int) : ReadsBack integers (.int n) := by
  intro fuel rest hfuel hrest
  obtain ⟨c, u, htext, hc⟩ : ∃ c u, intText n = c :: u ∧ (c = 45 ∨ isDigit c = true) := by
    cases n with
    | ofNat m =>
      rcases natText_cases m with h | ⟨c, digits, h, hc, -⟩
      · exact ⟨48, [], h, Or.inr rfl⟩
      · refine ⟨c, digits, h, Or.inr ?_⟩
        simp only [isDigit, Bool.and_eq_true, decide_eq_true_eq]
        omega
    | negSucc m => exact ⟨45, natText (m + 1), rfl, Or.inl rfl⟩
  have hwrite : integers.write (.int n) = intText n := rfl
  rw [hwrite] at hfuel ⊢
  rw [htext, List.length_cons] at hfuel
  obtain ⟨fuel, rfl⟩ := Nat.exists_eq_add_of_le' (le_trans (Nat.le_add_left 1 _) hfuel)
  have hbounds : c = 45 ∨ 48 ≤ c ∧ c ≤ 57 := by
    simpa only [isDigit, Bool.and_eq_true, decide_eq_true_eq] using hc
  have hhead : (intText n ++ rest).head? = some c := by rw [htext]; rfl
  have hconstant : readConstant (intText n ++ rest) [lit "null", lit "true", lit "false"] = none := by
    cases hread : readConstant (intText n ++ rest) [lit "null", lit "true", lit "false"] with
    | none => rfl
    | some r =>
      obtain ⟨hmem, heq⟩ := readConstant_eq_some hread
      have hletter : ∀ name ∈ [lit "null", lit "true", lit "false"], name ≠ [] ∧
          ∀ d ∈ name.head?, ¬ (d = 45 ∨ 48 ≤ d ∧ d ≤ 57) := by decide
      obtain ⟨hne, hnot⟩ := hletter r.1 hmem
      rw [heq, List.head?_append_of_ne_nil _ hne] at hhead
      exact absurd hbounds (hnot c hhead)
  have hnumber : readNumber integers (intText n ++ rest) = .ok (.int n, rest) := by
    rw [readNumber, readInteger_intText n hrest]
    simp only [readFraction_of_stops hrest, readExponent_of_stops hrest, and_self, if_true, integers,
      readIntText_intText]
  have hne : ∀ d, d = 34 ∨ d = 91 ∨ d = 123 → ¬ (intText n ++ rest).head? = some d := by
    intro d hd heq
    rw [hhead, Option.some.injEq] at heq
    omega
  rw [readValue, if_neg (hne 34 (by decide)), if_neg (hne 91 (by decide)),
    if_neg (hne 123 (by decide)), readAtom, hconstant, hnumber]
  rfl

/-- **The integers of a document read back.** -/
theorem lawful_integers : Lawful integers := by
  intro t r h
  unfold readNumber at h
  split at h
  · simp only at h
    split at h
    · rename_i hnumber
      cases h
      split at hnumber
      · cases hnumber
        exact readsBack_int _
      · cases hnumber
    · cases h
  · split at h
    · cases h
    · cases h

theorem isPrinting_integers (n : PyNumber) : ∀ c ∈ integers.write n, IsPrinting c := by
  have hnat : ∀ m, ∀ c ∈ natText m, IsPrinting c := by
    intro m c hc
    rcases natText_cases m with h | ⟨d, digits, h, hd, hdigits⟩
    · rw [h, List.mem_singleton] at hc
      subst hc
      decide
    · rw [h, List.mem_cons] at hc
      unfold IsPrinting
      rcases hc with rfl | hc
      · omega
      · have := hdigits c hc
        simp only [isDigit, Bool.and_eq_true, decide_eq_true_eq] at this
        omega
  cases n with
  | float v => exact (by decide : ∀ c ∈ lit "0.0", IsPrinting c)
  | int n =>
    cases n with
    | ofNat m => exact hnat m
    | negSucc m =>
      intro c hc
      rcases List.mem_cons.mp hc with rfl | hc
      · decide
      · exact hnat _ c hc

end ApiTests.Py
