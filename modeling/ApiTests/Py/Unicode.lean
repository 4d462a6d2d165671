import ApiTests.Py.Re

/-!
# Case folding and word characters of text patterns

`Unicode` is what the program reads of Python's Unicode tables, with the facts about them that do not
depend on the Unicode version. `foldCase` is the case folding of `re.IGNORECASE` as far as it reaches
ASCII letters: a pattern's letter also matches the other case, and `i`, `s`, `k` match the four
characters `İ`, `ı`, `ſ` and the Kelvin sign.
-/

namespace ApiTests.Py

/-- An ASCII character of `\w`. -/
def isWordAscii (c : Nat) : Bool :=
  isDigit c || (65 ≤ c && c ≤ 90) || c == 95 || (97 ≤ c && c ≤ 122)

/-- The Unicode tables. -/
structure Unicode where
  /-- `\w`. -/
  isWord : Nat → Bool
  isWord_ascii : ∀ c < 128, isWord c = isWordAscii c
  isWord_space : ∀ c, isSpace c = true → isWord c = false
  /-- `str.casefold`. -/
  casefold : Text → Text
  /-- `str.isprintable` of one character. -/
  isPrintable : Nat → Bool

/-- The tables of ASCII alone. -/
def Unicode.ascii : Unicode where
  isWord := isWordAscii
  isWord_ascii _ _ := rfl
  isWord_space c h := by
    simp only [isSpace, isWordAscii, isDigit, Bool.or_eq_true, Bool.and_eq_true, decide_eq_true_eq,
      beq_iff_eq, Bool.or_eq_false_iff, Bool.and_eq_false_imp, decide_eq_false_iff_not,
      beq_eq_false_iff_ne] at h ⊢
    omega
  casefold t := t.map fun c => if 65 ≤ c ∧ c ≤ 90 then c + 32 else c
  isPrintable c := 32 ≤ c && c ≤ 126

/-- The letter a character stands for where a pattern ignores case, and other characters as they
are. -/
def foldCase (c : Nat) : Nat :=
  if 65 ≤ c ∧ c ≤ 90 then c + 32
  else if c = 0x130 ∨ c = 0x131 then 105
  else if c = 0x17F then 115
  else if c = 0x212A then 107
  else c

/-- Below the small letters, a character stands for no other. -/
theorem eq_of_foldCase {c d : Nat} (h : foldCase d = c) (hc : c < 97) : d = c := by
  unfold foldCase at h
  split at h
  · omega
  · split at h
    · omega
    · split at h
      · omega
      · split at h <;> omega

/-- `[A-Z]` where case is ignored. -/
def isLetterI (c : Nat) : Bool := 97 ≤ foldCase c && foldCase c ≤ 122

namespace Re

/-- One ASCII character where case is ignored. -/
def chI (c : Nat) : Re := cls fun d => foldCase d == foldCase c

/-- A literal ASCII text where case is ignored. -/
def strI : Text → Re
  | [] => eps
  | c :: cs => seq (chI c) (strI cs)

theorem mem_run_strI {w : Text} {x y : Cursor} (h : y ∈ run (strI w) x) :
    ∃ u v, x.ahead = u ++ v ∧ u.map foldCase = w.map foldCase ∧ y = x.after u v := by
  induction w generalizing x with
  | nil =>
    rw [mem_run_eps.mp h]
    exact ⟨[], x.ahead, rfl, rfl, by simp [Cursor.after]⟩
  | cons c w ih =>
    obtain ⟨z, hz, hy⟩ := mem_run_seq.mp h
    obtain ⟨d, v, hx, hd, rfl⟩ := mem_run_cls.mp hz
    obtain ⟨u, v', hv, hu, rfl⟩ := ih hy
    rw [Cursor.after_ahead] at hv
    refine ⟨d :: u, v', by rw [hx, hv]; rfl, ?_, Cursor.after_after x [d] v u v'⟩
    rw [List.map_cons, List.map_cons, hu, beq_iff_eq.mp hd]

theorem mem_run_strI_iff {w : Text} {x y : Cursor} : y ∈ run (strI w) x ↔
    ∃ u v, x.ahead = u ++ v ∧ u.map foldCase = w.map foldCase ∧ y = x.after u v := by
  refine ⟨mem_run_strI, ?_⟩
  induction w generalizing x with
  | nil =>
    rintro ⟨u, v, hx, hu, rfl⟩
    obtain rfl : u = [] := List.map_eq_nil_iff.mp hu
    rw [List.nil_append] at hx
    subst hx
    exact mem_run_eps.mpr rfl
  | cons c w ih =>
    rintro ⟨u, v, hx, hu, rfl⟩
    cases u with
    | nil => simp at hu
    | cons d u =>
      rw [List.map_cons, List.map_cons, List.cons.injEq] at hu
      refine mem_run_seq.mpr ⟨x.after [d] (u ++ v), ?_, ih ⟨u, v, rfl, hu.2, ?_⟩⟩
      · exact mem_run_cls.mpr ⟨d, u ++ v, hx, beq_iff_eq.mpr hu.1, rfl⟩
      · exact (Cursor.after_after x [d] (u ++ v) u v).symm
end Re

/-! ## `repr` -/

/-- One character of a `repr` between `quote`s. -/
def reprChar (unicode : Unicode) (quote c : Nat) : Text :=
  if c = quote ∨ c = 92 then [92, c]
  else if c = 9 then lit "\\t"
  else if c = lf then lit "\\n"
  else if c = cr then lit "\\r"
  else if c < 32 ∨ c = 127 then lit "\\x" ++ hexDigits 2 c
  else if c < 127 ∨ unicode.isPrintable c then [c]
  else if c < 0x100 then lit "\\x" ++ hexDigits 2 c
  else if c < 0x10000 then lit "\\u" ++ hexDigits 4 c
  else lit "\\U" ++ hexDigits 8 c

/-- `repr(t)`. -/
def reprText (unicode : Unicode) (t : Text) : Text :=
  let quote := if 39 ∈ t ∧ 34 ∉ t then 34 else 39
  [quote] ++ t.flatMap (reprChar unicode quote) ++ [quote]

end ApiTests.Py
