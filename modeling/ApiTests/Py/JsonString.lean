import ApiTests.Py.Json

/-!
# Reading a JSON string back

`dumpsStr` writes a character above the basic plane as two surrogates, so two surrogates in a text are
written as one such character is. A text whose surrogates are all trailing ones, as in the names that
Python reads from the file system, is written in its own way.

Results:
* `readEscape_escapeJson`: the reader of one character.
* `dumpsStr_append_inj`: **a written string ends where its text does, and determines it.**
* `dumpsStr_ascii`: it is ASCII, so it is its own UTF-8.
* `dumpsIndented_ascii`: so is a whole document.
-/

namespace ApiTests.Py

/-- A character that is no leading surrogate. -/
def IsSystemChar (c : Nat) : Prop := c < 0x110000 ∧ (c < 0xD800 ∨ 0xDC00 ≤ c)

/-- **Text without leading surrogates**, as it comes from a file or the file system. -/
def IsSystemText (t : Text) : Prop := ∀ c ∈ t, IsSystemChar c

instance (c : Nat) : Decidable (IsSystemChar c) := inferInstanceAs (Decidable (_ ∧ _))

instance (t : Text) : Decidable (IsSystemText t) := inferInstanceAs (Decidable (∀ c ∈ t, _))

/-- The value of a hexadecimal digit. -/
def hexValue (c : Nat) : Nat := if c < 58 then c - 48 else c - 87

def hexValue4 (a b c d : Nat) : Nat :=
  ((hexValue a * 16 + hexValue b) * 16 + hexValue c) * 16 + hexValue d

/-- The character after a backslash in a short escape. -/
def shortEscape (c : Nat) : Nat :=
  if c = 110 then 10 else if c = 114 then 13 else if c = 116 then 9
  else if c = 102 then 12 else if c = 98 then 8 else c

/-- One character of a written string, and what follows it. -/
def readEscape : Text → Option (Nat × Text)
  | 92 :: 117 :: a :: b :: c :: d :: rest =>
    if 0xD800 ≤ hexValue4 a b c d ∧ hexValue4 a b c d < 0xDC00 then
      match rest with
      | 92 :: 117 :: a' :: b' :: c' :: d' :: rest =>
        some (0x10000 + (hexValue4 a b c d - 0xD800) * 1024 + (hexValue4 a' b' c' d' - 0xDC00), rest)
      | _ => none
    else some (hexValue4 a b c d, rest)
  | 92 :: c :: rest => some (shortEscape c, rest)
  | c :: rest => if c = 34 then none else some (c, rest)
  | [] => none

theorem hexValue_hexDigit {n : Nat} (h : n < 16) : hexValue (hexDigit n) = n := by
  unfold hexValue hexDigit
  split_ifs <;> omega

/-- Four digits, written out. -/
theorem hexDigits_four (n : Nat) : hexDigits 4 n =
    [hexDigit (n / 4096 % 16), hexDigit (n / 256 % 16), hexDigit (n / 16 % 16), hexDigit (n % 16)] := by
  simp [hexDigits, Nat.div_div_eq_div_mul]

theorem hexValue4_hexDigit {n : Nat} (h : n < 0x10000) :
    hexValue4 (hexDigit (n / 4096 % 16)) (hexDigit (n / 256 % 16)) (hexDigit (n / 16 % 16))
      (hexDigit (n % 16)) = n := by
  unfold hexValue4
  rw [hexValue_hexDigit (Nat.mod_lt _ (by decide)), hexValue_hexDigit (Nat.mod_lt _ (by decide)),
    hexValue_hexDigit (Nat.mod_lt _ (by decide)), hexValue_hexDigit (Nat.mod_lt _ (by decide))]
  omega

/-- A character of the basic plane. -/
theorem readEscape_unit {a b c d : Nat} {rest : Text}
    (h : ¬ (0xD800 ≤ hexValue4 a b c d ∧ hexValue4 a b c d < 0xDC00)) :
    readEscape (92 :: 117 :: a :: b :: c :: d :: rest) = some (hexValue4 a b c d, rest) :=
  if_neg h

/-- A character above it, as two surrogates. -/
theorem readEscape_pair {a b c d a' b' c' d' : Nat} {rest : Text}
    (h : 0xD800 ≤ hexValue4 a b c d ∧ hexValue4 a b c d < 0xDC00) :
    readEscape (92 :: 117 :: a :: b :: c :: d :: 92 :: 117 :: a' :: b' :: c' :: d' :: rest) =
      some (0x10000 + (hexValue4 a b c d - 0xD800) * 1024 + (hexValue4 a' b' c' d' - 0xDC00), rest) :=
  if_pos h

/-- **The reader finds the character written.** -/
theorem readEscape_escapeJson {c : Nat} (hc : IsSystemChar c) (rest : Text) :
    readEscape (escapeJson c ++ rest) = some (c, rest) := by
  obtain ⟨hmax, hplane⟩ := hc
  unfold escapeJson
  split_ifs with h34 h92 h10 h13 h9 h12 h8 hascii hbmp
  · subst h34
    rfl
  · subst h92
    rfl
  · subst h10
    rfl
  · subst h13
    rfl
  · subst h9
    rfl
  · subst h12
    rfl
  · subst h8
    rfl
  · rw [List.singleton_append]
    unfold readEscape
    split
    · rename_i heq
      cases heq
      exact absurd rfl h92
    · rename_i heq
      cases heq
      exact absurd rfl h92
    · rename_i heq
      cases heq
      rw [if_neg h34]
    · rename_i heq
      cases heq
  · have hvalue := hexValue4_hexDigit hbmp
    have hplane : ¬ (0xD800 ≤ hexValue4 (hexDigit (c / 4096 % 16)) (hexDigit (c / 256 % 16))
        (hexDigit (c / 16 % 16)) (hexDigit (c % 16)) ∧ hexValue4 (hexDigit (c / 4096 % 16))
        (hexDigit (c / 256 % 16)) (hexDigit (c / 16 % 16)) (hexDigit (c % 16)) < 0xDC00) := by
      rw [hvalue]
      omega
    rw [hexDigits_four]
    refine (readEscape_unit hplane).trans ?_
    rw [hvalue]
    rfl
  · -- The two surrogates of a character above the basic plane.
    have hhigh : 0xD800 + (c - 0x10000) / 1024 < 0xDC00 := by omega
    have hlow : 0xDC00 + (c - 0x10000) % 1024 < 0xE000 := by omega
    have hchar : 0x10000 + (0xD800 + (c - 0x10000) / 1024 - 0xD800) * 1024 +
        (0xDC00 + (c - 0x10000) % 1024 - 0xDC00) = c := by omega
    generalize hh : 0xD800 + (c - 0x10000) / 1024 = high at hhigh hchar
    generalize 0xDC00 + (c - 0x10000) % 1024 = low at hlow hchar
    have hvalue := hexValue4_hexDigit (n := high) (by omega)
    have hvalue' := hexValue4_hexDigit (n := low) (by omega)
    rw [hexDigits_four, hexDigits_four]
    refine (readEscape_pair ?_).trans ?_
    · rw [hvalue]
      omega
    · rw [hvalue, hvalue', hchar]
      rfl

/-- The characters of a written string, up to its closing quote. -/
theorem escaped_append_inj : ∀ {t t' : Text} {r r' : Text}, IsSystemText t → IsSystemText t' →
    t.flatMap escapeJson ++ 34 :: r = t'.flatMap escapeJson ++ 34 :: r' → t = t' ∧ r = r'
  | [], [], r, r', _, _, h => ⟨rfl, (List.cons.inj h).2⟩
  | [], c :: t', r, r', _, ht', h => by
    have hread := congrArg readEscape h
    rw [List.flatMap_cons, List.append_assoc,
      readEscape_escapeJson (ht' c List.mem_cons_self)] at hread
    cases hread
  | c :: t, [], r, r', ht, _, h => by
    have hread := congrArg readEscape h
    rw [List.flatMap_cons, List.append_assoc,
      readEscape_escapeJson (ht c List.mem_cons_self)] at hread
    cases hread
  | c :: t, c' :: t', r, r', ht, ht', h => by
    have hread := congrArg readEscape h
    rw [List.flatMap_cons, List.append_assoc, List.flatMap_cons, List.append_assoc,
      readEscape_escapeJson (ht c List.mem_cons_self),
      readEscape_escapeJson (ht' c' List.mem_cons_self), Option.some.injEq, Prod.mk.injEq] at hread
    obtain ⟨rfl, hrest⟩ := hread
    obtain ⟨rfl, hr⟩ := escaped_append_inj (fun d hd => ht d (List.mem_cons_of_mem _ hd))
      (fun d hd => ht' d (List.mem_cons_of_mem _ hd)) hrest
    exact ⟨rfl, hr⟩

/-- **A written string determines its text and where it ends.** -/
theorem dumpsStr_append_inj {t t' r r' : Text} (ht : IsSystemText t) (ht' : IsSystemText t')
    (h : dumpsStr t ++ r = dumpsStr t' ++ r') : t = t' ∧ r = r' := by
  simp only [dumpsStr, List.append_assoc, List.cons_append, List.cons.injEq,
    true_and] at h
  exact escaped_append_inj ht ht' h

/-! ## ASCII -/

theorem hexDigits_ascii : ∀ (width n : Nat), ∀ c ∈ hexDigits width n, c < 128
  | 0, _, _, h => by cases h
  | width + 1, n, c, h => by
    rcases List.mem_append.mp h with h | h
    · exact hexDigits_ascii width _ c h
    · rw [List.mem_singleton.mp h]
      unfold hexDigit
      split_ifs <;> omega

/-- A character is written in ASCII. -/
theorem escapeJson_ascii (c : Nat) : ∀ d ∈ escapeJson c, d < 128 := by
  have hunit : ∀ n, ∀ d ∈ lit "\\u" ++ hexDigits 4 n, d < 128 := fun n d hd =>
    (List.mem_append.mp hd).elim ((by decide : ∀ d ∈ lit "\\u", d < 128) d) (hexDigits_ascii 4 n d)
  unfold escapeJson
  split_ifs
  · decide
  · decide
  · decide
  · decide
  · decide
  · decide
  · decide
  · simp only [List.mem_singleton, forall_eq]
    omega
  · exact hunit c
  · intro d hd
    rw [List.append_assoc] at hd
    exact (List.mem_append.mp hd).elim (hunit _ d) (hunit _ d)

/-- A string is written in ASCII. -/
theorem dumpsStr_ascii (t : Text) : ∀ c ∈ dumpsStr t, c < 128 := by
  intro c hc
  simp only [dumpsStr, List.mem_append, List.mem_singleton, List.mem_flatMap] at hc
  rcases hc with (rfl | ⟨d, -, hd⟩) | rfl
  · decide
  · exact escapeJson_ascii d c hd
  · decide

/-- What stands in a joined text stands in a part or in the separator. -/
theorem mem_of_mem_intercalate {sep : Text} {c : Nat} : ∀ {parts : List Text},
    c ∈ sep.intercalate parts → c ∈ sep ∨ ∃ t ∈ parts, c ∈ t
  | [], h => absurd h List.not_mem_nil
  | [t], h => by
    rw [List.intercalate_singleton] at h
    exact Or.inr ⟨t, List.mem_singleton.mpr rfl, h⟩
  | t :: t' :: parts, h => by
    rw [List.intercalate_cons_cons, List.mem_append, List.mem_append] at h
    rcases h with (h | h) | h
    · exact Or.inr ⟨t, List.mem_cons_self, h⟩
    · exact Or.inl h
    · exact (mem_of_mem_intercalate h).imp_right fun ⟨u, hu, hc⟩ => ⟨u, List.mem_cons_of_mem _ hu, hc⟩

theorem newline_ascii (level : Nat) : ∀ c ∈ newline level, c < 128 := by
  intro c hc
  rcases List.mem_cons.mp hc with rfl | hc
  · decide
  · rw [List.eq_of_mem_replicate hc]
    decide

section Document

variable {ν : Type} {number : ν → Text}

/-- Parts of ASCII between brackets, each on a line of its own, are ASCII. -/
theorem bracketed_ascii {opening closing : Text} {level : Nat} {parts : List Text}
    (hopening : ∀ c ∈ opening, c < 128) (hclosing : ∀ c ∈ closing, c < 128)
    (hparts : ∀ t ∈ parts, ∀ c ∈ t, c < 128) :
    ∀ c ∈ opening ++ newline (level + 1) ++ (lit "," ++ newline (level + 1)).intercalate parts ++
      newline level ++ closing, c < 128 := by
  have hcomma : ∀ c ∈ lit ",", c < 128 := by decide
  intro c hc
  simp only [List.mem_append] at hc
  rcases hc with (((hc | hc) | hc) | hc) | hc
  · exact hopening c hc
  · exact newline_ascii _ c hc
  · rcases mem_of_mem_intercalate hc with hc | ⟨t, ht, hc⟩
    · exact (List.mem_append.mp hc).elim (hcomma c) (newline_ascii _ c)
    · exact hparts t ht c hc
  · exact newline_ascii _ c hc
  · exact hclosing c hc

mutual

/-- **A document is written in ASCII**, where its numbers are. -/
theorem dumpsIndented_ascii (hnumber : ∀ n, ∀ c ∈ number n, c < 128) (level : Nat) :
    ∀ (value : Json ν),
    ∀ c ∈ dumpsIndented number level value, c < 128
  | .null => by
    unfold dumpsIndented
    decide
  | .bool b => by
    cases b <;> unfold dumpsIndented <;> decide
  | .number n => by
    unfold dumpsIndented
    exact hnumber n
  | .str t => by
    unfold dumpsIndented
    exact dumpsStr_ascii t
  | .list items => by
    unfold dumpsIndented
    split_ifs
    · decide
    · exact bracketed_ascii (by decide) (by decide) (dumpsIndentedItems_ascii hnumber (level + 1) items)
  | .dict entries => by
    unfold dumpsIndented
    split_ifs
    · decide
    · refine bracketed_ascii (by decide) (by decide) fun t ht c hc => ?_
      obtain ⟨e, he, rfl⟩ := List.mem_map.mp ht
      have hcolon : ∀ c ∈ lit ": ", c < 128 := by decide
      rcases List.mem_append.mp hc with hc | hc
      · exact (List.mem_append.mp hc).elim (dumpsStr_ascii e.1 c) (hcolon c)
      · exact dumpsIndentedEntries_ascii hnumber (level + 1) entries e (mem_sortByKey.mp he) c hc

theorem dumpsIndentedItems_ascii (hnumber : ∀ n, ∀ c ∈ number n, c < 128) (level : Nat) :
    ∀ (items : List (Json ν)),
    ∀ t ∈ dumpsIndentedItems number level items, ∀ c ∈ t, c < 128
  | [], _, ht => absurd ht List.not_mem_nil
  | item :: items, t, ht => by
    unfold dumpsIndentedItems at ht
    rcases List.mem_cons.mp ht with rfl | ht
    · exact dumpsIndented_ascii hnumber level item
    · exact dumpsIndentedItems_ascii hnumber level items t ht

theorem dumpsIndentedEntries_ascii (hnumber : ∀ n, ∀ c ∈ number n, c < 128) (level : Nat) :
    ∀ (entries : List (Text × Json ν)),
    ∀ e ∈ dumpsIndentedEntries number level entries, ∀ c ∈ e.2, c < 128
  | [], _, he => absurd he List.not_mem_nil
  | (key, item) :: entries, e, he => by
    unfold dumpsIndentedEntries at he
    rcases List.mem_cons.mp he with rfl | he
    · exact dumpsIndented_ascii hnumber level item
    · exact dumpsIndentedEntries_ascii hnumber level entries e he

end

end Document

end ApiTests.Py
