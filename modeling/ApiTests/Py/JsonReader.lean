import ApiTests.Py.Checks
import ApiTests.Py.Dict
import ApiTests.Py.JsonString
import ApiTests.Py.Percent
import Mathlib.Data.List.Chain

/-!
# `json.loads`

The reader of the standard library on a `str`, as its C scanner reads: strings with their escapes, a
high surrogate joined to the low one that is escaped behind it; numbers by `NUMBER_RE`; `NaN` and the
infinities; no key twice in a dict, the last value winning. The number types are a parameter
(`JsonNumbers`). The first argument of `readValue` bounds how deep values stand in each other, which
is less than the length of the text.

Results:
* `readString_dumpsStr`: **a written string reads back**, where no surrogate pair is in it.
* `readBracketed_intercalate`: **parts written between brackets read back**, whatever blanks are
  around them.
* `loads_of_reads`: a text that reads as a value is a document, with blanks behind it.
-/

namespace ApiTests.Py

/-! ## Surrogates -/

def isHighSurrogate (c : Nat) : Bool := 0xD800 ≤ c && c < 0xDC00

def isLowSurrogate (c : Nat) : Bool := 0xDC00 ≤ c && c < 0xE000

/-- The character of a surrogate pair. -/
def joinSurrogates (high low : Nat) : Nat := 0x10000 + (high - 0xD800) * 1024 + (low - 0xDC00)

/-- **No high surrogate stands right before a low one.** -/
def Unpaired (t : Text) : Prop :=
  (∀ c ∈ t, c < 0x110000) ∧ t.IsChain fun c d => ¬ (isHighSurrogate c = true ∧ isLowSurrogate d = true)

instance (t : Text) : Decidable (Unpaired t) := inferInstanceAs (Decidable (_ ∧ _))

theorem unpaired_cons {c : Nat} {t : Text} : Unpaired (c :: t) ↔ c < 0x110000 ∧
    (∀ d ∈ t.head?, ¬ (isHighSurrogate c = true ∧ isLowSurrogate d = true)) ∧ Unpaired t := by
  rw [Unpaired, List.forall_mem_cons, List.isChain_cons, Unpaired]
  tauto

/-! ## Strings -/

/-- Four hexadecimal digits. -/
def readHex4 : Text → Option (Nat × Text)
  | a :: b :: c :: d :: rest =>
    (readHexDigit a).bind fun a => (readHexDigit b).bind fun b => (readHexDigit c).bind fun c =>
      (readHexDigit d).map fun d => (((a * 16 + b) * 16 + c) * 16 + d, rest)
  | _ => none

/-- What follows a text. -/
def afterPrefix (start t : Text) : Option Text :=
  if start <+: t then some (t.drop start.length) else none

/-- The escape behind `\u`: a low surrogate is joined to a high one. -/
def readUnicodeEscape (t : Text) : Option (Nat × Text) :=
  (readHex4 t).bind fun r =>
    if isHighSurrogate r.1 then
      match afterPrefix (lit "\\u") r.2 with
      | none => some r
      | some t => (readHex4 t).map fun low =>
        if isLowSurrogate low.1 then (joinSurrogates r.1 low.1, low.2) else r
    else some r

/-- The character of a short escape. -/
def unescape (c : Nat) : Option Nat :=
  if c = 34 ∨ c = 92 ∨ c = 47 then some c
  else if c = 98 then some 8
  else if c = 102 then some 12
  else if c = 110 then some 10
  else if c = 114 then some 13
  else if c = 116 then some 9
  else none

/-- An escape behind its backslash. -/
def readBackslash : Text → Option (Nat × Text)
  | [] => none
  | c :: rest => if c = 117 then readUnicodeEscape rest else (unescape c).map fun c => (c, rest)

/-- One character of a string, and what follows it. -/
def readStringChar : Text → Option (Nat × Text)
  | [] => none
  | c :: rest =>
    if c < 32 then none
    else if c = 92 then readBackslash rest
    else some (c, rest)

/-- A string from behind its opening quote, of fewer characters than the first argument. -/
def readChars : Nat → Text → Option (Text × Text)
  | 0, _ => none
  | fuel + 1, t =>
    if t.head? = some 34 then some ([], t.tail)
    else (readStringChar t).bind fun r => (readChars fuel r.2).map fun s => (r.1 :: s.1, s.2)

/-- `scanstring`. -/
def readString (t : Text) : Option (Text × Text) := readChars t.length t

/-! ## Numbers -/

/-- How numbers are written and read. -/
structure JsonNumbers (ν : Type) where
  write : ν → Text
  /-- `int`, which refuses a text of too many digits. -/
  ofInt : Text → Option ν
  /-- `float`. -/
  ofFloat : Text → Option ν
  /-- `NaN`, `Infinity` and `-Infinity`. -/
  constant : Text → Option ν

/-- What `json.loads` of a `str` raises. -/
inductive JsonError where
  /-- `JSONDecodeError`. -/
  | decode
  /-- The `ValueError` of a number. -/
  | number
  deriving Repr, DecidableEq

/-- `0|[1-9][0-9]*`. -/
def readNatural : Text → Option (Text × Text)
  | [] => none
  | c :: rest =>
    if c = 48 then some ([48], rest)
    else if isDigit c then some (c :: rest.takeWhile isDigit, rest.dropWhile isDigit)
    else none

/-- `-?(?:0|[1-9][0-9]*)`. -/
def readInteger (t : Text) : Option (Text × Text) :=
  if t.head? = some 45 then (readNatural t.tail).map fun r => (45 :: r.1, r.2) else readNatural t

/-- `(\.[0-9]+)?`. -/
def readFraction (t : Text) : Text × Text :=
  if t.head? = some 46 ∧ t.tail.takeWhile isDigit ≠ [] then
    (46 :: t.tail.takeWhile isDigit, t.tail.dropWhile isDigit)
  else ([], t)

/-- `([eE][-+]?[0-9]+)?`. -/
def readExponent : Text → Text × Text
  | [] => ([], [])
  | c :: rest =>
    let sign : Text := if rest.head? = some 43 ∨ rest.head? = some 45 then rest.take 1 else []
    let body := rest.drop sign.length
    if (c = 101 ∨ c = 69) ∧ body.takeWhile isDigit ≠ [] then
      (c :: sign ++ body.takeWhile isDigit, body.dropWhile isDigit)
    else ([], c :: rest)

/-- The first of some texts that the text starts with, and what follows it. -/
def readConstant (t : Text) : List Text → Option (Text × Text)
  | [] => none
  | name :: names =>
    match afterPrefix name t with
    | some rest => some (name, rest)
    | none => readConstant t names

variable {ν : Type}

/-- A number at the start of a text. -/
def readNumber (numbers : JsonNumbers ν) (t : Text) : Except JsonError (ν × Text) :=
  match readInteger t with
  | some (integer, rest) =>
    let fraction := readFraction rest
    let exponent := readExponent fraction.2
    let number := if fraction.1 = [] ∧ exponent.1 = [] then numbers.ofInt integer
      else numbers.ofFloat (integer ++ fraction.1 ++ exponent.1)
    match number with
    | some n => .ok (n, exponent.2)
    | none => .error .number
  | none =>
    match readConstant t [lit "NaN", lit "Infinity", lit "-Infinity"] with
    | some (name, rest) =>
      match numbers.constant name with
      | some n => .ok (n, rest)
      | none => .error .number
    | none => .error .decode

/-! ## Values -/

/-- `WHITESPACE`. -/
def isJsonSpace (c : Nat) : Bool := c == 32 || c == 9 || c == 10 || c == 13

def skipJsonSpace (t : Text) : Text := t.dropWhile isJsonSpace

/-- A value that is no string, list or dict. -/
def readAtom (numbers : JsonNumbers ν) (t : Text) : Except JsonError (Json ν × Text) :=
  match readConstant t [lit "null", lit "true", lit "false"] with
  | some (name, rest) =>
    .ok (if name = lit "null" then .null else .bool (name = lit "true"), rest)
  | none => do
    let r ← readNumber numbers t
    .ok (.number r.1, r.2)

/-- A reader returns what it has read and what follows. -/
abbrev Reader (α : Type) : Type := Text → Except JsonError (α × Text)

variable {α : Type}

/-- What stands between brackets, separated by commas, up to the closing one. -/
def readSeparated (read : Reader α) (closing : Nat) : Nat → Reader (List α)
  | 0, _ => .error .decode
  | fuel + 1, t => do
    let item ← read t
    let rest := skipJsonSpace item.2
    if rest.head? = some closing then .ok ([item.1], rest.tail)
    else if rest.head? = some 44 then do
      let more ← readSeparated read closing fuel (skipJsonSpace rest.tail)
      .ok (item.1 :: more.1, more.2)
    else .error .decode

/-- The same, with nothing between the brackets allowed. -/
def readBracketed (read : Reader α) (closing : Nat) (t : Text) : Except JsonError (List α × Text) :=
  let body := skipJsonSpace t
  if body.head? = some closing then .ok ([], body.tail)
  else readSeparated read closing body.length body

/-- A key with its colon. -/
def readKey (t : Text) : Except JsonError (Text × Text) :=
  if t.head? = some 34 then
    match readString t.tail with
    | none => .error .decode
    | some key =>
      let rest := skipJsonSpace key.2
      if rest.head? = some 58 then .ok (key.1, skipJsonSpace rest.tail) else .error .decode
  else .error .decode

/-- A key and its value. -/
def readEntry (read : Reader α) (t : Text) : Except JsonError ((Text × α) × Text) := do
  let key ← readKey t
  let item ← read key.2
  .ok ((key.1, item.1), item.2)

/-- `JSONArray`, from behind the `[`. -/
def readArray (read : Reader (Json ν)) (t : Text) : Except JsonError (Json ν × Text) := do
  let r ← readBracketed read 93 t
  .ok (.list r.1, r.2)

/-- `JSONObject`, from behind the opening brace. -/
def readObject (read : Reader (Json ν)) (t : Text) : Except JsonError (Json ν × Text) := do
  let r ← readBracketed (readEntry read) 125 t
  .ok (.dict (Dict.ofList r.1).entries, r.2)

/-- `scan_once`. -/
def readValue (numbers : JsonNumbers ν) : Nat → Reader (Json ν)
  | 0, _ => .error .decode
  | fuel + 1, t =>
    if t.head? = some 34 then
      match readString t.tail with
      | none => .error .decode
      | some r => .ok (.str r.1, r.2)
    else if t.head? = some 91 then readArray (readValue numbers fuel) t.tail
    else if t.head? = some 123 then readObject (readValue numbers fuel) t.tail
    else readAtom numbers t

/-- `json.loads`. -/
def loads (numbers : JsonNumbers ν) (t : Text) : Except JsonError (Json ν) :=
  if t.head? = some 0xFEFF then .error .decode
  else do
    let r ← readValue numbers t.length (skipJsonSpace t)
    if skipJsonSpace r.2 = [] then .ok r.1 else .error .decode

/-! ## Strings read back -/

theorem afterPrefix_append (start t : Text) : afterPrefix start (start ++ t) = some t := by
  rw [afterPrefix, if_pos (List.prefix_append _ _), List.drop_left]

theorem afterPrefix_eq_some {start t rest : Text} (h : afterPrefix start t = some rest) :
    t = start ++ rest := by
  unfold afterPrefix at h
  split at h
  · rename_i hpre
    obtain ⟨u, rfl⟩ := hpre
    rw [List.drop_left, Option.some.injEq] at h
    rw [h]
  · cases h

theorem readHexDigit_hexDigit {n : Nat} (hn : n < 16) : readHexDigit (hexDigit n) = some n := by
  unfold readHexDigit hexDigit isDigit
  split_ifs <;> simp_all <;> omega

theorem readHex4_hexDigits {n : Nat} (hn : n < 0x10000) (rest : Text) :
    readHex4 (hexDigits 4 n ++ rest) = some (n, rest) := by
  have hdigit : ∀ m, readHexDigit (hexDigit (m % 16)) = some (m % 16) :=
    fun m => readHexDigit_hexDigit (Nat.mod_lt _ (by decide))
  simp only [hexDigits_four, List.cons_append, List.nil_append, readHex4, hdigit, Option.bind_some,
    Option.map_some, Option.some.injEq, Prod.mk.injEq, and_true]
  omega

/-- What follows a high surrogate is no low one, escaped. -/
def NoLowNext (rest : Text) : Prop :=
  ∀ t, afterPrefix (lit "\\u") rest = some t →
    ∃ low, readHex4 t = some low ∧ isLowSurrogate low.1 = false

theorem noLowNext_of_ne {c d : Nat} {t : Text} (h : ¬ (c = 92 ∧ d = 117)) : NoLowNext (c :: d :: t) := by
  intro u hu
  have heq := afterPrefix_eq_some hu
  cases heq
  exact absurd ⟨rfl, rfl⟩ h

theorem noLowNext_quote (t : Text) : NoLowNext (34 :: t) := by
  intro u hu
  have heq := afterPrefix_eq_some hu
  cases heq

/-- A character that is no low surrogate is not written as one. -/
theorem noLowNext_escapeJson {d : Nat} (hd : d < 0x110000) (hlow : isLowSurrogate d = false)
    (t : Text) : NoLowNext (escapeJson d ++ t) := by
  unfold escapeJson
  split_ifs with h34 h92 h10 h13 h9 h12 h8 hascii hbmp
  · exact noLowNext_of_ne (by decide)
  · exact noLowNext_of_ne (by decide)
  · exact noLowNext_of_ne (by decide)
  · exact noLowNext_of_ne (by decide)
  · exact noLowNext_of_ne (by decide)
  · exact noLowNext_of_ne (by decide)
  · exact noLowNext_of_ne (by decide)
  · intro u hu
    have heq := afterPrefix_eq_some hu
    cases heq
    exact absurd rfl h92
  · intro u hu
    rw [List.append_assoc, afterPrefix_append, Option.some.injEq] at hu
    subst hu
    exact ⟨_, readHex4_hexDigits hbmp t, hlow⟩
  · intro u hu
    simp only [List.append_assoc, afterPrefix_append, Option.some.injEq] at hu
    subst hu
    refine ⟨_, readHex4_hexDigits (by omega) _, ?_⟩
    simp only [isLowSurrogate, Bool.and_eq_false_iff, decide_eq_false_iff_not]
    omega

/-- An escape of the basic plane that is not joined. -/
theorem readUnicodeEscape_unit {n : Nat} (hn : n < 0x10000) {rest : Text}
    (hnext : isHighSurrogate n = true → NoLowNext rest) :
    readUnicodeEscape (hexDigits 4 n ++ rest) = some (n, rest) := by
  unfold readUnicodeEscape
  rw [readHex4_hexDigits hn, Option.bind_some]
  split
  · rename_i hhigh
    cases hafter : afterPrefix (lit "\\u") rest with
    | none => rfl
    | some t =>
      obtain ⟨low, hread, hlow⟩ := hnext hhigh t hafter
      simp [hread, hlow]
  · rfl

/-- The escapes of a surrogate pair. -/
theorem readUnicodeEscape_pair {high low : Nat} (hhigh : isHighSurrogate high = true)
    (hlow : isLowSurrogate low = true) (rest : Text) :
    readUnicodeEscape (hexDigits 4 high ++ (lit "\\u" ++ (hexDigits 4 low ++ rest))) =
      some (joinSurrogates high low, rest) := by
  have hbounds : high < 0x10000 ∧ low < 0x10000 := by
    simp only [isHighSurrogate, isLowSurrogate, Bool.and_eq_true, decide_eq_true_eq] at hhigh hlow
    omega
  unfold readUnicodeEscape
  rw [readHex4_hexDigits hbounds.1, Option.bind_some, if_pos hhigh, afterPrefix_append]
  simp [readHex4_hexDigits hbounds.2, hlow]

/-- **The reader finds the character written.** -/
theorem readStringChar_escapeJson {c : Nat} (hc : c < 0x110000) {rest : Text}
    (hnext : isHighSurrogate c = true → NoLowNext rest) :
    readStringChar (escapeJson c ++ rest) = some (c, rest) := by
  unfold escapeJson
  split_ifs with h34 h92 h10 h13 h9 h12 h8 hascii hbmp
  · subst h34
    rfl
  · subst h92
    rfl
  · subst h10
    rfl
  · subst h13
    rfl
  · subst h9
    rfl
  · subst h12
    rfl
  · subst h8
    rfl
  · rw [List.singleton_append, readStringChar, if_neg (by omega), if_neg h92]
  · rw [List.append_assoc]
    exact readUnicodeEscape_unit hbmp hnext
  · simp only [List.append_assoc]
    refine (readUnicodeEscape_pair ?_ ?_ rest).trans ?_
    · simp only [isHighSurrogate, Bool.and_eq_true, decide_eq_true_eq]
      omega
    · simp only [isLowSurrogate, Bool.and_eq_true, decide_eq_true_eq]
      omega
    · have hjoin : joinSurrogates (0xD800 + (c - 0x10000) / 1024) (0xDC00 + (c - 0x10000) % 1024) = c := by
        unfold joinSurrogates
        omega
      rw [hjoin]

/-- A written character starts with no quote. -/
theorem head_escapeJson (c : Nat) (t : Text) : (escapeJson c ++ t).head? ≠ some 34 := by
  unfold escapeJson
  split_ifs with h34
  all_goals simp [lit, h34]

/-- The characters of a written string, up to its closing quote. -/
theorem readChars_escapeJson : ∀ {fuel : Nat} {t : Text}, Unpaired t → t.length < fuel → ∀ rest,
    readChars fuel (t.flatMap escapeJson ++ 34 :: rest) = some (t, rest)
  | 0, _, _, hfuel, _ => absurd hfuel (Nat.not_lt_zero _)
  | _ + 1, [], _, _, _ => rfl
  | fuel + 1, c :: t, h, hfuel, rest => by
    obtain ⟨hc, hnext, ht⟩ := unpaired_cons.mp h
    have htail : isHighSurrogate c = true → NoLowNext (t.flatMap escapeJson ++ 34 :: rest) := by
      intro hhigh
      cases t with
      | nil => exact noLowNext_quote rest
      | cons d t =>
        rw [List.flatMap_cons, List.append_assoc]
        refine noLowNext_escapeJson (unpaired_cons.mp ht).1 ?_ _
        rw [← Bool.not_eq_true]
        exact fun hlow => hnext d rfl ⟨hhigh, hlow⟩
    rw [List.flatMap_cons, List.append_assoc, readChars, if_neg (head_escapeJson c _),
      readStringChar_escapeJson hc htail, Option.bind_some,
      readChars_escapeJson ht (Nat.lt_of_succ_lt_succ hfuel), Option.map_some]

theorem length_escapeJson_pos (c : Nat) : 0 < (escapeJson c).length := by
  unfold escapeJson
  split_ifs <;> simp [lit]

/-- **A written string reads back**, whatever follows it. -/
theorem readString_dumpsStr {t : Text} (ht : Unpaired t) (rest : Text) :
    readString ((dumpsStr t ++ rest).tail) = some (t, rest) := by
  have htail : (dumpsStr t ++ rest).tail = t.flatMap escapeJson ++ 34 :: rest := by simp [dumpsStr]
  rw [htail, readString]
  refine readChars_escapeJson ht ?_ rest
  have hlength : t.length ≤ (t.flatMap escapeJson).length := by
    induction t with
    | nil => exact Nat.zero_le _
    | cons c t ih =>
      have hc := length_escapeJson_pos c
      have ht := ih (unpaired_cons.mp ht).2.2 (by simp [dumpsStr])
      rw [List.flatMap_cons, List.length_append, List.length_cons]
      omega
  simp only [List.length_append, List.length_cons]
  omega

/-! ## Where a value starts and ends -/

/-- The first characters of values. -/
def isValueStart (c : Nat) : Bool :=
  c == 34 || c == 91 || c == 123 || c == 45 || isDigit c || c == 110 || c == 116 || c == 102 ||
    c == 78 || c == 73

theorem readConstant_eq_some {t name rest : Text} {names : List Text}
    (h : readConstant t names = some (name, rest)) : name ∈ names ∧ t = name ++ rest := by
  induction names with
  | nil => cases h
  | cons head names ih =>
    rw [readConstant] at h
    cases hafter : afterPrefix head t with
    | none =>
      rw [hafter] at h
      exact ⟨List.mem_cons_of_mem _ (ih h).1, (ih h).2⟩
    | some u =>
      rw [hafter] at h
      cases h
      exact ⟨List.mem_cons_self, afterPrefix_eq_some hafter⟩

theorem readNatural_head {t : Text} {r : Text × Text} (h : readNatural t = some r) :
    ∃ c u, t = c :: u ∧ isValueStart c = true := by
  cases t with
  | nil => cases h
  | cons c u =>
    refine ⟨c, u, rfl, ?_⟩
    rw [readNatural] at h
    split_ifs at h with hzero hdigit
    · subst hzero
      rfl
    · simp [isValueStart, hdigit]

theorem readInteger_head {t : Text} {r : Text × Text} (h : readInteger t = some r) :
    ∃ c u, t = c :: u ∧ isValueStart c = true := by
  unfold readInteger at h
  split at h
  · rename_i hsign
    exact ⟨45, t.tail, (List.cons_head?_tail hsign).symm, rfl⟩
  · exact readNatural_head h

theorem readAtom_head {numbers : JsonNumbers ν} {t : Text} {r : Json ν × Text}
    (h : readAtom numbers t = .ok r) : ∃ c u, t = c :: u ∧ isValueStart c = true := by
  have hstart : ∀ {names : List Text} {name rest : Text},
      (∀ name ∈ names, ∃ c u, name = c :: u ∧ isValueStart c = true) →
        readConstant t names = some (name, rest) → ∃ c u, t = c :: u ∧ isValueStart c = true := by
    intro names name rest hnames hread
    obtain ⟨hmem, rfl⟩ := readConstant_eq_some hread
    obtain ⟨c, u, rfl, hc⟩ := hnames name hmem
    exact ⟨c, u ++ rest, rfl, hc⟩
  unfold readAtom at h
  split at h
  · rename_i hread
    refine hstart (fun name hname => ?_) hread
    simp only [List.mem_cons, List.not_mem_nil, or_false] at hname
    rcases hname with rfl | rfl | rfl <;> exact ⟨_, _, rfl, rfl⟩
  · obtain ⟨n, hnumber, -⟩ := bind_eq_ok_iff.mp h
    unfold readNumber at hnumber
    split at hnumber
    · rename_i hread
      exact readInteger_head hread
    · split at hnumber
      · rename_i hread
        refine hstart (fun name hname => ?_) hread
        simp only [List.mem_cons, List.not_mem_nil, or_false] at hname
        rcases hname with rfl | rfl | rfl <;> exact ⟨_, _, rfl, rfl⟩
      · cases hnumber

/-- **A value starts with a character of its own.** -/
theorem readValue_head {numbers : JsonNumbers ν} {fuel : Nat} {t : Text} {r : Json ν × Text}
    (h : readValue numbers fuel t = .ok r) : ∃ c u, t = c :: u ∧ isValueStart c = true := by
  have hhead : ∀ {c}, isValueStart c = true → t.head? = some c →
      ∃ c u, t = c :: u ∧ isValueStart c = true :=
    fun {c} hc ht => ⟨c, t.tail, (List.cons_head?_tail ht).symm, hc⟩
  cases fuel with
  | zero => cases h
  | succ fuel =>
    rw [readValue] at h
    split at h
    · rename_i hquote
      exact hhead rfl hquote
    · split at h
      · rename_i hbracket
        exact hhead rfl hbracket
      · split at h
        · rename_i hbrace
          exact hhead rfl hbrace
        · exact readAtom_head h

/-- A character that would go on with a number. -/
def extendsNumber (c : Nat) : Bool := isDigit c || c == 46 || c == 101 || c == 69

/-- What follows a value does not go on with a number. -/
def Stops (t : Text) : Prop := ∀ c ∈ t.head?, extendsNumber c = false

theorem stops_nil : Stops [] := by simp [Stops]

theorem stops_cons {c : Nat} {t : Text} (hc : extendsNumber c = false) : Stops (c :: t) := by
  simpa [Stops] using hc

theorem not_extendsNumber_of_isJsonSpace {c : Nat} (hc : isJsonSpace c = true) :
    extendsNumber c = false := by
  simp only [isJsonSpace, Bool.or_eq_true, beq_iff_eq] at hc
  rcases hc with ((rfl | rfl) | rfl) | rfl <;> rfl

/-- Blanks do not go on with a number. -/
theorem stops_blanks {gap t : Text} (hgap : ∀ c ∈ gap, isJsonSpace c = true) (ht : Stops t) :
    Stops (gap ++ t) := by
  cases gap with
  | nil => exact ht
  | cons c gap => exact stops_cons (not_extendsNumber_of_isJsonSpace (hgap c List.mem_cons_self))

/-- Blanks are skipped up to what is none. -/
theorem skipJsonSpace_append (gap : Text) {t : Text} (hgap : ∀ c ∈ gap, isJsonSpace c = true)
    (ht : ∀ c ∈ t.head?, isJsonSpace c = false) : skipJsonSpace (gap ++ t) = t := by
  rw [skipJsonSpace, List.dropWhile_append_of_pos hgap]
  cases t with
  | nil => rfl
  | cons c t => rw [List.dropWhile_cons_of_neg (by simp [ht c rfl])]

theorem isJsonSpace_of_isValueStart {c : Nat} (hc : isValueStart c = true) :
    isJsonSpace c = false ∧ c ≠ 93 ∧ c ≠ 0xFEFF := by
  simp only [isValueStart, isDigit, isJsonSpace, Bool.or_eq_true, Bool.or_eq_false_iff, Bool.and_eq_true,
    beq_iff_eq, beq_eq_false_iff_ne, decide_eq_true_eq] at hc ⊢
  omega

/-! ## What reads back -/

/-- **The text reads as the value**, whatever stops it. -/
def Reads (numbers : JsonNumbers ν) (text : Text) (value : Json ν) : Prop :=
  ∀ fuel rest, text.length ≤ fuel → Stops rest → readValue numbers fuel (text ++ rest) = .ok (value, rest)

/-- A number reads back as it is written. -/
def ReadsBack (numbers : JsonNumbers ν) (n : ν) : Prop := Reads numbers (numbers.write n) (.number n)

variable {numbers : JsonNumbers ν} {text : Text} {value : Json ν}

theorem Reads.start (h : Reads numbers text value) : ∃ c u, text = c :: u ∧ isValueStart c = true := by
  have hread := h text.length [] le_rfl stops_nil
  rw [List.append_nil] at hread
  exact readValue_head hread

/-- A text that reads as a value is a document, with blanks behind it. -/
theorem loads_of_reads (h : Reads numbers text value) {tail : Text}
    (htail : ∀ c ∈ tail, isJsonSpace c = true) : loads numbers (text ++ tail) = .ok value := by
  obtain ⟨c, u, rfl, hc⟩ := h.start
  obtain ⟨hspace, -, hbom⟩ := isJsonSpace_of_isValueStart hc
  have hskip : skipJsonSpace (c :: u ++ tail) = c :: u ++ tail :=
    skipJsonSpace_append [] (by simp) (by simpa using hspace)
  have hend : skipJsonSpace tail = [] := List.dropWhile_eq_nil_iff.mpr htail
  have hstops : Stops tail := by simpa using stops_blanks htail stops_nil
  rw [loads, if_neg (by simpa using hbom), hskip, h _ tail (by simp) hstops]
  exact if_pos hend

theorem reads_null : Reads numbers (lit "null") .null := by
  intro fuel rest hfuel _
  obtain ⟨fuel, rfl⟩ := Nat.exists_eq_add_of_le' (show 1 ≤ fuel from le_trans (by decide) hfuel)
  have hread : readConstant (lit "null" ++ rest) [lit "null", lit "true", lit "false"] =
      some (lit "null", rest) := by
    rw [readConstant, afterPrefix_append]
  change readAtom numbers (lit "null" ++ rest) = _
  rw [readAtom, hread]
  rfl

theorem reads_bool (b : Bool) : Reads numbers (if b then lit "true" else lit "false") (.bool b) := by
  intro fuel rest hfuel _
  have hone : 1 ≤ fuel := le_trans (by cases b <;> decide) hfuel
  obtain ⟨fuel, rfl⟩ := Nat.exists_eq_add_of_le' hone
  cases b with
  | true =>
    have hread : readConstant (lit "true" ++ rest) [lit "null", lit "true", lit "false"] =
        some (lit "true", rest) := by
      rw [readConstant, readConstant, afterPrefix_append]
      rfl
    change readAtom numbers (lit "true" ++ rest) = _
    rw [readAtom, hread]
    rfl
  | false =>
    have hread : readConstant (lit "false" ++ rest) [lit "null", lit "true", lit "false"] =
        some (lit "false", rest) := by
      rw [readConstant, readConstant, readConstant, afterPrefix_append]
      rfl
    change readAtom numbers (lit "false" ++ rest) = _
    rw [readAtom, hread]
    rfl

theorem reads_str {t : Text} (ht : Unpaired t) : Reads numbers (dumpsStr t) (.str t) := by
  intro fuel rest hfuel _
  have hone : 1 ≤ fuel := le_trans (by simp [dumpsStr]) hfuel
  obtain ⟨fuel, rfl⟩ := Nat.exists_eq_add_of_le' hone
  have hquote : (dumpsStr t ++ rest).head? = some 34 := rfl
  rw [readValue, if_pos hquote, readString_dumpsStr ht]

/-- A text is no longer than what it is joined into. -/
theorem length_le_intercalate (sep : Text) {t : Text} : ∀ {parts : List Text}, t ∈ parts →
    t.length ≤ (sep.intercalate parts).length
  | [], h => absurd h List.not_mem_nil
  | [u], h => by rw [List.mem_singleton.mp h, List.intercalate_singleton]
  | u :: u' :: parts, h => by
    rw [List.intercalate_cons_cons, List.length_append, List.length_append]
    rcases List.mem_cons.mp h with rfl | h
    · omega
    · have := length_le_intercalate sep h
      omega

/-- There are no more parts than characters, and one. -/
theorem length_parts_le (c : Nat) (gap : Text) : ∀ parts : List Text,
    parts.length ≤ ((c :: gap).intercalate parts).length + 1
  | [] => Nat.zero_le _
  | [u] => by simp
  | u :: u' :: parts => by
    have := length_parts_le c gap (u' :: parts)
    rw [List.intercalate_cons_cons, List.length_append, List.length_append, List.length_cons,
      @List.length_cons _ _ gap]
    omega

theorem exists_intercalate (sep t : Text) (parts : List Text) :
    ∃ v, sep.intercalate (t :: parts) = t ++ v := by
  cases parts with
  | nil => exact ⟨[], by simp⟩
  | cons u parts => exact ⟨sep ++ sep.intercalate (u :: parts), by simp [List.intercalate_cons_cons]⟩

section Brackets

variable {read : Reader α} {closing : Nat} {gap last : Text}

/-- **Parts written with commas between them read back.** -/
theorem readSeparated_intercalate (hclosing : isJsonSpace closing = false)
    (hstop : extendsNumber closing = false) (hcomma : closing ≠ 44)
    (hgap : ∀ c ∈ gap, isJsonSpace c = true) (hlast : ∀ c ∈ last, isJsonSpace c = true) :
    ∀ (parts : List (Text × α)), parts ≠ [] →
      (∀ p ∈ parts, ∀ rest, Stops rest → read (p.1 ++ rest) = .ok (p.2, rest)) →
      (∀ p ∈ parts, ∃ c u, p.1 = c :: u ∧ isValueStart c = true) → ∀ {fuel : Nat},
      parts.length ≤ fuel → ∀ rest,
        readSeparated read closing fuel
            ((44 :: gap).intercalate (parts.map Prod.fst) ++ (last ++ closing :: rest)) =
          .ok (parts.map Prod.snd, rest)
  | [], hne, _, _, _, _, _ => absurd rfl hne
  | _ :: _, _, _, _, 0, hfuel, _ => absurd hfuel (Nat.not_succ_le_zero _)
  | [p], _, hread, _, fuel + 1, _, rest => by
    have hskip : skipJsonSpace (last ++ closing :: rest) = closing :: rest :=
      skipJsonSpace_append last hlast (by simpa using hclosing)
    rw [List.map_singleton, List.intercalate_singleton, readSeparated,
      hread p List.mem_cons_self _ (stops_blanks hlast (stops_cons hstop))]
    simp [bind, Except.bind, hskip]
  | p :: q :: parts, _, hread, hstart, fuel + 1, hfuel, rest => by
    have hrest := readSeparated_intercalate hclosing hstop hcomma hgap hlast (q :: parts)
      (List.cons_ne_nil _ _) (fun r hr => hread r (List.mem_cons_of_mem _ hr))
      (fun r hr => hstart r (List.mem_cons_of_mem _ hr)) (Nat.le_of_succ_le_succ hfuel) rest
    obtain ⟨c, u, hq, hc⟩ := hstart q (List.mem_cons_of_mem _ List.mem_cons_self)
    obtain ⟨v, hv⟩ := exists_intercalate (44 :: gap) q.1 (parts.map Prod.fst)
    have hblanks : skipJsonSpace (gap ++ ((44 :: gap).intercalate ((q :: parts).map Prod.fst) ++
        (last ++ closing :: rest))) = (44 :: gap).intercalate ((q :: parts).map Prod.fst) ++
        (last ++ closing :: rest) := by
      refine skipJsonSpace_append gap hgap ?_
      rw [List.map_cons, hv, hq]
      simpa using (isJsonSpace_of_isValueStart hc).1
    have hskip : ∀ t, skipJsonSpace (44 :: t) = 44 :: t := fun t => rfl
    have hother : ¬ some 44 = some closing := fun h => hcomma (Option.some.inj h).symm
    rw [List.map_cons, List.map_cons, List.intercalate_cons_cons, ← List.map_cons, List.append_assoc,
      List.append_assoc, List.cons_append, readSeparated,
      hread p List.mem_cons_self _ (stops_cons rfl)]
    generalize (44 :: gap).intercalate ((q :: parts).map Prod.fst) = body at hrest hblanks ⊢
    simp only [bind, Except.bind, hskip, List.head?_cons, List.tail_cons, hblanks, hrest, hother,
      if_false, if_true, List.map_cons]

/-- Parts between brackets, blanks around them. -/
theorem readBracketed_intercalate (closing : Nat) {first gap last : Text}
    (hclosing : isJsonSpace closing = false) (hstop : extendsNumber closing = false) (hcomma : closing ≠ 44)
    (hstart : isValueStart closing = false) (hfirst : ∀ c ∈ first, isJsonSpace c = true)
    (hgap : ∀ c ∈ gap, isJsonSpace c = true) (hlast : ∀ c ∈ last, isJsonSpace c = true)
    {parts : List (Text × α)}
    (hread : ∀ p ∈ parts, ∀ rest, Stops rest → read (p.1 ++ rest) = .ok (p.2, rest))
    (hstarts : ∀ p ∈ parts, ∃ c u, p.1 = c :: u ∧ isValueStart c = true) (rest : Text) :
    readBracketed read closing (first ++ ((44 :: gap).intercalate (parts.map Prod.fst) ++
      (last ++ closing :: rest))) = .ok (parts.map Prod.snd, rest) := by
  have hend : skipJsonSpace (last ++ closing :: rest) = closing :: rest :=
    skipJsonSpace_append last hlast (by simpa using hclosing)
  cases parts with
  | nil =>
    have hskip : skipJsonSpace (first ++ (last ++ closing :: rest)) = closing :: rest := by
      rw [skipJsonSpace, List.dropWhile_append_of_pos hfirst]
      exact hend
    simp only [List.map_nil, List.intercalate_nil, List.nil_append, readBracketed, hskip,
      List.head?_cons, if_true, List.tail_cons]
  | cons q parts =>
    obtain ⟨c, u, hq, hc⟩ := hstarts q List.mem_cons_self
    obtain ⟨v, hv⟩ := exists_intercalate (44 :: gap) q.1 (parts.map Prod.fst)
    have hbody : (44 :: gap).intercalate ((q :: parts).map Prod.fst) ++ (last ++ closing :: rest) =
        c :: (u ++ v ++ (last ++ closing :: rest)) := by
      rw [List.map_cons, hv, hq]
      rfl
    have hskip : skipJsonSpace (first ++ ((44 :: gap).intercalate ((q :: parts).map Prod.fst) ++
        (last ++ closing :: rest))) = (44 :: gap).intercalate ((q :: parts).map Prod.fst) ++
        (last ++ closing :: rest) := by
      refine skipJsonSpace_append first hfirst ?_
      rw [hbody]
      simpa using (isJsonSpace_of_isValueStart hc).1
    have hother : ¬ some c = some closing := by
      rintro heq
      cases heq
      rw [hc] at hstart
      cases hstart
    have hlength : (q :: parts).length ≤ ((44 :: gap).intercalate ((q :: parts).map Prod.fst) ++
        (last ++ closing :: rest)).length := by
      have hparts := length_parts_le 44 gap ((q :: parts).map Prod.fst)
      simp only [List.length_map, List.length_append, List.length_cons] at hparts ⊢
      omega
    rw [readBracketed, hskip, if_neg (by rw [hbody]; exact hother)]
    exact readSeparated_intercalate hclosing hstop hcomma hgap hlast _ (List.cons_ne_nil _ _) hread
      hstarts hlength rest

end Brackets

end ApiTests.Py
