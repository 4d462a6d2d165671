import ApiTests.Py.Utf8

/-!
# Percent-encoding

`quote(value, safe="")` and `unquote(value)` of `urllib.parse`. `quote` writes the bytes of the
UTF-8, those of unreserved characters as they are and the others as `%` and two digits. `unquote`
reads what has that form as bytes and decodes each run of ASCII by itself, with `U+FFFD` for what is
malformed; `pieces` keeps the two steps apart.

Results:
* `unquote_quote`: **a text that `quote` takes is what `unquote` gives back.**
* `mem_quote`: a quoted text has unreserved characters and `%` only.
* `unquote_eq_self`: a text without an escape stays as it is.
* `countP_unquote_lt`: **a text with an escape has fewer `%` and `2` once it is unquoted**, so that
  no step that keeps these characters turns it back into itself.
-/

namespace ApiTests.Py

/-! ## Writing -/

/-- `_ALWAYS_SAFE`: letters, digits and `_.-~`. -/
def isUnreserved (c : Nat) : Bool :=
  isAsciiLetter c || isDigit c || c == 95 || c == 46 || c == 45 || c == 126

/-- A digit of `%02X`. -/
def upperHexDigit (n : Nat) : Nat := if n < 10 then 48 + n else 55 + n

/-- A byte, quoted. -/
def quoteByte (b : Nat) : Text :=
  if isUnreserved b then [b] else [37, upperHexDigit (b / 16 % 16), upperHexDigit (b % 16)]

/-- `quote(t, safe="")`; `none` is its `UnicodeEncodeError`. -/
def quote (t : Text) : Option Text := (encodeUtf8 t).map fun bytes => bytes.flatMap quoteByte

/-! ## Reading -/

/-- The value of a hexadecimal digit. -/
def readHexDigit (c : Nat) : Option Nat :=
  if isDigit c then some (c - 48)
  else if 65 ≤ c ∧ c ≤ 70 then some (c - 55)
  else if 97 ≤ c ∧ c ≤ 102 then some (c - 87)
  else none

/-- A byte of a run of ASCII, or a character outside. -/
inductive Piece where
  | byte (b : Nat)
  | char (c : Nat)
  deriving DecidableEq

/-- A character that begins no escape. -/
def plainPiece (c : Nat) : Piece := if c < 128 then .byte c else .char c

/-- `unquote_to_bytes` on each run of ASCII. -/
def pieces : Text → List Piece
  | [] => []
  | [c] => [plainPiece c]
  | [c, d] => [plainPiece c, plainPiece d]
  | c :: a :: b :: t =>
    match (if c = 37 then readHexDigit a else none), readHexDigit b with
    | some high, some low => .byte (16 * high + low) :: pieces t
    | _, _ => plainPiece c :: pieces (a :: b :: t)

/-- `U+FFFD` for a character begun and not finished. -/
def pending : Option Owed → Text
  | none => []
  | some _ => [0xFFFD]

/-- Whether a byte is not the next one of the character begun. -/
def misfits : Option Owed → Nat → Bool
  | none, _ => false
  | some owed, b => !(owed.low ≤ b && b ≤ owed.high)

/-- The characters after one more byte, and the one begun then. -/
def decodeByte (owed : Option Owed) (b : Nat) : Text × Option Owed :=
  let dropped := if misfits owed b then pending owed else []
  match readByte owed b with
  | (none, none) => (dropped ++ [0xFFFD], none)
  | (c, next) => (dropped ++ c.toList, next)

/-- `bytes.decode("utf-8", errors="replace")` of each run of bytes. -/
def decodePieces : Option Owed → List Piece → Text
  | owed, [] => pending owed
  | owed, .byte b :: ps => (decodeByte owed b).1 ++ decodePieces (decodeByte owed b).2 ps
  | owed, .char c :: ps => pending owed ++ c :: decodePieces none ps

/-- `unquote(t)`. -/
def unquote (t : Text) : Text := decodePieces none (pieces t)

/-! ## One byte -/

section

variable {owed : Option Owed} {b : Nat}

theorem misfits_eq_false (hfits : ∀ o ∈ owed, o.low ≤ b ∧ b ≤ o.high) : misfits owed b = false := by
  cases owed with
  | none => rfl
  | some owed =>
    obtain ⟨hlow, hhigh⟩ := hfits owed rfl
    simp [misfits, hlow, hhigh]

theorem decodeByte_finish {c : Nat} (hfits : ∀ o ∈ owed, o.low ≤ b ∧ b ≤ o.high)
    (hread : readByte owed b = (some c, none)) : decodeByte owed b = ([c], none) := by
  simp only [decodeByte, misfits_eq_false hfits, hread]
  rfl

theorem decodeByte_next {next : Owed} (hfits : ∀ o ∈ owed, o.low ≤ b ∧ b ≤ o.high)
    (hread : readByte owed b = (none, some next)) : decodeByte owed b = ([], some next) := by
  simp only [decodeByte, misfits_eq_false hfits, hread]
  rfl

end

theorem decodeByte_ascii {b : Nat} (hb : b < 128) : decodeByte none b = ([b], none) :=
  decodeByte_finish forall_owed_none (by rw [readByte, readLead, if_pos hb])

/-- **A character that is spelled is read**, whatever follows. -/
theorem decodePieces_append {c : Nat} {owed : Option Owed} {bs : List Nat} (h : Spells c owed bs)
    (ps : List Piece) : decodePieces owed (bs.map .byte ++ ps) = c :: decodePieces none ps := by
  induction h with
  | last hfits hread =>
    rw [List.map_singleton, List.singleton_append, decodePieces, decodeByte_finish hfits hread]
    rfl
  | next hfits hread _ ih =>
    rw [List.map_cons, List.cons_append, decodePieces, decodeByte_next hfits hread, ih]
    rfl

/-! ## What is quoted is read back -/

theorem decodePieces_flatMap : ∀ {t : Text}, (∀ c ∈ t, IsScalar c) → ∀ ps,
    decodePieces none ((t.flatMap utf8Bytes).map .byte ++ ps) = t ++ decodePieces none ps
  | [], _, _ => rfl
  | c :: t, h, ps => by
    rw [List.flatMap_cons, List.map_append, List.append_assoc,
      decodePieces_append (spells_utf8Bytes (h c List.mem_cons_self)),
      decodePieces_flatMap fun d hd => h d (List.mem_cons_of_mem _ hd)]
    rfl

theorem readHexDigit_upperHexDigit {n : Nat} (hn : n < 16) :
    readHexDigit (upperHexDigit n) = some n := by
  interval_cases n <;> rfl

theorem pieces_plain {c : Nat} (hc : c ≠ 37) (t : Text) :
    pieces (c :: t) = plainPiece c :: pieces t := by
  rcases t with _ | ⟨a, _ | ⟨b, t⟩⟩
  · rfl
  · rfl
  · rw [pieces, if_neg hc]

theorem pieces_escape {a b high low : Nat} (ha : readHexDigit a = some high)
    (hb : readHexDigit b = some low) (t : Text) :
    pieces (37 :: a :: b :: t) = .byte (16 * high + low) :: pieces t := by
  rw [pieces, if_pos rfl, ha, hb]

theorem isUnreserved_ascii {c : Nat} (h : isUnreserved c = true) : c < 128 ∧ c ≠ 37 := by
  simp only [isUnreserved, isAsciiLetter, isDigit, Bool.or_eq_true, Bool.and_eq_true,
    decide_eq_true_eq, beq_iff_eq] at h
  omega

theorem pieces_quoteByte {b : Nat} (hb : b < 256) (t : Text) :
    pieces (quoteByte b ++ t) = .byte b :: pieces t := by
  unfold quoteByte
  split_ifs with h
  · obtain ⟨hascii, hpercent⟩ := isUnreserved_ascii h
    rw [List.singleton_append, pieces_plain hpercent, plainPiece, if_pos hascii]
  · have hvalue : 16 * (b / 16 % 16) + b % 16 = b := by omega
    have hpieces := pieces_escape (readHexDigit_upperHexDigit (n := b / 16 % 16) (by omega))
      (readHexDigit_upperHexDigit (n := b % 16) (by omega)) t
    rw [hvalue] at hpieces
    exact hpieces

theorem pieces_quoted : ∀ {bytes : List Nat}, (∀ b ∈ bytes, b < 256) → ∀ t,
    pieces (bytes.flatMap quoteByte ++ t) = bytes.map .byte ++ pieces t
  | [], _, _ => rfl
  | b :: bytes, hb, t => by
    rw [List.flatMap_cons, List.append_assoc, pieces_quoteByte (hb b List.mem_cons_self),
      pieces_quoted fun d hd => hb d (List.mem_cons_of_mem _ hd)]
    rfl

theorem utf8Bytes_lt {c : Nat} (hc : c < 0x110000) : ∀ b ∈ utf8Bytes c, b < 256 := by
  intro b hb
  unfold utf8Bytes at hb
  split_ifs at hb <;> simp only [List.mem_cons, List.not_mem_nil, or_false] at hb <;> omega

/-- **A text that `quote` takes is what `unquote` gives back.** -/
theorem unquote_quote {t quoted : Text} (ht : ∀ c ∈ t, c < 0x110000) (h : quote t = some quoted) :
    unquote quoted = t := by
  unfold quote encodeUtf8 at h
  by_cases hs : t.any isSurrogate
  · rw [if_pos hs] at h
    cases h
  · rw [if_neg hs] at h
    cases h
    have hbytes : ∀ b ∈ t.flatMap utf8Bytes, b < 256 := by
      intro b hb
      obtain ⟨c, hc, hb⟩ := List.mem_flatMap.mp hb
      exact utf8Bytes_lt (ht c hc) b hb
    have hpieces := pieces_quoted hbytes []
    have hscalar : ∀ c ∈ t, IsScalar c := by
      intro c hc
      refine ⟨ht c hc, ?_⟩
      by_contra hsurrogate
      exact hs (List.any_eq_true.mpr ⟨c, hc, Bool.not_eq_false _ ▸ hsurrogate⟩)
    have hdecode := decodePieces_flatMap hscalar []
    rw [List.append_nil] at hpieces
    rw [unquote, hpieces]
    exact hdecode.trans (List.append_nil t)

/-- A character that `quote` writes. -/
def isQuotedChar (c : Nat) : Bool := isUnreserved c || c == 37

theorem isUnreserved_upperHexDigit {n : Nat} (hn : n < 16) :
    isUnreserved (upperHexDigit n) = true := by
  interval_cases n <;> rfl

/-- **A quoted text has unreserved characters and `%` only.** -/
theorem mem_quote {t quoted : Text} (h : quote t = some quoted) :
    ∀ c ∈ quoted, isQuotedChar c = true := by
  intro c hc
  obtain ⟨bytes, -, rfl⟩ := Option.map_eq_some_iff.mp h
  obtain ⟨b, -, hc⟩ := List.mem_flatMap.mp hc
  unfold quoteByte at hc
  unfold isQuotedChar
  split_ifs at hc with hb
  · rw [List.mem_singleton] at hc
    rw [hc, hb, Bool.true_or]
  · simp only [List.mem_cons, List.not_mem_nil, or_false] at hc
    rcases hc with rfl | rfl | rfl
    · rfl
    · rw [isUnreserved_upperHexDigit (by omega), Bool.true_or]
    · rw [isUnreserved_upperHexDigit (by omega), Bool.true_or]

/-- A text of unreserved characters is quoted as it is. -/
theorem quote_unreserved {t : Text} (h : ∀ c ∈ t, isUnreserved c = true) : quote t = some t := by
  have hs : t.any isSurrogate = false := by
    rw [List.any_eq_false]
    intro c hc hsurrogate
    have hascii := (isUnreserved_ascii (h c hc)).1
    simp only [isSurrogate, Bool.and_eq_true, decide_eq_true_eq] at hsurrogate
    omega
  have hbytes : t.flatMap utf8Bytes = t :=
    flatMap_utf8Bytes_of_ascii fun c hc => (isUnreserved_ascii (h c hc)).1
  have hquote : t.flatMap quoteByte = t.flatMap fun c => [c] :=
    List.flatMap_congr fun c hc => if_pos (h c hc)
  rw [quote, encodeUtf8, hs, hbytes]
  exact congrArg some (hquote.trans (List.flatMap_singleton' t))

/-! ## What unquoting changes -/

/-- `%` and two hexadecimal digits. -/
def HasEscape (t : Text) : Prop :=
  ∃ u a b v, t = u ++ 37 :: a :: b :: v ∧ (readHexDigit a).isSome ∧ (readHexDigit b).isSome

/-- What follows `%` at the head of a text is an escape, or the head is read as it is. -/
theorem pieces_cases (c : Nat) (t : Text) :
    (∃ a b v high low, c = 37 ∧ t = a :: b :: v ∧ readHexDigit a = some high ∧
      readHexDigit b = some low ∧ pieces (c :: t) = .byte (16 * high + low) :: pieces v) ∨
    ((∀ a b v, c = 37 → t = a :: b :: v → ¬ ((readHexDigit a).isSome ∧ (readHexDigit b).isSome)) ∧
      pieces (c :: t) = plainPiece c :: pieces t) := by
  by_cases hc : c = 37
  · subst hc
    rcases t with _ | ⟨a, _ | ⟨b, v⟩⟩
    · exact .inr ⟨fun _ _ _ _ h => (nomatch h), rfl⟩
    · exact .inr ⟨fun _ _ _ _ h => (nomatch h), rfl⟩
    · cases ha : readHexDigit a with
      | none =>
        refine .inr ⟨?_, by rw [pieces, if_pos rfl, ha]⟩
        rintro _ _ _ - heq ⟨hsome, -⟩
        cases heq
        rw [ha] at hsome
        cases hsome
      | some high =>
        cases hb : readHexDigit b with
        | none =>
          refine .inr ⟨?_, by rw [pieces, if_pos rfl, ha, hb]⟩
          rintro _ _ _ - heq ⟨-, hsome⟩
          cases heq
          rw [hb] at hsome
          cases hsome
        | some low => exact .inl ⟨a, b, v, high, low, rfl, rfl, ha, hb, pieces_escape ha hb v⟩
  · exact .inr ⟨fun _ _ _ h => absurd h hc, pieces_plain hc t⟩

theorem HasEscape.append_left {t : Text} (u : Text) (h : HasEscape t) : HasEscape (u ++ t) := by
  obtain ⟨w, a, b, v, rfl, ha, hb⟩ := h
  exact ⟨u ++ w, a, b, v, (List.append_assoc ..).symm, ha, hb⟩

theorem HasEscape.append_right {t : Text} (v : Text) (h : HasEscape t) : HasEscape (t ++ v) := by
  obtain ⟨u, a, b, w, rfl, ha, hb⟩ := h
  exact ⟨u, a, b, w ++ v, by rw [List.append_assoc]; rfl, ha, hb⟩

/-- An escape begins at the head or in the tail. -/
theorem hasEscape_cons {c : Nat} {t : Text} : HasEscape (c :: t) ↔
    (∃ a b v, c = 37 ∧ t = a :: b :: v ∧ (readHexDigit a).isSome ∧ (readHexDigit b).isSome) ∨
      HasEscape t := by
  constructor
  · rintro ⟨u, a, b, v, heq, ha, hb⟩
    cases u with
    | nil =>
      cases heq
      exact .inl ⟨a, b, v, rfl, rfl, ha, hb⟩
    | cons d u =>
      cases heq
      exact .inr ⟨u, a, b, v, rfl, ha, hb⟩
  · rintro (⟨a, b, v, rfl, rfl, ha, hb⟩ | h)
    · exact ⟨[], a, b, v, rfl, ha, hb⟩
    · exact h.append_left [c]

theorem decodePieces_plain : ∀ t : Text, decodePieces none (t.map plainPiece) = t
  | [] => rfl
  | c :: t => by
    rw [List.map_cons, plainPiece]
    split_ifs with hc
    · rw [decodePieces, decodeByte_ascii hc, decodePieces_plain t]
      rfl
    · rw [decodePieces, decodePieces_plain t]
      rfl

/-- A text without an escape stays as it is. -/
theorem unquote_eq_self {t : Text} (h : ¬ HasEscape t) : unquote t = t := by
  have hpieces : pieces t = t.map plainPiece := by
    induction t with
    | nil => rfl
    | cons c t ih =>
      rcases pieces_cases c t with ⟨a, b, v, high, low, rfl, rfl, ha, hb, -⟩ | ⟨-, hplain⟩
      · exact absurd ⟨[], a, b, v, rfl, by rw [ha]; rfl, by rw [hb]; rfl⟩ h
      · rw [hplain, ih fun hescape => h (hescape.append_left [c])]
        rfl
  rw [unquote, hpieces, decodePieces_plain]

/-! ## What decoding keeps -/

/-- A character begun comes to one outside ASCII. -/
structure Owed.Proper (owed : Owed) : Prop where
  low : 0x80 ≤ owed.low
  bits : 2 ≤ owed.bits * 64 + (owed.low - 0x80)
  last : owed.tails = 1 → 2 ≤ owed.bits

theorem readLead_cases (b : Nat) : (b < 128 ∧ readLead b = (some b, none)) ∨
    (128 ≤ b ∧ ((∃ owed : Owed, owed.Proper ∧ readLead b = (none, some owed)) ∨
      readLead b = (none, none))) := by
  unfold readLead
  split_ifs with h1 h2 h3 h4 h5 h6 h7 h8
  · exact .inl ⟨h1, rfl⟩
  · exact .inr ⟨by omega, .inl ⟨_, ⟨by simp, by simp only; omega, by simp only; omega⟩, rfl⟩⟩
  · exact .inr ⟨by omega, .inl ⟨_, ⟨by simp, by simp, by simp⟩, rfl⟩⟩
  · exact .inr ⟨by omega, .inl ⟨_, ⟨by simp, by simp, by simp⟩, rfl⟩⟩
  · exact .inr ⟨by omega, .inl ⟨_, ⟨by simp, by simp only; omega, by simp⟩, rfl⟩⟩
  · exact .inr ⟨by omega, .inl ⟨_, ⟨by simp, by simp, by simp⟩, rfl⟩⟩
  · exact .inr ⟨by omega, .inl ⟨_, ⟨by simp, by simp only; omega, by simp⟩, rfl⟩⟩
  · exact .inr ⟨by omega, .inl ⟨_, ⟨by simp, by simp, by simp⟩, rfl⟩⟩
  · exact .inr ⟨by omega, .inr rfl⟩

section

variable {P : Nat → Bool} (hP : ∀ c, 128 ≤ c → P c = false)

include hP

theorem countP_singleton_eq_zero {c : Nat} (hc : 128 ≤ c) : [c].countP P = 0 := by
  rw [List.countP_singleton, hP c hc]
  rfl

theorem countP_pending (owed : Option Owed) : (pending owed).countP P = 0 := by
  cases owed with
  | none => rfl
  | some _ => exact countP_singleton_eq_zero hP (by decide)

/-- The characters that a byte shows to be finished or malformed, after a lead byte. -/
theorem decodeByte_lead_cases {owed : Option Owed} {b : Nat} {dropped : Text}
    (hdropped : dropped.countP P = 0) (hread : readByte owed b = readLead b)
    (h : dropped = if misfits owed b then pending owed else []) :
    (decodeByte owed b).1.countP P = [b].countP P ∧ ∀ next ∈ (decodeByte owed b).2, next.Proper := by
  unfold decodeByte
  rw [← h, hread]
  rcases readLead_cases b with ⟨hb, hlead⟩ | ⟨hb, ⟨next, hnext, hlead⟩ | hlead⟩
  · rw [hlead]
    refine ⟨?_, forall_owed_none⟩
    rw [List.countP_append, hdropped, Nat.zero_add]
    rfl
  · rw [hlead]
    refine ⟨?_, ?_⟩
    · rw [List.countP_append, hdropped, countP_singleton_eq_zero hP hb]
      rfl
    · intro owed' howed'
      cases howed'
      exact hnext
  · rw [hlead]
    refine ⟨?_, forall_owed_none⟩
    rw [List.countP_append, hdropped, countP_singleton_eq_zero hP hb,
      countP_singleton_eq_zero hP (by decide)]

/-- **One byte keeps the count** of ASCII characters with a property. -/
theorem countP_decodeByte {owed : Option Owed} (howed : ∀ o ∈ owed, o.Proper) (b : Nat) :
    (decodeByte owed b).1.countP P = [b].countP P ∧ ∀ next ∈ (decodeByte owed b).2, next.Proper := by
  cases owed with
  | none => exact decodeByte_lead_cases hP rfl rfl rfl
  | some owed =>
    obtain ⟨bits, tails, low, high⟩ := owed
    obtain ⟨hlow, hbits, hlast⟩ := howed _ rfl
    simp only at hlow hbits hlast
    by_cases hfits : low ≤ b ∧ b ≤ high
    · have hb : 128 ≤ b := by omega
      have hfits' : ∀ o ∈ some (⟨bits, tails, low, high⟩ : Owed), o.low ≤ b ∧ b ≤ o.high := by
        intro o ho
        rw [← Option.some.inj ho]
        exact hfits
      by_cases htails : tails = 1
      · have hbits := hlast htails
        have hchar : 128 ≤ bits * 64 + (b - 0x80) := by omega
        rw [decodeByte_finish hfits' (by rw [readByte, if_pos hfits, if_pos htails])]
        refine ⟨?_, forall_owed_none⟩
        exact (countP_singleton_eq_zero hP hchar).trans (countP_singleton_eq_zero hP hb).symm
      · rw [decodeByte_next hfits' (by rw [readByte, if_pos hfits, if_neg htails]),
          countP_singleton_eq_zero hP hb]
        refine ⟨rfl, fun next hnext => ?_⟩
        rw [← Option.some.inj hnext]
        exact ⟨by simp, by simp only; omega, by simp only; omega⟩
    · refine decodeByte_lead_cases hP ?_ (if_neg hfits) rfl
      split_ifs
      · exact countP_pending hP (some _)
      · rfl

/-- The number of a piece. -/
def Piece.value : Piece → Nat
  | .byte b => b
  | .char c => c

theorem countP_decodePieces : ∀ {owed : Option Owed}, (∀ o ∈ owed, o.Proper) → ∀ ps : List Piece,
    (decodePieces owed ps).countP P = (ps.map Piece.value).countP P
  | owed, _, [] => countP_pending hP owed
  | owed, howed, .byte b :: ps => by
    obtain ⟨hcount, hnext⟩ := countP_decodeByte hP howed b
    rw [decodePieces, List.countP_append, hcount, countP_decodePieces hnext ps, List.map_cons,
      ← List.countP_append]
    rfl
  | owed, howed, .char c :: ps => by
    rw [decodePieces, List.countP_append, countP_pending hP, List.countP_cons,
      countP_decodePieces forall_owed_none ps, List.map_cons, List.countP_cons, Nat.zero_add]
    rfl

end

/-! ## What escapes take away -/

/-- `%` and `2`. -/
def isEscapeMark (c : Nat) : Bool := c == 37 || c == 50

theorem readHexDigit_spec {a n : Nat} (h : readHexDigit a = some n) :
    n < 16 ∧ (n = 2 → a = 50) := by
  unfold readHexDigit isDigit at h
  split_ifs at h with h1 h2 h3
  · simp only [Bool.and_eq_true, decide_eq_true_eq] at h1
    cases h
    omega
  · cases h
    omega
  · cases h
    omega

/-- The byte of an escape is `%` or `2` only if one of its digits is `2`. -/
theorem countP_escape {a b high low : Nat} (ha : readHexDigit a = some high)
    (hb : readHexDigit b = some low) :
    [16 * high + low].countP isEscapeMark ≤ [a, b].countP isEscapeMark := by
  obtain ⟨-, hhigh⟩ := readHexDigit_spec ha
  obtain ⟨hlow, hlow'⟩ := readHexDigit_spec hb
  by_cases hmark : isEscapeMark (16 * high + low)
  · have hone : 0 < [a, b].countP isEscapeMark := by
      rw [List.countP_pos_iff]
      simp only [isEscapeMark, Bool.or_eq_true, beq_iff_eq] at hmark ⊢
      rcases hmark with hmark | hmark
      · exact ⟨a, List.mem_cons_self, .inr (hhigh (by omega))⟩
      · exact ⟨b, List.mem_cons_of_mem _ List.mem_cons_self, .inr (hlow' (by omega))⟩
    rw [List.countP_singleton, if_pos hmark]
    exact hone
  · rw [List.countP_singleton, if_neg hmark]
    exact Nat.zero_le _

theorem countP_pieces (t : Text) :
    ((pieces t).map Piece.value).countP isEscapeMark ≤ t.countP isEscapeMark ∧
      (HasEscape t → ((pieces t).map Piece.value).countP isEscapeMark < t.countP isEscapeMark) := by
  induction h : t.length using Nat.strong_induction_on generalizing t with
  | _ n ih =>
    cases t with
    | nil =>
      refine ⟨le_rfl, ?_⟩
      rintro ⟨u, a, b, v, heq, -⟩
      cases u <;> cases heq
    | cons c t =>
      rw [List.length_cons] at h
      rcases pieces_cases c t with ⟨a, b, v, high, low, rfl, rfl, ha, hb, hpieces⟩ | ⟨hplain, hpieces⟩
      · have hv := (ih v.length (by rw [← h]; simp only [List.length_cons]; omega) v rfl).1
        have hmark := countP_escape ha hb
        have hlt : ((pieces (37 :: a :: b :: v)).map Piece.value).countP isEscapeMark <
            (37 :: a :: b :: v).countP isEscapeMark := by
          rw [hpieces, List.map_cons, ← List.singleton_append, List.countP_append]
          have hsplit : (37 :: a :: b :: v).countP isEscapeMark =
              1 + ([a, b].countP isEscapeMark + v.countP isEscapeMark) := by
            rw [← List.countP_append, List.countP_cons, if_pos (show isEscapeMark 37 = true from rfl)]
            exact Nat.add_comm _ 1
          rw [hsplit]
          have hbyte : [Piece.value (.byte (16 * high + low))].countP isEscapeMark ≤ _ := hmark
          omega
        exact ⟨hlt.le, fun _ => hlt⟩
      · obtain ⟨hle, hlt⟩ := ih t.length (by omega) t rfl
        have hvalue : (plainPiece c).value = c := by
          unfold plainPiece
          split_ifs <;> rfl
        rw [hpieces, List.map_cons, hvalue, List.countP_cons, List.countP_cons]
        refine ⟨by omega, fun hescape => ?_⟩
        rcases hasEscape_cons.mp hescape with ⟨a, b, v, hc, ht, hab⟩ | htail
        · exact absurd hab (hplain a b v hc ht)
        · have := hlt htail
          omega

/-- **A text with an escape has fewer `%` and `2` once it is unquoted.** -/
theorem countP_unquote_lt {t : Text} (h : HasEscape t) :
    (unquote t).countP isEscapeMark < t.countP isEscapeMark := by
  have hmark : ∀ c, 128 ≤ c → isEscapeMark c = false := by
    intro c hc
    simp only [isEscapeMark, Bool.or_eq_false_iff, beq_eq_false_iff_ne]
    omega
  rw [unquote, countP_decodePieces hmark forall_owed_none]
  exact (countP_pieces t).2 h

end ApiTests.Py
