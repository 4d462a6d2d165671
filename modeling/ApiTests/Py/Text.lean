import Mathlib.Data.List.DropRight
import Mathlib.Data.List.Infix

/-!
# Python text: code points, whitespace, line splitting

A Python `str` is the sequence of its code points, `Text`. This file models the part of `str`
the credential reader, the redactors and the pacing classifier rest on:

* `isSpace` is `str.isspace` of one character, which is also the class `\s` of a text pattern;
  `strip`, `lstrip`, `rstrip` remove it from the ends.
* `isLineBreak` is the set `str.splitlines` splits at, `\r\n` counting as one break. `lines`
  keeps each line's body and its ending apart: `splitlines` drops the endings and
  `splitlinesKeepends` keeps them.
* `universalNewlines` is the newline translation of a file opened in text mode.

Results:
* `lines_cons`: a body without breaks, one break that is not `\r`, and the rest: one line and
  the lines of the rest.
* `lines_shape`: a text without `\r` is a list of complete lines and at most one unfinished one.
* `splitlines_universalNewlines`: the newline translation does not change the line bodies.
* `strip_eq_self`, `strip_spaces_append`: what `strip` leaves alone, and what it removes.

A lone surrogate is a code point of a `str` but not of a text file; nothing here depends on it.
-/

namespace ApiTests.Py

/-- A `str`: its code points. -/
abbrev Text := List Nat

instance lawfulBEqText : LawfulBEq Text := inferInstance

/-- The text of a literal. -/
def lit (s : String) : Text := s.toList.map Char.toNat

/-- `\n`. -/
abbrev lf : Nat := 10

/-- `\r`. -/
abbrev cr : Nat := 13

/-- `str.isspace` of one character. -/
def isSpace (c : Nat) : Bool :=
  (9 ≤ c && c ≤ 13) || (28 ≤ c && c ≤ 32) || c == 0x85 || c == 0xA0 || c == 0x1680 ||
    (0x2000 ≤ c && c ≤ 0x200A) || c == 0x2028 || c == 0x2029 || c == 0x202F || c == 0x205F ||
    c == 0x3000

/-- The characters `str.splitlines` breaks at. -/
def isLineBreak (c : Nat) : Bool :=
  (10 ≤ c && c ≤ 13) || (28 ≤ c && c ≤ 30) || c == 0x85 || c == 0x2028 || c == 0x2029

theorem isSpace_of_isLineBreak {c : Nat} (h : isLineBreak c = true) : isSpace c = true := by
  simp only [isLineBreak, isSpace, Bool.or_eq_true, Bool.and_eq_true, decide_eq_true_eq,
    beq_iff_eq] at h ⊢
  omega

/-- An ASCII letter. -/
def isAsciiLetter (c : Nat) : Bool := (65 ≤ c && c ≤ 90) || (97 ≤ c && c ≤ 122)

/-- An ASCII digit. -/
def isDigit (c : Nat) : Bool := 48 ≤ c && c ≤ 57

/-- `str.lower` of one ASCII character. -/
def lowerAscii (c : Nat) : Nat := if 65 ≤ c ∧ c ≤ 90 then c + 32 else c

/-- A hexadecimal digit. -/
def hexDigit (n : Nat) : Nat := if n < 10 then 48 + n else 87 + n

/-- The last `width` hexadecimal digits of a number. -/
def hexDigits : Nat → Nat → Text
  | 0, _ => []
  | width + 1, n => hexDigits width (n / 16) ++ [hexDigit (n % 16)]

/-! ## Stripping -/

/-- `str.lstrip()`. -/
def lstrip (t : Text) : Text := t.dropWhile isSpace

/-- `str.rstrip()`. -/
def rstrip (t : Text) : Text := t.rdropWhile isSpace

/-- `str.strip()`. -/
def strip (t : Text) : Text := rstrip (lstrip t)

@[simp] theorem strip_nil : strip [] = [] := rfl

/-- Leading whitespace does not matter to `strip`. -/
theorem strip_spaces_append {ws : Text} (h : ∀ c ∈ ws, isSpace c = true) (t : Text) :
    strip (ws ++ t) = strip t := by
  unfold strip lstrip
  rw [List.dropWhile_append_of_pos h]

/-- A text without whitespace is its own `strip`. -/
theorem strip_eq_self {t : Text} (h : ∀ c ∈ t, isSpace c = false) : strip t = t := by
  have hl : lstrip t = t := by
    cases t with
    | nil => rfl
    | cons c cs =>
      unfold lstrip
      rw [List.dropWhile_cons_of_neg (by simp [h c List.mem_cons_self])]
  unfold strip
  rw [hl]
  refine List.rdropWhile_eq_self_iff.mpr fun hne => ?_
  simp [h _ (List.getLast_mem hne)]

theorem strip_strip (t : Text) : strip (strip t) = strip t := by
  by_cases hnil : strip t = []
  · rw [hnil, strip_nil]
  have hpre : strip t <+: lstrip t := List.rdropWhile_prefix isSpace (lstrip t)
  have hl : lstrip (strip t) = strip t := by
    obtain ⟨c, cs, hs⟩ := List.exists_cons_of_ne_nil hnil
    obtain ⟨v, hv⟩ := hpre
    rw [hs] at hv ⊢
    have hc : isSpace c = false := by
      have hne : lstrip t ≠ [] := by rw [← hv]; simp
      have := List.head_dropWhile_not isSpace (l := t) hne
      have hhead : (lstrip t).head hne = c := by simp [← hv]
      unfold lstrip at hhead
      rw [hhead] at this
      simpa using this
    unfold lstrip
    rw [List.dropWhile_cons_of_neg (by simp [hc])]
  change rstrip (lstrip (strip t)) = strip t
  rw [hl]
  exact List.rdropWhile_idempotent isSpace (lstrip t)

theorem length_strip_le (t : Text) : (strip t).length ≤ t.length :=
  ((List.rdropWhile_prefix _ _).length_le).trans (List.dropWhile_suffix _).length_le

theorem rdropWhile_append_of_pos {p : Nat → Bool} {u v : Text} (h : ∀ c ∈ v, p c = true) :
    (u ++ v).rdropWhile p = u.rdropWhile p := by
  rw [List.rdropWhile, List.reverse_append,
    List.dropWhile_append_of_pos fun c hc => h c (List.mem_reverse.mp hc)]
  rfl

/-- Trailing whitespace does not matter to `rstrip`. -/
theorem rstrip_append_spaces {ws : Text} (h : ∀ c ∈ ws, isSpace c = true) (t : Text) :
    rstrip (t ++ ws) = rstrip t :=
  rdropWhile_append_of_pos h

theorem rdropWhile_append_of_neg {p : Nat → Bool} {u v : Text} (hv : v ≠ [])
    (h : ∀ c ∈ v, p c = false) : (u ++ v).rdropWhile p = u ++ v := by
  refine List.rdropWhile_eq_self_iff.mpr fun hne => ?_
  rw [List.getLast_append_of_ne_nil _ hv]
  simp [h _ (List.getLast_mem hv)]

/-- The trailing run of a class, in front of which the class stops. -/
theorem rtakeWhile_append {p : Nat → Bool} {u v : Text} (hv : ∀ c ∈ v, p c = true)
    (hu : ∀ h : u ≠ [], p (u.getLast h) = false) : (u ++ v).rtakeWhile p = v := by
  have hstop : u.reverse.takeWhile p = [] := by
    cases hr : u.reverse with
    | nil => rfl
    | cons c cs =>
      have hne : u ≠ [] := fun h => by simp [h] at hr
      have hc : u.getLast hne = c := by
        have := List.head_reverse (l := u) (by simp [hr])
        simpa [hr] using this.symm
      rw [List.takeWhile_cons_of_neg (by simp [← hc, hu hne])]
  rw [List.rtakeWhile, List.reverse_append,
    List.takeWhile_append_of_pos fun c hc => hv c (List.mem_reverse.mp hc), hstop,
    List.append_nil, List.reverse_reverse]

/-! ## Searching -/

/-- `t[:t.find(sub)]` when `sub` occurs in `t`. -/
def textBefore (sub : Text) : Text → Option Text
  | [] => if sub = [] then some [] else none
  | c :: cs =>
    if sub.isPrefixOf (c :: cs) then some []
    else (textBefore sub cs).map fun u => c :: u

theorem textBefore_eq_none_iff {sub : Text} : ∀ {t : Text}, textBefore sub t = none ↔ ¬ sub <:+: t
  | [] => by
    simp only [textBefore, List.infix_nil]
    split <;> simp_all
  | c :: cs => by
    simp only [textBefore, List.infix_cons_iff]
    split
    · rename_i h
      simp [List.isPrefixOf_iff_prefix.mp h]
    · rename_i h
      have hp : ¬ sub <+: c :: cs := fun hp => h (List.isPrefixOf_iff_prefix.mpr hp)
      have ih : textBefore sub cs = none ↔ ¬ sub <:+: cs := textBefore_eq_none_iff
      simp [hp, ih]

/-! ## Lines -/

/-- A line: what stands before its break, and the break (empty for an unfinished last line). -/
structure Line where
  body : Text
  ending : Text
  deriving Repr, DecidableEq

/-- The line as it stands in the text. -/
def Line.full (l : Line) : Text := l.body ++ l.ending

/-- Put a character that is no break in front of the first line. -/
def consLine (c : Nat) : List Line → List Line
  | [] => [⟨[c], []⟩]
  | l :: ls => ⟨c :: l.body, l.ending⟩ :: ls

/-- The lines of a text. -/
def lines : Text → List Line
  | [] => []
  | [c] => if isLineBreak c then [⟨[], [c]⟩] else [⟨[c], []⟩]
  | c :: d :: cs =>
    if c = cr ∧ d = lf then ⟨[], [cr, lf]⟩ :: lines cs
    else if isLineBreak c then ⟨[], [c]⟩ :: lines (d :: cs)
    else consLine c (lines (d :: cs))

/-- `str.splitlines()`. -/
def splitlines (t : Text) : List Text := (lines t).map Line.body

/-- `str.splitlines(keepends=True)`. -/
def splitlinesKeepends (t : Text) : List Text := (lines t).map Line.full

example : splitlines (lit "a\r\nb\n\nc") = [lit "a", lit "b", lit "", lit "c"] := by decide

/-- **The lines with their ends are the text.** -/
theorem flatten_splitlinesKeepends (t : Text) : (splitlinesKeepends t).flatten = t := by
  have hcons : ∀ c ls, ((consLine c ls).map Line.full).flatten = c :: (ls.map Line.full).flatten := by
    intro c ls
    cases ls with
    | nil => rfl
    | cons l ls => rfl
  unfold splitlinesKeepends
  induction t using lines.induct with
  | case1 => rfl
  | case2 c hc => simp [lines, hc, Line.full]
  | case3 c hc => simp [lines, hc, Line.full]
  | case4 c d cs h ih =>
    obtain ⟨rfl, rfl⟩ := h
    rw [lines, if_pos ⟨rfl, rfl⟩, List.map_cons, List.flatten_cons, ih]
    rfl
  | case5 c d cs h hc ih =>
    rw [lines, if_neg h, if_pos hc, List.map_cons, List.flatten_cons, ih]
    rfl
  | case6 c d cs h hc ih => rw [lines, if_neg h, if_neg hc, hcons, ih]

/-- A break that is not `\r` ends its line on its own. -/
theorem lines_break {c : Nat} (hb : isLineBreak c = true) (hc : c ≠ cr) (t : Text) :
    lines (c :: t) = ⟨[], [c]⟩ :: lines t := by
  cases t with
  | nil => simp [lines, hb]
  | cons d cs =>
    rw [lines, if_neg (fun h => hc h.1), if_pos hb]

theorem lines_noBreak {c : Nat} (hb : isLineBreak c = false) (t : Text) :
    lines (c :: t) = consLine c (lines t) := by
  have hc : c ≠ cr := by rintro rfl; exact absurd hb (by decide)
  cases t with
  | nil => simp [lines, hb, consLine]
  | cons d cs =>
    rw [lines, if_neg (fun h => hc h.1), if_neg (by simp [hb])]

/-- One complete line in front of a text. -/
theorem lines_cons {b : Text} (hb : ∀ c ∈ b, isLineBreak c = false) {e : Nat}
    (he : isLineBreak e = true) (hcr : e ≠ cr) (t : Text) :
    lines (b ++ e :: t) = ⟨b, [e]⟩ :: lines t := by
  induction b with
  | nil => exact lines_break he hcr t
  | cons c b ih =>
    rw [List.cons_append, lines_noBreak (hb c List.mem_cons_self),
      ih fun x hx => hb x (List.mem_cons_of_mem c hx)]
    rfl

/-- A line that a break other than `\r` ends. -/
structure Line.Complete (l : Line) : Prop where
  body : ∀ c ∈ l.body, isLineBreak c = false
  ending : ∃ e, isLineBreak e = true ∧ e ≠ cr ∧ l.ending = [e]

/-- A last line without a break. -/
structure Line.Unfinished (l : Line) : Prop where
  body : ∀ c ∈ l.body, isLineBreak c = false
  nonempty : l.body ≠ []
  ending : l.ending = []

theorem lines_complete_append : ∀ {ls : List Line}, (∀ l ∈ ls, l.Complete) → ∀ t,
    lines (ls.flatMap Line.full ++ t) = ls ++ lines t
  | [], _, t => rfl
  | l :: ls, h, t => by
    obtain ⟨hb, e, he, hcr, hend⟩ := h l List.mem_cons_self
    have ih := lines_complete_append (fun x hx => h x (List.mem_cons_of_mem l hx)) t
    have hl : l.full = l.body ++ [e] := by rw [Line.full, hend]
    rw [List.flatMap_cons, hl, List.append_assoc, List.append_assoc, List.singleton_append,
      lines_cons hb he hcr, ih, ← hend]
    rfl

/-- **The shape of a text without `\r`**: complete lines, then at most one unfinished line. -/
theorem lines_shape : ∀ (t : Text), cr ∉ t → ∃ ls tail, lines t = ls ++ tail ∧
    (∀ l ∈ ls, l.Complete) ∧ (tail = [] ∨ ∃ l, tail = [l] ∧ l.Unfinished)
  | [], _ => ⟨[], [], rfl, fun _ h => absurd h List.not_mem_nil, Or.inl rfl⟩
  | c :: t, hcr => by
    obtain ⟨ls, tail, ht, hls, htail⟩ := lines_shape t fun h => hcr (List.mem_cons_of_mem c h)
    have hc : c ≠ cr := fun h => hcr (h ▸ List.mem_cons_self)
    cases hb : isLineBreak c with
    | true =>
      refine ⟨⟨[], [c]⟩ :: ls, tail, by rw [lines_break hb hc, ht]; rfl, fun l hl => ?_, htail⟩
      rcases List.mem_cons.mp hl with rfl | hl
      · exact ⟨fun _ h => absurd h List.not_mem_nil, c, hb, hc, rfl⟩
      · exact hls l hl
    | false =>
      have hcons : ∀ b : Text, (∀ x ∈ b, isLineBreak x = false) →
          ∀ x ∈ c :: b, isLineBreak x = false := fun b hbody x hx => by
        rcases List.mem_cons.mp hx with rfl | hx
        · exact hb
        · exact hbody x hx
      rw [lines_noBreak hb, ht]
      cases ls with
      | nil =>
        rcases htail with rfl | ⟨l, rfl, hl⟩
        · exact ⟨[], [⟨[c], []⟩], rfl, hls, Or.inr ⟨_, rfl,
            hcons [] (fun _ h => absurd h List.not_mem_nil), by simp, rfl⟩⟩
        · exact ⟨[], [⟨c :: l.body, l.ending⟩], rfl, fun _ h => absurd h List.not_mem_nil,
            Or.inr ⟨_, rfl, hcons _ hl.body, by simp, hl.ending⟩⟩
      | cons l ls =>
        refine ⟨⟨c :: l.body, l.ending⟩ :: ls, tail, rfl, fun x hx => ?_, htail⟩
        rcases List.mem_cons.mp hx with rfl | hx
        · have hl := hls l List.mem_cons_self
          exact ⟨hcons _ hl.body, hl.ending⟩
        · exact hls x (List.mem_cons_of_mem l hx)

/-- A line of a text without `\r`. -/
def Line.Proper (l : Line) : Prop := l.Complete ∨ l.Unfinished

/-- Lines of which only the last can be unfinished. -/
structure ProperLines (ls : List Line) : Prop where
  complete : ∀ l ∈ ls.dropLast, l.Complete
  proper : ∀ l ∈ ls, l.Proper

theorem properLines_lines {t : Text} (hcr : cr ∉ t) : ProperLines (lines t) := by
  obtain ⟨ls, tail, ht, hls, htail⟩ := lines_shape t hcr
  rw [ht]
  rcases htail with rfl | ⟨l, rfl, hl⟩
  · rw [List.append_nil]
    exact ⟨fun x hx => hls x (List.dropLast_subset ls hx), fun x hx => Or.inl (hls x hx)⟩
  · refine ⟨fun x hx => hls x (by simpa using hx), fun x hx => ?_⟩
    rcases List.mem_append.mp hx with hx | hx
    · exact Or.inl (hls x hx)
    · exact Or.inr (List.mem_singleton.mp hx ▸ hl)

/-! ## Universal newlines -/

/-- The text-mode translation `\r\n`, `\r` ↦ `\n`; `afterCr` when the last character was `\r`. -/
def translateNewlines : Bool → Text → Text
  | _, [] => []
  | afterCr, c :: cs =>
    if c = cr then lf :: translateNewlines true cs
    else if afterCr && c == lf then translateNewlines false cs
    else c :: translateNewlines false cs

/-- What reading a stored text in text mode returns. -/
def universalNewlines (t : Text) : Text := translateNewlines false t

theorem cr_notMem_translateNewlines : ∀ (b : Bool) (t : Text), cr ∉ translateNewlines b t
  | _, [] => List.not_mem_nil
  | b, c :: cs => by
    unfold translateNewlines
    split
    · intro h
      rcases List.mem_cons.mp h with h | h
      · exact absurd h (by decide)
      · exact cr_notMem_translateNewlines true cs h
    · rename_i hc
      split
      · exact cr_notMem_translateNewlines false cs
      · intro h
        rcases List.mem_cons.mp h with h | h
        · exact hc h.symm
        · exact cr_notMem_translateNewlines false cs h

theorem cr_notMem_universalNewlines (t : Text) : cr ∉ universalNewlines t :=
  cr_notMem_translateNewlines false t

/-- A text without `\r` is read as it is stored. -/
theorem universalNewlines_of_notMem {t : Text} (h : cr ∉ t) : universalNewlines t = t := by
  unfold universalNewlines
  induction t with
  | nil => rfl
  | cons c cs ih =>
    have hc : c ≠ cr := fun e => h (e ▸ List.mem_cons_self)
    rw [translateNewlines, if_neg hc, Bool.false_and, if_neg Bool.false_ne_true,
      ih fun hm => h (List.mem_cons_of_mem c hm)]

theorem map_body_consLine (c : Nat) (ls : List Line) :
    (consLine c ls).map Line.body = match ls.map Line.body with
      | [] => [[c]]
      | b :: bs => (c :: b) :: bs := by
  cases ls <;> rfl

/-- **The newline translation keeps the line bodies.** -/
theorem splitlines_universalNewlines : ∀ t : Text,
    splitlines (universalNewlines t) = splitlines t
  | [] => rfl
  | [c] => by
    by_cases hc : c = cr
    · subst hc
      rfl
    · rw [universalNewlines_of_notMem (by simpa using Ne.symm hc)]
  | c :: d :: cs => by
    have ih := splitlines_universalNewlines (d :: cs)
    have ih' := splitlines_universalNewlines cs
    have hlf : isLineBreak lf = true := by decide
    unfold splitlines universalNewlines at ih ih' ⊢
    by_cases hc : c = cr
    · subst hc
      rw [translateNewlines, if_pos rfl]
      by_cases hd : d = lf
      · subst hd
        rw [translateNewlines, if_neg (by decide), Bool.true_and, if_pos (by simp),
          lines_break hlf (by decide), lines, if_pos ⟨rfl, rfl⟩, List.map_cons, ih']
        rfl
      · have hkeep : translateNewlines true (d :: cs) = translateNewlines false (d :: cs) := by
          unfold translateNewlines
          simp [hd]
        rw [hkeep, lines_break hlf (by decide), lines, if_neg (fun h => hd h.2),
          if_pos (by decide), List.map_cons, List.map_cons, ih]
    · rw [translateNewlines, if_neg hc, Bool.false_and, if_neg Bool.false_ne_true]
      cases hb : isLineBreak c with
      | true => rw [lines_break hb hc, lines_break hb hc, List.map_cons, List.map_cons, ih]
      | false =>
        rw [lines_noBreak hb, lines_noBreak hb, map_body_consLine, map_body_consLine, ih]

end ApiTests.Py
