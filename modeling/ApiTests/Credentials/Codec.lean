import ApiTests.Credentials.File

/-!
# The credential file codec: what is written is what is read

`_update_credential_file` (`local_credentials.py:567-604`) and `_read_credential_file`
(`536-552`) find the lines of a file by two routes: the reader matches `ASSIGNMENT_RE` on the bodies
`splitlines` returns, the writer on lines that keep their endings, less trailing `\r` and `\n`.
This file shows that the routes agree line by line and computes what the reader makes of a
rewritten file.

* `CleanValue`: a value the parser returns as it stands. `CleanUpdates`: names the pattern accepts,
  with clean values.
* `rewritten u l`: the line `l` after the update, `closeLast` the fix-up of the last line.

Results:
* `assignedName_rstripNewline`: a complete line and its body assign the same name.
* `lines_updatedText`: the lines of the rewritten text, one by one.
* `read_update`: **reading a rewritten file gives the previous variables overridden by the
  updates**, in `dict.update`'s order.
* `update_update`: a second, equal update changes nothing.
* `isScalarText_updatedText`: the updates alone decide whether the rewritten text can be encoded.
* **`credential_file_codec`**: all of this for `_update_credential_file`.
-/

namespace ApiTests.Credentials

open Py

/-! ## Values the parser returns as they stand -/

/-- No surrounding whitespace, no break, no ` #`, no matching enclosing quotes. -/
structure CleanValue (v : Text) : Prop where
  noBreak : ∀ c ∈ v, isLineBreak c = false
  stripped : strip v = v
  noComment : ¬ lit " #" <:+: v
  noQuotes : ¬ (2 ≤ v.length ∧ v.head? = v.getLast? ∧ headIn isQuote v = true)

theorem CleanValue.parseValue_eq {v : Text} (h : CleanValue v) : parseValue v = v := by
  unfold parseValue
  simp only [h.stripped]
  rw [if_neg h.noQuotes, textBefore_eq_none_iff.mpr h.noComment]

/-- No line break. -/
def OneLine (v : Text) : Prop := ∀ c ∈ v, isLineBreak c = false

instance : DecidablePred OneLine := fun v =>
  inferInstanceAs (Decidable (∀ c ∈ v, isLineBreak c = false))

/-- No whitespace, quote or `#`. -/
def Plain (t : Text) : Prop := ∀ c ∈ t, isSpace c = false ∧ isQuote c = false ∧ c ≠ 0x23

instance : DecidablePred Plain := fun t =>
  inferInstanceAs (Decidable (∀ c ∈ t, isSpace c = false ∧ isQuote c = false ∧ c ≠ 0x23))

theorem Plain.strip_eq {t : Text} (h : Plain t) : strip t = t :=
  strip_eq_self fun c hc => (h c hc).1

/-- A plain text is a clean value. -/
theorem Plain.cleanValue {t : Text} (h : Plain t) : CleanValue t where
  noBreak c hc := by
    by_contra hb
    have := isSpace_of_isLineBreak (by simpa using hb)
    rw [(h c hc).1] at this
    exact Bool.false_ne_true this
  stripped := h.strip_eq
  noComment hi := (h 0x23 (hi.subset (by decide))).2.2 rfl
  noQuotes := by
    rintro ⟨-, -, hq⟩
    cases t with
    | nil => exact Bool.false_ne_true hq
    | cons c cs => exact absurd hq (by simp [(h c List.mem_cons_self).2.1])

theorem Plain.oneLine {t : Text} (h : Plain t) : OneLine t := h.cleanValue.noBreak

theorem Plain.parseValue_eq {t : Text} (h : Plain t) : parseValue t = t := h.cleanValue.parseValue_eq

/-- Updates of names the pattern accepts to values of one line. -/
def LineUpdates (u : Values) : Prop := ∀ e ∈ u.entries, IsName e.1 ∧ OneLine e.2

/-- Updates of names the pattern accepts to clean values. -/
def CleanUpdates (u : Values) : Prop := ∀ e ∈ u.entries, IsName e.1 ∧ CleanValue e.2

theorem CleanUpdates.lineUpdates {u : Values} (h : CleanUpdates u) : LineUpdates u :=
  fun e he => ⟨(h e he).1, (h e he).2.noBreak⟩

/-- An entry as the reader sees it. -/
def parsedEntry (e : Text × Text) : Text × Text := (e.1, parseValue e.2)

/-- An update as the reader sees it. -/
def parsed (u : Values) : Values where
  entries := u.entries.map parsedEntry
  nodup := by
    rw [List.map_map]
    exact u.nodup

theorem get?_parsed (u : Values) (name : Text) :
    (parsed u).get? name = (u.get? name).map parseValue := by
  cases h : u.get? name with
  | none =>
    rw [Option.map_none, Dict.get?_eq_none_iff, parsed, List.map_map]
    exact Dict.get?_eq_none_iff.mp h
  | some value =>
    exact Dict.mem_entries_iff.mp (List.mem_map_of_mem (f := parsedEntry) (Dict.mem_entries_iff.mpr h))

theorem parsed_eq {u : Values} (h : CleanUpdates u) : parsed u = u := by
  refine Dict.ext ((List.map_congr_left fun e he => ?_).trans (List.map_id _))
  rw [parsedEntry, (h e he).2.parseValue_eq]
  rfl

/-! ## The lines an update writes -/

/-- The line `f"{name}={value}\n"`. -/
def entryLine (e : Text × Text) : Line := ⟨e.1 ++ eqSign :: e.2, [lf]⟩

theorem full_entryLine (e : Text × Text) : (entryLine e).full = assignmentLine e := by
  simp [entryLine, Line.full, assignmentLine]

theorem IsName.noBreak {name : Text} (h : IsName name) : ∀ c ∈ name, isLineBreak c = false := by
  intro c hc
  by_contra hb
  have := isSpace_of_isLineBreak (by simpa using hb)
  rw [(isSpace_isNameChar (h.2 c hc)).1] at this
  exact Bool.false_ne_true this

theorem noBreak_entryLine {e : Text × Text} (hn : IsName e.1) (hv : OneLine e.2) :
    ∀ c ∈ (entryLine e).body, isLineBreak c = false := by
  intro c hc
  rcases List.mem_append.mp hc with hc | hc
  · exact hn.noBreak c hc
  · rcases List.mem_cons.mp hc with rfl | hc
    · decide
    · exact hv c hc

theorem entryLine_complete {e : Text × Text} (hn : IsName e.1) (hv : OneLine e.2) :
    (entryLine e).Complete :=
  ⟨noBreak_entryLine hn hv, lf, by decide, by decide, rfl⟩

theorem lf_notMem_of_noBreak {b : Text} (h : ∀ c ∈ b, isLineBreak c = false) : lf ∉ b :=
  fun hm => absurd (h lf hm) (by decide)

/-- A written line reads back as its entry. -/
theorem assignment_entryLine {e : Text × Text} (hn : IsName e.1) (hv : OneLine e.2) :
    assignment (entryLine e).body = some (parsedEntry e) := by
  have hlf := lf_notMem_of_noBreak (noBreak_entryLine hn hv)
  have hparts : Parts (entryLine e).body e.1 e.2 :=
    ⟨hn, lf_notMem_of_noBreak hv, [], [], [], [], [], fun _ h => absurd h List.not_mem_nil,
      Or.inl rfl, fun _ h => absurd h List.not_mem_nil, fun _ h => absurd h List.not_mem_nil,
      Or.inl rfl, by simp [entryLine]⟩
  rw [assignment_of_parts hparts hlf, parsedEntry]

/-! ## A line and its body assign the same name -/

theorem rstripNewline_lf {b : Text} (h : ∀ c ∈ b, isLineBreak c = false) :
    rstripNewline (b ++ [lf]) = b := by
  rw [rstripNewline, List.rdropWhile_concat_pos _ _ _ (by decide)]
  refine List.rdropWhile_eq_self_iff.mpr fun hne hlast => ?_
  have := h _ (List.getLast_mem hne)
  rcases (Bool.or_eq_true _ _).mp hlast with hlast | hlast <;>
  · rw [beq_iff_eq] at hlast
    rw [hlast] at this
    exact absurd this (by decide)

theorem rstripNewline_of_ne {t : Text} {e : Nat} (hcr : e ≠ cr) (hlf : e ≠ lf) :
    rstripNewline (t ++ [e]) = t ++ [e] := by
  rw [rstripNewline, List.rdropWhile_concat_neg]
  simp [hcr, hlf]

/-- A break that is not `\n` behind a line body extends the value. -/
theorem parts_concat {b name value : Text} {e : Nat} (h : Parts b name value) (hb : lf ∉ b)
    (hlf : e ≠ lf) : Parts (b ++ [e]) name (value ++ [e]) := by
  obtain ⟨hname, hv, ws₁, ex, ws₂, ws₃, rest, hws₁, hex, hws₂, hws₃, hrest, rfl⟩ := h
  obtain rfl : rest = [] := by
    rcases hrest with rfl | rfl
    · rfl
    · exact absurd (by simp) hb
  refine ⟨hname, fun hm => ?_, ws₁, ex, ws₂, ws₃, [], hws₁, hex, hws₂, hws₃, Or.inl rfl, by simp⟩
  rcases List.mem_append.mp hm with hm | hm
  · exact hv hm
  · exact hlf (List.mem_singleton.mp hm).symm

/-- Without its break, such a line still assigns the name. -/
theorem parts_of_concat {b name value : Text} {e : Nat} (h : Parts (b ++ [e]) name value)
    (he : isLineBreak e = true) (hlf : e ≠ lf) : ∃ value', Parts b name value' := by
  obtain ⟨hname, hv, ws₁, ex, ws₂, ws₃, rest, hws₁, hex, hws₂, hws₃, hrest, hdec⟩ := h
  obtain rfl : rest = [] := by
    rcases hrest with rfl | rfl
    · rfl
    · rw [← List.cons_append, ← List.append_assoc] at hdec
      exact absurd (List.append_inj' hdec rfl).2 (by simpa using hlf)
  rcases List.eq_nil_or_concat value with rfl | ⟨value', d, rfl⟩
  · rcases List.eq_nil_or_concat ws₃ with rfl | ⟨ws₃', d, rfl⟩
    · simp only [List.append_nil] at hdec
      have := (List.append_inj' hdec rfl).2
      rw [List.singleton_inj] at this
      subst this
      exact absurd he (by decide)
    · have hdec' : b ++ [e] = (ws₁ ++ ex ++ name ++ ws₂ ++ eqSign :: ws₃') ++ [d] := by
        simpa using hdec
      obtain ⟨rfl, -⟩ := List.append_inj' hdec' rfl
      exact ⟨[], hname, List.not_mem_nil, ws₁, ex, ws₂, ws₃', [], hws₁, hex, hws₂,
        fun c hc => hws₃ c (by simp [hc]), Or.inl rfl, by simp⟩
  · have hdec' : b ++ [e] = (ws₁ ++ ex ++ name ++ ws₂ ++ eqSign :: (ws₃ ++ value')) ++ [d] := by
      simpa using hdec
    obtain ⟨rfl, -⟩ := List.append_inj' hdec' rfl
    exact ⟨value', hname, fun hm => hv (by simp [hm]), ws₁, ex, ws₂, ws₃, [], hws₁, hex, hws₂,
      hws₃, Or.inl rfl, by simp⟩

/-- **The two routes agree on a complete line.** -/
theorem assignedName_rstripNewline {l : Line} (h : l.Complete) :
    assignedName (rstripNewline l.full) = assignedName l.body := by
  obtain ⟨hb, e, he, hcr, hend⟩ := h
  rw [Line.full, hend]
  by_cases hlf : e = lf
  · rw [hlf, rstripNewline_lf hb]
  · rw [rstripNewline_of_ne hcr hlf]
    cases hname : assignedName l.body with
    | some name =>
      obtain ⟨value, hp⟩ := parts_of_assignedName hname
      exact assignedName_of_parts (parts_concat hp (lf_notMem_of_noBreak hb) hlf)
    | none =>
      by_contra hne
      obtain ⟨name, hname'⟩ := Option.ne_none_iff_exists'.mp hne
      obtain ⟨value, hp⟩ := parts_of_assignedName hname'
      obtain ⟨value', hp'⟩ := parts_of_concat hp he hlf
      rw [assignedName_of_parts hp'] at hname
      exact absurd hname (by simp)

theorem assignedName_rstripNewline_unfinished {l : Line} (h : l.Unfinished) :
    assignedName (rstripNewline l.full) = assignedName l.body := by
  rw [Line.full, h.ending, List.append_nil, rstripNewline, List.rdropWhile_eq_self_iff.mpr]
  intro hne hlast
  have := h.body _ (List.getLast_mem hne)
  rcases (Bool.or_eq_true _ _).mp hlast with hlast | hlast <;>
  · rw [beq_iff_eq] at hlast
    rw [hlast] at this
    exact absurd this (by decide)

theorem assignedName_of_proper {l : Line} (h : l.Proper) :
    assignedName (rstripNewline l.full) = assignedName l.body :=
  h.elim assignedName_rstripNewline assignedName_rstripNewline_unfinished

/-! ## The rewriting loop, line by line -/

/-- The line `l` after the update `u`. -/
def rewritten (u : Values) (l : Line) : Line :=
  match (assignedName l.body).bind fun name => (u.get? name).map fun value => (name, value) with
  | some e => entryLine e
  | none => l

/-- The names a list of lines assigns. -/
def assignedNames (ls : List Line) : List Text := ls.filterMap fun l => assignedName l.body

/-- The updates for names that no line assigns. -/
def newEntries (u : Values) (ls : List Line) : List (Text × Text) :=
  u.entries.filter fun e => decide (e.1 ∉ assignedNames ls)

theorem replacement_eq {u : Values} {l : Line}
    (h : assignedName (rstripNewline l.full) = assignedName l.body) :
    replacement u l.full =
      (assignedName l.body).bind fun name => (u.get? name).map fun value => (name, value) := by
  rw [← h, replacement, assignedName]
  cases assignmentRe.matchPrefix (rstripNewline l.full) with
  | none => rfl
  | some m =>
    simp only [Option.map_some, Option.bind_some, Option.bind_eq_bind, Option.pure_def]
    exact Option.map_eq_bind.symm

theorem rewritten_erase {u : Values} {l : Line} {name : Text} (h : assignedName l.body ≠ some name) :
    rewritten (u.erase name) l = rewritten u l := by
  unfold rewritten
  cases hn : assignedName l.body with
  | none => rfl
  | some n =>
    have hne : n ≠ name := fun e => h (by rw [hn, e])
    simp only [Option.bind_some, Dict.get?_erase_of_ne u hne]

/-- **The loop, line by line**: with no name assigned twice, every line is rewritten on its own,
and what is left are the updates for new names. -/
theorem rewriteLines_eq : ∀ {ls : List Line} {u : Values},
    (∀ l ∈ ls, assignedName (rstripNewline l.full) = assignedName l.body) →
    (assignedNames ls).Nodup →
      (rewriteLines u (ls.map Line.full)).1 = (ls.map (rewritten u)).map Line.full ∧
        (rewriteLines u (ls.map Line.full)).2.entries = newEntries u ls
  | [], u, _, _ => by
    refine ⟨rfl, ?_⟩
    simp [rewriteLines, newEntries, assignedNames]
  | l :: ls, u, hroute, hnodup => by
    have hroute' : ∀ x ∈ ls, assignedName (rstripNewline x.full) = assignedName x.body :=
      fun x hx => hroute x (List.mem_cons_of_mem l hx)
    have hrep := replacement_eq (u := u) (hroute l List.mem_cons_self)
    cases hname : assignedName l.body with
    | none =>
      have hnames : assignedNames (l :: ls) = assignedNames ls := List.filterMap_cons_none hname
      rw [hnames] at hnodup
      obtain ⟨ih₁, ih₂⟩ := rewriteLines_eq (u := u) hroute' hnodup
      have hl : rewritten u l = l := by rw [rewritten, hname]; rfl
      rw [hname, Option.bind_none] at hrep
      rw [List.map_cons, List.map_cons, List.map_cons, hl, rewriteLines, hrep]
      exact ⟨congrArg _ ih₁, by rw [newEntries, hnames]; exact ih₂⟩
    | some name =>
      have hnames : assignedNames (l :: ls) = name :: assignedNames ls :=
        List.filterMap_cons_some hname
      rw [hnames, List.nodup_cons] at hnodup
      rw [hname, Option.bind_some] at hrep
      cases hget : u.get? name with
      | none =>
        obtain ⟨ih₁, ih₂⟩ := rewriteLines_eq (u := u) hroute' hnodup.2
        have hl : rewritten u l = l := by rw [rewritten, hname, Option.bind_some, hget]; rfl
        rw [hget, Option.map_none] at hrep
        rw [List.map_cons, List.map_cons, List.map_cons, hl, rewriteLines, hrep]
        refine ⟨congrArg _ ih₁, ih₂.trans ?_⟩
        rw [newEntries, newEntries, hnames]
        refine List.filter_congr fun e he => ?_
        have hne : e.1 ≠ name := by
          rintro rfl
          exact Dict.get?_eq_none_iff.mp hget (List.mem_map.mpr ⟨e, he, rfl⟩)
        simp [hne]
      | some value =>
        obtain ⟨ih₁, ih₂⟩ := rewriteLines_eq (u := u.erase name) hroute' hnodup.2
        have hl : rewritten u l = entryLine (name, value) := by
          rw [rewritten, hname, Option.bind_some, hget]; rfl
        have hrest : ls.map (rewritten (u.erase name)) = ls.map (rewritten u) :=
          List.map_congr_left fun x hx => rewritten_erase fun hx' =>
            hnodup.1 (List.mem_filterMap.mpr ⟨x, hx, hx'⟩)
        rw [hget, Option.map_some] at hrep
        rw [hrest] at ih₁
        rw [List.map_cons, List.map_cons, List.map_cons, hl, full_entryLine, rewriteLines, hrep]
        refine ⟨congrArg _ ih₁, ih₂.trans ?_⟩
        rw [newEntries, newEntries, hnames, Dict.erase, List.filter_filter]
        refine List.filter_congr fun e _ => ?_
        by_cases hne : e.1 = name <;> simp [hne]

/-! ## The last line, and the lines of the rewritten text -/

/-- The fix-up of the last line: an unfinished one is finished, and a break other than `\n` gets
a `\n` behind it, which makes a blank line. -/
def closeLast : List Line → List Line
  | [] => []
  | [l] => if l.ending = [] then [⟨l.body, [lf]⟩] else if l.ending = [lf] then [l] else [l, ⟨[], [lf]⟩]
  | l :: ls => l :: closeLast ls

theorem flatten_terminateLast : ∀ {ls : List Line}, (∀ l ∈ ls, l.Proper) →
    (terminateLast (ls.map Line.full)).flatten = (closeLast ls).flatMap Line.full
  | [], _ => rfl
  | [l], h => by
    rw [List.map_singleton, terminateLast, closeLast]
    rcases h l List.mem_cons_self with ⟨hb, e, he, hcr, hend⟩ | ⟨hb, hne, hend⟩
    · have hlast : l.full.getLast? = some e := by simp [Line.full, hend]
      rw [hlast, hend]
      by_cases hlf : e = lf
      · simp [hlf]
      · simp [hlf, hcr, Line.full, hend]
    · have hlast : l.full.getLast? = some (l.body.getLast hne) := by
        simp [Line.full, hend, List.getLast?_eq_some_getLast hne]
      have hnb := hb _ (List.getLast_mem hne)
      have h₁ : l.body.getLast hne ≠ lf := fun e => absurd (e ▸ hnb) (by decide)
      have h₂ : l.body.getLast hne ≠ cr := fun e => absurd (e ▸ hnb) (by decide)
      rw [hlast, hend]
      simp [h₁, h₂, Line.full, hend]
  | l :: l' :: ls, h => by
    have hrest : ∀ x ∈ l' :: ls, x.Proper := fun x hx => h x (List.mem_cons_of_mem l hx)
    have ih := flatten_terminateLast hrest
    rw [List.map_cons, List.map_cons, terminateLast, closeLast, List.flatten_cons,
      List.flatMap_cons, ← List.map_cons, ih]
    · simp
    · simp

/-- The line `\n`. -/
def blankLine : Line := ⟨[], [lf]⟩

theorem blankLine_complete : blankLine.Complete :=
  ⟨fun _ h => absurd h List.not_mem_nil, lf, by decide, by decide, rfl⟩

theorem closeLast_complete : ∀ {ls : List Line}, ProperLines ls → ∀ l ∈ closeLast ls, l.Complete
  | [], _, l, hl => absurd hl List.not_mem_nil
  | [l], h, x, hx => by
    unfold closeLast at hx
    rcases h.proper l List.mem_cons_self with hc | ⟨hb, hne, hend⟩
    · obtain ⟨-, e, -, -, hend⟩ := id hc
      rw [if_neg (by simp [hend])] at hx
      split at hx
      · rw [List.mem_singleton.mp hx]
        exact hc
      · rcases List.mem_cons.mp hx with rfl | hx
        · exact hc
        · rw [List.mem_singleton.mp hx]
          exact blankLine_complete
    · rw [if_pos hend] at hx
      rw [List.mem_singleton.mp hx]
      exact ⟨hb, lf, by decide, by decide, rfl⟩
  | l :: l' :: ls, h, x, hx => by
    rcases List.mem_cons.mp hx with rfl | hx
    · exact h.complete x List.mem_cons_self
    · have hrest : ProperLines (l' :: ls) :=
        ⟨fun y hy => h.complete y (List.mem_cons_of_mem l hy),
          fun y hy => h.proper y (List.mem_cons_of_mem l hy)⟩
      exact closeLast_complete hrest x hx

theorem rewritten_eq_or (u : Values) (l : Line) :
    rewritten u l = l ∨ ∃ e ∈ u.entries, rewritten u l = entryLine e := by
  unfold rewritten
  split
  · rename_i e he
    obtain ⟨name, -, hname⟩ := Option.bind_eq_some_iff.mp he
    obtain ⟨value, hget, rfl⟩ := Option.map_eq_some_iff.mp hname
    exact Or.inr ⟨_, Dict.mem_entries_iff.mpr hget, rfl⟩
  · exact Or.inl rfl

theorem rewritten_complete {u : Values} (hu : LineUpdates u) {l : Line} (h : l.Complete) :
    (rewritten u l).Complete := by
  rcases rewritten_eq_or u l with hl | ⟨e, he, hl⟩
  · rwa [hl]
  · rw [hl]
    exact entryLine_complete (hu e he).1 (hu e he).2

theorem properLines_rewritten {u : Values} (hu : LineUpdates u) {ls : List Line}
    (h : ProperLines ls) : ProperLines (ls.map (rewritten u)) := by
  constructor
  · intro x hx
    rw [← List.map_dropLast] at hx
    obtain ⟨l, hl, rfl⟩ := List.mem_map.mp hx
    exact rewritten_complete hu (h.complete l hl)
  · intro x hx
    obtain ⟨l, hl, rfl⟩ := List.mem_map.mp hx
    rcases rewritten_eq_or u l with hr | ⟨e, he, hr⟩
    · rw [hr]
      exact h.proper l hl
    · rw [hr]
      exact Or.inl (entryLine_complete (hu e he).1 (hu e he).2)

theorem lines_of_complete {ls : List Line} (h : ∀ l ∈ ls, l.Complete) :
    lines (ls.flatMap Line.full) = ls := by
  have := lines_complete_append h []
  rwa [List.append_nil, lines, List.append_nil] at this

theorem cr_notMem_of_complete {ls : List Line} (h : ∀ l ∈ ls, l.Complete) :
    cr ∉ ls.flatMap Line.full := by
  intro hm
  obtain ⟨l, hl, hcr⟩ := List.mem_flatMap.mp hm
  obtain ⟨hb, e, -, hne, hend⟩ := h l hl
  rw [Line.full, hend] at hcr
  rcases List.mem_append.mp hcr with hcr | hcr
  · exact absurd (hb cr hcr) (by decide)
  · exact hne (List.mem_singleton.mp hcr).symm

/-- The lines an update leaves, `gap` being the separator in front of the new variables. -/
def linesAfter (u : Values) (ls gap : List Line) : List Line :=
  closeLast (ls.map (rewritten u)) ++ gap ++ (newEntries u ls).map entryLine

theorem linesAfter_complete {u : Values} (hu : LineUpdates u) {ls gap : List Line}
    (h : ProperLines ls) (hgap : ∀ l ∈ gap, l = blankLine) :
    ∀ l ∈ linesAfter u ls gap, l.Complete := by
  intro l hl
  rcases List.mem_append.mp hl with hl | hl
  · rcases List.mem_append.mp hl with hl | hl
    · exact closeLast_complete (properLines_rewritten hu h) l hl
    · rw [hgap l hl]
      exact blankLine_complete
  · obtain ⟨e, he, rfl⟩ := List.mem_map.mp hl
    have := hu e (List.mem_filter.mp he).1
    exact entryLine_complete this.1 this.2

/-- The text an update writes is made of `linesAfter`. -/
theorem updatedText_eq {u : Values} {content : Text} (hcr : cr ∉ content)
    (hnodup : (assignedNames (lines content)).Nodup) (hu : LineUpdates u) :
    ∃ gap, (∀ l ∈ gap, l = blankLine) ∧ (newEntries u (lines content) = [] → gap = []) ∧
      updatedText content u = (linesAfter u (lines content) gap).flatMap Line.full := by
  have hproper := properLines_lines hcr
  obtain ⟨hlines, hleft⟩ := rewriteLines_eq (u := u)
    (fun l hl => assignedName_of_proper (hproper.proper l hl)) hnodup
  have hclosed := flatten_terminateLast (properLines_rewritten hu hproper).proper
  rw [← hlines] at hclosed
  refine ⟨if separator (rewriteLines u (splitlinesKeepends content)).2
      (terminateLast (rewriteLines u (splitlinesKeepends content)).1) = [] then [] else [blankLine],
    fun l hl => ?_, fun hnone => if_pos ?_, ?_⟩
  · split at hl
    · exact absurd hl List.not_mem_nil
    · exact List.mem_singleton.mp hl
  · rw [separator]
    split
    · rw [if_neg]
      rw [splitlinesKeepends, hleft, hnone]
      simp
    · rfl
  · have hsep : ∀ r ls, (separator r ls).flatten =
        (if separator r ls = [] then [] else [blankLine]).flatMap Line.full := fun r ls => by
      unfold separator
      split
      · split <;> rfl
      · rfl
    have hentries : (newEntries u (lines content)).map assignmentLine =
        ((newEntries u (lines content)).map entryLine).map Line.full := by
      rw [List.map_map]
      exact List.map_congr_left fun e _ => (full_entryLine e).symm
    simp only [updatedText, linesAfter, List.flatten_append, List.flatMap_append, hsep]
    rw [show splitlinesKeepends content = (lines content).map Line.full from rfl, hclosed, hleft,
      hentries, List.flatMap_def]
    simp only [List.flatMap_def]

/-! ## Reading a rewritten file -/

theorem cr_notMem_content (f : CredentialFile) : cr ∉ f.content := by
  cases f with
  | file stored => exact cr_notMem_universalNewlines stored
  | _ => exact List.not_mem_nil

/-- The assignments of a list of lines. -/
def lineAssignments (ls : List Line) : List (Text × Text) := ls.filterMap fun l => assignment l.body

theorem assignments_lines (f : CredentialFile) :
    assignments f.lines = lineAssignments (lines f.content) := by
  rw [assignments, CredentialFile.lines, splitlines, List.filterMap_map]
  rfl

theorem map_fst_lineAssignments (ls : List Line) :
    (lineAssignments ls).map Prod.fst = assignedNames ls := by
  rw [lineAssignments, List.map_filterMap, assignedNames]
  exact List.filterMap_congr fun l _ => map_fst_assignment l.body

theorem lineAssignments_append (ls ls' : List Line) :
    lineAssignments (ls ++ ls') = lineAssignments ls ++ lineAssignments ls' :=
  List.filterMap_append

theorem lineAssignments_blank {gap : List Line} (h : ∀ l ∈ gap, l = blankLine) :
    lineAssignments gap = [] := by
  rw [lineAssignments, List.filterMap_eq_nil_iff]
  intro l hl
  rw [h l hl]
  decide

theorem lineAssignments_closeLast : ∀ ls : List Line,
    lineAssignments (closeLast ls) = lineAssignments ls
  | [] => rfl
  | [l] => by
    have hnil : assignment [] = none := by decide
    unfold closeLast
    split
    · simp [lineAssignments, List.filterMap_cons]
    · split
      · rfl
      · simp [lineAssignments, List.filterMap_cons, hnil]
  | l :: l' :: ls => by
    have ih := lineAssignments_closeLast (l' :: ls)
    unfold lineAssignments at ih ⊢
    rw [closeLast, List.filterMap_cons, List.filterMap_cons, ih]
    simp

theorem assignment_rewritten {u : Values} (hu : LineUpdates u) (l : Line) :
    assignment (rewritten u l).body = (assignment l.body).map (Dict.override (parsed u)) := by
  cases ha : assignment l.body with
  | none =>
    have hname : assignedName l.body = none := by rw [← map_fst_assignment, ha]; rfl
    rw [rewritten, hname]
    exact ha
  | some e =>
    have hname : assignedName l.body = some e.1 := by rw [← map_fst_assignment, ha]; rfl
    rw [rewritten, hname, Option.bind_some, Option.map_some, Dict.override, Dict.getD, get?_parsed]
    cases hget : u.get? e.1 with
    | none => exact ha
    | some value =>
      have := hu _ (Dict.mem_entries_iff.mpr hget)
      exact assignment_entryLine (e := (e.1, value)) this.1 this.2

theorem lineAssignments_rewritten {u : Values} (hu : LineUpdates u) (ls : List Line) :
    lineAssignments (ls.map (rewritten u)) =
      (lineAssignments ls).map (Dict.override (parsed u)) := by
  rw [lineAssignments, List.filterMap_map, lineAssignments, List.map_filterMap]
  refine List.filterMap_congr fun l _ => ?_
  rw [Function.comp_apply, assignment_rewritten hu]

theorem lineAssignments_entryLine {es : List (Text × Text)}
    (h : ∀ e ∈ es, IsName e.1 ∧ OneLine e.2) :
    lineAssignments (es.map entryLine) = es.map parsedEntry := by
  rw [lineAssignments, List.filterMap_map]
  induction es with
  | nil => rfl
  | cons e es ih =>
    obtain ⟨hn, hv⟩ := h e List.mem_cons_self
    have he : ((fun l => assignment l.body) ∘ entryLine) e = some (parsedEntry e) :=
      assignment_entryLine hn hv
    rw [List.filterMap_cons_some he, List.map_cons, ih fun x hx => h x (List.mem_cons_of_mem e hx)]

/-- The rewritten text of an accepted file, and its lines. -/
theorem updatedFile_eq {path : Text} {f : CredentialFile} {values u : Values}
    (hread : readCredentialFile path f = .ok values) (hu : LineUpdates u) :
    ∃ gap, (∀ l ∈ gap, l = blankLine) ∧ (newEntries u (lines f.content) = [] → gap = []) ∧
      updatedFile u f =
        .file ((linesAfter u (lines f.content) gap).flatMap Line.full) ∧
      (updatedFile u f).content = (linesAfter u (lines f.content) gap).flatMap Line.full ∧
      lines (updatedFile u f).content = linesAfter u (lines f.content) gap := by
  obtain ⟨hfile, hentries⟩ := readCredentialFile_eq_ok_iff.mp hread
  have hnodup : (assignedNames (lines f.content)).Nodup := by
    rw [← map_fst_lineAssignments, ← assignments_lines, ← hentries]
    exact values.nodup
  obtain ⟨gap, hgap, hnone, htext⟩ := updatedText_eq (cr_notMem_content f) hnodup hu
  have hcomplete := linesAfter_complete hu (properLines_lines (cr_notMem_content f)) hgap
  have hupd : updatedFile u f =
      .file ((linesAfter u (lines f.content) gap).flatMap Line.full) := by
    rw [← htext]
    cases f with
    | notFile => exact absurd rfl hfile
    | _ => rfl
  have hcontent : (updatedFile u f).content =
      (linesAfter u (lines f.content) gap).flatMap Line.full := by
    rw [hupd]
    exact universalNewlines_of_notMem (cr_notMem_of_complete hcomplete)
  exact ⟨gap, hgap, hnone, hupd, hcontent, by rw [hcontent, lines_of_complete hcomplete]⟩

/-- **Reading a rewritten file** gives the previous variables overridden by the updates as the
reader sees them. -/
theorem read_update_line {path : Text} {f : CredentialFile} {values u : Values}
    (hread : readCredentialFile path f = .ok values) (hu : LineUpdates u) :
    readCredentialFile path (updatedFile u f) = .ok (values.update (parsed u)) := by
  obtain ⟨gap, hgap, -, hupd, -, hlines⟩ := updatedFile_eq hread hu
  obtain ⟨-, hentries⟩ := readCredentialFile_eq_ok_iff.mp hread
  rw [assignments_lines] at hentries
  refine readCredentialFile_eq_ok_iff.mpr ⟨by rw [hupd]; simp, ?_⟩
  have hnew : newEntries u (lines f.content) =
      u.entries.filter fun e => values.get? e.1 = none := by
    refine List.filter_congr fun e _ => ?_
    rw [← map_fst_lineAssignments, ← hentries, decide_eq_decide, Dict.get?_eq_none_iff]
  have hclean : ∀ e ∈ newEntries u (lines f.content), IsName e.1 ∧ OneLine e.2 :=
    fun e he => hu e (List.mem_filter.mp he).1
  rw [assignments_lines, hlines, linesAfter, lineAssignments_append, lineAssignments_append,
    lineAssignments_closeLast, lineAssignments_rewritten hu, lineAssignments_blank hgap,
    lineAssignments_entryLine hclean, List.append_nil, ← hentries, hnew, Dict.entries_update, parsed,
    List.filter_map]
  rfl

/-- **Reading a rewritten file** after a clean update gives the previous variables overridden by
it. -/
theorem read_update {path : Text} {f : CredentialFile} {values u : Values}
    (hread : readCredentialFile path f = .ok values) (hu : CleanUpdates u) :
    readCredentialFile path (updatedFile u f) = .ok (values.update u) := by
  rw [read_update_line hread hu.lineUpdates, parsed_eq hu]

/-! ## What an update keeps -/

/-- The line assigns a variable of the update. -/
def assignsIn (u : Values) (line : Text) : Bool :=
  (assignedName line).any fun name => (u.get? name).isSome

theorem rewritten_of_not_assignsIn {u : Values} {l : Line} (h : assignsIn u l.body = false) :
    rewritten u l = l := by
  unfold assignsIn at h
  unfold rewritten
  cases hn : assignedName l.body with
  | none => rfl
  | some name =>
    rw [hn, Option.any_some, Option.isSome_eq_false_iff, Option.isNone_iff_eq_none] at h
    rw [Option.bind_some, h]
    rfl

theorem assignsIn_entryLine {u : Values} (hu : LineUpdates u) {e : Text × Text}
    (he : e ∈ u.entries) : assignsIn u (entryLine e).body = true := by
  obtain ⟨hn, hv⟩ := hu e he
  have hname : assignedName (entryLine e).body = some e.1 := by
    rw [← map_fst_assignment, assignment_entryLine hn hv]
    rfl
  rw [assignsIn, hname, Option.any_some, Dict.mem_entries_iff.mp he]
  rfl

theorem assignsIn_rewritten {u : Values} (hu : LineUpdates u) {l : Line}
    (h : assignsIn u l.body = true) : assignsIn u (rewritten u l).body = true := by
  rcases rewritten_eq_or u l with hl | ⟨e, he, hl⟩
  · rwa [hl]
  · rw [hl]
    exact assignsIn_entryLine hu he

theorem filter_rewritten {u : Values} (hu : LineUpdates u) (ls : List Line) :
    ((ls.map (rewritten u)).map Line.body).filter (fun b => !assignsIn u b) =
      (ls.map Line.body).filter fun b => !assignsIn u b := by
  induction ls with
  | nil => rfl
  | cons l ls ih =>
    rw [List.map_cons, List.map_cons, List.map_cons]
    cases h : assignsIn u l.body with
    | false =>
      rw [rewritten_of_not_assignsIn h, List.filter_cons_of_pos (by simp [h]),
        List.filter_cons_of_pos (by simp [h]), ih]
    | true =>
      rw [List.filter_cons_of_neg (by simp [assignsIn_rewritten hu h]),
        List.filter_cons_of_neg (by simp [h]), ih]

theorem map_body_closeLast : ∀ ls : List Line, ∃ blanks : List Text, (∀ b ∈ blanks, b = []) ∧
    (closeLast ls).map Line.body = ls.map Line.body ++ blanks
  | [] => ⟨[], fun _ h => absurd h List.not_mem_nil, rfl⟩
  | [l] => by
    unfold closeLast
    split
    · exact ⟨[], fun _ h => absurd h List.not_mem_nil, rfl⟩
    · split
      · exact ⟨[], fun _ h => absurd h List.not_mem_nil, rfl⟩
      · exact ⟨[[]], fun _ h => List.mem_singleton.mp h, rfl⟩
  | l :: l' :: ls => by
    obtain ⟨blanks, hb, h⟩ := map_body_closeLast (l' :: ls)
    exact ⟨blanks, hb, by rw [closeLast, List.map_cons, h]; simp; simp⟩

theorem not_assignsIn_nil (u : Values) : assignsIn u [] = false := by
  have : assignedName [] = none := by decide
  rw [assignsIn, this]
  rfl

/-- **Every other line is kept, in its order**, up to blank lines at the end. -/
theorem filter_linesAfter {u : Values} (hu : LineUpdates u) {gap : List Line}
    (hgap : ∀ l ∈ gap, l = blankLine) (ls : List Line) :
    ∃ blanks : List Text, (∀ b ∈ blanks, b = []) ∧
      ((linesAfter u ls gap).map Line.body).filter (fun b => !assignsIn u b) =
        (ls.map Line.body).filter (fun b => !assignsIn u b) ++ blanks := by
  obtain ⟨blanks, hb, hclose⟩ := map_body_closeLast (ls.map (rewritten u))
  have hblank : ∀ bs : List Text, (∀ b ∈ bs, b = []) →
      bs.filter (fun b => !assignsIn u b) = bs := fun bs h =>
    List.filter_eq_self.mpr fun b hm => by rw [h b hm, not_assignsIn_nil]; rfl
  have hgap' : ∀ b ∈ gap.map Line.body, b = [] := fun b hm => by
    obtain ⟨l, hl, rfl⟩ := List.mem_map.mp hm
    rw [hgap l hl]
    rfl
  have hnew : (((newEntries u ls).map entryLine).map Line.body).filter
      (fun b => !assignsIn u b) = [] := by
    refine List.filter_eq_nil_iff.mpr fun b hm => ?_
    rw [List.map_map] at hm
    obtain ⟨e, he, rfl⟩ := List.mem_map.mp hm
    simp [assignsIn_entryLine hu (List.mem_filter.mp he).1]
  refine ⟨blanks ++ gap.map Line.body, fun b hm => ?_, ?_⟩
  · exact (List.mem_append.mp hm).elim (hb b) (hgap' b)
  · rw [linesAfter, List.map_append, List.map_append, List.filter_append, List.filter_append,
      hclose, List.filter_append, filter_rewritten hu, hblank blanks hb, hblank _ hgap', hnew,
      List.append_nil, List.append_assoc]

/-! ## A second, equal update -/

theorem rewritten_entryLine {u : Values} (hu : LineUpdates u) {e : Text × Text}
    (he : e ∈ u.entries) : rewritten u (entryLine e) = entryLine e := by
  obtain ⟨hn, hv⟩ := hu e he
  have hname : assignedName (entryLine e).body = some e.1 := by
    rw [← map_fst_assignment, assignment_entryLine hn hv]
    rfl
  rw [rewritten, hname, Option.bind_some, Dict.mem_entries_iff.mp he]
  rfl

theorem rewritten_rewritten {u : Values} (hu : LineUpdates u) (l : Line) :
    rewritten u (rewritten u l) = rewritten u l := by
  rcases rewritten_eq_or u l with hl | ⟨e, he, hl⟩
  · rw [hl, hl]
  · rw [hl, rewritten_entryLine hu he]

/-- The fix-up of the last line leaves lines an update does not touch. -/
theorem rewritten_closeLast {u : Values} : ∀ {ls : List Line},
    (∀ l ∈ ls, rewritten u l = l) → (∀ l ∈ ls, l.Proper) → ∀ l ∈ closeLast ls, rewritten u l = l
  | [], _, _, l, hl => absurd hl List.not_mem_nil
  | [l], h, hp, x, hx => by
    have hblank : rewritten u ⟨[], [lf]⟩ = ⟨[], [lf]⟩ :=
      rewritten_of_not_assignsIn (not_assignsIn_nil u)
    have hl := h l List.mem_cons_self
    unfold closeLast at hx
    split at hx
    · rename_i hend
      rw [List.mem_singleton.mp hx]
      unfold rewritten at hl ⊢
      split at hl
      · rw [← hl] at hend
        exact absurd hend (by simp [entryLine])
      · rename_i hnone
        rw [hnone]
    · split at hx
      · rwa [List.mem_singleton.mp hx]
      · rcases List.mem_cons.mp hx with rfl | hx
        · exact hl
        · rw [List.mem_singleton.mp hx, hblank]
  | l :: l' :: ls, h, hp, x, hx => by
    rcases List.mem_cons.mp hx with rfl | hx
    · exact h x List.mem_cons_self
    · exact rewritten_closeLast (fun y hy => h y (List.mem_cons_of_mem l hy))
        (fun y hy => hp y (List.mem_cons_of_mem l hy)) x hx

theorem rewritten_linesAfter {u : Values} (hu : LineUpdates u) {ls gap : List Line}
    (h : ProperLines ls) (hgap : ∀ l ∈ gap, l = blankLine) :
    ∀ l ∈ linesAfter u ls gap, rewritten u l = l := by
  intro l hl
  rcases List.mem_append.mp hl with hl | hl
  · rcases List.mem_append.mp hl with hl | hl
    · refine rewritten_closeLast (fun x hx => ?_) (properLines_rewritten hu h).proper l hl
      obtain ⟨y, -, rfl⟩ := List.mem_map.mp hx
      exact rewritten_rewritten hu y
    · rw [hgap l hl]
      exact rewritten_of_not_assignsIn (not_assignsIn_nil u)
  · obtain ⟨e, he, rfl⟩ := List.mem_map.mp hl
    exact rewritten_entryLine hu (List.mem_filter.mp he).1

theorem closeLast_ne_nil (l : Line) : ∀ ls, closeLast (l :: ls) ≠ []
  | [] => by
    unfold closeLast
    split_ifs <;> simp
  | l' :: ls => by simp [closeLast]

theorem getLast?_closeLast : ∀ {ls : List Line} {l : Line}, (closeLast ls).getLast? = some l →
    l.ending = [lf]
  | [], _, h => nomatch h
  | [x], l, h => by
    unfold closeLast at h
    split at h
    · cases h
      rfl
    · split at h
      · rename_i hend
        cases h
        exact hend
      · cases h
        rfl
  | x :: y :: ls, l, h => by
    rw [closeLast] at h
    · cases hc : closeLast (y :: ls) with
      | nil => exact absurd hc (closeLast_ne_nil y ls)
      | cons z zs =>
        rw [hc, List.getLast?_cons_cons, ← hc] at h
        exact getLast?_closeLast h
    · simp

theorem closeLast_of_getLast? : ∀ {ls : List Line}, (∀ l, ls.getLast? = some l → l.ending = [lf]) →
    closeLast ls = ls
  | [], _ => rfl
  | [l], h => by
    have hl := h l rfl
    unfold closeLast
    rw [if_neg (by simp [hl]), if_pos hl]
  | l :: l' :: ls, h => by
    rw [closeLast, closeLast_of_getLast? fun x hx => h x (by rwa [List.getLast?_cons_cons])]
    simp

theorem getLast?_linesAfter {u : Values} {ls gap : List Line} (hgap : ∀ l ∈ gap, l = blankLine)
    {l : Line} (h : (linesAfter u ls gap).getLast? = some l) : l.ending = [lf] := by
  rw [linesAfter, List.getLast?_append] at h
  cases hnew : ((newEntries u ls).map entryLine).getLast? with
  | some x =>
    rw [hnew, Option.some_or] at h
    cases h
    obtain ⟨e, -, rfl⟩ := List.mem_map.mp (List.mem_of_getLast? hnew)
    rfl
  | none =>
    rw [hnew, Option.none_or, List.getLast?_append] at h
    cases hg : gap.getLast? with
    | some x =>
      rw [hg, Option.some_or] at h
      cases h
      rw [hgap l (List.mem_of_getLast? hg)]
      rfl
    | none =>
      rw [hg, Option.none_or] at h
      exact getLast?_closeLast h

/-- After the update every updated name is assigned. -/
theorem newEntries_linesAfter {path : Text} {f : CredentialFile} {values u : Values}
    (hread : readCredentialFile path f = .ok values) (hu : LineUpdates u) :
    newEntries u (lines (updatedFile u f).content) = [] := by
  obtain ⟨-, hentries⟩ := readCredentialFile_eq_ok_iff.mp (read_update_line hread hu)
  refine List.filter_eq_nil_iff.mpr fun e he => ?_
  rw [← map_fst_lineAssignments, ← assignments_lines, ← hentries]
  have hget : (values.update (parsed u)).get? e.1 = some (parseValue e.2) :=
    Dict.get?_update_of_some (by rw [get?_parsed, Dict.mem_entries_iff.mp he]; rfl)
  simp only [decide_eq_true_eq, not_not]
  exact List.mem_map.mpr ⟨parsedEntry e, Dict.mem_entries_iff.mpr hget, rfl⟩

/-- **A second, equal update changes nothing.** -/
theorem update_update {path : Text} {f : CredentialFile} {values u : Values}
    (hread : readCredentialFile path f = .ok values) (hu : LineUpdates u) :
    updatedFile u (updatedFile u f) = updatedFile u f := by
  have hproper := properLines_lines (cr_notMem_content f)
  obtain ⟨gap, hgap, -, hupd, -, hlines⟩ := updatedFile_eq hread hu
  obtain ⟨gap', -, hnone, hupd', -, -⟩ := updatedFile_eq (read_update_line hread hu) hu
  have hnew := newEntries_linesAfter hread hu
  have hfix : (linesAfter u (lines f.content) gap).map (rewritten u) =
      linesAfter u (lines f.content) gap :=
    (List.map_congr_left (rewritten_linesAfter hu hproper hgap)).trans (List.map_id _)
  have hstable : linesAfter u (lines (updatedFile u f).content) gap' =
      linesAfter u (lines f.content) gap := by
    rw [linesAfter, hnone hnew, hnew, hlines, hfix,
      closeLast_of_getLast? fun l hl => getLast?_linesAfter hgap hl]
    simp
  rw [hupd', hstable, hupd]

/-! ## Writing as UTF-8 -/

theorem isScalarText_append {u v : Text} : IsScalarText (u ++ v) ↔ IsScalarText u ∧ IsScalarText v :=
  List.forall_mem_append

theorem isScalarText_flatten {ls : List Text} :
    IsScalarText ls.flatten ↔ ∀ line ∈ ls, IsScalarText line := by
  unfold IsScalarText
  simp only [List.mem_flatten]
  exact ⟨fun h line hline c hc => h c ⟨line, hline, hc⟩,
    fun h c ⟨line, hline, hc⟩ => h line hline c hc⟩

theorem isScalarText_assignmentLine {e : Text × Text} :
    IsScalarText (assignmentLine e) ↔ IsScalarText e.1 ∧ IsScalarText e.2 := by
  have hrest : IsScalarText [eqSign] ∧ IsScalarText [lf] := by decide
  rw [assignmentLine, isScalarText_append, isScalarText_append, ← List.singleton_append,
    isScalarText_append]
  tauto

/-- The last line gets an end at most. -/
theorem isScalarText_terminateLast : ∀ {ls : List Text},
    IsScalarText (terminateLast ls).flatten ↔ IsScalarText ls.flatten
  | [] => Iff.rfl
  | [line] => by
    have hlf : IsScalarText [lf] := by decide
    rw [terminateLast]
    split
    · exact Iff.rfl
    · simp only [List.flatten_cons, List.flatten_nil, List.append_nil, isScalarText_append, hlf,
        and_true]
  | line :: line' :: rest => by
    rw [terminateLast, List.flatten_cons, List.flatten_cons, isScalarText_append, isScalarText_append,
      isScalarText_terminateLast]
    · exact fun h => nomatch h

theorem get?_of_replacement {u : Values} {line : Text} {found : Text × Text}
    (h : replacement u line = some found) : u.get? found.1 = some found.2 := by
  simp only [replacement, Option.bind_eq_bind, Option.bind_eq_some_iff] at h
  obtain ⟨m, -, value, hvalue, heq⟩ := h
  cases heq
  exact hvalue

/-- The loop writes lines of the file and assignments of the update, and every assignment is written
or left. -/
theorem mem_rewriteLines {u : Values} {ls : List Text} :
    (∀ line ∈ (rewriteLines u ls).1, line ∈ ls ∨ ∃ e ∈ u.entries, line = assignmentLine e) ∧
      (rewriteLines u ls).2.entries ⊆ u.entries ∧
      ∀ e ∈ u.entries, e ∈ (rewriteLines u ls).2.entries ∨ assignmentLine e ∈ (rewriteLines u ls).1 := by
  induction ls generalizing u with
  | nil =>
    exact ⟨fun _ h => absurd h List.not_mem_nil, List.Subset.refl _, fun e he => Or.inl he⟩
  | cons line ls ih =>
    rw [rewriteLines]
    cases hreplace : replacement u line with
    | none =>
      obtain ⟨hlines, hleft, hall⟩ := ih (u := u)
      refine ⟨List.forall_mem_cons.mpr ⟨Or.inl List.mem_cons_self, fun l hl => ?_⟩, hleft,
        fun e he => (hall e he).imp_right (List.mem_cons_of_mem _)⟩
      exact (hlines l hl).imp_left (List.mem_cons_of_mem _)
    | some found =>
      obtain ⟨hlines, hleft, hall⟩ := ih (u := u.erase found.1)
      have hfound : u.get? found.1 = some found.2 := get?_of_replacement hreplace
      have herase : (u.erase found.1).entries ⊆ u.entries := List.filter_subset_self _
      refine ⟨List.forall_mem_cons.mpr ⟨Or.inr ⟨found, Dict.mem_entries_iff.mpr hfound, rfl⟩, ?_⟩,
        fun e he => herase (hleft he), fun e he => ?_⟩
      · exact fun l hl => (hlines l hl).imp (List.mem_cons_of_mem _) fun ⟨e, he, h⟩ => ⟨e, herase he, h⟩
      · by_cases hname : e.1 = found.1
        · have hvalue : e.2 = found.2 :=
            Option.some.inj ((Dict.mem_entries_iff.mp he).symm.trans (hname ▸ hfound))
          rw [Prod.ext hname hvalue]
          exact Or.inr List.mem_cons_self
        · exact (hall e (List.mem_filter.mpr ⟨he, decide_eq_true hname⟩)).imp_right
            (List.mem_cons_of_mem _)

/-- **Only the updates decide whether the rewritten text can be encoded**: what was read can be. -/
theorem isScalarText_updatedText {content : Text} (h : IsScalarText content) {u : Values} :
    IsScalarText (updatedText content u) ↔ EncodableUpdates u := by
  obtain ⟨hlines, hleft, hall⟩ := @mem_rewriteLines u (splitlinesKeepends content)
  have hcontent : ∀ line ∈ splitlinesKeepends content, IsScalarText line := by
    refine isScalarText_flatten.mp ?_
    rwa [flatten_splitlinesKeepends]
  have hseparator : ∀ r ls, ∀ line ∈ separator r ls, IsScalarText line := by
    intro r ls line hline
    unfold separator at hline
    split at hline
    · split at hline
      · rw [List.mem_singleton.mp hline]
        decide
      · exact absurd hline List.not_mem_nil
    · exact absurd hline List.not_mem_nil
  unfold updatedText EncodableUpdates
  simp only [List.flatten_append, isScalarText_append, isScalarText_terminateLast]
  simp only [isScalarText_flatten, List.forall_mem_map, isScalarText_assignmentLine]
  constructor
  · rintro ⟨⟨hwritten, -⟩, hremaining⟩ e he
    rcases hall e he with hleft' | hline
    · exact hremaining e hleft'
    · exact isScalarText_assignmentLine.mp (hwritten _ hline)
  · refine fun hu => ⟨⟨fun line hline => ?_, hseparator _ _⟩, fun e he => hu e (hleft he)⟩
    rcases hlines line hline with hold | ⟨e, he, rfl⟩
    · exact hcontent line hold
    · exact isScalarText_assignmentLine.mpr (hu e he)

/-- **The codec of the credential file**: a clean update that can be encoded gives a text which reads
back as the previous variables overridden by the update, keeps every other line in its order (blank
lines may follow), and is left alone by the same update. One that cannot be encoded raises. -/
theorem credential_file_codec {path stored : Text} {values u : Values}
    (hread : readCredentialFile path (.file stored) = .ok values) (hu : CleanUpdates u) :
    (EncodableUpdates u → ∃ written, updateCredentialFile u (.file stored) = .ok (.file written) ∧
      (IsScalarText (CredentialFile.file stored).content → IsScalarText written) ∧
      readCredentialFile path (.file written) = .ok (values.update u) ∧
      (∃ blanks : List Text, (∀ b ∈ blanks, b = []) ∧
        (splitlines written).filter (fun line => !assignsIn u line) =
          (splitlines stored).filter (fun line => !assignsIn u line) ++ blanks) ∧
      updateCredentialFile u (.file written) = .ok (.file written)) ∧
    (¬ EncodableUpdates u → updateCredentialFile u (.file stored) = .error .unicodeEncode) := by
  refine ⟨fun hencodable => ?_, fun hencodable => if_neg hencodable⟩
  have hline := hu.lineUpdates
  obtain ⟨gap, hgap, -, hupd, hcontent, hlines⟩ := updatedFile_eq hread hline
  have hwrites : ∀ file, updateCredentialFile u file = .ok (updatedFile u file) :=
    fun _ => if_pos hencodable
  have hstored : splitlines stored = (lines (CredentialFile.file stored).content).map Line.body :=
    (splitlines_universalNewlines stored).symm
  refine ⟨_, by rw [hwrites, hupd], fun hscalar => ?_, by rw [← hupd]; exact read_update hread hu,
    ?_, ?_⟩
  · have htext : updatedText (CredentialFile.file stored).content u =
        (linesAfter u (lines (CredentialFile.file stored).content) gap).flatMap Line.full :=
      CredentialFile.file.inj hupd
    rw [← htext]
    exact (isScalarText_updatedText hscalar).mpr hencodable
  · rw [← hcontent, splitlines, hlines, hstored]
    exact filter_linesAfter hline hgap _
  · rw [hwrites, ← hupd]
    exact congrArg Except.ok (update_update hread hline)

/-- The codec on a file with a comment, an `export`, a form feed and no final newline. -/
theorem credential_file_codec_example :
    (EncodableUpdates ⟨[(lit "B", lit "n w")], by decide⟩ →
      ∃ written, updateCredentialFile ⟨[(lit "B", lit "n w")], by decide⟩
          (.file (lit "# c\nexport A='x y'\x0cB = 2 # old\n C=3")) = .ok (.file written) ∧
        (IsScalarText (CredentialFile.file
          (lit "# c\nexport A='x y'\x0cB = 2 # old\n C=3")).content → IsScalarText written) ∧
        readCredentialFile (lit ".env") (.file written) = .ok (Dict.update
          ⟨[(lit "A", lit "x y"), (lit "B", lit "2"), (lit "C", lit "3")], by decide⟩
          ⟨[(lit "B", lit "n w")], by decide⟩) ∧
        (∃ blanks : List Text, (∀ b ∈ blanks, b = []) ∧
          (splitlines written).filter
              (fun line => !assignsIn ⟨[(lit "B", lit "n w")], by decide⟩ line) =
            (splitlines (lit "# c\nexport A='x y'\x0cB = 2 # old\n C=3")).filter
              (fun line => !assignsIn ⟨[(lit "B", lit "n w")], by decide⟩ line) ++ blanks) ∧
        updateCredentialFile ⟨[(lit "B", lit "n w")], by decide⟩ (.file written) =
          .ok (.file written)) ∧
    (¬ EncodableUpdates ⟨[(lit "B", lit "n w")], by decide⟩ →
      updateCredentialFile ⟨[(lit "B", lit "n w")], by decide⟩
        (.file (lit "# c\nexport A='x y'\x0cB = 2 # old\n C=3")) = .error .unicodeEncode) := by
  have hread : readCredentialFile (lit ".env")
      (.file (lit "# c\nexport A='x y'\x0cB = 2 # old\n C=3")) =
      .ok ⟨[(lit "A", lit "x y"), (lit "B", lit "2"), (lit "C", lit "3")], by decide⟩ := rfl
  refine credential_file_codec hread fun e he => ?_
  rw [List.mem_singleton.mp he]
  exact ⟨⟨by decide, by decide⟩, by decide, by decide, by decide, by decide⟩

/-- A value with a lone surrogate is clean, and is not written. -/
theorem surrogate_value_raises :
    readCredentialFile (lit ".env") (.file (lit "A=1\n")) = .ok ⟨[(lit "A", lit "1")], by decide⟩ ∧
      CleanUpdates ⟨[(lit "B", [0xD800])], by decide⟩ ∧
      updateCredentialFile ⟨[(lit "B", [0xD800])], by decide⟩ (.file (lit "A=1\n")) =
        .error .unicodeEncode := by
  refine ⟨rfl, fun e he => ?_, by decide⟩
  rw [List.mem_singleton.mp he]
  exact ⟨⟨by decide, by decide⟩, by decide, by decide, by decide, by decide⟩

end ApiTests.Credentials
