import ApiTests.Py.Dict
import ApiTests.Py.Re
import ApiTests.Py.Utf8

/-!
# The credential file: reading and rewriting

Model of `ASSIGNMENT_RE`, `_read_credential_file`, `_parse_value` and `_update_credential_file`
(`local_credentials.py:20-22`, `536-584`).

* The file is opened in text mode, so what is read is `universalNewlines` of what is stored; on
  the POSIX hosts this runs on a `\n` is written as it stands.
* `ASSIGNMENT_RE` is `assignmentRe`, with the two named groups numbered.
* `rewriteLines` is the loop over `content.splitlines(keepends=True)`, `remaining.pop` included.
* The temporary file and `os.replace` are one atomic replacement of the stored text. It is written
  as UTF-8, which has no surrogates: `updateCredentialFile` raises where an update has one.

`assignment` is the name and the parsed value a line assigns. Results:
* `matchPrefix_assignmentRe`: a match of `assignmentRe` fixes the name and, on a line, the parsed
  value, whichever way the pattern backtracks.
* `readLines_eq_ok_iff`: the reader accepts exactly the files whose assigned names are distinct and
  returns the assignments in file order.
-/

namespace ApiTests.Credentials

open Py

/-- The variables of a credential file. -/
abbrev Values := Dict Text Text

/-- `LocalCredentialError`. -/
structure LocalCredentialError where
  message : Text
  deriving Repr, DecidableEq

/-- What a call on the credential file raises: a `LocalCredentialError`, or the `UnicodeEncodeError` of
its write. -/
inductive OperationError where
  | credential (e : LocalCredentialError)
  | unicodeEncode
  deriving Repr, DecidableEq

/-- What stands at the credential path. -/
inductive CredentialFile where
  | absent
  /-- Something that is no regular file. -/
  | notFile
  | file (stored : Text)
  deriving Repr, DecidableEq

/-! ## `ASSIGNMENT_RE` -/

/-- `[A-Za-z_]`. -/
def isNameStart (c : Nat) : Bool :=
  (0x41 ≤ c && c ≤ 0x5A) || (0x61 ≤ c && c ≤ 0x7A) || c == 0x5F

/-- `[A-Za-z0-9_]`. -/
def isNameChar (c : Nat) : Bool := isNameStart c || (0x30 ≤ c && c ≤ 0x39)

/-- `=`. -/
abbrev eqSign : Nat := 0x3D

/-- The group `name`. -/
abbrev nameGroup : Nat := 1

/-- The group `value`. -/
abbrev valueGroup : Nat := 2

/-- `ASSIGNMENT_RE`:
`^\s*(?:export\s+)?(?P<name>[A-Za-z_][A-Za-z0-9_]*)\s*=\s*(?P<value>.*)$`. -/
def assignmentRe : Re :=
  .seqs [.atStart, .rep 0 isSpace, .opt (.seq (.str (lit "export")) (.rep 1 isSpace)),
    .group nameGroup (.seq (.cls isNameStart) (.rep 0 isNameChar)),
    .rep 0 isSpace, .str (lit "="), .rep 0 isSpace,
    .group valueGroup (.rep 0 fun c => c != lf), .atEnd]

/-! ## Reading -/

/-- `'` or `"`. -/
def isQuote (c : Nat) : Bool := c == 0x27 || c == 0x22

/-- `_parse_value`. -/
def parseValue (rawValue : Text) : Text :=
  let value := strip rawValue
  if 2 ≤ value.length ∧ value.head? = value.getLast? ∧ headIn isQuote value = true then
    (value.drop 1).dropLast
  else
    match textBefore (lit " #") value with
    | some value => strip value
    | none => strip value

/-- The loop of `_read_credential_file` from line number `lineNumber` on. -/
def readLines (path : Text) : Nat → Values → List Text → Except LocalCredentialError Values
  | _, values, [] => .ok values
  | lineNumber, values, line :: rest =>
    match assignmentRe.matchPrefix line with
    | none => readLines path (lineNumber + 1) values rest
    | some m =>
      let name := m.get nameGroup
      if (values.get? name).isSome then
        .error ⟨lit "local credential file has duplicate variable " ++ name ++ lit " on line " ++
          lit (toString lineNumber) ++ lit ": " ++ path⟩
      else
        readLines path (lineNumber + 1)
          (values.update (.single name (parseValue (m.get valueGroup)))) rest

/-- `_read_credential_file`. -/
def readCredentialFile (path : Text) : CredentialFile → Except LocalCredentialError Values
  | .absent => .ok .empty
  | .notFile => .error ⟨lit "local credential path is not a file: " ++ path⟩
  | .file stored => readLines path 1 .empty (splitlines (universalNewlines stored))

/-! ## Rewriting -/

/-- `line.rstrip("\r\n")`. -/
def rstripNewline (line : Text) : Text := line.rdropWhile fun c => c == cr || c == lf

/-- `f"{name}={value}\n"`. -/
def assignmentLine (e : Text × Text) : Text := e.1 ++ eqSign :: e.2 ++ [lf]

/-- The entry of `remaining` that replaces a line: the one for the name the line assigns. -/
def replacement (remaining : Values) (line : Text) : Option (Text × Text) := do
  let m ← assignmentRe.matchPrefix (rstripNewline line)
  let value ← remaining.get? (m.get nameGroup)
  return (m.get nameGroup, value)

/-- The loop of `_update_credential_file`: the rewritten lines, and what `remaining` is left. -/
def rewriteLines : Values → List Text → List Text × Values
  | remaining, [] => ([], remaining)
  | remaining, line :: rest =>
    match replacement remaining line with
    | some e =>
      let (updated, left) := rewriteLines (remaining.erase e.1) rest
      (assignmentLine e :: updated, left)
    | none =>
      let (updated, left) := rewriteLines remaining rest
      (line :: updated, left)

/-- `if updated_lines and not updated_lines[-1].endswith(("\n", "\r")): updated_lines[-1] += "\n"`. -/
def terminateLast : List Text → List Text
  | [] => []
  | [line] =>
    if line.getLast? = some lf ∨ line.getLast? = some cr then [line] else [line ++ [lf]]
  | line :: rest => line :: terminateLast rest

/-- The blank line in front of the appended variables: `remaining` is left and the last line is
not blank. -/
def separator (remaining : Values) (updatedLines : List Text) : List Text :=
  match updatedLines.getLast? with
  | some last => if remaining.entries ≠ [] ∧ strip last ≠ [] then [[lf]] else []
  | none => []

/-- The text `_update_credential_file` writes for the text it read. -/
def updatedText (content : Text) (updates : Values) : Text :=
  let (updatedLines, remaining) := rewriteLines updates (splitlinesKeepends content)
  let updatedLines := terminateLast updatedLines
  (updatedLines ++ separator remaining updatedLines ++ remaining.entries.map assignmentLine).flatten

/-- The file `_update_credential_file` leaves. The text of a path that is no regular file cannot be
read. -/
def updatedFile (updates : Values) : CredentialFile → CredentialFile
  | .absent => .file (updatedText [] updates)
  | .notFile => .notFile
  | .file stored => .file (updatedText (universalNewlines stored) updates)

/-- The updates can be written as UTF-8. -/
def EncodableUpdates (updates : Values) : Prop :=
  ∀ e ∈ updates.entries, IsScalarText e.1 ∧ IsScalarText e.2

instance (updates : Values) : Decidable (EncodableUpdates updates) :=
  inferInstanceAs (Decidable (∀ e ∈ updates.entries, _))

/-- `_update_credential_file`. The text that was read is decoded UTF-8, so the write raises where the
updates cannot be encoded. -/
def updateCredentialFile (updates : Values) (file : CredentialFile) :
    Except OperationError CredentialFile :=
  if EncodableUpdates updates then .ok (updatedFile updates file) else .error .unicodeEncode

theorem updateCredentialFile_eq_ok {updates : Values} {file file' : CredentialFile} :
    updateCredentialFile updates file = .ok file' ↔
      EncodableUpdates updates ∧ updatedFile updates file = file' := by
  unfold updateCredentialFile
  split
  · rename_i h
    rw [Except.ok.injEq, and_iff_right h]
  · rename_i h
    exact iff_of_false (fun heq => nomatch heq) fun heq => h heq.1

/-! ## What a line assigns -/

/-- A name the pattern accepts. -/
def IsName (name : Text) : Prop :=
  headIn isNameStart name = true ∧ ∀ c ∈ name, isNameChar c = true

instance : DecidablePred IsName := fun name =>
  inferInstanceAs (Decidable (headIn isNameStart name = true ∧ ∀ c ∈ name, isNameChar c = true))

/-- Whitespace only. -/
def Blank (t : Text) : Prop := ∀ c ∈ t, isSpace c = true

/-- The optional `export` of an assignment. -/
def ExportPart (t : Text) : Prop :=
  t = [] ∨ ∃ ws, ws ≠ [] ∧ Blank ws ∧ t = lit "export" ++ ws

/-- A line taken apart the way the pattern does. -/
structure Parts (line name value : Text) : Prop where
  isName : IsName name
  value_lf : lf ∉ value
  decomp : ∃ ws₁ ex ws₂ ws₃ rest, Blank ws₁ ∧ ExportPart ex ∧ Blank ws₂ ∧ Blank ws₃ ∧
    (rest = [] ∨ rest = [lf]) ∧ line = ws₁ ++ ex ++ name ++ ws₂ ++ eqSign :: (ws₃ ++ value ++ rest)

theorem mem_run_exportPart {x y : Cursor} :
    y ∈ Re.run (.opt (.seq (.str (lit "export")) (.rep 1 isSpace))) x ↔
      ∃ ex v, ExportPart ex ∧ x.ahead = ex ++ v ∧ y = x.after ex v := by
  rw [Re.mem_run_opt, Re.mem_run_seq]
  constructor
  · rintro (⟨z, hz, hy⟩ | rfl)
    · obtain ⟨v, hv, rfl⟩ := Re.mem_run_str.mp hz
      obtain ⟨ws, w, hw, hws, hlen, rfl⟩ := Re.mem_run_rep.mp hy
      rw [Cursor.after_ahead] at hw
      refine ⟨lit "export" ++ ws, w, Or.inr ⟨ws, ?_, hws, rfl⟩, ?_, Cursor.after_after ..⟩
      · rintro rfl
        exact absurd hlen (by decide)
      · rw [hv, hw, List.append_assoc]
    · exact ⟨[], y.ahead, Or.inl rfl, rfl, rfl⟩
  · rintro ⟨ex, v, rfl | ⟨ws, hne, hws, rfl⟩, hx, rfl⟩
    · exact Or.inr (by rw [List.nil_append] at hx; rw [← hx]; rfl)
    · refine Or.inl ⟨x.after (lit "export") (ws ++ v), Re.mem_run_str.mpr ⟨_, ?_, rfl⟩,
        Re.mem_run_rep.mpr ⟨ws, v, rfl, hws, ?_, (Cursor.after_after ..).symm⟩⟩
      · rw [hx, List.append_assoc]
      · exact List.length_pos_iff.mpr hne

theorem mem_run_name {x y : Cursor} :
    y ∈ Re.run (.seq (.cls isNameStart) (.rep 0 isNameChar)) x ↔
      ∃ name v, IsName name ∧ x.ahead = name ++ v ∧ y = x.after name v := by
  rw [Re.mem_run_seq]
  constructor
  · rintro ⟨z, hz, hy⟩
    obtain ⟨c, v, hv, hc, rfl⟩ := Re.mem_run_cls.mp hz
    obtain ⟨u, w, hw, hu, -, rfl⟩ := Re.mem_run_rep.mp hy
    rw [Cursor.after_ahead] at hw
    refine ⟨c :: u, w, ⟨hc, fun d hd => ?_⟩, by rw [hv, hw]; rfl, Cursor.after_after ..⟩
    rcases List.mem_cons.mp hd with rfl | hd
    · rw [isNameChar, hc, Bool.true_or]
    · exact hu d hd
  · rintro ⟨name, v, ⟨hstart, hname⟩, hx, rfl⟩
    obtain ⟨c, u, rfl⟩ : ∃ c u, name = c :: u := by
      cases name with
      | nil => exact absurd hstart Bool.false_ne_true
      | cons c u => exact ⟨c, u, rfl⟩
    exact ⟨x.after [c] (u ++ v), Re.mem_run_cls.mpr ⟨c, _, hx, hstart, rfl⟩,
      Re.mem_run_rep.mpr ⟨u, v, rfl, fun d hd => hname d (List.mem_cons_of_mem c hd),
        Nat.zero_le _, (Cursor.after_after x [c] (u ++ v) u v).symm⟩⟩

theorem lit_eqSign : lit "=" = [eqSign] := by decide

theorem parts_of_mem_run {line : Text} {m : Cursor}
    (h : m ∈ assignmentRe.run ⟨[], line, []⟩) : Parts line (m.get nameGroup) (m.get valueGroup) := by
  simp only [assignmentRe, Re.seqs] at h
  obtain ⟨x₀, h₀, h⟩ := Re.mem_run_seq.mp h
  obtain ⟨-, rfl⟩ := Re.mem_run_atStart.mp h₀
  obtain ⟨x₁, h₁, h⟩ := Re.mem_run_seq.mp h
  obtain ⟨ws₁, v₁, hv₁, hws₁, -, rfl⟩ := Re.mem_run_rep.mp h₁
  obtain ⟨x₂, h₂, h⟩ := Re.mem_run_seq.mp h
  obtain ⟨ex, v₂, hex, hv₂, rfl⟩ := mem_run_exportPart.mp h₂
  obtain ⟨x₃, h₃, h⟩ := Re.mem_run_seq.mp h
  obtain ⟨z, hz, name', hname', rfl⟩ := Re.mem_run_group.mp h₃
  obtain ⟨name, v₃, hname, hv₃, rfl⟩ := mem_run_name.mp hz
  obtain rfl : name' = name := List.append_cancel_right (hname'.symm.trans hv₃)
  obtain ⟨x₄, h₄, h⟩ := Re.mem_run_seq.mp h
  obtain ⟨ws₂, v₄, hv₄, hws₂, -, rfl⟩ := Re.mem_run_rep.mp h₄
  obtain ⟨x₅, h₅, h⟩ := Re.mem_run_seq.mp h
  obtain ⟨v₅, hv₅, rfl⟩ := Re.mem_run_str.mp h₅
  obtain ⟨x₆, h₆, h⟩ := Re.mem_run_seq.mp h
  obtain ⟨ws₃, v₆, hv₆, hws₃, -, rfl⟩ := Re.mem_run_rep.mp h₆
  obtain ⟨x₇, h₇, h⟩ := Re.mem_run_seq.mp h
  obtain ⟨z', hz', value', hvalue', rfl⟩ := Re.mem_run_group.mp h₇
  obtain ⟨value, rest, hvalue, hlf, -, rfl⟩ := Re.mem_run_rep.mp hz'
  obtain rfl : value' = value := List.append_cancel_right (hvalue'.symm.trans hvalue)
  obtain ⟨hrest, rfl⟩ := Re.mem_run_atEnd.mp h
  simp only [Cursor.after_ahead] at hv₁ hv₂ hv₃ hv₄ hv₅ hv₆ hvalue hrest
  change Parts line name' value'
  refine ⟨hname, fun hm => ?_, ws₁, ex, ws₂, ws₃, rest, hws₁, hex, hws₂, hws₃, hrest, ?_⟩
  · simpa using hlf lf hm
  · rw [hv₁, hv₂, hv₃, hv₄, hv₅, hv₆, hvalue]
    simp [lit_eqSign]

theorem exists_mem_run_of_parts {line name value : Text} (h : Parts line name value) :
    ∃ m, m ∈ assignmentRe.run ⟨[], line, []⟩ := by
  obtain ⟨hname, hlf, ws₁, ex, ws₂, ws₃, rest, hws₁, hex, hws₂, hws₃, hrest, rfl⟩ := h
  have hvalue : ∀ c ∈ value, (c != lf) = true := fun c hc => by
    rw [bne_iff_ne]
    rintro rfl
    exact hlf hc
  simp only [assignmentRe, Re.seqs, Re.mem_run_seq]
  exact ⟨_, _, Re.mem_run_atStart.mpr ⟨rfl, rfl⟩,
    _, Re.mem_run_rep.mpr ⟨ws₁, ex ++ (name ++ (ws₂ ++ eqSign :: (ws₃ ++ (value ++ rest)))),
      by simp, hws₁, Nat.zero_le _, rfl⟩,
    _, mem_run_exportPart.mpr ⟨ex, _, hex, rfl, rfl⟩,
    _, Re.mem_run_group.mpr ⟨_, mem_run_name.mpr ⟨name, _, hname, rfl, rfl⟩, name, rfl, rfl⟩,
    _, Re.mem_run_rep.mpr ⟨ws₂, _, rfl, hws₂, Nat.zero_le _, rfl⟩,
    _, Re.mem_run_str.mpr ⟨_, by rw [lit_eqSign]; rfl, rfl⟩,
    _, Re.mem_run_rep.mpr ⟨ws₃, _, rfl, hws₃, Nat.zero_le _, rfl⟩,
    _, Re.mem_run_group.mpr ⟨_, Re.mem_run_rep.mpr ⟨value, rest, rfl, hvalue, Nat.zero_le _, rfl⟩,
      value, rfl, rfl⟩,
    Re.mem_run_atEnd.mpr ⟨hrest, rfl⟩⟩

/-! ### The match is unique where it matters -/

/-- The name a line can assign: the last word in front of its first `=`. -/
def nameOf (line : Text) : Text :=
  (rstrip (line.takeWhile fun c => c != eqSign)).rtakeWhile fun c => !isSpace c

/-- What stands behind the first `=` of a line. -/
def valueOf (line : Text) : Text := (line.dropWhile fun c => c != eqSign).tail

theorem isSpace_isNameChar {c : Nat} (h : isNameChar c = true) :
    isSpace c = false ∧ c ≠ eqSign := by
  simp only [isNameChar, isNameStart, Bool.or_eq_true, Bool.and_eq_true, decide_eq_true_eq,
    beq_iff_eq] at h
  constructor
  · rw [← Bool.not_eq_true]
    simp only [isSpace, Bool.or_eq_true, Bool.and_eq_true, decide_eq_true_eq, beq_iff_eq]
    omega
  · show c ≠ 0x3D
    omega

theorem ne_eqSign_of_isSpace {c : Nat} (h : isSpace c = true) : c ≠ eqSign := by
  rintro rfl
  exact absurd h (by decide)

theorem ne_eqSign_of_exportPart {ex : Text} (h : ExportPart ex) : ∀ c ∈ ex, c ≠ eqSign := by
  rcases h with rfl | ⟨ws, -, hws, rfl⟩
  · exact fun _ h => absurd h List.not_mem_nil
  · intro c hc
    rcases List.mem_append.mp hc with hc | hc
    · rintro rfl
      exact absurd hc (by decide)
    · exact ne_eqSign_of_isSpace (hws c hc)

theorem IsName.ne_nil {name : Text} (h : IsName name) : name ≠ [] := by
  rintro rfl
  exact absurd h.1 Bool.false_ne_true

/-- In front of the name stands nothing, or whitespace last. -/
theorem getLast_isSpace {ws ex : Text} (hws : Blank ws) (hex : ExportPart ex)
    (hne : ws ++ ex ≠ []) : isSpace ((ws ++ ex).getLast hne) = true := by
  rcases hex with rfl | ⟨ws', hne', hws', rfl⟩
  · exact hws _ (by simp)
  · have : (ws ++ (lit "export" ++ ws')).getLast hne = ws'.getLast hne' := by
      simp only [← List.append_assoc, List.getLast_append_of_ne_nil _ hne']
    rw [this]
    exact hws' _ (List.getLast_mem hne')

/-- No `=` stands in front of the one behind the name. -/
theorem front_ne_eqSign {ws₁ ex name ws₂ : Text} (hws₁ : Blank ws₁) (hex : ExportPart ex)
    (hname : IsName name) (hws₂ : Blank ws₂) :
    ∀ c ∈ ws₁ ++ ex ++ name ++ ws₂, (c != eqSign) = true := by
  intro c hc
  rw [bne_iff_ne]
  simp only [List.mem_append] at hc
  rcases hc with ((hc | hc) | hc) | hc
  · exact ne_eqSign_of_isSpace (hws₁ c hc)
  · exact ne_eqSign_of_exportPart hex c hc
  · exact (isSpace_isNameChar (hname.2 c hc)).2
  · exact ne_eqSign_of_isSpace (hws₂ c hc)

theorem Parts.nameOf_eq {line name value : Text} (h : Parts line name value) :
    nameOf line = name := by
  obtain ⟨hname, -, ws₁, ex, ws₂, ws₃, rest, hws₁, hex, hws₂, -, -, rfl⟩ := h
  have hfront := front_ne_eqSign hws₁ hex hname hws₂
  have hspace : ∀ c ∈ name, isSpace c = false := fun c hc => (isSpace_isNameChar (hname.2 c hc)).1
  rw [nameOf, Re.takeWhile_append_stop hfront (by simp [headIn]), rstrip_append_spaces hws₂,
    rstrip, rdropWhile_append_of_neg hname.ne_nil hspace]
  refine rtakeWhile_append (fun c hc => by simp [hspace c hc]) fun hne => ?_
  rw [getLast_isSpace hws₁ hex hne]
  rfl

theorem Parts.valueOf_eq {line name value : Text} (h : Parts line name value) (hlf : lf ∉ line) :
    ∃ ws, Blank ws ∧ valueOf line = ws ++ value := by
  obtain ⟨hname, -, ws₁, ex, ws₂, ws₃, rest, hws₁, hex, hws₂, hws₃, hrest, rfl⟩ := h
  obtain rfl : rest = [] := by
    rcases hrest with rfl | rfl
    · rfl
    · exact absurd (by simp) hlf
  refine ⟨ws₃, hws₃, ?_⟩
  rw [valueOf, List.dropWhile_append_of_pos (front_ne_eqSign hws₁ hex hname hws₂)]
  simp

theorem parseValue_congr {u v : Text} (h : strip u = strip v) : parseValue u = parseValue v := by
  unfold parseValue
  rw [h]

theorem parseValue_spaces_append {ws : Text} (h : Blank ws) (v : Text) :
    parseValue (ws ++ v) = parseValue v :=
  parseValue_congr (strip_spaces_append h v)

/-! ### The assignment of a line -/

/-- The name a line assigns, as the rewriting loop matches it. -/
def assignedName (line : Text) : Option Text :=
  (assignmentRe.matchPrefix line).map fun m => m.get nameGroup

/-- The name and the parsed value a line assigns, as the reader takes them. -/
def assignment (line : Text) : Option (Text × Text) :=
  (assignmentRe.matchPrefix line).map fun m => (m.get nameGroup, parseValue (m.get valueGroup))

/-- **A match of `ASSIGNMENT_RE` fixes the name.** -/
theorem assignedName_of_parts {line name value : Text} (h : Parts line name value) :
    assignedName line = some name := by
  obtain ⟨m, hm⟩ := exists_mem_run_of_parts h
  exact Re.map_first_eq hm fun z hz => by rw [← (parts_of_mem_run hz).nameOf_eq, h.nameOf_eq]

theorem parts_of_assignedName {line name : Text} (h : assignedName line = some name) :
    ∃ value, Parts line name value := by
  obtain ⟨m, hm, rfl⟩ := Option.map_eq_some_iff.mp h
  exact ⟨_, parts_of_mem_run (Re.first_mem hm)⟩

/-- **On a line, a match of `ASSIGNMENT_RE` fixes the parsed value too.** -/
theorem assignment_of_parts {line name value : Text} (h : Parts line name value)
    (hlf : lf ∉ line) : assignment line = some (name, parseValue value) := by
  obtain ⟨m, hm⟩ := exists_mem_run_of_parts h
  refine Re.map_first_eq hm fun z hz => ?_
  have hz' := parts_of_mem_run hz
  obtain ⟨ws, hws, hv⟩ := h.valueOf_eq hlf
  obtain ⟨ws', hws', hv'⟩ := hz'.valueOf_eq hlf
  rw [← hz'.nameOf_eq, h.nameOf_eq, ← parseValue_spaces_append hws' (z.get valueGroup), ← hv', hv,
    parseValue_spaces_append hws]

theorem map_fst_assignment (line : Text) :
    (assignment line).map Prod.fst = assignedName line := by
  rw [assignment, assignedName, Option.map_map]
  rfl

/-! ## What the reader accepts -/

/-- The text of a file as it is read, empty when there is none. -/
def CredentialFile.content : CredentialFile → Text
  | .absent => []
  | .notFile => []
  | .file stored => universalNewlines stored

/-- The line bodies of a file. -/
def CredentialFile.lines (f : CredentialFile) : List Text := splitlines f.content

/-- The assignments of a list of lines. -/
def assignments (ls : List Text) : List (Text × Text) := ls.filterMap assignment

theorem readLines_cons_none {path line : Text} {n : Nat} {values : Values} {rest : List Text}
    (h : assignment line = none) :
    readLines path n values (line :: rest) = readLines path (n + 1) values rest := by
  rw [assignment, Option.map_eq_none_iff] at h
  rw [readLines, h]

theorem readLines_cons_some {path line : Text} {n : Nat} {values : Values} {rest : List Text}
    {e : Text × Text} (h : assignment line = some e) (hnew : values.get? e.1 = none) :
    readLines path n values (line :: rest) =
      readLines path (n + 1) (values.update (.single e.1 e.2)) rest := by
  obtain ⟨m, hm, rfl⟩ := Option.map_eq_some_iff.mp h
  rw [readLines, hm]
  simp only [hnew, Option.isSome_none, Bool.false_eq_true, if_false]

theorem readLines_cons_duplicate (path : Text) (n : Nat) {line : Text} {values : Values}
    (rest : List Text) {e : Text × Text} (h : assignment line = some e) (hold : values.get? e.1 ≠ none) :
    ∃ err, readLines path n values (line :: rest) = .error err := by
  obtain ⟨m, hm, rfl⟩ := Option.map_eq_some_iff.mp h
  rw [readLines, hm]
  simp only [Option.isSome_iff_ne_none.mpr hold, if_true]
  exact ⟨_, rfl⟩

/-- **What the reader accepts**: the assignments read so far followed by those of the lines,
no name twice. -/
theorem readLines_eq_ok_iff {path : Text} : ∀ {ls : List Text} {n : Nat} {values out : Values},
    readLines path n values ls = .ok out ↔ out.entries = values.entries ++ assignments ls
  | [], n, values, out => by
    rw [readLines, assignments, List.filterMap_nil, List.append_nil, Except.ok.injEq]
    exact ⟨fun h => h ▸ rfl, fun h => (Dict.ext h).symm⟩
  | line :: rest, n, values, out => by
    cases ha : assignment line with
    | none =>
      rw [readLines_cons_none ha, readLines_eq_ok_iff, assignments, assignments,
        List.filterMap_cons_none ha]
    | some e =>
      rw [assignments, List.filterMap_cons_some ha]
      by_cases hnew : values.get? e.1 = none
      · rw [readLines_cons_some ha hnew, readLines_eq_ok_iff, Dict.entries_update_single hnew,
          List.append_assoc]
        rfl
      · obtain ⟨err, herr⟩ := readLines_cons_duplicate path n rest ha hnew
        rw [herr]
        refine ⟨fun h => (nomatch h), fun h => absurd out.nodup fun hnodup => ?_⟩
        rw [h, List.map_append, List.nodup_append'] at hnodup
        exact hnew (Dict.get?_eq_none_iff.mpr fun hm => hnodup.2.2 hm List.mem_cons_self)

/-- The reader accepts a stored file iff it can be read with distinct names. -/
theorem readCredentialFile_eq_ok_iff {path : Text} {f : CredentialFile} {values : Values} :
    readCredentialFile path f = .ok values ↔
      f ≠ .notFile ∧ values.entries = assignments f.lines := by
  cases f with
  | absent =>
    rw [readCredentialFile, Except.ok.injEq]
    exact ⟨fun h => ⟨by simp, h ▸ rfl⟩, fun h => (Dict.ext h.2).symm⟩
  | notFile =>
    refine ⟨fun h => (nomatch h), fun h => absurd rfl h.1⟩
  | file stored =>
    rw [readCredentialFile, readLines_eq_ok_iff]
    exact ⟨fun h => ⟨by simp, h⟩, fun h => h.2⟩

end ApiTests.Credentials
