import ApiTests.Dependencies.Lock

/-!
# The validator of the frozen export

Model of `_validate_hashed_export` (`dependency_contract.py:446-491`), by which the contract check reads
what `uv export` prints. It joins the lines of a requirement, matches a pin at the start of the block and
looks for a hash anywhere in it, then compares the pins with the lock.

Results:
* `pin_eq_some`: a pin starts its block, and ends where its version ends.
* `validateHashedExport_eq_nil`: **an export without issues has blocks, each with a pin and a hash, and
  its pins are the locked requirements.**
-/

namespace ApiTests.Dependencies

open Py Re

/-- `[A-Za-z0-9]`. -/
def isAlnum (c : Nat) : Bool := isAsciiLetter c || isDigit c

/-- `[A-Za-z0-9._-]`. -/
def isNameChar (c : Nat) : Bool := isAlnum c || c = 46 || c = 95 || c = 45

/-- `[^;\\\s]`. -/
def isVersionChar (c : Nat) : Bool := c ≠ 59 && c ≠ 92 && !isSpace c

/-- `_PINNED_EXPORT_PATTERN`; its groups are the name and the version. -/
def pinnedExportPattern : Re :=
  seqs [.atStart, .group 0 (.seq (.cls isAlnum) (.rep 0 isNameChar)), str (lit "=="),
    .group 1 (.rep 1 isVersionChar)]

/-- The pin at the start of a block. -/
def pin (block : Text) : Option (Text × Text) :=
  (matchPrefix pinnedExportPattern block).map fun m => (m.get 0, m.get 1)

/-- `" ".join(lines)`. -/
def joinLines (lines : List Text) : Text := (lit " ").intercalate lines

/-- The loop over the lines, from a block that is begun: its issues and its blocks. -/
def exportBlocksFrom : List Text → List Text → List Text × List Text
  | current, [] => ([], if current = [] then [] else [joinLines current])
  | current, line :: rest =>
    if strip line = [] ∨ headIn (fun c => c = 35) line then exportBlocksFrom current rest
    else if headIn isSpace line then
      if current = [] then
        let (issues, blocks) := exportBlocksFrom [] rest
        (lit "frozen export begins with an orphaned continuation line" :: issues, blocks)
      else exportBlocksFrom (current ++ [strip line]) rest
    else
      let (issues, blocks) := exportBlocksFrom [strip line] rest
      (issues, if current = [] then blocks else joinLines current :: blocks)

section Validate

variable (lower : Text → Text) (unicode : Unicode)

/-- The issues of a block. -/
def blockIssues (block : Text) : List Text :=
  match pin block with
  | none => [lit "frozen export requirement is not exact: " ++ reprText unicode block]
  | some (name, _) =>
    if lit "--hash=sha256:" <:+: block then []
    else [lit "frozen export requirement has no SHA-256 hash: " ++ name]

/-- The requirement a block exports. -/
def exportedRequirement (block : Text) : Option LockedRequirement :=
  (pin block).map fun (name, version) => ⟨canonicalizeName lower name, version⟩

/-- `_format_locked`, of a set. -/
def formatLocked (requirements : List LockedRequirement) : Text :=
  joinTexts ((sortBy requirementKey requirements.dedup).map fun requirement =>
    requirement.name ++ lit "==" ++ requirement.version)

/-- `_validate_hashed_export`. -/
def validateHashedExport (exportText : Text) (lockedRequirements : List LockedRequirement) :
    List Text :=
  let (issues, blocks) := exportBlocksFrom [] (splitlines exportText)
  if blocks = [] then [lit "frozen export did not contain any third-party requirements"]
  else
    let issues := issues ++ blocks.flatMap (blockIssues unicode)
    if issues ≠ [] then issues
    else
      let exported := blocks.filterMap (exportedRequirement lower)
      let missing := lockedRequirements.filter (· ∉ exported)
      let unexpected := exported.filter (· ∉ lockedRequirements)
      (if missing = [] then []
        else [lit "frozen export is missing locked requirement(s): " ++ formatLocked missing]) ++
      (if unexpected = [] then []
        else [lit "frozen export has unexpected requirement(s) or version(s): " ++
          formatLocked unexpected])

end Validate

/-! ## Pins -/

/-- A text that the name of the pattern takes. -/
def IsName (name : Text) : Prop := headIn isAlnum name = true ∧ ∀ c ∈ name, isNameChar c = true

theorem isNameChar_of_isAlnum {c : Nat} (h : isAlnum c = true) : isNameChar c = true := by
  rw [isNameChar, h, Bool.true_or, Bool.true_or, Bool.true_or]

/-- **A pin starts its block**, and ends where its version ends. -/
theorem pin_eq_some {block name version : Text} (h : pin block = some (name, version)) :
    ∃ rest, block = name ++ (lit "==" ++ (version ++ rest)) ∧ IsName name ∧ version ≠ [] ∧
      (∀ c ∈ version, isVersionChar c = true) ∧ headIn isVersionChar rest = false := by
  rw [pin, Option.map_eq_some_iff] at h
  obtain ⟨m, hm, heq⟩ := h
  obtain ⟨x, hx, hm⟩ := first_seq hm
  obtain ⟨-, rfl⟩ := mem_run_atStart.mp hx
  obtain ⟨y, hy, hm⟩ := first_seq hm
  obtain ⟨y', hy', u, hu, rfl⟩ := mem_run_group.mp hy
  obtain ⟨z, hz, hy'⟩ := mem_run_seq.mp hy'
  obtain ⟨c, v, hcv, hc, rfl⟩ := mem_run_cls.mp hz
  obtain ⟨w, v', hw, hchars, -, rfl⟩ := mem_run_rep.mp hy'
  obtain ⟨y, hy, hm⟩ := first_seq hm
  obtain ⟨v'', hv'', rfl⟩ := mem_run_str.mp hy
  rw [seqs, first_group, Option.map_eq_some_iff] at hm
  obtain ⟨z, hz, rfl⟩ := hm
  obtain ⟨version', rest, hversion, hversionChars, hrest, hlength, rfl⟩ := first_rep hz
  have hname : u = c :: w := by
    change block = u ++ v' at hu
    change block = c :: v at hcv
    change v = w ++ v' at hw
    have htext : (c :: w) ++ v' = u ++ v' := by
      rw [← hu, hcv, hw]
      rfl
    exact (List.append_cancel_right htext).symm
  have htake : ∀ x : Cursor, x.ahead = version' ++ rest → x.upTo (x.after version' rest) = version' :=
    fun x hx => upTo_eq hx
  change (u, Cursor.upTo _ _) = (name, version) at heq
  rw [htake _ hversion] at heq
  cases heq
  refine ⟨rest, ?_, ⟨?_, ?_⟩, ?_, hversionChars, hrest⟩
  · change block = _ at hu
    change v' = _ at hv''
    change v'' = _ at hversion
    rw [hu, Cursor.after_ahead, hv'', hversion]
  · rw [hname]
    exact hc
  · rw [hname]
    exact List.forall_mem_cons.mpr ⟨isNameChar_of_isAlnum hc, hchars⟩
  · rintro rfl
    exact absurd hlength (by decide)

/-! ## An export without issues -/

variable {lower : Text → Text} {unicode : Unicode} {exportText : Text}
  {lockedRequirements : List LockedRequirement}

theorem blockIssues_eq_nil {block : Text} :
    blockIssues unicode block = [] ↔ (pin block).isSome ∧ lit "--hash=sha256:" <:+: block := by
  unfold blockIssues
  cases pin block with
  | none => simp
  | some pinned =>
    by_cases hhash : lit "--hash=sha256:" <:+: block
    · simp [hhash]
    · simp [hhash]

/-- What the validator asks of an export. -/
structure ExportsLock (lower : Text → Text) (exportText : Text)
    (lockedRequirements : List LockedRequirement) : Prop where
  noOrphan : (exportBlocksFrom [] (splitlines exportText)).1 = []
  nonempty : (exportBlocksFrom [] (splitlines exportText)).2 ≠ []
  pinned : ∀ block ∈ (exportBlocksFrom [] (splitlines exportText)).2, (pin block).isSome ∧
    lit "--hash=sha256:" <:+: block
  locked : ∀ requirement, requirement ∈ lockedRequirements ↔
    ∃ block ∈ (exportBlocksFrom [] (splitlines exportText)).2,
      exportedRequirement lower block = some requirement

/-- **The validator reports nothing iff the export is that of the lock.** -/
theorem validateHashedExport_eq_nil :
    validateHashedExport lower unicode exportText lockedRequirements = [] ↔
      ExportsLock lower exportText lockedRequirements := by
  unfold validateHashedExport
  dsimp only
  generalize hblocks : exportBlocksFrom [] (splitlines exportText) = scan
  obtain ⟨issues, blocks⟩ := scan
  have hissues : issues ++ blocks.flatMap (blockIssues unicode) = [] ↔ issues = [] ∧
      ∀ block ∈ blocks, (pin block).isSome ∧ lit "--hash=sha256:" <:+: block := by
    simp only [List.append_eq_nil_iff, List.flatMap_eq_nil_iff, blockIssues_eq_nil]
  have hmissing : lockedRequirements.filter (· ∉ blocks.filterMap (exportedRequirement lower)) = [] ↔
      ∀ requirement ∈ lockedRequirements, ∃ block ∈ blocks,
        exportedRequirement lower block = some requirement := by
    simp only [List.filter_eq_nil_iff, decide_eq_true_eq, not_not, List.mem_filterMap]
  have hunexpected : (blocks.filterMap (exportedRequirement lower)).filter (· ∉ lockedRequirements) = [] ↔
      ∀ requirement, (∃ block ∈ blocks, exportedRequirement lower block = some requirement) →
        requirement ∈ lockedRequirements := by
    simp only [List.filter_eq_nil_iff, decide_eq_true_eq, not_not, List.mem_filterMap]
  have hreport : ∀ (requirements : List LockedRequirement) (issue : Text),
      (if requirements = [] then [] else [issue]) = [] ↔ requirements = [] := by
    intro requirements issue
    by_cases h : requirements = []
    · rw [if_pos h]
      exact iff_of_true rfl h
    · rw [if_neg h]
      exact iff_of_false (List.cons_ne_nil _ _) h
  have hlock : ExportsLock lower exportText lockedRequirements ↔ blocks ≠ [] ∧
      (issues = [] ∧ ∀ block ∈ blocks, (pin block).isSome ∧ lit "--hash=sha256:" <:+: block) ∧
      ∀ requirement, requirement ∈ lockedRequirements ↔
        ∃ block ∈ blocks, exportedRequirement lower block = some requirement := by
    constructor
    · rintro ⟨hnone, hnonempty, hpinned, hlocked⟩
      rw [hblocks] at hnone hnonempty hpinned hlocked
      exact ⟨hnonempty, ⟨hnone, hpinned⟩, hlocked⟩
    · rintro ⟨hnonempty, ⟨hnone, hpinned⟩, hlocked⟩
      constructor <;> rw [hblocks] <;> assumption
  rw [hlock, ← hissues]
  by_cases hempty : blocks = []
  · rw [if_pos hempty]
    exact iff_of_false (List.cons_ne_nil _ _) fun h => h.1 hempty
  rw [if_neg hempty]
  by_cases hsome : issues ++ blocks.flatMap (blockIssues unicode) = []
  · rw [if_neg (not_not.mpr hsome), List.append_eq_nil_iff, hreport, hreport, hmissing, hunexpected]
    constructor
    · rintro ⟨hmiss, hunexp⟩
      exact ⟨hempty, hsome, fun requirement => ⟨hmiss requirement, hunexp requirement⟩⟩
    · rintro ⟨-, -, hlocked⟩
      exact ⟨fun requirement => (hlocked requirement).mp, fun requirement => (hlocked requirement).mpr⟩
  · rw [if_pos hsome]
    exact iff_of_false hsome fun h => hsome h.2.1

end ApiTests.Dependencies
