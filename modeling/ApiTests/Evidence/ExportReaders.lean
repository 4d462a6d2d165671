import ApiTests.Dependencies.HashedExport
import ApiTests.Evidence.Reports

/-!
# Two readers of the frozen export

`_validate_hashed_export` (`dependency_contract.py:446-491`) and `parse_lock_export`
(`dependency_evidence.py:172-198`) read one text. They cut it into the same blocks. The first matches a
pin at the start of a block and takes a hash anywhere in it; the second parses the first line with
`packaging`, takes hashes from the lines after it, and accepts a name once.

`ReadsPins` is what they rely on of `packaging` and of `str.lower`.

Results:
* `exportBlocksFrom_eq`: **the blocks are the same.**
* `firstLine_pinned`: the first line of a pinned block starts with the pin.
* **`export_readers_agree`**: on an export without issues the second reader returns the locked
  requirements whose marker is absent or active, iff every entry is one it reads, one is selected, and
  no name is selected twice.
-/

namespace ApiTests.Evidence

open Py Dependencies

/-! ## Blocks -/

/-- **The blocks are the same**, where the validator has no issue with the lines. -/
theorem exportBlocksFrom_eq {lines current : List Text} (h : (exportBlocksFrom current lines).1 = []) :
    ∃ blocks, requirementBlocksFrom current lines = .ok blocks ∧
      (exportBlocksFrom current lines).2 = blocks.map joinLines := by
  induction lines generalizing current with
  | nil =>
    by_cases hcurrent : current = []
    · exact ⟨[], by rw [requirementBlocksFrom, if_pos hcurrent],
        by rw [exportBlocksFrom, if_pos hcurrent]; rfl⟩
    · exact ⟨[current], by rw [requirementBlocksFrom, if_neg hcurrent],
        by rw [exportBlocksFrom, if_neg hcurrent]; rfl⟩
  | cons line lines ih =>
    rw [exportBlocksFrom] at h ⊢
    rw [requirementBlocksFrom]
    by_cases hskip : strip line = [] ∨ headIn (fun c => c = 35) line
    · rw [if_pos hskip] at h
      rw [if_pos hskip, if_pos hskip]
      exact ih h
    rw [if_neg hskip] at h
    rw [if_neg hskip, if_neg hskip]
    by_cases hspace : headIn isSpace line
    · rw [if_pos hspace] at h
      rw [if_pos hspace, if_pos hspace]
      by_cases hcurrent : current = []
      · rw [if_pos hcurrent] at h
        cases h
      · rw [if_neg hcurrent] at h
        rw [if_neg hcurrent, if_neg hcurrent]
        exact ih h
    · rw [if_neg hspace] at h
      rw [if_neg hspace, if_neg hspace]
      rcases hscan : exportBlocksFrom [strip line] lines with ⟨issues, joined⟩
      rw [hscan] at h
      obtain ⟨blocks, hblocks, hjoined⟩ := ih (by rw [hscan]; exact h)
      rw [hscan] at hjoined
      obtain rfl : joined = blocks.map joinLines := hjoined
      rw [hblocks]
      by_cases hcurrent : current = []
      · refine ⟨blocks, ?_, ?_⟩
        · change Except.ok (if current = [] then blocks else current :: blocks) = _
          rw [if_pos hcurrent]
        · change (if current = [] then blocks.map joinLines else _) = _
          rw [if_pos hcurrent]
      · refine ⟨current :: blocks, ?_, ?_⟩
        · change Except.ok (if current = [] then blocks else current :: blocks) = _
          rw [if_neg hcurrent]
        · change (if current = [] then blocks.map joinLines else _) = _
          rw [if_neg hcurrent]
          rfl

/-! ## First lines -/

/-- The first line of a block, as it is parsed. -/
def firstLine (block : List Text) : Text := strip (withoutBackslash (block.headD []))

theorem headIn_of_prefix {p : Nat → Bool} {u v : Text} (h : u <+: v) (hv : headIn p v = false) :
    headIn p u = false := by
  obtain ⟨w, rfl⟩ := h
  cases u with
  | nil => rfl
  | cons c u => exact hv

/-- Whitespace at the end goes up to a text that has none. -/
theorem rstrip_append {u : Text} (h : ∀ c ∈ u, isSpace c = false) (v : Text) :
    rstrip (u ++ v) = u ++ rstrip v := by
  induction v using List.reverseRecOn with
  | nil =>
    rw [List.append_nil]
    refine (List.rdropWhile_eq_self_iff.mpr fun hne => ?_).trans (List.append_nil u).symm
    rw [h _ (List.getLast_mem hne)]
    exact Bool.false_ne_true
  | append_singleton v c ih =>
    unfold rstrip at ih ⊢
    rw [← List.append_assoc, List.rdropWhile_concat, List.rdropWhile_concat]
    by_cases hc : isSpace c = true
    · rw [if_pos hc, if_pos hc, ih]
    · rw [if_neg hc, if_neg hc, List.append_assoc]

theorem strip_append {u : Text} (hu : u ≠ []) (h : ∀ c ∈ u, isSpace c = false) (v : Text) :
    strip (u ++ v) = u ++ rstrip v := by
  have hlstrip : lstrip (u ++ v) = u ++ v := by
    obtain ⟨c, u, rfl⟩ := List.exists_cons_of_ne_nil hu
    exact List.dropWhile_cons_of_neg (by simp [h c List.mem_cons_self])
  rw [strip, hlstrip, rstrip_append h]

theorem withoutBackslash_append {u : Text} (hu : 92 ∉ u) (v : Text) :
    withoutBackslash (u ++ v) = u ++ withoutBackslash v := by
  unfold withoutBackslash
  by_cases hv : v = []
  · have hlast : u.getLast? ≠ some 92 := fun h => hu (List.mem_of_getLast? h)
    rw [hv, List.append_nil, if_neg hlast]
    exact (List.append_nil u).symm
  · rw [List.getLast?_append_of_ne_nil _ hv, List.dropLast_append_of_ne_nil hv]
    split_ifs
    · rfl
    · rfl

/-- Two texts that share a prefix without separators, up to a separator. -/
theorem prefix_of_append_eq {u v first tail : Text} (hu : 32 ∉ u)
    (htail : tail = [] ∨ headIn (fun c => c = 32) tail) (h : u ++ v = first ++ tail) :
    ∃ w, first = u ++ w ∧ v = w ++ tail := by
  rcases List.append_eq_append_iff.mp h with ⟨w, hfirst, hv⟩ | ⟨w, hu', htail'⟩
  · exact ⟨w, hfirst, hv⟩
  · have hw : w = [] := by
      cases w with
      | nil => rfl
      | cons c w =>
        rcases htail with hnil | hspace
        · rw [htail'] at hnil
          cases hnil
        · rw [htail'] at hspace
          have hc : c = 32 := of_decide_eq_true hspace
          exact absurd (hu' ▸ List.mem_append_right _ (hc ▸ List.mem_cons_self)) hu
    rw [hw, List.append_nil] at hu'
    rw [hw, List.nil_append] at htail'
    exact ⟨[], by rw [hu', List.append_nil], htail'.symm⟩

theorem joinLines_cons (first : Text) (lines : List Text) :
    ∃ tail, joinLines (first :: lines) = first ++ tail ∧
      (tail = [] ∨ headIn (fun c => c = 32) tail) := by
  cases lines with
  | nil => exact ⟨[], by rw [joinLines, List.intercalate_singleton, List.append_nil], .inl rfl⟩
  | cons line lines =>
    refine ⟨lit " " ++ joinLines (line :: lines), ?_, .inr rfl⟩
    rw [joinLines, List.intercalate_cons_cons, List.append_assoc]
    rfl

theorem isVersionChar_of_isNameChar {c : Nat} (h : Dependencies.isNameChar c = true) :
    isVersionChar c = true := by
  simp only [Dependencies.isNameChar, isAlnum, isAsciiLetter, isDigit, Bool.or_eq_true,
    Bool.and_eq_true, decide_eq_true_eq] at h
  simp only [isVersionChar, isSpace, Bool.and_eq_true, Bool.not_eq_true', Bool.or_eq_false_iff,
    Bool.and_eq_false_iff, decide_eq_true_eq, decide_eq_false_iff_not, beq_eq_false_iff_ne]
  omega

theorem isVersionChar_spec {c : Nat} (h : isVersionChar c = true) : isSpace c = false ∧ c ≠ 92 := by
  simp only [isVersionChar, Bool.and_eq_true, decide_eq_true_eq, Bool.not_eq_true'] at h
  exact ⟨h.2, h.1.2⟩

/-- **The first line of a pinned block starts with the pin**, and goes on behind its version. -/
theorem firstLine_pinned {block : List Text} {name version : Text}
    (h : pin (joinLines block) = some (name, version)) :
    ∃ rest, firstLine block = name ++ (lit "==" ++ (version ++ rest)) ∧
      headIn isVersionChar rest = false := by
  obtain ⟨rest, hjoined, hname, -, hversion, hrest⟩ := pin_eq_some h
  have hpin : ∀ c ∈ name ++ (lit "==" ++ version), isVersionChar c = true := by
    intro c hc
    rcases List.mem_append.mp hc with hc | hc
    · exact isVersionChar_of_isNameChar (hname.2 c hc)
    · rcases List.mem_append.mp hc with hc | hc
      · exact (by decide : ∀ c ∈ lit "==", isVersionChar c = true) c hc
      · exact hversion c hc
  have hne : name ++ (lit "==" ++ version) ≠ [] := by
    intro hnil
    cases (List.append_eq_nil_iff.mp (List.append_eq_nil_iff.mp hnil).2).1
  have hspace : ∀ c ∈ name ++ (lit "==" ++ version), isSpace c = false :=
    fun c hc => (isVersionChar_spec (hpin c hc)).1
  cases block with
  | nil =>
    rw [joinLines, List.intercalate_nil] at hjoined
    exact absurd (List.append_eq_nil_iff.mp hjoined.symm).2 (List.cons_ne_nil _ _)
  | cons first lines =>
    obtain ⟨tail, htail, hsep⟩ := joinLines_cons first lines
    obtain ⟨w, hfirst, hw⟩ := prefix_of_append_eq (u := name ++ (lit "==" ++ version)) (v := rest)
      (fun h32 => absurd (hspace 32 h32) (by decide)) hsep (by
        rw [← htail, hjoined, List.append_assoc, List.append_assoc])
    refine ⟨rstrip (withoutBackslash w), ?_, ?_⟩
    · change strip (withoutBackslash first) = _
      rw [hfirst, withoutBackslash_append fun h92 => (isVersionChar_spec (hpin 92 h92)).2 rfl,
        strip_append hne hspace, List.append_assoc, List.append_assoc]
    · have hprefix : rstrip (withoutBackslash w) <+: rest := by
        have hstrip : rstrip (withoutBackslash w) <+: withoutBackslash w := List.rdropWhile_prefix _ _
        have hslash : withoutBackslash w <+: w := by
          unfold withoutBackslash
          split_ifs
          · exact List.dropLast_prefix w
          · exact List.prefix_rfl
        rw [hw]
        exact (hstrip.trans hslash).trans (List.prefix_append w tail)
      exact headIn_of_prefix hprefix hrest

/-! ## Entries -/

/-- A release version, `[0-9]+(\.[0-9]+)*`. -/
def IsRelease (version : Text) : Prop :=
  ∀ part ∈ version.splitOn 46, part ≠ [] ∧ ∀ c ∈ part, isDigit c = true

instance decidableIsRelease (version : Text) : Decidable (IsRelease version) :=
  inferInstanceAs (Decidable (∀ part ∈ version.splitOn 46, part ≠ [] ∧ ∀ c ∈ part, isDigit c = true))

/-- What the readers rely on: `Requirement` keeps the name and the pin of a line it parses, and
`str.lower` is that of ASCII. -/
structure ReadsPins (library : Library) : Prop where
  requirement : ∀ name version rest requirement, IsName name → IsRelease version →
    headIn isVersionChar rest = false →
    library.requirement (name ++ (lit "==" ++ (version ++ rest))) = .ok requirement →
    requirement.name = name ∧ ⟨lit "==", version⟩ ∈ requirement.specifiers
  lower : ∀ t, (∀ c ∈ t, c < 128) → library.lower t = t.map lowerAscii

section Entries

variable (library : Library)

/-- The marker of an entry is absent or active. -/
def markerSelects (block : List Text) : Bool :=
  match library.requirement (firstLine block) with
  | .error _ => false
  | .ok requirement =>
    match requirement.marker with
    | none => true
    | some (.ok active) => active
    | some (.error _) => false

/-- An entry as uv writes it: a requirement with one specifier on its first line, whose marker can be
evaluated, and a hash on a line after it. -/
structure Readable (block : List Text) : Prop where
  hash : ∃ line ∈ block.drop 1, lit "--hash=sha256:" <:+: line
  requirement : ∃ requirement specifier, library.requirement (firstLine block) = .ok requirement ∧
    requirement.specifiers = [specifier] ∧
    ∀ evaluated, requirement.marker = some evaluated → ∃ active, evaluated = .ok active

/-- The requirements of the entries whose marker is absent or active. -/
def selectedRequirements (blocks : List (List Text)) : List LockedRequirement :=
  (blocks.filter (markerSelects library)).filterMap fun block =>
    exportedRequirement library.lower (joinLines block)

end Entries

variable {library : Library}

theorem IsRelease.noStar {version : Text} (h : IsRelease version) : 42 ∉ version := by
  intro hstar
  have hjoin : [46].intercalate (version.splitOn 46) = version := List.intercalate_splitOn 46
  rw [← hjoin] at hstar
  rcases mem_of_mem_intercalate hstar with hsep | ⟨part, hpart, hmem⟩
  · exact absurd hsep (by decide)
  · exact absurd ((h part hpart).2 42 hmem) (by decide)

/-- **A pinned entry is selected iff it is readable** and its marker is absent or active. -/
theorem selectRequirement_pinned (hpins : ReadsPins library) {block : List Text} {name version : Text}
    (hpin : pin (joinLines block) = some (name, version)) (hrelease : IsRelease version)
    {selected : Option (Text × Text)} :
    selectRequirement library block = .ok selected ↔ Readable library block ∧
      selected = if markerSelects library block then pin (joinLines block) else none := by
  have hname : IsName name := by
    obtain ⟨-, -, hname, -⟩ := pin_eq_some hpin
    exact hname
  obtain ⟨rest, hfirst, hrest⟩ := firstLine_pinned hpin
  have hline : strip (withoutBackslash (block.headD [])) = firstLine block := rfl
  unfold selectRequirement
  simp only [hline]
  by_cases hhash : ∃ line ∈ block.drop 1, lit "--hash=sha256:" <:+: line
  swap
  · rw [if_pos hhash]
    exact iff_of_false evidenceError_ne_ok fun h => hhash h.1.hash
  rw [if_neg (not_not.mpr hhash)]
  unfold markerSelects
  cases hrequirement : library.requirement (firstLine block) with
  | error failure =>
    have hunreadable : ¬ Readable library block := by
      intro hreadable
      obtain ⟨requirement, specifier, hparsed, -⟩ := hreadable.requirement
      rw [hrequirement] at hparsed
      cases hparsed
    cases failure with
    | invalidRequirement => exact iff_of_false evidenceError_ne_ok fun h => hunreadable h.1
    | other => exact iff_of_false (fun h => (nomatch h)) fun h => hunreadable h.1
  | ok requirement =>
    obtain ⟨hrname, hspecifier⟩ := hpins.requirement name version rest requirement hname hrelease hrest
      (by rw [← hfirst, hrequirement])
    have hreadable : Readable library block ↔ requirement.specifiers = [⟨lit "==", version⟩] ∧
        ∀ evaluated, requirement.marker = some evaluated → ∃ active, evaluated = .ok active := by
      constructor
      · rintro ⟨-, parsed, specifier, hparsed, hone, hmarker⟩
        rw [hrequirement, Except.ok.injEq] at hparsed
        subst hparsed
        rw [hone, List.mem_singleton] at hspecifier
        exact ⟨hspecifier ▸ hone, hmarker⟩
      · rintro ⟨hone, hmarker⟩
        exact ⟨hhash, requirement, _, hrequirement, hone, hmarker⟩
    rw [hreadable, hpin]
    obtain ⟨rname, specifiers, marker⟩ := requirement
    dsimp only at hrname hspecifier ⊢
    subst hrname
    rcases specifiers with - | ⟨specifier, - | ⟨other, more⟩⟩
    · cases hspecifier
    · rw [List.mem_singleton] at hspecifier
      subst hspecifier
      have hpinned : ¬ (lit "==" ≠ lit "==" ∨ 42 ∈ version) :=
        fun h => h.elim (fun hne => hne rfl) hrelease.noStar
      dsimp only
      rw [if_neg hpinned]
      cases marker with
      | none => simp [eq_comm]
      | some evaluated =>
        cases evaluated with
        | error failure => simp [bind, Except.bind]
        | ok active => simp [bind, Except.bind, eq_comm]
    · refine iff_of_false evidenceError_ne_ok fun h => ?_
      cases h.1.1

/-! ## The two readers -/

/-- A requirement as a record of the evidence. -/
def recordOf (requirement : LockedRequirement) : PackageRecord := ⟨requirement.name, requirement.version⟩

theorem recordOf_injective : Function.Injective recordOf := by
  rintro ⟨name, version⟩ ⟨name', version'⟩ h
  cases h
  rfl

/-- A pin has no whitespace around its parts. -/
theorem normalized_pin {block name version : Text} (h : pin block = some (name, version)) :
    normalized library.lower (name, version) = ⟨canonicalizeName library.lower name, version⟩ := by
  obtain ⟨-, -, hname, -, hversion, -⟩ := pin_eq_some h
  have hnameStrip : strip name = name :=
    strip_eq_self fun c hc => (isVersionChar_spec (isVersionChar_of_isNameChar (hname.2 c hc))).1
  have hversionStrip : strip version = version :=
    strip_eq_self fun c hc => (isVersionChar_spec (hversion c hc)).1
  unfold normalized
  rw [hnameStrip, hversionStrip]

theorem canonicalizeName_ne_nil (hpins : ReadsPins library) {name : Text} (hname : IsName name) :
    canonicalizeName library.lower name ≠ [] := by
  have hconsumes : Re.Consumes (Re.rep 1 isSeparator) := Re.consumes_rep Nat.one_ne_zero
  have hne : name ≠ [] := by
    rintro rfl
    cases hname.1
  have hascii : ∀ c ∈ name, c < 128 := by
    intro c hc
    have hchar := hname.2 c hc
    simp only [Dependencies.isNameChar, isAlnum, isAsciiLetter, isDigit, Bool.or_eq_true,
      Bool.and_eq_true, decide_eq_true_eq] at hchar
    omega
  unfold canonicalizeName
  rw [hpins.lower _ (Re.forall_mem_sub hconsumes hascii fun _ => by decide), Ne, List.map_eq_nil_iff]
  exact Re.sub_ne_nil hconsumes hne fun _ => List.cons_ne_nil _ _

/-- The records that are selected, normalized. -/
theorem map_normalized_selected (library : Library) (blocks : List (List Text)) :
    ((blocks.map fun block => if markerSelects library block then pin (joinLines block)
        else none).filterMap id).map (normalized library.lower) =
      (selectedRequirements library blocks).map recordOf := by
  induction blocks with
  | nil => rfl
  | cons block blocks ih =>
    unfold selectedRequirements at ih ⊢
    rw [List.map_cons]
    cases hselects : markerSelects library block with
    | false =>
      rw [List.filter_cons_of_neg (by rw [hselects]; exact Bool.false_ne_true)]
      exact ih
    | true =>
      rw [List.filter_cons_of_pos hselects, if_pos rfl]
      cases hpin : pin (joinLines block) with
      | none =>
        rw [List.filterMap_cons_none rfl, List.filterMap_cons_none (by rw [exportedRequirement, hpin]; rfl)]
        exact ih
      | some pinned =>
        obtain ⟨name, version⟩ := pinned
        have hexported : exportedRequirement library.lower (joinLines block) =
            some ⟨canonicalizeName library.lower name, version⟩ := by
          rw [exportedRequirement, hpin]
          rfl
        rw [List.filterMap_cons_some (f := id) (b := (name, version)) rfl,
          List.filterMap_cons_some (f := fun block => exportedRequirement library.lower (joinLines block))
            hexported,
          List.map_cons, List.map_cons, ih, normalized_pin hpin]
        rfl

section Pinned

variable {raw : Text} {blocks : List (List Text)} (hpins : ReadsPins library)
  (hpin : ∀ block ∈ blocks, ∃ name version, pin (joinLines block) = some (name, version) ∧
    IsRelease version)

include hpins

/-- The pins of the selected entries have a name and a version. -/
theorem complete_selected : ∀ record ∈ (blocks.map fun block => if markerSelects library block
    then pin (joinLines block) else none).filterMap id, Complete library.lower record := by
  rintro ⟨name, version⟩ hrecord
  simp only [List.mem_filterMap, List.mem_map, id] at hrecord
  obtain ⟨_, ⟨block, hblock, rfl⟩, hrecord⟩ := hrecord
  split_ifs at hrecord
  obtain ⟨-, -, hname, hne, -⟩ := pin_eq_some hrecord
  rw [Complete, normalized_pin hrecord]
  exact ⟨canonicalizeName_ne_nil hpins hname, hne⟩

include hpin

/-- **What the second reader makes of entries with a pin each.** -/
theorem parseLockExport_eq_ok (hblocks : requirementBlocks raw = .ok blocks)
    (packages : List PackageRecord) : parseLockExport library raw = .ok packages ↔
      (∀ block ∈ blocks, Readable library block) ∧ selectedRequirements library blocks ≠ [] ∧
        ((selectedRequirements library blocks).map LockedRequirement.name).Nodup ∧
        packages = sortBy PackageRecord.name ((selectedRequirements library blocks).map recordOf) := by
  have hread : ∀ selected, readAll (selectRequirement library) blocks = .ok selected ↔
      (∀ block ∈ blocks, Readable library block) ∧ selected = blocks.map fun block =>
        if markerSelects library block then pin (joinLines block) else none := by
    intro selected
    refine readAll_eq_map fun block hblock b => ?_
    obtain ⟨name, version, hpin, hversion⟩ := hpin block hblock
    exact selectRequirement_pinned hpins hpin hversion
  have hmap := map_normalized_selected library blocks
  have hnil : (blocks.map fun block => if markerSelects library block then pin (joinLines block)
      else none).filterMap id = [] ↔ selectedRequirements library blocks = [] := by
    rw [← List.map_eq_nil_iff (f := normalized library.lower), hmap, List.map_eq_nil_iff]
  have hnames : ((selectedRequirements library blocks).map recordOf).map PackageRecord.name =
      (selectedRequirements library blocks).map LockedRequirement.name := by
    rw [List.map_map]
    rfl
  rw [parseLockExport, hblocks]
  change (readAll (selectRequirement library) blocks >>= _) = _ ↔ _
  rw [bind_eq_ok_iff]
  constructor
  · rintro ⟨selected, hselected, h⟩
    obtain ⟨hreadable, rfl⟩ := (hread selected).mp hselected
    obtain ⟨hsome, h⟩ := raiseWhen_bind_eq_ok.mp h
    obtain ⟨-, hnodup, rfl⟩ := normalizePackageRecords_eq_ok.mp h
    rw [hmap, hnames] at hnodup
    rw [hmap]
    exact ⟨hreadable, fun h => hsome (hnil.mpr h), hnodup, rfl⟩
  · rintro ⟨hreadable, hsome, hnodup, rfl⟩
    refine ⟨_, (hread _).mpr ⟨hreadable, rfl⟩, raiseWhen_bind_eq_ok.mpr ⟨fun h => hsome (hnil.mp h), ?_⟩⟩
    refine normalizePackageRecords_eq_ok.mpr ⟨complete_selected hpins, ?_, ?_⟩
    · rw [hmap, hnames]
      exact hnodup
    · rw [hmap]

end Pinned

/-- **The two readers agree.** They cut an export without issues into the same entries, and the second
returns, each once, the locked requirements whose exported marker is absent or active; and it returns
iff it can read every entry, some entry is selected, and no two selected entries have one name. -/
theorem export_readers_agree (library : Library) (raw : Text) (lockedRequirements : List LockedRequirement)
    (hpins : ReadsPins library) (hrelease : ∀ requirement ∈ lockedRequirements, IsRelease requirement.version)
    (hvalid : validateHashedExport library.lower library.unicode raw lockedRequirements = []) :
    ∃ blocks, requirementBlocks raw = .ok blocks ∧
      (exportBlocksFrom [] (splitlines raw)).2 = blocks.map joinLines ∧
      ((∃ packages, parseLockExport library raw = .ok packages) ↔
        (∀ block ∈ blocks, Readable library block) ∧ selectedRequirements library blocks ≠ [] ∧
          ((selectedRequirements library blocks).map LockedRequirement.name).Nodup) ∧
      ∀ packages, parseLockExport library raw = .ok packages →
        (packages.map PackageRecord.name).Nodup ∧ ∀ requirement, recordOf requirement ∈ packages ↔
          requirement ∈ lockedRequirements ∧ requirement ∈ selectedRequirements library blocks := by
  obtain ⟨hnoOrphan, -, hpinned, hlocked⟩ := validateHashedExport_eq_nil.mp hvalid
  obtain ⟨blocks, hblocks, hjoined⟩ := exportBlocksFrom_eq hnoOrphan
  rw [hjoined] at hpinned hlocked
  have hpin : ∀ block ∈ blocks, ∃ name version, pin (joinLines block) = some (name, version) ∧
      IsRelease version := by
    intro block hblock
    obtain ⟨⟨name, version⟩, hpin⟩ := Option.isSome_iff_exists.mp
      (hpinned (joinLines block) (List.mem_map_of_mem hblock)).1
    refine ⟨name, version, hpin, hrelease ⟨canonicalizeName library.lower name, version⟩ ?_⟩
    exact (hlocked _).mpr ⟨joinLines block, List.mem_map_of_mem hblock, by rw [exportedRequirement, hpin]; rfl⟩
  have hblocks : requirementBlocks raw = .ok blocks := hblocks
  have hreturns := parseLockExport_eq_ok hpins hpin hblocks
  refine ⟨blocks, hblocks, hjoined, ?_, fun packages hpackages => ?_⟩
  · constructor
    · rintro ⟨packages, hpackages⟩
      obtain ⟨hreadable, hsome, hnodup, -⟩ := (hreturns packages).mp hpackages
      exact ⟨hreadable, hsome, hnodup⟩
    · rintro ⟨hreadable, hsome, hnodup⟩
      exact ⟨_, (hreturns _).mpr ⟨hreadable, hsome, hnodup, rfl⟩⟩
  · refine ⟨parseLockExport_nodup hpackages, fun requirement => ?_⟩
    obtain ⟨-, -, -, rfl⟩ := (hreturns packages).mp hpackages
    rw [mem_sortBy, List.mem_map_of_injective recordOf_injective]
    refine (and_iff_right_of_imp fun hselected => (hlocked requirement).mpr ?_).symm
    obtain ⟨block, hblock, hexported⟩ := List.mem_filterMap.mp hselected
    exact ⟨joinLines block, List.mem_map_of_mem (List.mem_filter.mp hblock).1, hexported⟩

/-! ## Two exports -/

theorem IsRelease.isVersionChar {version : Text} (h : IsRelease version) :
    ∀ c ∈ version, isVersionChar c = true := by
  have hdigit : ∀ c, isDigit c = true → Dependencies.isNameChar c = true := by
    intro c hc
    rw [Dependencies.isNameChar, isAlnum, hc, Bool.or_true, Bool.true_or, Bool.true_or, Bool.true_or]
  have hjoin : [46].intercalate (version.splitOn 46) = version := List.intercalate_splitOn 46
  intro c hc
  rw [← hjoin] at hc
  rcases mem_of_mem_intercalate hc with hsep | ⟨part, hpart, hmem⟩
  · exact (by decide : ∀ c ∈ [46], Dependencies.isVersionChar c = true) c hsep
  · exact isVersionChar_of_isNameChar (hdigit c ((h part hpart).2 c hmem))

/-- A line has one pin. -/
theorem pin_unique {name version rest name' version' rest' : Text} (hname : IsName name)
    (hversion : ∀ c ∈ version, isVersionChar c = true) (hrest : headIn isVersionChar rest = false)
    (hname' : IsName name') (hversion' : ∀ c ∈ version', isVersionChar c = true)
    (hrest' : headIn isVersionChar rest' = false)
    (h : name ++ (lit "==" ++ (version ++ rest)) = name' ++ (lit "==" ++ (version' ++ rest'))) :
    name = name' ∧ version = version' := by
  have hequals : ∀ t, headIn Dependencies.isNameChar (lit "==" ++ t) = false := fun _ => rfl
  obtain ⟨hnames, htail⟩ := Re.append_inj_of_stop hname.2 (hequals _) hname'.2 (hequals _) h
  exact ⟨hnames, (Re.append_inj_of_stop hversion hrest hversion' hrest'
    (List.append_cancel_left htail)).1⟩

/-- The first line of an entry, with a marker. -/
def pinnedLine (name version marker : String) : Text :=
  lit name ++ (lit "==" ++ (lit version ++ lit marker))

/-- A line of `attrs` with a marker. -/
def attrsLine (marker : String) : Text := pinnedLine "attrs" "25.4.0" marker

/-- `packaging` on these lines, under Linux. -/
def attrsLibrary : Library where
  toReader := editableReader
  repr _ := none
  requirement t :=
    if t = attrsLine "" then .ok ⟨lit "attrs", [⟨lit "==", lit "25.4.0"⟩], none⟩
    else if t = attrsLine " ; sys_platform == 'linux'" then
      .ok ⟨lit "attrs", [⟨lit "==", lit "25.4.0"⟩], some (.ok true)⟩
    else if t = pinnedLine "colorama" "0.4.6" " ; sys_platform == 'win32'" then
      .ok ⟨lit "colorama", [⟨lit "==", lit "0.4.6"⟩], some (.ok false)⟩
    else if t = pinnedLine "idna" "3.10" "" then .ok ⟨lit "idna", [⟨lit "==", lit "3.10"⟩], none⟩
    else .error .invalidRequirement

/-- A line is parsed as its pin, if it is one of these. -/
theorem pinnedLine_eq {name version rest : Text} {name' version' marker : String} (hname : IsName name)
    (hversion : IsRelease version) (hrest : headIn isVersionChar rest = false)
    (hname' : IsName (lit name')) (hversion' : IsRelease (lit version'))
    (hmarker : headIn isVersionChar (lit marker) = false)
    (h : name ++ (lit "==" ++ (version ++ rest)) = pinnedLine name' version' marker) :
    lit name' = name ∧ ⟨lit "==", version⟩ ∈ [(⟨lit "==", lit version'⟩ : Specifier)] := by
  obtain ⟨rfl, rfl⟩ := pin_unique hname hversion.isVersionChar hrest hname' hversion'.isVersionChar
    hmarker h
  exact ⟨rfl, List.mem_singleton_self _⟩

theorem attrsLibrary_readsPins : ReadsPins attrsLibrary where
  requirement := by
    intro name version rest requirement hname hversion hrest h
    have hattrs : IsName (lit "attrs") ∧ IsRelease (lit "25.4.0") := ⟨⟨rfl, by decide⟩, by decide⟩
    change (if _ then _ else if _ then _ else if _ then _ else if _ then _ else _) = _ at h
    split_ifs at h with hplain hlinux hcolorama hidna
    · cases h
      exact pinnedLine_eq hname hversion hrest hattrs.1 hattrs.2 rfl hplain
    · cases h
      exact pinnedLine_eq hname hversion hrest hattrs.1 hattrs.2 rfl hlinux
    · cases h
      exact pinnedLine_eq hname hversion hrest ⟨rfl, by decide⟩ (by decide) rfl hcolorama
    · cases h
      exact pinnedLine_eq hname hversion hrest ⟨rfl, by decide⟩ (by decide) rfl hidna
  lower _ _ := rfl

def attrsRequirement : LockedRequirement := ⟨lit "attrs", lit "25.4.0"⟩

/-- An entry that is active, one that is not, with a comment behind it, and one without a marker and
with two hashes. -/
def threeEntries : Text :=
  attrsLine " ; sys_platform == 'linux' \\\n    --hash=sha256:0a\n" ++
    pinnedLine "colorama" "0.4.6" " ; sys_platform == 'win32' \\\n    --hash=sha256:0b\n    # via click\n" ++
    pinnedLine "idna" "3.10" " \\\n    --hash=sha256:0c \\\n    --hash=sha256:0d\n"

/-- What the lock has for these entries. -/
def threeRequirements : List LockedRequirement :=
  [attrsRequirement, ⟨lit "colorama", lit "0.4.6"⟩, ⟨lit "idna", lit "3.10"⟩]

/-- Of the three entries the second reader returns the two that apply. -/
theorem export_readers_agree_example :
    parseLockExport attrsLibrary threeEntries =
        .ok [⟨lit "attrs", lit "25.4.0"⟩, ⟨lit "idna", lit "3.10"⟩] ∧
      ∃ blocks, requirementBlocks threeEntries = .ok blocks ∧
        (exportBlocksFrom [] (splitlines threeEntries)).2 = blocks.map joinLines ∧
        ((∃ packages, parseLockExport attrsLibrary threeEntries = .ok packages) ↔
          (∀ block ∈ blocks, Readable attrsLibrary block) ∧
            selectedRequirements attrsLibrary blocks ≠ [] ∧
            ((selectedRequirements attrsLibrary blocks).map LockedRequirement.name).Nodup) ∧
        ∀ packages, parseLockExport attrsLibrary threeEntries = .ok packages →
          (packages.map PackageRecord.name).Nodup ∧ ∀ requirement, recordOf requirement ∈ packages ↔
            requirement ∈ threeRequirements ∧
              requirement ∈ selectedRequirements attrsLibrary blocks :=
  ⟨by decide +kernel, export_readers_agree attrsLibrary threeEntries threeRequirements
    attrsLibrary_readsPins (by decide) (by decide +kernel)⟩

/-- An entry given twice, a hash on the first line, a line that is no requirement: the validator has no
issue with them, and the second reader takes none. -/
theorem export_readers_differ_example :
    let twice := attrsLine " ; sys_platform == 'linux' \\\n    --hash=sha256:0a\n"
    let sameLine := attrsLine " --hash=sha256:0a\n"
    let noRequirement := attrsLine " latest \\\n    --hash=sha256:0a\n"
    (validateHashedExport attrsLibrary.lower attrsLibrary.unicode (twice ++ twice)
        [attrsRequirement] = [] ∧
      parseLockExport attrsLibrary (twice ++ twice) = evidenceError
        (lit "selected lock export contains duplicate normalized package name(s): attrs")) ∧
    (validateHashedExport attrsLibrary.lower attrsLibrary.unicode sameLine [attrsRequirement] = [] ∧
      parseLockExport attrsLibrary sameLine = evidenceError
        (lit "lock export requirement has no SHA-256 hash: attrs==25.4.0 --hash=sha256:0a")) ∧
    (validateHashedExport attrsLibrary.lower attrsLibrary.unicode noRequirement [attrsRequirement] = [] ∧
      parseLockExport attrsLibrary noRequirement = evidenceError
        (lit "lock export contains an invalid requirement: 'attrs==25.4.0 latest'")) := by
  decide +kernel

end ApiTests.Evidence
