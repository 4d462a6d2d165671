import ApiTests.Evidence.Generate

/-!
# Completed evidence is true

A run that returns has read reports of one package set, and its output directory holds the outputs and
their hashes. The certificate is written after the last file it describes and checked after it, so
nothing but the last steps decides what the directory holds, and nothing but the stages before decides
what the reports say.

Results:
* `exportLock_returns` and its like: what a stage that returns has run and read.
* `complete_returns`: **the directory holds the outputs, and their hashes are recorded.**
* `generateDependencyEvidence_certified`: **completed evidence is true.**
-/

namespace ApiTests.Evidence

open Py Program Dependencies

variable {world : World} {arguments : Arguments} {run run' : Run}
  {l : List (Command × CompletedProcess)} {d : Directory}

/-! ## Steps that run no command -/

/-- A predicate that does not look at the moment. -/
def Timeless (P : Run → Prop) : Prop := ∀ run clock, P run → P { run with clock }

/-- A predicate that looks neither at the moment nor at the directory. -/
structure Quiet (P : Run → Prop) : Prop where
  timeless : Timeless P
  directory : ∀ run directory, P run → P { run with directory }

section Timeless

variable {P : Run → Prop} (hP : Timeless P)

include hP

theorem tick_keeps : Keeps P tick :=
  Keeps.bind Keeps.get fun _ => Keeps.bind (Keeps.modify fun run h => hP run _ h) fun _ => Keeps.pure

theorem fileOperation_keeps : Keeps P (fileOperation world) := by
  refine Keeps.bind (tick_keeps hP) fun moment => ?_
  cases world.fails moment with
  | some message => exact Keeps.raise
  | none => exact Keeps.pure

omit hP in
theorem entryAt_keeps {name : Text} : Keeps P (entryAt name) :=
  Keeps.bind Keeps.get fun _ => Keeps.pure

theorem readBytes_keeps {name : Text} : Keeps P (readBytes world name) := by
  refine Keeps.bind (fileOperation_keeps hP) fun _ => Keeps.bind entryAt_keeps fun entry => ?_
  cases entry with
  | none => exact Keeps.raise
  | some entry =>
    cases entry with
    | file bytes => exact Keeps.pure
    | directory => exact Keeps.raise

theorem inputSha256_keeps {name : Text} : Keeps P (inputSha256 world arguments name) :=
  Keeps.bind (tick_keeps hP) fun _ => Keeps.bind Keeps.lift fun _ => Keeps.pure

theorem metadataDocument_keeps {contract : DependencyContract} {packageCount : Nat} :
    Keeps P (metadataDocument world arguments contract packageCount) := by
  have hinput : ∀ name, Keeps P (inputSha256 world arguments name) := fun _ => inputSha256_keeps hP
  refine Keeps.bind (tick_keeps hP) fun moment => Keeps.bind (hinput _) fun pin => ?_
  exact Keeps.bind (hinput _) fun manifest => Keeps.bind (hinput _) fun lock => Keeps.pure

theorem emptyFiles_keeps : ∀ {names : List Text}, Keeps P (emptyFiles world names)
  | [] => Keeps.pure
  | _ :: _ => Keeps.bind (readBytes_keeps hP) fun _ => Keeps.bind emptyFiles_keeps fun _ => Keeps.pure

theorem validateCompleteOutputs_keeps {expected : List Text} :
    Keeps P (validateCompleteOutputs world expected) := by
  refine Keeps.bind (fileOperation_keeps hP) fun _ => Keeps.bind Keeps.get fun _ => ?_
  exact Keeps.bind (emptyFiles_keeps hP) fun _ => Keeps.lift

theorem hashOutputs_keeps : ∀ {names : List Text}, Keeps P (hashOutputs world names)
  | [] => Keeps.pure
  | _ :: _ => Keeps.bind (Keeps.bind (readBytes_keeps hP) fun _ => Keeps.pure) fun _ =>
      Keeps.bind hashOutputs_keeps fun _ => Keeps.pure

end Timeless

section Quiet

variable {P : Run → Prop} (hP : Quiet P)

include hP

theorem setEntry_keeps {name : Text} {entry : Entry} : Keeps P (setEntry name entry) :=
  Keeps.modify fun run h => hP.directory run _ h

theorem unlink_keeps {name : Text} : Keeps P (unlink world name) := by
  refine Keeps.bind (fileOperation_keeps hP.timeless) fun _ => Keeps.bind entryAt_keeps fun entry => ?_
  cases entry with
  | none => exact Keeps.modify fun run h => hP.directory run _ h
  | some entry =>
    cases entry with
    | file bytes => exact Keeps.modify fun run h => hP.directory run _ h
    | directory => exact Keeps.raise

theorem putText_keeps {name text : Text} : Keeps P (putText world name text) := by
  refine Keeps.bind (setEntry_keeps hP) fun _ => ?_
  cases encodeUtf8 text with
  | none => exact Keeps.raise
  | some bytes => exact Keeps.bind (fileOperation_keeps hP.timeless) fun _ => setEntry_keeps hP

theorem writeText_keeps {name text : Text} : Keeps P (writeText world name text) := by
  refine Keeps.bind (fileOperation_keeps hP.timeless) fun _ => Keeps.bind entryAt_keeps fun entry => ?_
  cases entry with
  | none => exact putText_keeps hP
  | some entry =>
    cases entry with
    | file bytes => exact putText_keeps hP
    | directory => exact Keeps.raise

theorem writeJson_keeps {name : Text} {document : Json PyNumber} :
    Keeps P (writeJson world name document) :=
  Keeps.bind Keeps.lift fun _ => writeText_keeps hP

theorem writeDiagnostics_keeps {status stage : Text} {error : Option Text} :
    Keeps P (writeDiagnostics world status stage error) :=
  Keeps.bind (tick_keeps hP.timeless) fun _ => writeJson_keeps hP

theorem unlinkAll_keeps : ∀ {names : List Text}, Keeps P (unlinkAll world names)
  | [] => Keeps.pure
  | _ :: _ => Keeps.bind (unlink_keeps hP) fun _ => unlinkAll_keeps

end Quiet

/-- A run with this directory that has run these commands. -/
def At (d : Directory) (l : List (Command × CompletedProcess)) (run : Run) : Prop :=
  run.directory = d ∧ run.ran = l

/-- A run that has run these commands. -/
def Ran (l : List (Command × CompletedProcess)) (run : Run) : Prop := run.ran = l

theorem at_timeless : Timeless (At d l) := fun _ _ h => h

theorem ran_quiet : Quiet (Ran l) := ⟨fun _ _ h => h, fun _ _ h => h⟩

theorem setStage_ran {stage : Text} : Keeps (Ran l) (setStage stage) := Keeps.modify fun _ h => h

/-! ## The stages -/

variable {contract : DependencyContract}

theorem ran_of_keeps {α : Type} {x : Generator α} {a : α} (hx : Keeps (Ran run.ran) x)
    (h : x run = (.ok a, run')) : run'.ran = run.ran :=
  Triple.returns hx rfl h

theorem runCommand_returns {command : Command} {result : CompletedProcess}
    (h : runCommand world command run = (.ok result, run')) :
    run'.ran = run.ran ++ [(command, result)] := by
  obtain ⟨moment, run₁, htick, h⟩ := bind_returns.mp h
  obtain ⟨answer, run₂, hanswer, h⟩ := bind_returns.mp h
  obtain ⟨-, rfl⟩ := lift_returns.mp hanswer
  obtain ⟨_, run₃, hnote, h⟩ := bind_returns.mp h
  obtain ⟨rfl, rfl⟩ := pure_returns.mp h
  cases hnote
  rw [← ran_of_keeps (tick_keeps ran_quiet.timeless) htick]

theorem require_returns {command : Command} {message : Text} {result : CompletedProcess}
    (h : require world command message run = (.ok result, run')) :
    run'.ran = run.ran ++ [(command, result)] := by
  obtain ⟨answer, run₁, hrun, h⟩ := bind_returns.mp h
  obtain ⟨hrequire, rfl⟩ := lift_returns.mp h
  unfold requireCommand at hrequire
  split_ifs at hrequire
  · exact absurd hrequire evidenceError_ne_ok
  · cases hrequire
    exact runCommand_returns hrun

/-- The tools are asked for their versions, the lock and the environment for their freshness. -/
theorem verifyRuntimeAndTools_returns
    (h : verifyRuntimeAndTools world arguments contract run = (.ok (), run')) :
    ∃ uvVersion scannerVersion lockCheck syncCheck, run'.ran = run.ran ++
      [([arguments.uvExecutable, lit "--version"], uvVersion),
        ([arguments.scannerExecutable, lit "--version"], scannerVersion),
        (frozenLockCheckCommand arguments.uvExecutable arguments.pythonExecutable, lockCheck),
        (frozenSyncCheckCommand arguments.uvExecutable, syncCheck)] := by
  obtain ⟨_, run₁, hpython, h⟩ := bind_returns.mp h
  obtain ⟨-, rfl⟩ := lift_returns.mp hpython
  obtain ⟨uvVersion, run₂, huv, h⟩ := bind_returns.mp h
  obtain ⟨_, run₃, huvPin, h⟩ := bind_returns.mp h
  obtain ⟨-, rfl⟩ := lift_returns.mp huvPin
  obtain ⟨scannerVersion, run₄, hscanner, h⟩ := bind_returns.mp h
  obtain ⟨_, run₅, hscannerPin, h⟩ := bind_returns.mp h
  obtain ⟨-, rfl⟩ := lift_returns.mp hscannerPin
  obtain ⟨lockCheck, run₆, hlock, h⟩ := bind_returns.mp h
  obtain ⟨syncCheck, run₇, hsync, h⟩ := bind_returns.mp h
  obtain ⟨-, rfl⟩ := pure_returns.mp h
  refine ⟨uvVersion, scannerVersion, lockCheck, syncCheck, ?_⟩
  rw [require_returns hsync, require_returns hlock, require_returns hscanner, require_returns huv]
  simp only [List.append_assoc, List.cons_append, List.nil_append]

theorem exportLock_returns {lockPackages : List PackageRecord}
    (h : exportLock world arguments run = (.ok lockPackages, run')) :
    ∃ result, run'.ran = run.ran ++ [(exportCommand arguments, result)] ∧
      parseLockExport world.toLibrary result.stdout = .ok lockPackages := by
  obtain ⟨_, run₁, hstage, h⟩ := bind_returns.mp h
  obtain ⟨result, run₂, hresult, h⟩ := bind_returns.mp h
  obtain ⟨packages, run₃, hparse, h⟩ := bind_returns.mp h
  obtain ⟨hparsed, rfl⟩ := lift_returns.mp hparse
  obtain ⟨_, run₄, hexport, h⟩ := bind_returns.mp h
  obtain ⟨_, run₅, hselection, h⟩ := bind_returns.mp h
  obtain ⟨rfl, rfl⟩ := pure_returns.mp h
  refine ⟨result, ?_, hparsed⟩
  rw [ran_of_keeps (writeJson_keeps ran_quiet) hselection, ran_of_keeps (writeText_keeps ran_quiet) hexport,
    require_returns hresult, ran_of_keeps setStage_ran hstage]

theorem generateTree_returns {tree : DependencyTree}
    (h : generateTree world arguments contract run = (.ok tree, run')) :
    ∃ result, run'.ran = run.ran ++ [(treeCommand arguments contract, result)] ∧
      parseDependencyTree world.toLibrary result.stdout = .ok tree := by
  obtain ⟨_, run₁, hstage, h⟩ := bind_returns.mp h
  obtain ⟨result, run₂, hresult, h⟩ := bind_returns.mp h
  obtain ⟨parsed, run₃, hparse, h⟩ := bind_returns.mp h
  obtain ⟨hparsed, rfl⟩ := lift_returns.mp hparse
  obtain ⟨_, run₄, hwrite, h⟩ := bind_returns.mp h
  obtain ⟨rfl, rfl⟩ := pure_returns.mp h
  refine ⟨result, ?_, hparsed⟩
  rw [ran_of_keeps (writeJson_keeps ran_quiet) hwrite, require_returns hresult,
    ran_of_keeps setStage_ran hstage]

theorem inventoryInstalled_returns {packages : List PackageRecord}
    (h : inventoryInstalled world arguments run = (.ok packages, run')) :
    ∃ result root project, run'.ran = run.ran ++ [(inventoryCommand arguments, result)] ∧
      world.resolve arguments.root = some root ∧
      parseInstalledInventory world.toLibrary result.stdout root = .ok (project, packages) := by
  obtain ⟨_, run₁, hstage, h⟩ := bind_returns.mp h
  obtain ⟨result, run₂, hresult, h⟩ := bind_returns.mp h
  obtain ⟨root, run₃, hroot, h⟩ := bind_returns.mp h
  obtain ⟨hresolved, rfl⟩ := lift_returns.mp hroot
  obtain ⟨⟨project, parsed⟩, run₄, hparse, h⟩ := bind_returns.mp h
  obtain ⟨hparsed, rfl⟩ := lift_returns.mp hparse
  obtain ⟨_, run₅, hwrite, h⟩ := bind_returns.mp h
  obtain ⟨rfl, rfl⟩ := pure_returns.mp h
  refine ⟨result, root, project, ?_, ?_, hparsed⟩
  · rw [ran_of_keeps (writeJson_keeps ran_quiet) hwrite, require_returns hresult,
      ran_of_keeps setStage_ran hstage]
  · unfold resolvedPath at hresolved
    cases hpath : world.resolve arguments.root with
    | none =>
      rw [hpath] at hresolved
      cases hresolved
    | some path =>
      rw [hpath] at hresolved
      cases hresolved
      rfl

theorem deriveBrowsers_returns (h : deriveBrowsers world run = (.ok (), run')) :
    run'.ran = run.ran := by
  refine ran_of_keeps ?_ h
  exact Keeps.bind setStage_ran fun _ => Keeps.bind Keeps.lift fun _ => writeJson_keeps ran_quiet

/-- The scanner has run twice, with counts that agree. -/
theorem scan_returns {reports : AuditReport × SbomReport}
    (h : scan world arguments run = (.ok reports, run')) :
    ∃ auditResult sbomResult, run'.ran = run.ran ++
        [(scannerCommand arguments (lit "json"), auditResult),
          (scannerCommand arguments (lit "cyclonedx-json"), sbomResult)] ∧
      parseAuditReport world.toLibrary auditResult.stdout auditResult.returncode = .ok reports.1 ∧
      parseSbomReport world.toLibrary sbomResult.stdout sbomResult.returncode = .ok reports.2 ∧
      reports.1.vulnerabilityCount = reports.2.vulnerabilityCount := by
  obtain ⟨_, run₁, hstage, h⟩ := bind_returns.mp h
  obtain ⟨auditResult, run₂, haudit, h⟩ := bind_returns.mp h
  obtain ⟨sbomResult, run₃, hsbom, h⟩ := bind_returns.mp h
  obtain ⟨_, run₄, hlog, h⟩ := bind_returns.mp h
  obtain ⟨_, run₅, hstatus, h⟩ := bind_returns.mp h
  obtain ⟨audit, run₆, hparseAudit, h⟩ := bind_returns.mp h
  obtain ⟨hauditReport, rfl⟩ := lift_returns.mp hparseAudit
  obtain ⟨sbom, run₇, hparseSbom, h⟩ := bind_returns.mp h
  obtain ⟨hsbomReport, rfl⟩ := lift_returns.mp hparseSbom
  obtain ⟨_, run₈, hcounts, h⟩ := bind_returns.mp h
  obtain ⟨hagree, rfl⟩ := lift_returns.mp hcounts
  obtain ⟨_, run₉, hauditJson, h⟩ := bind_returns.mp h
  obtain ⟨_, run₁₀, hsbomJson, h⟩ := bind_returns.mp h
  obtain ⟨findings, run₁₁, hfindings, h⟩ := bind_returns.mp h
  obtain ⟨-, rfl⟩ := lift_returns.mp hfindings
  obtain ⟨_, run₁₂, htable, h⟩ := bind_returns.mp h
  obtain ⟨rfl, rfl⟩ := pure_returns.mp h
  refine ⟨auditResult, sbomResult, ?_, hauditReport, hsbomReport, not_not.mp (raiseWhen_eq_ok.mp hagree)⟩
  rw [ran_of_keeps (writeText_keeps ran_quiet) htable, ran_of_keeps (writeJson_keeps ran_quiet) hsbomJson,
    ran_of_keeps (writeJson_keeps ran_quiet) hauditJson, ran_of_keeps (writeJson_keeps ran_quiet) hstatus,
    ran_of_keeps (writeText_keeps ran_quiet) hlog, runCommand_returns hsbom, runCommand_returns haudit,
    ran_of_keeps setStage_ran hstage, List.append_assoc]
  rfl

theorem enforceParity_returns {packageCount : Nat} {comparisons : List PackageComparison}
    (h : enforceParity world packageCount comparisons run = (.ok (), run')) :
    run'.ran = run.ran ∧ ∀ comparison ∈ comparisons, comparison.status = .exact := by
  obtain ⟨_, run₁, hstage, h⟩ := bind_returns.mp h
  obtain ⟨_, run₂, hwrite, h⟩ := bind_returns.mp h
  obtain ⟨hexact, rfl⟩ := lift_returns.mp h
  refine ⟨?_, requireExactComparisons_eq_ok.mp hexact⟩
  rw [ran_of_keeps (writeJson_keeps ran_quiet) hwrite, ran_of_keeps setStage_ran hstage]

/-! ## The last stage -/

theorem directory_of_keeps {α : Type} {x : Generator α} {a : α}
    (hx : Keeps (At run.directory run.ran) x) (h : x run = (.ok a, run')) :
    run'.directory = run.directory :=
  (Triple.returns hx ⟨rfl, rfl⟩ h).1

theorem readBytes_returns {name : Text} {bytes : List Nat}
    (h : readBytes world name run = (.ok bytes, run')) :
    run.directory.get? name = some (.file bytes) := by
  obtain ⟨_, run₁, hoperation, h⟩ := bind_returns.mp h
  obtain ⟨entry, run₂, hentry, h⟩ := bind_returns.mp h
  have hdirectory := directory_of_keeps (fileOperation_keeps at_timeless) hoperation
  cases hentry
  rw [hdirectory] at h
  cases hfound : run.directory.get? name with
  | none =>
    rw [hfound] at h
    exact absurd h raise_returns
  | some entry =>
    rw [hfound] at h
    cases entry with
    | file content =>
      obtain ⟨rfl, -⟩ := pure_returns.mp h
      rfl
    | directory => exact absurd h raise_returns

theorem putText_returns {name text : Text} (h : putText world name text run = (.ok (), run')) :
    ∃ bytes, encodeUtf8 text = some bytes ∧
      ∀ q, run'.directory.get? q = if q = name then some (.file bytes) else run.directory.get? q := by
  obtain ⟨_, run₁, hempty, hwrite⟩ := bind_returns.mp h
  cases hempty
  cases hencoded : encodeUtf8 text with
  | none =>
    rw [hencoded] at hwrite
    exact absurd hwrite raise_returns
  | some bytes =>
    rw [hencoded] at hwrite
    obtain ⟨_, run₂, hflush, hset⟩ := bind_returns.mp hwrite
    have hflushed := directory_of_keeps (fileOperation_keeps at_timeless) hflush
    cases hset
    refine ⟨bytes, rfl, fun q => ?_⟩
    rw [Dict.get?_update, hflushed, Dict.get?_update, Dict.get?_single, Dict.get?_single]
    by_cases hq : q = name
    · rw [if_pos hq, if_pos hq, if_pos hq]
      rfl
    · rw [if_neg hq, if_neg hq, if_neg hq]
      rfl

/-- A written file holds its text, and the others are as they were. -/
theorem writeText_returns {name text : Text} (h : writeText world name text run = (.ok (), run')) :
    ∃ bytes, encodeUtf8 text = some bytes ∧
      ∀ q, run'.directory.get? q = if q = name then some (.file bytes) else run.directory.get? q := by
  obtain ⟨_, run₁, hoperation, h⟩ := bind_returns.mp h
  obtain ⟨entry, run₂, hentry, h⟩ := bind_returns.mp h
  rw [← directory_of_keeps (fileOperation_keeps at_timeless) hoperation]
  cases hentry
  cases hfound : run₁.directory.get? name with
  | none =>
    rw [hfound] at h
    exact putText_returns h
  | some entry =>
    rw [hfound] at h
    cases entry with
    | file content => exact putText_returns h
    | directory => exact absurd h raise_returns

theorem writeJson_returns {name : Text} {document : Json PyNumber}
    (h : writeJson world name document run = (.ok (), run')) :
    ∃ bytes, encodeUtf8 (documentText world document) = some bytes ∧
      ∀ q, run'.directory.get? q = if q = name then some (.file bytes) else run.directory.get? q := by
  obtain ⟨_, run₁, hdepth, h⟩ := bind_returns.mp h
  obtain ⟨-, rfl⟩ := lift_returns.mp hdepth
  exact writeText_returns h

/-- A file of the directory that is not empty. -/
def HasContent (directory : Directory) (name : Text) : Prop :=
  ∃ bytes, bytes ≠ [] ∧ directory.get? name = some (.file bytes)

theorem emptyFiles_returns : ∀ {names empty : List Text} {run run' : Run},
    emptyFiles world names run = (.ok empty, run') →
      ∀ name ∈ names, name ∉ empty → HasContent run.directory name
  | [], _, _, _, _, _, hname, _ => absurd hname List.not_mem_nil
  | first :: names, empty, run, run', h, name, hname, hnot => by
    obtain ⟨bytes, run₁, hread, h⟩ := bind_returns.mp h
    obtain ⟨rest, run₂, hrest, h⟩ := bind_returns.mp h
    obtain ⟨rfl, -⟩ := pure_returns.mp h
    have hfirst := readBytes_returns hread
    have hdirectory := directory_of_keeps (readBytes_keeps at_timeless) hread
    have hnotRest : name ∉ rest := by
      split_ifs at hnot
      · exact fun hmem => hnot (List.mem_cons_of_mem _ hmem)
      · exact hnot
    rcases List.mem_cons.mp hname with rfl | hname
    · refine ⟨bytes, fun hempty => ?_, hfirst⟩
      rw [if_pos hempty] at hnot
      exact hnot List.mem_cons_self
    · rw [← hdirectory]
      exact emptyFiles_returns hrest name hname hnotRest

theorem mem_filesOf {directory : Directory} {name : Text} :
    name ∈ filesOf directory ↔ ∃ bytes, directory.get? name = some (.file bytes) := by
  unfold filesOf
  rw [List.mem_filterMap]
  constructor
  · rintro ⟨⟨key, entry⟩, hmem, hname⟩
    cases entry with
    | file bytes =>
      cases hname
      exact ⟨bytes, Dict.mem_entries_iff.mp hmem⟩
    | directory => cases hname
  · rintro ⟨bytes, hget⟩
    exact ⟨(name, .file bytes), Dict.mem_entries_iff.mpr hget, rfl⟩

/-- **The expected names are files with content, and there is no other file.** -/
theorem validateCompleteOutputs_returns {expected : List Text}
    (h : validateCompleteOutputs world expected run = (.ok (), run')) :
    (∀ name ∈ expected, HasContent run.directory name) ∧
      ∀ name bytes, run.directory.get? name = some (.file bytes) → name ∈ expected := by
  obtain ⟨_, run₁, hoperation, h⟩ := bind_returns.mp h
  rw [← directory_of_keeps (fileOperation_keeps at_timeless) hoperation]
  obtain ⟨state, run₂, hstate, h⟩ := bind_returns.mp h
  cases hstate
  obtain ⟨empty, run₃, hempty, h⟩ := bind_returns.mp h
  obtain ⟨hraise, -⟩ := lift_returns.mp h
  have hnone := raiseWhen_eq_ok.mp hraise
  simp only [ne_eq, sortTexts_eq_nil, not_or, not_not, List.filter_eq_nil_iff, decide_eq_true_eq] at hnone
  obtain ⟨hmissing, hunexpected, rfl⟩ := hnone
  constructor
  · intro name hname
    refine emptyFiles_returns hempty name ?_ List.not_mem_nil
    exact List.mem_filter.mpr ⟨hname, decide_eq_true (hmissing name hname)⟩
  · intro name bytes hget
    exact hunexpected name (mem_filesOf.mpr ⟨bytes, hget⟩)

/-- The hash of a file is recorded under its name. -/
def Recorded (world : World) (directory : Directory) (outputs : List (Text × Json PyNumber))
    (name : Text) : Prop :=
  ∃ bytes, directory.get? name = some (.file bytes) ∧ outputs.lookup name = some (.str (world.sha256 bytes))

theorem hashOutputs_returns : ∀ {names : List Text} {outputs : List (Text × Json PyNumber)}
    {run run' : Run}, hashOutputs world names run = (.ok outputs, run') →
      ∀ name ∈ names, Recorded world run.directory outputs name
  | [], _, _, _, _, _, hname => absurd hname List.not_mem_nil
  | first :: names, outputs, run, run', h, name, hname => by
    obtain ⟨hash, run₁, hhash, h⟩ := bind_returns.mp h
    obtain ⟨rest, run₂, hrest, h⟩ := bind_returns.mp h
    obtain ⟨rfl, -⟩ := pure_returns.mp h
    obtain ⟨bytes, run₃, hread, hpure⟩ := bind_returns.mp hhash
    obtain ⟨rfl, rfl⟩ := pure_returns.mp hpure
    have hdirectory := directory_of_keeps (readBytes_keeps at_timeless) hread
    by_cases heq : name = first
    · subst heq
      exact ⟨bytes, readBytes_returns hread, List.lookup_cons_self⟩
    · obtain ⟨content, hcontent, hlookup⟩ :=
        hashOutputs_returns hrest name ((List.mem_cons.mp hname).resolve_left heq)
      refine ⟨content, hdirectory ▸ hcontent, ?_⟩
      rw [List.lookup_cons, beq_false_of_ne heq]
      exact hlookup

/-- **The outputs are files with content, and there is no other file.** -/
structure OnlyOutputs (directory : Directory) : Prop where
  content : ∀ name ∈ successfulOutputs, HasContent directory name
  only : ∀ name bytes, directory.get? name = some (.file bytes) → name ∈ successfulOutputs

/-- **`completion.json` records the hash of every other output**, and these counts. -/
def Completion (world : World) (directory : Directory) (packageCount : Nat) (audit : AuditReport) : Prop :=
  ∃ generatedAt outputs bytes,
    encodeUtf8 (documentText world (completionDocument generatedAt packageCount
      audit.vulnerablePackageCount audit.vulnerabilityCount outputs)) = some bytes ∧
    directory.get? completionName = some (.file bytes) ∧
    ∀ name ∈ successfulOutputs, name ≠ completionName → Recorded world directory outputs name

/-- **What the last stage leaves.** -/
theorem complete_returns {packageCount : Nat} {audit : AuditReport}
    (h : complete world arguments contract packageCount audit run = (.ok (), run')) :
    run'.ran = run.ran ∧ OnlyOutputs run'.directory ∧ Completion world run'.directory packageCount audit := by
  obtain ⟨_, run₁, hstage, h⟩ := bind_returns.mp h
  obtain ⟨metadata, run₂, hmetadata, h⟩ := bind_returns.mp h
  obtain ⟨_, run₃, hwrite, h⟩ := bind_returns.mp h
  obtain ⟨_, run₄, hdiagnostics, h⟩ := bind_returns.mp h
  obtain ⟨_, run₅, hvalidate, h⟩ := bind_returns.mp h
  obtain ⟨outputs, run₆, houtputs, h⟩ := bind_returns.mp h
  obtain ⟨moment, run₇, htick, h⟩ := bind_returns.mp h
  obtain ⟨_, run₈, hcompletion, h⟩ := bind_returns.mp h
  obtain ⟨bytes, hencoded, hget⟩ := writeJson_returns hcompletion
  obtain ⟨hcontent, honly⟩ := validateCompleteOutputs_returns h
  have hend : run'.directory = run₈.directory :=
    directory_of_keeps (validateCompleteOutputs_keeps at_timeless) h
  have hhashed : run₇.directory = run₅.directory :=
    (directory_of_keeps (tick_keeps at_timeless) htick).trans
      (directory_of_keeps (hashOutputs_keeps at_timeless) houtputs)
  refine ⟨?_, ⟨hend ▸ hcontent, hend ▸ honly⟩, world.timestamp moment, outputs, bytes, hencoded, ?_, ?_⟩
  · rw [ran_of_keeps (validateCompleteOutputs_keeps ran_quiet.timeless) h,
      ran_of_keeps (writeJson_keeps ran_quiet) hcompletion,
      ran_of_keeps (tick_keeps ran_quiet.timeless) htick,
      ran_of_keeps (hashOutputs_keeps ran_quiet.timeless) houtputs,
      ran_of_keeps (validateCompleteOutputs_keeps ran_quiet.timeless) hvalidate,
      ran_of_keeps (writeDiagnostics_keeps ran_quiet) hdiagnostics,
      ran_of_keeps (writeJson_keeps ran_quiet) hwrite,
      ran_of_keeps (metadataDocument_keeps ran_quiet.timeless) hmetadata, ran_of_keeps setStage_ran hstage]
  · rw [hend, hget, if_pos rfl]
  · -- The completion is written after the hashes are taken, and changes no other file.
    intro name hname hne
    obtain ⟨content, hfile, hlookup⟩ := hashOutputs_returns houtputs name
      (List.mem_filter.mpr ⟨hname, decide_eq_true hne⟩)
    refine ⟨content, ?_, hlookup⟩
    rw [hend, hget, if_neg hne, hhashed, hfile]

/-! ## The whole run -/

/-- The answers to the commands of a run, and what the readers make of them. -/
structure Reports where
  contract : DependencyContract
  uvVersion : CompletedProcess
  scannerVersion : CompletedProcess
  lockCheck : CompletedProcess
  syncCheck : CompletedProcess
  exportResult : CompletedProcess
  treeResult : CompletedProcess
  inventoryResult : CompletedProcess
  auditResult : CompletedProcess
  sbomResult : CompletedProcess
  lockPackages : List PackageRecord
  dependencyTree : DependencyTree
  root : Text
  project : ProjectPackage
  installedPackages : List PackageRecord
  audit : AuditReport
  sbom : SbomReport

/-- The commands of the run with their answers. -/
def Reports.ran (reports : Reports) (arguments : Arguments) : List (Command × CompletedProcess) :=
  [([arguments.uvExecutable, lit "--version"], reports.uvVersion),
    ([arguments.scannerExecutable, lit "--version"], reports.scannerVersion),
    (frozenLockCheckCommand arguments.uvExecutable arguments.pythonExecutable, reports.lockCheck),
    (frozenSyncCheckCommand arguments.uvExecutable, reports.syncCheck),
    (exportCommand arguments, reports.exportResult),
    (treeCommand arguments reports.contract, reports.treeResult),
    (inventoryCommand arguments, reports.inventoryResult),
    (scannerCommand arguments (lit "json"), reports.auditResult),
    (scannerCommand arguments (lit "cyclonedx-json"), reports.sbomResult)]

/-- Two package sets are one. -/
def SamePackages (packages packages' : List PackageRecord) : Prop :=
  ∀ package, package ∈ packages ↔ package ∈ packages'

/-- **The evidence of a run is true**: what it leaves in the directory, and what its reports say. -/
structure Certified (world : World) (arguments : Arguments) (run : Run) (reports : Reports) : Prop where
  ran : run.ran = reports.ran arguments
  lock : parseLockExport world.toLibrary reports.exportResult.stdout = .ok reports.lockPackages
  tree : parseDependencyTree world.toLibrary reports.treeResult.stdout = .ok reports.dependencyTree
  root : world.resolve arguments.root = some reports.root
  inventory : parseInstalledInventory world.toLibrary reports.inventoryResult.stdout reports.root =
    .ok (reports.project, reports.installedPackages)
  audit : parseAuditReport world.toLibrary reports.auditResult.stdout reports.auditResult.returncode =
    .ok reports.audit
  sbom : parseSbomReport world.toLibrary reports.sbomResult.stdout reports.sbomResult.returncode =
    .ok reports.sbom
  outputs : OnlyOutputs run.directory
  completion : Completion world run.directory reports.lockPackages.length reports.audit
  samePackages : SamePackages reports.lockPackages reports.dependencyTree.packages ∧
    SamePackages reports.lockPackages reports.installedPackages ∧
    SamePackages reports.lockPackages reports.audit.packages ∧
    SamePackages reports.lockPackages reports.sbom.packages
  sameCount : reports.audit.vulnerabilityCount = reports.sbom.vulnerabilityCount
  exits : reports.auditResult.returncode = expectedExit reports.audit.vulnerabilityCount ∧
    reports.sbomResult.returncode = expectedExit reports.audit.vulnerabilityCount

/-- The comparisons are exact iff the sets are one. -/
theorem samePackages_of_exact {lock tree installed audit sbom : List PackageRecord}
    (hlock : (lock.map PackageRecord.name).Nodup) (htree : (tree.map PackageRecord.name).Nodup)
    (hinstalled : (installed.map PackageRecord.name).Nodup)
    (haudit : (audit.map PackageRecord.name).Nodup) (hsbom : (sbom.map PackageRecord.name).Nodup)
    (h : ∀ comparison ∈ comparisonsOf lock tree installed audit sbom, comparison.status = .exact) :
    SamePackages lock tree ∧ SamePackages lock installed ∧ SamePackages lock audit ∧
      SamePackages lock sbom := by
  simp only [comparisonsOf, List.forall_mem_cons] at h
  exact ⟨(compareExactPackages_eq_exact_iff hlock htree).mp h.1,
    (compareExactPackages_eq_exact_iff hlock hinstalled).mp h.2.1,
    (compareExactPackages_eq_exact_iff hlock haudit).mp h.2.2.1,
    (compareExactPackages_eq_exact_iff hlock hsbom).mp h.2.2.2.1⟩

/-- The body of the `try`. -/
theorem generateStages_returns (h : generateStages world arguments run = (.ok (), run'))
    (hran : run.ran = []) : ∃ reports, Certified world arguments run' reports := by
  obtain ⟨contract, run₁, hcontract, h⟩ := bind_returns.mp h
  obtain ⟨-, rfl⟩ := lift_returns.mp hcontract
  obtain ⟨_, run₂, hstage, h⟩ := bind_returns.mp h
  obtain ⟨_, run₃, hverify, h⟩ := bind_returns.mp h
  obtain ⟨lockPackages, run₄, hexport, h⟩ := bind_returns.mp h
  obtain ⟨dependencyTree, run₅, htree, h⟩ := bind_returns.mp h
  obtain ⟨installedPackages, run₆, hinventory, h⟩ := bind_returns.mp h
  obtain ⟨_, run₇, hbrowsers, h⟩ := bind_returns.mp h
  obtain ⟨⟨audit, sbom⟩, run₈, hscan, h⟩ := bind_returns.mp h
  obtain ⟨_, run₉, hparity, h⟩ := bind_returns.mp h
  obtain ⟨uvVersion, scannerVersion, lockCheck, syncCheck, hran₃⟩ := verifyRuntimeAndTools_returns hverify
  obtain ⟨exportResult, hran₄, hlockEq⟩ := exportLock_returns hexport
  obtain ⟨treeResult, hran₅, htreeEq⟩ := generateTree_returns htree
  obtain ⟨inventoryResult, root, project, hran₆, hroot, hinventoryEq⟩ :=
    inventoryInstalled_returns hinventory
  obtain ⟨auditResult, sbomResult, hran₈, hauditEq, hsbomEq, hcount⟩ := scan_returns hscan
  obtain ⟨hran₉, hexact⟩ := enforceParity_returns hparity
  obtain ⟨hran', houtputs, hcompletion⟩ := complete_returns h
  obtain ⟨hauditNodup, hauditExit⟩ := parseAuditReport_spec hauditEq
  obtain ⟨hsbomNodup, hsbomExit⟩ := parseSbomReport_spec hsbomEq
  refine ⟨⟨contract, uvVersion, scannerVersion, lockCheck, syncCheck, exportResult, treeResult,
    inventoryResult, auditResult, sbomResult, lockPackages, dependencyTree, root, project,
    installedPackages, audit, sbom⟩, ?_, hlockEq, htreeEq, hroot, hinventoryEq, hauditEq, hsbomEq,
    houtputs, hcompletion, ?_, hcount, hauditExit, ?_⟩
  · rw [hran', hran₉, hran₈, deriveBrowsers_returns hbrowsers, hran₆, hran₅, hran₄, hran₃,
      ran_of_keeps setStage_ran hstage, hran]
    rfl
  · exact samePackages_of_exact (parseLockExport_nodup hlockEq) (parseDependencyTree_nodup htreeEq)
      (parseInstalledInventory_nodup hinventoryEq) hauditNodup hsbomNodup hexact
  · rw [hsbomExit, hcount]

theorem initializeOutputs_ran : Keeps (Ran l) (initializeOutputs world) := by
  refine Keeps.bind (fileOperation_keeps ran_quiet.timeless) fun _ => ?_
  refine Keeps.bind (unlinkAll_keeps ran_quiet) fun _ => ?_
  exact Keeps.bind setStage_ran fun _ => writeDiagnostics_keeps ran_quiet

/-- The handler never returns. -/
theorem recordFailure_returns {message : Text} :
    ¬ recordFailure world message run = (.ok (), run') := by
  intro h
  obtain ⟨_, run₁, -, h⟩ := bind_returns.mp h
  obtain ⟨_, run₂, -, h⟩ := bind_returns.mp h
  obtain ⟨_, run₃, -, h⟩ := bind_returns.mp h
  exact raise_returns h

/-- **Completed evidence is true.** Whatever the commands answer and whatever the output directory held,
a run that returns leaves exactly the outputs, with the hash of each in `completion.json`; the tree, the
inventory, the audit and the SBOM have the packages of the lock export; and the scanners agree on the
number of findings, with exit codes that fit it. -/
theorem generateDependencyEvidence_certified (world : World) (arguments : Arguments)
    (directory : Directory)
    (h : (generateDependencyEvidence world arguments (Run.start directory)).1 = .ok ()) :
    ∃ reports, Certified world arguments
      (generateDependencyEvidence world arguments (Run.start directory)).2 reports := by
  have hrun : generateDependencyEvidence world arguments (Run.start directory) =
      (.ok (), (generateDependencyEvidence world arguments (Run.start directory)).2) := Prod.ext h rfl
  generalize (generateDependencyEvidence world arguments (Run.start directory)).2 = run' at hrun ⊢
  obtain ⟨_, run₁, hinitialize, hrun⟩ := bind_returns.mp hrun
  have hran : run₁.ran = [] := ran_of_keeps initializeOutputs_ran hinitialize
  rcases handle_returns hrun with hstages | ⟨failure, run₂, -, hhandler⟩
  · exact generateStages_returns hstages hran
  · cases failure with
    | evidenceError message => exact absurd hhandler recordFailure_returns
    | osError message => exact absurd hhandler recordFailure_returns
    | subprocessError message => exact absurd hhandler recordFailure_returns
    | other => exact absurd hhandler raise_returns

/-! ## A run that returns -/

/-- What the run below reads as JSON, with its values: the tree, the inventory, the audit, the SBOM and
the browsers. -/
def exampleDocuments : List (Text × Json PyNumber) :=
  [(lit "\x7b\"resolution\": \x7b\"1\": " ++ (lit "\x7b\"kind\": \"package\", " ++
      (lit "\"name\": \"mypy\", " ++ (lit "\"version\": \"2.10\", " ++ (lit "\"source\": \x7b\x7d\x7d\x7d, " ++
      lit "\"roots\": []\x7d")))),
    .dict [(lit "resolution", .dict [(lit "1", .dict [(lit "kind", .str (lit "package")),
      (lit "name", .str (lit "mypy")), (lit "version", .str (lit "2.10")), (lit "source", .dict [])])]),
      (lit "roots", .list [])]),
    (lit "[\x7b\"name\": \"mypy\", " ++ (lit "\"version\": \"2.10\"\x7d, " ++ (lit "\x7b\"name\": " ++
      (lit "\"budget-analyzer-" ++ (lit "api-tests\", " ++ (lit "\"version\": \"1\", " ++
      (lit "\"editable_project_" ++ lit "location\": \"/r\"\x7d]")))))),
    .list [.dict [(lit "name", .str (lit "mypy")), (lit "version", .str (lit "2.10"))],
      .dict [(lit "name", .str projectName), (lit "version", .str (lit "1")),
        (lit "editable_project_location", .str (lit "/r"))]]),
    (lit "\x7b\"dependencies\": [" ++ (lit "\x7b\"name\": \"mypy\", " ++ (lit "\"version\": \"2.10\", " ++
      lit "\"vulns\": []\x7d]\x7d")),
    .dict [(lit "dependencies", .list [.dict [(lit "name", .str (lit "mypy")),
      (lit "version", .str (lit "2.10")), (lit "vulns", .list [])]])]),
    (lit "\x7b\"bomFormat\": " ++ (lit "\"CycloneDX\", " ++ (lit "\"specVersion\": \"1.4\", " ++
      (lit "\"components\": [" ++ (lit "\x7b\"name\": \"mypy\", " ++ lit "\"version\": \"2.10\"\x7d]\x7d")))),
    .dict [(lit "bomFormat", .str (lit "CycloneDX")), (lit "specVersion", .str (lit "1.4")),
      (lit "components", .list [.dict [(lit "name", .str (lit "mypy")),
        (lit "version", .str (lit "2.10"))]])]),
    (lit "\x7b\"browsers\": [" ++ (lit "\x7b\"name\": \"chromium\", " ++
      lit "\"revision\": \"9\"\x7d]\x7d"),
    .dict [(lit "browsers", .list [.dict [(lit "name", .str (lit "chromium")),
      (lit "revision", .str (lit "9"))]])])]

/-- The text of a document. -/
def exampleText (n : Nat) : Text := (exampleDocuments.map Prod.fst).getD n []

/-- The SHA-256 of the files of the run below, which differ in length. -/
def exampleHashes : List (Nat × Nat) :=
  [(6, 0x9a3a69ffcab83eac147098a6de6fac2d0263c2fcd04f4d36d6a015f49c286875),
    (3, 0xdc51b8c96c2d745df3bd5590d990230a482fd247123599548e0632fdbf97fc22),
    (112, 0x934d579b11cbc9d40265a761b764497554102477314766a73bdc4bd4c4a9eac1),
    (34, 0x8ab28d36a54cef9f16669fb4c21268cdd96ba6e317faf3dbed7fbb4e6b41c015),
    (158, 0x9d3892db18c1373be6d198bdf8274dabc38b323b0270941466f652b04662eca5),
    (214, 0xa4b2bdb27d7fe34a7af3b44a5e3d4179c2574527aba0238d3d103bf32bca80e6),
    (217, 0xd1f052fd62282c458b1c9b844e5c4f9fd3f4e225407f219e1d951c37a05f1e58),
    (240, 0x8d11be2831e8a193cf918efec893ffd6f0ee3194757c974d34210d0a91bd0e63),
    (35, 0xdfdb763f0004ee6c2b22253c3bfe4b0eea07ef3ce18c1a9c934510a7fb043773),
    (137, 0x2aa5f880944a6d984d1b9ea7e510aa9a7065d5fc13c65eefd28a68db28841e13),
    (105, 0xb6ce69ba11372409f8b5d49a78b0d3a8b09ee6028ef4f4b40556cf52c53af18f),
    (136, 0x28487d5b064404a488f533fe7b1ed6ccfa90d35e0a5a0eb02ae3792b4a8d3bfd),
    (157, 0x152449f6eda4c3d0ad8fea6f1f42da64d6c3da0e8cbdb2ed9b58b211d2c0c494),
    (1130, 0x8d90c72dea30d55b3f1e140f3cd8684dc2955cec61c46dc25f701262ba950799),
    (861, 0x7f2adb798232bd1c1194721691e7571522565417a361895e83c0293bbfeea7ac),
    (8, 0x5b703ca38d3fd391f3e889f7ba893f94b921ff9e7b7e5d8d6622d5f7daca7049)]

/-- The contract of the run below. -/
def exampleContract : DependencyContract :=
  ⟨lit "3.12.10", lit "==3.12.*", lit "0.7", lit "2.9", [], [], by decide, by decide⟩

/-- A world in which the tools report one package without findings. -/
def exampleWorld : World where
  loads t :=
    match exampleDocuments.lookup t with
    | some value => .ok value
    | none => .error (.jsonDecodeError (lit "Expecting value"))
  lower t := t.map lowerAscii
  resolve t := if t = lit "/r" then some (lit "/r") else none
  resolve_system t path h := by
    split_ifs at h
    cases h
    decide
  unicode := .ascii
  repr _ := none
  requirement t :=
    if t = lit "mypy==2.10" then .ok ⟨lit "mypy", [⟨lit "==", lit "2.10"⟩], none⟩
    else .error .invalidRequirement
  contractFiles := .ok (some exampleContract, [])
  respond _ command := .ok ⟨0,
    if command.length = 2 then
      if command.headD [] = lit "uv" then lit "uv 0.7\n" else lit "pip-audit 2.9\n"
    else if command.getLast? = some (lit "json") then exampleText 2
    else if command.getLast? = some (lit "cyclonedx-json") then exampleText 3
    else if command.getD 1 [] = lit "export" then lit "mypy==2.10 \\\n" ++ lit "    --hash=sha256:0a\n"
    else if command.getD 1 [] = lit "tree" then exampleText 0
    else if command.getD 1 [] = lit "pip" then exampleText 1
    else [], []⟩
  fails _ := none
  noFile _ := []
  timestamp _ := lit "2025-01-01T00:00:00"
  inputBytes _ _ := .ok (lit "3.12.10\n")
  playwright := some ⟨lit "1.52", .ok (exampleText 4)⟩
  sha256 bytes := hexDigits 64 ((exampleHashes.lookup bytes.length).getD 0)
  numberText n :=
    match n with
    | .int n => lit (toString n)
    | .float _ => lit "0.0"
  encoderDepth := 900
  pythonVersion := lit "3.12.10"
  pythonImplementation := lit "CPython"
  platform := lit "linux-x86_64"

def exampleArguments : Arguments := ⟨lit "/r", lit "/r/o", lit "python", lit "uv", lit "pip-audit"⟩

def exampleDirectory : Directory :=
  .ofList [(lit "bootstrap.log", .file (lit "uv ok\n")), (lit "scanner-install.log", .file (lit "ok\n"))]

/-- Its run returns. -/
theorem generateDependencyEvidence_certified_example :
    ∃ reports, Certified exampleWorld exampleArguments
      (generateDependencyEvidence exampleWorld exampleArguments (Run.start exampleDirectory)).2 reports :=
  generateDependencyEvidence_certified exampleWorld exampleArguments exampleDirectory (by decide +kernel)

end ApiTests.Evidence
