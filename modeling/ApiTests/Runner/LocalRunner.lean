import ApiTests.Credentials.Operation
import ApiTests.Runner.Gates

/-!
# The local regression run (`local_runner.py`)

`run-tests` either hands its selectors to pytest, and says that this is a partial run, or goes through
every gate before it starts pytest on everything: the dependency inventory, the coverage of both
contracts, the inventory of the gateway and the drift of the live contract. What is written, fetched,
printed and started is a call, and any call may raise.

Results:
* `fullValidation_spec`: pytest is started behind the gates, or not at all.
* **`local_runner`**: a run that returns 0 has run pytest, with exactly the given selectors on the local
  environment, and a full run has accepted the checkout and the live contract before.
-/

namespace ApiTests.Runner

open Py OpenApi Coverage

/-! ## Calls -/

/-- A call that leaves the runner. -/
inductive Op where
  /-- `_new_artifact_dir(parent)`. -/
  | newArtifactDir (parent : Text)
  | print (line : Text)
  /-- `print(..., file=sys.stderr)`. -/
  | printError (line : Text)
  | writeDependencyInventory (path root pythonExecutable : Text)
  | writeCoverage (path : Text) (coverage : List OperationCoverage)
  | writeForbiddenCoverage (path : Text) (coverage : List ForbiddenResponseCoverage)
  | writeGatewayCoverage (path : Text) (report : SessionGatewayCoverageReport)
  /-- The request of `fetch_live_openapi`, by a client with or without a request log. -/
  | fetchOpenapi (path : Text) (requestLog : Option Text)
  | writeDrift (path : Text) (differences : List OpenApiDifference) (baselinePath liveUrl : Text)
  /-- `subprocess.run(command, check=False)`. -/
  | run (command : List Text)

/-- What a call returns. -/
@[reducible] def Op.Answer : Op → Type
  | .newArtifactDir _ => Text
  | .fetchOpenapi _ _ => LiveResponse
  | .run _ => Int
  | _ => Unit

/-- A program of the runner. -/
abbrev Runs (α : Type) : Type := Traced RunError Op.Answer α

variable (platform : Platform) (checkout : Checkout) (executable : Text)
  (oracle : Oracle RunError Op.Answer)

/-! ## Lines -/

/-- `print` of each line. -/
def printAll : List Text → Runs Unit
  | [] => pure ()
  | line :: lines => do
    perform oracle (.print line)
    printAll lines

/-- `print` of each line, on the error stream. -/
def printErrors : List Text → Runs Unit
  | [] => pure ()
  | line :: lines => do
    perform oracle (.printError line)
    printErrors lines

def statusText : CoverageStatus → Text
  | .covered => lit "covered"
  | .placeholder => lit "placeholder"
  | .missing => lit "missing"
  | .deferred => lit "deferred"

/-- `", ".join(ids) if ids else "(none)"`. -/
def idsOrNone (ids : List Text) : Text := if ids = [] then lit "(none)" else joinTexts ids

/-- `str(flag).lower()`. -/
def flagText (flag : Bool) : Text := if flag then lit "true" else lit "false"

/-- `session_gateway_coverage_lines`. -/
def sessionGatewayCoverageLines (report : SessionGatewayCoverageReport) : List Text :=
  report.operationCoverage.classifications.map (fun c =>
      lit "session_gateway_operation_" ++ statusText c.status ++ lit ": " ++ decimal c.count ++
        lit "; ids: " ++ idsOrNone c.ids) ++
    [lit "session_gateway_routes: " ++ decimal report.scenarioCoverage.routeCount] ++
    report.scenarioCoverage.classifications.map (fun c =>
      lit "session_gateway_scenario_" ++ c.status.text ++ lit ": " ++ decimal c.count ++
        lit "; ids: " ++ idsOrNone c.ids) ++
    [lit "all_known_session_gateway_inbound_routes_inventoried: " ++
        flagText report.claims.allKnownInboundRoutesInventoried,
      lit "all_currently_executable_public_session_gateway_cases_covered: " ++
        flagText report.claims.allCurrentlyExecutablePublicCasesCovered,
      lit "full_session_gateway_behavior_coverage: " ++
        flagText report.claims.fullSessionGatewayBehaviorCoverage]

/-- The ids of the rows with a status, sorted. -/
def forbiddenIds (status : ForbiddenResponseCoverageStatus)
    (coverage : List ForbiddenResponseCoverage) : List Text :=
  sortTexts ((coverage.filter fun row => row.status = status).map
    ForbiddenResponseCoverage.operationId)

/-- `forbidden_response_coverage_lines`. -/
def forbiddenResponseCoverageLines (coverage : List ForbiddenResponseCoverage) : List Text :=
  let coveredIds := forbiddenIds .covered coverage
  let deferredIds := forbiddenIds .deferred coverage
  [lit "forbidden_response_covered: " ++ decimal coveredIds.length ++ lit "; ids: " ++
      joinTexts coveredIds,
    lit "forbidden_response_deferred: " ++ decimal deferredIds.length ++ lit "; ids: " ++
      joinTexts deferredIds]

/-- `_unified_coverage_summary`. -/
def unifiedCoverageSummary (coverage : List OperationCoverage) : Text :=
  let unified := coverage.filter fun row => row.contract = .unified
  lit "Unified OpenAPI operation coverage passed: " ++ decimal unified.length ++
    lit " operations (" ++ decimal (unified.countP fun row => row.status = .covered) ++
    lit " covered, " ++ decimal (unified.countP fun row => row.deferredAdmin) ++
    lit " deferred admin)."

/-- `repr` of an optional text. -/
def reprOptional (value : Option Text) : Text :=
  match value with
  | none => lit "None"
  | some t => reprText platform.printer.unicode t

def changeText : DriftChange → Text
  | .added => lit "added"
  | .removed => lit "removed"
  | .changed => lit "changed"

/-- The line about a difference. -/
def differenceLine (difference : OpenApiDifference) : Text :=
  let detail := if difference.baseline ≠ none ∨ difference.live ≠ none then
    lit " (baseline=" ++ reprOptional platform difference.baseline ++ lit ", live=" ++
      reprOptional platform difference.live ++ lit ")" else []
  lit "- " ++ changeText difference.change ++ lit ": " ++ difference.location ++ detail

/-- The lines about missing coverage. -/
def incompleteLines (missing placeholders uncoveredCases : List Text) : List Text :=
  (if missing = [] then [] else [lit "missing OpenAPI markers: " ++ joinTexts missing]) ++
    (if placeholders = [] then []
      else [lit "placeholder OpenAPI coverage remains: " ++ joinTexts placeholders]) ++
    if uncoveredCases = [] then []
    else [lit "Session Gateway executable cases missing markers: " ++ joinTexts uncoveredCases]

/-- The lines about a drift. -/
def driftLines (differences : List OpenApiDifference) : List Text :=
  [lit "Unified live OpenAPI contract drift: " ++ decimal differences.length ++
      lit " difference(s).",
    lit "Live unified contract differs from schemas/openapi.json:"] ++
    differences.map (differenceLine platform) ++
    [lit "review the public contract change explicitly; refresh the snapshot separately " ++
      lit "with tools/refresh-openapi.py only after acceptance"]

/-! ## The gates -/

/-- `build_coverage(env_name="local", source="snapshot")`. -/
def buildCoverage : Except RunError (List OperationCoverage) := do
  let _ ← checkout.environment (lit "local")
  let deferred ← deferredAdminOperations platform checkout
  let markers ← collected checkout collectOpenapiMarkersFromTests
  let doc ← openapiSnapshot platform checkout
  coverageRows platform checkout deferred markers .snapshot doc

/-- `build_forbidden_coverage(env_name="local", source="snapshot")`. -/
def buildForbiddenCoverage : Except RunError (List ForbiddenResponseCoverage) := do
  let _ ← checkout.environment (lit "local")
  let doc ← openapiSnapshot platform checkout
  forbiddenRows platform checkout doc

/-- The gateway's report. -/
def gatewayReport (coverage : List OperationCoverage) :
    Except RunError SessionGatewayCoverageReport := do
  let cases ← buildSessionGatewayCoverage platform checkout
  raised (buildSessionGatewayCoverageReport (sessionGatewayOperations coverage) cases)

/-- The differences between the snapshot and a live document. -/
def liveDifferences (openapiPath : Text) (response : LiveResponse) :
    Except RunError (List OpenApiDifference) := do
  let live ← raisedSnapshot platform (fetchLiveOpenapi platform.numbers openapiPath response)
  let baseline ← openapiSnapshot platform checkout
  raised (compareOpenapiDocuments baseline live)

/-- The drift check, behind the coverage. -/
def checkDrift (config : EnvironmentConfig) (artifactDir : Text) :
    Runs (Int ⊕ List OpenApiDifference) := do
  let response ← perform oracle
    (.fetchOpenapi config.openapiPath (some (artifactDir ++ lit "/request-log.jsonl")))
  let differences ← Program.lift
    (liveDifferences platform checkout config.openapiPath response)
  perform oracle (.writeDrift (artifactDir ++ lit "/openapi-drift.json") differences
    (lit "schemas/openapi.json") (config.origin ++ config.openapiPath))
  pure (.inr differences)

/-- The `try` of `_run_full_validation`: the exit code it returns with, or the differences. -/
def gates (config : EnvironmentConfig) (artifactDir : Text) : Runs (Int ⊕ List OpenApiDifference) := do
  perform oracle (.writeDependencyInventory (artifactDir ++ lit "/dependency-inventory.json")
    checkout.root executable)
  let coverage ← Program.lift (buildCoverage platform checkout)
  perform oracle (.writeCoverage (artifactDir ++ lit "/openapi-coverage.json") coverage)
  let forbidden ← Program.lift (buildForbiddenCoverage platform checkout)
  perform oracle (.writeForbiddenCoverage (artifactDir ++ lit "/forbidden-response-coverage.json")
    forbidden)
  let report ← Program.lift (gatewayReport platform checkout coverage)
  perform oracle (.writeGatewayCoverage (artifactDir ++ lit "/session-gateway-coverage.json") report)
  let missing := missingOperationIds coverage
  let placeholders := placeholderOperationIds coverage
  let uncoveredCases := report.claims.uncoveredExecutableCaseIds
  if missing ≠ [] ∨ placeholders ≠ [] ∨ uncoveredCases ≠ [] then
    printErrors oracle (incompleteLines missing placeholders uncoveredCases)
    pure (.inl 1)
  else
    printAll oracle (sessionGatewayCoverageLines report)
    printAll oracle (forbiddenResponseCoverageLines forbidden)
    printAll oracle [unifiedCoverageSummary coverage,
      lit "Session Gateway reviewed contract and inbound inventory validation passed."]
    checkDrift platform checkout oracle config artifactDir

/-- The exceptions that `_run_full_validation` catches. -/
def ErrorKind.failsSetup : ErrorKind → Bool
  | .other => false
  | _ => true

/-- The handler of the `try`. -/
def setupFailed (e : RunError) : Runs (Int ⊕ List OpenApiDifference) :=
  if e.kind.failsSetup then do
    perform oracle (.printError (lit "full local regression setup failed: " ++ e.message))
    pure (.inl 1)
  else Program.raise e

/-- The command of `_run_pytest`. -/
def pytestCommand (arguments : List Text) (artifactDir : Text) : List Text :=
  [executable, lit "-m", lit "pytest", lit "-p", lit "api_tests.pytest_plugin", lit "--env",
    lit "local", lit "--request-log", artifactDir ++ lit "/request-log.jsonl", lit "--junitxml",
    artifactDir ++ lit "/pytest.xml"] ++ arguments

/-- `_run_pytest`. -/
def runPytest (arguments : List Text) (artifactDir : Text) : Runs Int :=
  perform oracle (.run (pytestCommand executable arguments artifactDir))

/-- What follows the `try`. -/
def finish (artifactDir : Text) : Int ⊕ List OpenApiDifference → Runs Int
  | .inl code => pure code
  | .inr differences =>
    if differences ≠ [] then do
      printErrors oracle (driftLines platform differences)
      pure 1
    else do
      perform oracle (.print
        (lit "Unified live OpenAPI contract drift: none; contract matches schemas/openapi.json."))
      runPytest executable oracle [] artifactDir

/-- `_run_full_validation`. -/
def fullValidation (config : EnvironmentConfig) (artifactDir : Text) : Runs Int := do
  perform oracle (.print (lit "FULL LOCAL REGRESSION: checking dependency inventory, coverage, and " ++
    lit "live contract drift."))
  let outcome ← Program.handle (gates platform checkout executable oracle config artifactDir)
    (setupFailed oracle)
  finish platform executable oracle artifactDir outcome

/-! ## The command -/

/-- `argument == "--env" or argument.startswith("--env=")`. -/
def selectsEnvironment (argument : Text) : Bool :=
  argument = lit "--env" || decide (lit "--env=" <+: argument)

/-- The exceptions that `main` catches. -/
def ErrorKind.failsTarget : ErrorKind → Bool
  | .fileNotFound | .value | .localCredential => true
  | _ => false

/-- The local environment, if it is the exact local target. -/
def localTarget : Except RunError EnvironmentConfig := do
  let config ← checkout.environment (lit "local")
  (Credentials.ensureExactLocalTarget config).mapError fun e => ⟨.localCredential, e.message⟩
  .ok config

/-- `main`, from a valid target on. -/
def start (arguments : List Text) (config : EnvironmentConfig) : Runs Int := do
  let artifactDir ← perform oracle (.newArtifactDir (checkout.root ++ lit "/artifacts/runs"))
  perform oracle (.print (lit "run artifacts: " ++ artifactDir))
  if arguments ≠ [] then do
    perform oracle (.print (lit "PARTIAL VALIDATION: pytest selectors were supplied; coverage and " ++
      lit "live contract drift gates are not included."))
    runPytest executable oracle arguments artifactDir
  else fullValidation platform checkout executable oracle config artifactDir

/-- The handler of the target's `try`. -/
def targetFailed (e : RunError) : Runs Int :=
  if e.kind.failsTarget then do
    perform oracle (.printError (lit "run-tests local target validation failed: " ++ e.message))
    pure 2
  else Program.raise e

/-- `main`. -/
def main (arguments : List Text) : Runs Int :=
  if arguments.any selectsEnvironment then do
    perform oracle (.printError (lit "run-tests always uses --env local; pass environment-changing " ++
      lit "options to pytest directly when working outside the supported local workflow"))
    pure 2
  else
    match localTarget checkout with
    | .error e => targetFailed oracle e
    | .ok config => start platform checkout executable oracle arguments config

/-! ## What a run has done -/

/-- The call starts a process. -/
def Op.isRun : Op → Bool
  | .run _ => true
  | _ => false

/-- No process has been started. -/
def NoPytest (trace : Trace RunError Op.Answer) : Prop := ∀ c ∈ trace, c.op.isRun = false

/-- The call was made and returned. -/
def Answered (trace : Trace RunError Op.Answer) (op : Op) : Prop := ∃ a, ⟨op, .ok a⟩ ∈ trace

/-- No process has been started, and these calls have returned. -/
def Behind (ops : List Op) (trace : Trace RunError Op.Answer) : Prop :=
  NoPytest trace ∧ ∀ op ∈ ops, Answered trace op

/-- What the full run writes, in the directory of its artifacts. -/
def writes (config : EnvironmentConfig) (artifactDir : Text) (coverage : List OperationCoverage)
    (forbidden : List ForbiddenResponseCoverage) (report : SessionGatewayCoverageReport)
    (differences : List OpenApiDifference) : List Op :=
  [.writeDrift (artifactDir ++ lit "/openapi-drift.json") differences (lit "schemas/openapi.json")
      (config.origin ++ config.openapiPath),
    .writeGatewayCoverage (artifactDir ++ lit "/session-gateway-coverage.json") report,
    .writeForbiddenCoverage (artifactDir ++ lit "/forbidden-response-coverage.json") forbidden,
    .writeCoverage (artifactDir ++ lit "/openapi-coverage.json") coverage,
    .writeDependencyInventory (artifactDir ++ lit "/dependency-inventory.json") checkout.root executable]

/-- **The gates have been gone through**: the checks passed, the live document was fetched and
compared, and every report was written. -/
def GatesDone (config : EnvironmentConfig) (artifactDir : Text) (differences : List OpenApiDifference)
    (trace : Trace RunError Op.Answer) : Prop :=
  ∃ baseline coverage forbidden report response,
    openapiSnapshot platform checkout = .ok baseline ∧
    Passes platform checkout .snapshot baseline coverage forbidden report ∧
    ⟨.fetchOpenapi config.openapiPath (some (artifactDir ++ lit "/request-log.jsonl")), .ok response⟩ ∈
      trace ∧
    liveDifferences platform checkout config.openapiPath response = .ok differences ∧
    ∀ op ∈ writes checkout executable config artifactDir coverage forbidden report differences,
      Answered trace op

section

variable {platform : Platform} {checkout : Checkout} {executable : Text}
  {oracle : Oracle RunError Op.Answer}

open Program

theorem NoPytest.append {trace : Trace RunError Op.Answer} (h : NoPytest trace)
    {c : Performed RunError Op.Answer} (hc : c.op.isRun = false) : NoPytest (trace ++ [c]) := by
  intro c' hc'
  rcases List.mem_append.mp hc' with hc' | hc'
  · exact h c' hc'
  · rw [List.mem_singleton.mp hc']
    exact hc

theorem Answered.append {trace : Trace RunError Op.Answer} {op : Op} (h : Answered trace op)
    (c : Performed RunError Op.Answer) : Answered (trace ++ [c]) op :=
  h.imp fun _ hmem => List.mem_append_left _ hmem

theorem Behind.append {ops : List Op} {trace : Trace RunError Op.Answer} (h : Behind ops trace)
    {c : Performed RunError Op.Answer} (hc : c.op.isRun = false) : Behind ops (trace ++ [c]) :=
  ⟨h.1.append hc, fun op hop => (h.2 op hop).append c⟩

/-- A call that starts no process. -/
theorem call_spec {ops : List Op} {op : Op} (hop : op.isRun = false) :
    Triple (Behind ops) (perform oracle op) (fun _ => Behind (op :: ops)) fun _ => NoPytest := by
  refine Triple.perform (fun a trace h => ⟨h.1.append hop, ?_⟩) fun _ _ h => h.1.append hop
  rw [List.forall_mem_cons]
  exact ⟨⟨a, List.mem_append_right _ (List.mem_singleton_self _)⟩, fun op' hop' =>
    (h.2 op' hop').append _⟩

/-- A call whose answer is not used. -/
theorem skip_spec {ops : List Op} {op : Op} (hop : op.isRun = false) :
    Triple (Behind ops) (perform oracle op) (fun _ => Behind ops) fun _ => NoPytest :=
  (call_spec hop).weaken (fun _ h => h)
    (fun _ _ h => ⟨h.1, fun op hop => h.2 op (List.mem_cons_of_mem _ hop)⟩) fun _ _ h => h

theorem printAll_spec {ops : List Op} : ∀ lines : List Text,
    Triple (Behind ops) (printAll oracle lines) (fun _ => Behind ops) fun _ => NoPytest
  | [] => Triple.pure fun _ h => h
  | _ :: lines => Triple.bind (skip_spec rfl) fun _ => printAll_spec lines

theorem printErrors_spec {ops : List Op} : ∀ lines : List Text,
    Triple (Behind ops) (printErrors oracle lines) (fun _ => Behind ops) fun _ => NoPytest
  | [] => Triple.pure fun _ h => h
  | _ :: lines => Triple.bind (skip_spec rfl) fun _ => printErrors_spec lines

/-- A computation without a call. -/
theorem lift_spec {α : Type} {ops : List Op} {y : Except RunError α} :
    Triple (Behind ops) (Program.lift y : Runs α) (fun a trace => y = .ok a ∧ Behind ops trace)
      fun _ => NoPytest :=
  Triple.lift (fun _ h _ hs => ⟨h, hs⟩) fun _ _ _ hs => hs.1

/-- **The drift check** asks for the live document, compares it and writes what it found. -/
theorem checkDrift_spec {ops : List Op} {config : EnvironmentConfig} {artifactDir : Text} :
    Triple (Behind ops) (checkDrift platform checkout oracle config artifactDir)
      (fun outcome trace => ∃ response differences, outcome = .inr differences ∧
        ⟨.fetchOpenapi config.openapiPath (some (artifactDir ++ lit "/request-log.jsonl")),
          .ok response⟩ ∈ trace ∧
        liveDifferences platform checkout config.openapiPath response = .ok differences ∧
        Behind (.writeDrift (artifactDir ++ lit "/openapi-drift.json") differences
          (lit "schemas/openapi.json") (config.origin ++ config.openapiPath) :: ops) trace)
      fun _ => NoPytest := by
  have hfetch : Triple (Behind ops) (perform oracle (.fetchOpenapi config.openapiPath
      (some (artifactDir ++ lit "/request-log.jsonl"))))
      (fun response trace => ⟨.fetchOpenapi config.openapiPath
        (some (artifactDir ++ lit "/request-log.jsonl")), .ok response⟩ ∈ trace ∧ Behind ops trace)
      fun _ => NoPytest :=
    Triple.perform
      (fun _ _ h => ⟨List.mem_append_right _ (List.mem_singleton_self _), h.append rfl⟩)
      fun _ _ h => h.1.append rfl
  refine Triple.bind hfetch fun response => ?_
  have hlift : Triple (fun trace => ⟨.fetchOpenapi config.openapiPath
        (some (artifactDir ++ lit "/request-log.jsonl")), .ok response⟩ ∈ trace ∧ Behind ops trace)
      (Program.lift (liveDifferences platform checkout config.openapiPath response) : Runs _)
      (fun differences trace => liveDifferences platform checkout config.openapiPath response =
        .ok differences ∧ ⟨.fetchOpenapi config.openapiPath
          (some (artifactDir ++ lit "/request-log.jsonl")), .ok response⟩ ∈ trace ∧ Behind ops trace)
      fun _ => NoPytest :=
    Triple.lift (fun _ h _ hs => ⟨h, hs⟩) fun _ _ _ hs => hs.2.1
  refine Triple.bind hlift fun differences => Triple.ofAnd fun hdifferences => ?_
  have hwrite : Triple (fun trace => ⟨.fetchOpenapi config.openapiPath
        (some (artifactDir ++ lit "/request-log.jsonl")), .ok response⟩ ∈ trace ∧ Behind ops trace)
      (perform oracle (.writeDrift (artifactDir ++ lit "/openapi-drift.json") differences
        (lit "schemas/openapi.json") (config.origin ++ config.openapiPath)))
      (fun _ trace => ⟨.fetchOpenapi config.openapiPath
          (some (artifactDir ++ lit "/request-log.jsonl")), .ok response⟩ ∈ trace ∧
        Behind (.writeDrift (artifactDir ++ lit "/openapi-drift.json") differences
          (lit "schemas/openapi.json") (config.origin ++ config.openapiPath) :: ops) trace)
      fun _ => NoPytest := by
    refine Triple.perform (fun a trace h => ⟨List.mem_append_left _ h.1, h.2.1.append rfl, ?_⟩)
      fun _ _ h => h.2.1.append rfl
    rw [List.forall_mem_cons]
    exact ⟨⟨a, List.mem_append_right _ (List.mem_singleton_self _)⟩, fun op hop =>
      (h.2.2 op hop).append _⟩
  exact Triple.bind hwrite fun _ => Triple.pure fun _ h =>
    ⟨response, differences, rfl, h.1, hdifferences, h.2⟩

/-- The reports, and the snapshot they are built from. -/
theorem passes_of_reports {coverage : List OperationCoverage}
    {forbidden : List ForbiddenResponseCoverage} {report : SessionGatewayCoverageReport}
    (hcoverage : buildCoverage platform checkout = .ok coverage)
    (hforbidden : buildForbiddenCoverage platform checkout = .ok forbidden)
    (hreport : gatewayReport platform checkout coverage = .ok report)
    (hmissing : missingOperationIds coverage = []) (hplaceholder : placeholderOperationIds coverage = [])
    (huncovered : report.claims.uncoveredExecutableCaseIds = []) :
    ∃ baseline, openapiSnapshot platform checkout = .ok baseline ∧
      Passes platform checkout .snapshot baseline coverage forbidden report := by
  simp only [buildCoverage, bind_eq_ok_iff] at hcoverage
  obtain ⟨-, -, deferred, hdeferred, markers, hmarkers, baseline, hbaseline, hrows⟩ := hcoverage
  simp only [buildForbiddenCoverage, bind_eq_ok_iff] at hforbidden
  obtain ⟨-, -, baseline', hbaseline', hforbidden⟩ := hforbidden
  obtain rfl := Except.ok.inj (hbaseline.symm.trans hbaseline')
  simp only [gatewayReport, bind_eq_ok_iff, raised_eq_ok] at hreport
  exact ⟨baseline, hbaseline, ⟨deferred, markers, hdeferred, hmarkers, hrows⟩, hforbidden, hreport,
    hmissing, hplaceholder, huncovered⟩

/-- **The gates**: they end early, or have been gone through. -/
theorem gates_spec {config : EnvironmentConfig} {artifactDir : Text} :
    Triple NoPytest (gates platform checkout executable oracle config artifactDir)
      (fun outcome trace => NoPytest trace ∧ (outcome = .inl 1 ∨
        ∃ differences, outcome = .inr differences ∧
          GatesDone platform checkout executable config artifactDir differences trace))
      fun _ => NoPytest := by
  have hstart : Triple NoPytest (perform oracle (.writeDependencyInventory
      (artifactDir ++ lit "/dependency-inventory.json") checkout.root executable))
      (fun _ => Behind [.writeDependencyInventory (artifactDir ++ lit "/dependency-inventory.json")
        checkout.root executable]) fun _ => NoPytest :=
    (call_spec rfl).weaken (fun _ h => ⟨h, fun _ hop => absurd hop List.not_mem_nil⟩)
      (fun _ _ h => h) fun _ _ h => h
  refine Triple.bind hstart fun _ => Triple.bind lift_spec fun coverage => Triple.ofAnd fun hcoverage =>
    Triple.bind (call_spec rfl) fun _ => Triple.bind lift_spec fun forbidden =>
    Triple.ofAnd fun hforbidden => Triple.bind (call_spec rfl) fun _ => Triple.bind lift_spec
    fun report => Triple.ofAnd fun hreport => Triple.bind (call_spec rfl) fun _ => ?_
  refine Triple.ite (fun _ => ?_) fun hcomplete => ?_
  · exact Triple.bind (printErrors_spec _) fun _ => Triple.pure fun _ h => ⟨h.1, Or.inl rfl⟩
  · simp only [ne_eq, not_or, not_not] at hcomplete
    obtain ⟨baseline, hbaseline, hpasses⟩ := passes_of_reports hcoverage hforbidden hreport
      hcomplete.1 hcomplete.2.1 hcomplete.2.2
    refine Triple.bind (printAll_spec _) fun _ => Triple.bind (printAll_spec _) fun _ =>
      Triple.bind (printAll_spec _) fun _ => checkDrift_spec.weaken (fun _ h => h) ?_ fun _ _ h => h
    rintro outcome trace ⟨response, differences, rfl, hfetched, hdifferences, hbehind⟩
    exact ⟨hbehind.1, Or.inr ⟨differences, rfl, baseline, coverage, forbidden, report, response,
      hbaseline, hpasses, hfetched, hdifferences, hbehind.2⟩⟩

/-! ## How a run ends -/

/-- The start of pytest. -/
theorem runPytest_spec {P : Trace RunError Op.Answer → Prop} {arguments : List Text}
    {artifactDir : Text} : Triple P (runPytest executable oracle arguments artifactDir)
      (fun code trace => ∃ before, trace = before ++
        [⟨.run (pytestCommand executable arguments artifactDir), .ok code⟩] ∧ P before)
      (fun e trace => ∃ before, trace = before ++
        [⟨.run (pytestCommand executable arguments artifactDir), .error e⟩] ∧ P before) :=
  Triple.perform (fun _ trace h => ⟨trace, rfl, h⟩) fun _ trace h => ⟨trace, rfl, h⟩

end

/-- **How a run ends**: without pytest, or with pytest run once, last, on exactly the arguments; a run
without arguments has gone through the gates before. -/
inductive Ends (arguments : List Text) : Except RunError Int → Trace RunError Op.Answer → Prop
  | stopped {code : Int} {trace : Trace RunError Op.Answer} (hcode : code = 1 ∨ code = 2)
      (h : NoPytest trace) : Ends arguments (.ok code) trace
  | raised {e : RunError} {trace : Trace RunError Op.Answer} (h : NoPytest trace) :
      Ends arguments (.error e) trace
  | ran {config : EnvironmentConfig} {artifactDir : Text} {before : Trace RunError Op.Answer}
      (answer : Except RunError Int) (harguments : arguments.any selectsEnvironment = false)
      (htarget : localTarget checkout = .ok config) (hbefore : NoPytest before)
      (hgates : arguments = [] → GatesDone platform checkout executable config artifactDir [] before) :
      Ends arguments answer
        (before ++ [⟨.run (pytestCommand executable arguments artifactDir), answer⟩])

section

variable {platform : Platform} {checkout : Checkout} {executable : Text}
  {oracle : Oracle RunError Op.Answer} {config : EnvironmentConfig} {arguments : List Text}

open Program

theorem GatesDone.append {artifactDir : Text} {differences : List OpenApiDifference}
    {trace : Trace RunError Op.Answer}
    (h : GatesDone platform checkout executable config artifactDir differences trace)
    (c : Performed RunError Op.Answer) :
    GatesDone platform checkout executable config artifactDir differences (trace ++ [c]) := by
  obtain ⟨baseline, coverage, forbidden, report, response, hbaseline, hpasses, hfetched, hdifferences,
    hwrites⟩ := h
  exact ⟨baseline, coverage, forbidden, report, response, hbaseline, hpasses,
    List.mem_append_left _ hfetched, hdifferences, fun op hop => (hwrites op hop).append c⟩

/-- What follows the gates. -/
theorem finish_spec {artifactDir : Text} (htarget : localTarget checkout = .ok config)
    (outcome : Int ⊕ List OpenApiDifference) :
    Triple (fun trace => NoPytest trace ∧ (outcome = .inl 1 ∨ ∃ differences, outcome = .inr differences ∧
        GatesDone platform checkout executable config artifactDir differences trace))
      (finish platform executable oracle artifactDir outcome)
      (fun code => Ends platform checkout executable [] (.ok code))
      fun e => Ends platform checkout executable [] (.error e) := by
  cases outcome with
  | inl code =>
    refine Triple.pure ?_
    rintro trace ⟨h, hcode | ⟨_, hcode, -⟩⟩
    · cases hcode
      exact .stopped (Or.inl rfl) h
    · cases hcode
  | inr differences =>
    have hdone : ∀ trace, (NoPytest trace ∧ ((Sum.inr differences : Int ⊕ _) = .inl 1 ∨
        ∃ differences', (Sum.inr differences : Int ⊕ _) = .inr differences' ∧
          GatesDone platform checkout executable config artifactDir differences' trace)) →
        NoPytest trace ∧ GatesDone platform checkout executable config artifactDir differences trace := by
      rintro trace ⟨h, hcode | ⟨_, hsame, hgates⟩⟩
      · cases hcode
      · cases hsame
        exact ⟨h, hgates⟩
    refine Triple.weaken (Triple.ite (fun _ => ?_) fun hnone => ?_) hdone (fun _ _ h => h)
      fun _ _ h => h
    · have hprint : Triple (fun trace => NoPytest trace ∧
          GatesDone platform checkout executable config artifactDir differences trace)
          (printErrors oracle (driftLines platform differences)) (fun _ => Behind [])
          fun e => Ends platform checkout executable [] (.error e) :=
        (printErrors_spec _).weaken (fun _ h => ⟨h.1, fun _ hop => absurd hop List.not_mem_nil⟩)
          (fun _ _ h => h) fun _ _ h => .raised h
      exact Triple.bind hprint fun _ => Triple.pure fun _ h => .stopped (Or.inl rfl) h.1
    · rw [ne_eq, not_not] at hnone
      subst hnone
      have hprint : Triple (fun trace => NoPytest trace ∧
          GatesDone platform checkout executable config artifactDir [] trace)
          (perform oracle (.print (lit
            "Unified live OpenAPI contract drift: none; contract matches schemas/openapi.json.")))
          (fun _ trace => NoPytest trace ∧
            GatesDone platform checkout executable config artifactDir [] trace)
          fun e => Ends platform checkout executable [] (.error e) :=
        Triple.perform (fun _ _ h => ⟨h.1.append rfl, h.2.append _⟩) fun _ _ h => .raised (h.1.append rfl)
      refine Triple.bind hprint fun _ => runPytest_spec.weaken (fun _ h => h) ?_ ?_
      · rintro code _ ⟨before, rfl, hbefore, hgates⟩
        exact .ran (.ok code) rfl htarget hbefore fun _ => hgates
      · rintro e _ ⟨before, rfl, hbefore, hgates⟩
        exact .ran (.error e) rfl htarget hbefore fun _ => hgates

/-- A handler that reports the error, or raises it again. -/
theorem report_spec {α : Type} {line : Text} {a : α} {e : RunError} {c : Prop} [Decidable c] :
    Triple NoPytest (if c then do
        perform oracle (.printError line)
        pure a
      else Program.raise e : Runs α)
      (fun a' trace => a' = a ∧ NoPytest trace) fun _ => NoPytest := by
  refine Triple.ite (fun _ => ?_) fun _ => Triple.raise fun _ h => h
  have hprint : Triple NoPytest (perform oracle (.printError line)) (fun _ => NoPytest)
      fun _ => NoPytest :=
    Triple.perform (fun _ _ h => h.append rfl) fun _ _ h => h.append rfl
  exact Triple.bind hprint fun _ => Triple.pure fun _ h => ⟨rfl, h⟩

/-- **The full run.** -/
theorem fullValidation_spec {artifactDir : Text} (htarget : localTarget checkout = .ok config) :
    Triple NoPytest (fullValidation platform checkout executable oracle config artifactDir)
      (fun code => Ends platform checkout executable [] (.ok code))
      fun e => Ends platform checkout executable [] (.error e) := by
  have hprint : Triple NoPytest (perform oracle (.print (lit
      "FULL LOCAL REGRESSION: checking dependency inventory, coverage, and " ++
        lit "live contract drift."))) (fun _ => NoPytest)
      fun e => Ends platform checkout executable [] (.error e) :=
    Triple.perform (fun _ _ h => h.append rfl) fun _ _ h => .raised (h.append rfl)
  have hgates : Triple NoPytest (Program.handle
      (gates platform checkout executable oracle config artifactDir) (setupFailed oracle))
      (fun outcome trace => NoPytest trace ∧ (outcome = .inl 1 ∨ ∃ differences,
        outcome = .inr differences ∧
          GatesDone platform checkout executable config artifactDir differences trace))
      fun e => Ends platform checkout executable [] (.error e) := by
    refine Triple.handle gates_spec fun e => ?_
    exact report_spec.weaken (fun _ h => h) (fun _ _ h => ⟨h.2, Or.inl h.1⟩) fun _ _ h => .raised h
  exact Triple.bind hprint fun _ => Triple.bind hgates fun outcome => finish_spec htarget outcome

/-- **Every run.** -/
theorem main_ends : Triple (fun trace => trace = []) (main platform checkout executable oracle arguments)
    (fun code => Ends platform checkout executable arguments (.ok code))
    fun e => Ends platform checkout executable arguments (.error e) := by
  have hnil : ∀ trace : Trace RunError Op.Answer, trace = [] → NoPytest trace := by
    rintro _ rfl c hc
    exact absurd hc List.not_mem_nil
  refine Triple.weaken (P := NoPytest) (Triple.ite (fun _ => ?_) fun harguments => ?_) hnil
    (fun _ _ h => h) fun _ _ h => h
  · have hprint : Triple NoPytest (perform oracle (.printError (lit
        "run-tests always uses --env local; pass environment-changing " ++
          lit "options to pytest directly when working outside the supported local workflow")))
        (fun _ => NoPytest) fun e => Ends platform checkout executable arguments (.error e) :=
      Triple.perform (fun _ _ h => h.append rfl) fun _ _ h => .raised (h.append rfl)
    exact Triple.bind hprint fun _ => Triple.pure fun _ h => .stopped (Or.inr rfl) h
  · rw [Bool.not_eq_true] at harguments
    cases htarget : localTarget checkout with
    | error e =>
      exact report_spec.weaken (fun _ h => h) (fun _ _ h => .stopped (Or.inr h.1) h.2)
        fun _ _ h => .raised h
    | ok config =>
      have hdir : Triple NoPytest (perform oracle
          (.newArtifactDir (checkout.root ++ lit "/artifacts/runs"))) (fun _ => NoPytest)
          fun e => Ends platform checkout executable arguments (.error e) :=
        Triple.perform (fun _ _ h => h.append rfl) fun _ _ h => .raised (h.append rfl)
      have hprint : ∀ line, Triple NoPytest (perform oracle (.print line)) (fun _ => NoPytest)
          fun e => Ends platform checkout executable arguments (.error e) := fun line =>
        Triple.perform (fun _ _ h => h.append rfl) fun _ _ h => .raised (h.append rfl)
      refine Triple.bind hdir fun artifactDir => Triple.bind (hprint _) fun _ =>
        Triple.ite (fun hselectors => ?_) fun hnone => ?_
      · refine Triple.bind (hprint _) fun _ => runPytest_spec.weaken (fun _ h => h) ?_ ?_
        · rintro code _ ⟨before, rfl, hbefore⟩
          exact .ran (.ok code) harguments htarget hbefore fun h => absurd h hselectors
        · rintro e _ ⟨before, rfl, hbefore⟩
          exact .ran (.error e) harguments htarget hbefore fun h => absurd h hselectors
      · rw [ne_eq, not_not] at hnone
        subst hnone
        exact fullValidation_spec htarget

/-! ## A run that nothing stops -/

/-- **Nothing stops the run on its way to pytest**: the arguments and the target are valid, and without
arguments the checks pass and no live document that may be fetched differs. -/
structure Unstopped (platform : Platform) (checkout : Checkout) (oracle : Oracle RunError Op.Answer)
    (arguments : List Text) (config : EnvironmentConfig) : Prop where
  answers : oracle.Answers
  selectors : arguments.any selectsEnvironment = false
  target : localTarget checkout = .ok config
  full : arguments = [] → ∃ baseline coverage forbidden report,
    openapiSnapshot platform checkout = .ok baseline ∧
    Passes platform checkout .snapshot baseline coverage forbidden report ∧
    ∀ trace requestLog response,
      oracle trace (.fetchOpenapi config.openapiPath requestLog) = .ok response →
      liveDifferences platform checkout config.openapiPath response = .ok []

/-- A computation that is known to return. -/
theorem returned {α β : Type} {P : Trace RunError Op.Answer → Prop} {y : Except RunError α} {a : α}
    {f : α → Runs β} {Q : β → Trace RunError Op.Answer → Prop}
    {E : RunError → Trace RunError Op.Answer → Prop} (hy : y = .ok a) (hf : Triple P (f a) Q E) :
    Triple P (Program.lift y >>= f) Q E := by
  subst hy
  exact hf

theorem printAll_returns (hanswers : oracle.Answers)
    {E : RunError → Trace RunError Op.Answer → Prop} : ∀ lines : List Text,
    Triple (fun _ => True) (printAll oracle lines) (fun _ _ => True) E
  | [] => Triple.pure fun _ h => h
  | _ :: lines => Triple.bind (Triple.performed hanswers fun _ _ h => h) fun _ =>
      printAll_returns hanswers lines

theorem gates_returns (h : Unstopped platform checkout oracle [] config) {artifactDir : Text} :
    Triple (fun _ => True) (gates platform checkout executable oracle config artifactDir)
      (fun outcome _ => outcome = .inr []) fun _ _ => False := by
  obtain ⟨baseline, coverage, forbidden, report, hbaseline,
    ⟨⟨deferred, markers, hdeferred, hmarkers, hrows⟩, hforbidden, ⟨cases, hcases, hreport⟩, hmissing,
      hplaceholder, huncovered⟩, hlive⟩ := h.full rfl
  have henvironment : ∃ config', checkout.environment (lit "local") = .ok config' := by
    obtain ⟨config', hconfig', -⟩ := bind_eq_ok_iff.mp h.target
    exact ⟨config', hconfig'⟩
  obtain ⟨config', hconfig'⟩ := henvironment
  have hcoverage : buildCoverage platform checkout = .ok coverage := by
    simp only [buildCoverage, bind_eq_ok_iff]
    exact ⟨config', hconfig', deferred, hdeferred, markers, hmarkers, baseline, hbaseline, hrows⟩
  have hforbiddenCoverage : buildForbiddenCoverage platform checkout = .ok forbidden := by
    simp only [buildForbiddenCoverage, bind_eq_ok_iff]
    exact ⟨config', hconfig', baseline, hbaseline, hforbidden⟩
  have hgatewayReport : gatewayReport platform checkout coverage = .ok report := by
    simp only [gatewayReport, bind_eq_ok_iff, raised_eq_ok]
    exact ⟨cases, hcases, hreport⟩
  have hcall : ∀ op, Triple (fun _ => True) (perform oracle op) (fun _ _ => True)
      fun _ (_ : Trace RunError Op.Answer) => False :=
    fun op => Triple.performed h.answers fun _ _ h => h
  refine Triple.bind (hcall _) fun _ => returned hcoverage (Triple.bind (hcall _) fun _ =>
    returned hforbiddenCoverage (Triple.bind (hcall _) fun _ => returned hgatewayReport
      (Triple.bind (hcall _) fun _ => Triple.ite (fun hincomplete => ?_) fun _ => ?_)))
  · exact absurd hincomplete (by simp [hmissing, hplaceholder, huncovered])
  · refine Triple.bind (printAll_returns h.answers _) fun _ =>
      Triple.bind (printAll_returns h.answers _) fun _ =>
      Triple.bind (printAll_returns h.answers _) fun _ => ?_
    have hfetch : Triple (fun _ => True) (perform oracle (.fetchOpenapi config.openapiPath
        (some (artifactDir ++ lit "/request-log.jsonl"))))
        (fun response _ => liveDifferences platform checkout config.openapiPath response = .ok [])
        fun _ (_ : Trace RunError Op.Answer) => False := by
      intro trace _
      obtain ⟨response, hresponse⟩ := h.answers trace (.fetchOpenapi config.openapiPath
        (some (artifactDir ++ lit "/request-log.jsonl")))
      unfold perform
      rw [hresponse]
      exact hlive _ _ _ hresponse
    refine Triple.bind hfetch fun response => Triple.assume (fun _ h => h) fun hresponse => ?_
    refine returned hresponse (Triple.bind (Triple.weaken (hcall _) (fun _ _ => trivial)
      (fun _ _ h => h) fun _ _ h => h) fun _ => Triple.pure fun _ _ => rfl)

/-- Pytest has been started. -/
def Started (trace : Trace RunError Op.Answer) : Prop := ∃ c ∈ trace, c.op.isRun = true

/-- **A run that nothing stops starts pytest.** -/
theorem main_starts (h : Unstopped platform checkout oracle arguments config) :
    Triple (fun _ => True) (main platform checkout executable oracle arguments)
      (fun _ => Started) fun _ => Started := by
  have hpytest : ∀ artifactDir, Triple (fun _ => True)
      (runPytest executable oracle arguments artifactDir) (fun _ => Started) fun _ => Started :=
    fun artifactDir => Triple.perform
      (fun _ _ _ => ⟨_, List.mem_append_right _ (List.mem_singleton_self _), rfl⟩)
      fun _ _ _ => ⟨_, List.mem_append_right _ (List.mem_singleton_self _), rfl⟩
  have hcall : ∀ op, Triple (fun _ => True) (perform oracle op) (fun _ _ => True)
      fun _ => Started := fun op => Triple.performed h.answers fun _ _ h => h
  refine Triple.ite (fun hselects => ?_) fun _ => ?_
  · rw [h.selectors] at hselects
    cases hselects
  · rw [h.target]
    refine Triple.bind (hcall _) fun artifactDir => Triple.bind (hcall _) fun _ =>
      Triple.ite (fun _ => Triple.bind (hcall _) fun _ => hpytest artifactDir) fun hnone => ?_
    rw [ne_eq, not_not] at hnone
    subst hnone
    refine Triple.bind (hcall _) fun _ => Triple.bind (Q := fun outcome _ => outcome = .inr []) ?_ ?_
    · exact Triple.handle ((gates_returns h).weaken (fun _ h => h) (fun _ _ h => h) fun _ _ h => h)
        fun e => fun _ h => absurd h id
    · intro outcome
      refine Triple.assume (fun _ h => h) fun houtcome => ?_
      subst houtcome
      rw [finish, if_neg (not_not.mpr rfl)]
      exact Triple.weaken (Triple.bind (hcall _) fun _ => hpytest artifactDir) (fun _ _ => trivial)
        (fun _ _ h => h) fun _ _ h => h

/-- **The full run has accepted the checkout and the live contract.** -/
theorem GatesDone.accepted {artifactDir : Text} {trace : Trace RunError Op.Answer}
    (h : GatesDone platform checkout executable config artifactDir [] trace) :
    ∃ baseline live response requestLog, openapiSnapshot platform checkout = .ok baseline ∧
      ⟨.fetchOpenapi config.openapiPath requestLog, .ok response⟩ ∈ trace ∧
      fetchLiveOpenapi platform.numbers config.openapiPath response = .ok live ∧
      AcceptedCheckout platform checkout baseline ∧
      SameContractBy (fun x y => pyEq x y = true) baseline live := by
  obtain ⟨baseline, coverage, forbidden, report, response, hbaseline, hpasses, hfetched, hdifferences,
    -⟩ := h
  simp only [liveDifferences, bind_eq_ok_iff, raised_eq_ok] at hdifferences
  obtain ⟨live, hlive, baseline', hbaseline', hcompare⟩ := hdifferences
  obtain rfl := Except.ok.inj (hbaseline.symm.trans hbaseline')
  exact ⟨baseline, live, response, _, hbaseline, hfetched, mapError_eq_ok.mp hlive, hpasses.accepted,
    (compareOpenapiDocuments_eq_nil hcompare).mp rfl⟩

end

/-- **How every run ends.** -/
theorem ends_main (platform : Platform) (checkout : Checkout) (executable : Text)
    (oracle : Oracle RunError Op.Answer) (arguments : List Text) :
    Ends platform checkout executable arguments
      (main platform checkout executable oracle arguments []).1
      (main platform checkout executable oracle arguments []).2 := by
  have hmain : Program.Triple (fun trace => trace = [])
      (main platform checkout executable oracle arguments)
      (fun code => Ends platform checkout executable arguments (.ok code))
      fun e => Ends platform checkout executable arguments (.error e) := main_ends
  have hrun := hmain [] rfl
  rcases hresult : main platform checkout executable oracle arguments [] with ⟨result, trace⟩
  rw [hresult] at hrun
  cases result <;> exact hrun

/-- **The local regression run**: it ends without pytest, and not with 0, or with pytest run once, last,
on exactly the given selectors; a run without selectors has accepted the checkout and the live contract
before. A run that nothing stops starts pytest. -/
theorem local_runner (platform : Platform) (checkout : Checkout) (executable : Text)
    (oracle : Oracle RunError Op.Answer) (arguments : List Text) :
    Ends platform checkout executable arguments
      (main platform checkout executable oracle arguments []).1
      (main platform checkout executable oracle arguments []).2 ∧
    (arguments = [] → Started (main platform checkout executable oracle arguments []).2 →
      ∃ config baseline live response requestLog, localTarget checkout = .ok config ∧
        openapiSnapshot platform checkout = .ok baseline ∧
        ⟨.fetchOpenapi config.openapiPath requestLog, .ok response⟩ ∈
          (main platform checkout executable oracle arguments []).2 ∧
        fetchLiveOpenapi platform.numbers config.openapiPath response = .ok live ∧
        AcceptedCheckout platform checkout baseline ∧
        SameContractBy (fun x y => pyEq x y = true) baseline live) ∧
    ((main platform checkout executable oracle arguments []).1 = .ok 0 →
      Started (main platform checkout executable oracle arguments []).2) ∧
    ∀ config, Unstopped platform checkout oracle arguments config →
      Started (main platform checkout executable oracle arguments []).2 := by
  have hends := ends_main platform checkout executable oracle arguments
  refine ⟨hends, fun hnone hstarted => ?_, fun hzero => ?_, fun config h => ?_⟩
  · generalize (main platform checkout executable oracle arguments []).1 = result at hends
    generalize (main platform checkout executable oracle arguments []).2 = trace at hends hstarted ⊢
    have hnot : NoPytest trace → False := by
      intro h
      obtain ⟨c, hc, hrun⟩ := hstarted
      rw [h c hc] at hrun
      cases hrun
    cases hends with
    | stopped _ h => exact absurd h hnot
    | raised h => exact absurd h hnot
    | ran answer _ htarget _ hgates =>
      obtain ⟨baseline, live, response, requestLog, hbaseline, hfetched, hlive, haccepted, hsame⟩ :=
        (hgates hnone).accepted
      exact ⟨_, baseline, live, response, requestLog, htarget, hbaseline,
        List.mem_append_left _ hfetched, hlive, haccepted, hsame⟩
  · generalize (main platform checkout executable oracle arguments []).2 = trace at hends ⊢
    rw [hzero] at hends
    cases hends with
    | stopped hcode h =>
      rcases hcode with hcode | hcode
      · cases hcode
      · cases hcode
    | ran answer => exact ⟨_, List.mem_append_right _ (List.mem_singleton_self _), rfl⟩
  · have hmain : Program.Triple (fun _ => True)
        (main platform checkout executable oracle arguments) (fun _ => Started) fun _ => Started :=
      main_starts h
    have hrun := hmain [] trivial
    rcases hresult : main platform checkout executable oracle arguments [] with ⟨result, trace⟩
    rw [hresult] at hrun
    cases result <;> exact hrun

/-! ## A full run -/

/-- An error that is documented. -/
def errorResponse : Json PyNumber :=
  .dict [(lit "content", .dict [(lit "application/json",
    .dict [(lit "schema", .dict [(lit "type", .str (lit "object"))])])])]

/-- One operation, which documents a missing and a refused session. -/
def viewsSnapshot : OpenApiDocument where
  entries := [(lit "paths", .dict [(lit "/v1/views", .dict [(lit "get", .dict [
    (lit "operationId", .str (lit "listViews")),
    (lit "responses", .dict [(lit "401", errorResponse), (lit "403", errorResponse)])])])])]
  keysDistinct := by simp [Json.KeysDistinct, Json.KeysDistinctEntries, errorResponse, lit]

/-- The gateway's logout, a redirect. -/
def logoutSnapshot : JsonValue PyNumber where
  json := .dict [(lit "paths", .dict [(lit "/logout", .dict [(lit "get", .dict [
    (lit "operationId", .str (lit "logout")),
    (lit "responses", .dict [(lit "302", .dict [(lit "headers", .dict [(lit "Location", .dict [
      (lit "schema", .dict [(lit "type", .str (lit "string")),
        (lit "format", .str (lit "uri"))])])])])])])])])]
  keysDistinct := by simp [Json.KeysDistinct, Json.KeysDistinctEntries, lit]

/-- A test of each operation. -/
def viewsTests : List Stmt :=
  [.functionDef (lit "test_views") [.call (pytestMark (lit "openapi")) [.str (lit "listViews")] []] [],
    .functionDef (lit "test_logout") [
      .call (pytestMark (lit "openapi")) [.str (lit "logout")]
        [(some (lit "contract"), .str (lit "session_gateway"))],
      namedCase (lit "logout-redirect")] []]

/-- A platform for documents in ASCII, whose one YAML snapshot is the gateway's. -/
def viewsPlatform : Platform where
  numbers := integers
  safeLoad _ := some logoutSnapshot
  printer := asciiPrinter
  display _ := []
  describe _ := []
  encodeMessage := []
  hashMessage := []

/-- The two snapshots; the refused session is deferred. -/
def viewsCheckout : Checkout where
  root := lit "/api-tests"
  environment _ := .ok localConfig
  deferredAdmin := .ok (yamlMapping [("deferred_admin_operations", .list [])])
  forbiddenResponses := .ok (yamlMapping [("deferred_forbidden_responses", .list [yamlMapping [
    ("operationId", .str (lit "listViews")), ("method", .str (lit "GET")),
    ("path", .str (lit "/v1/views")),
    ("reason", .str (lit "no_restricted_normal_user_scenario"))]])])
  gatewayInventory := .ok logoutInventory
  openapi := some (snapshotText integers viewsSnapshot)
  gatewayOpenapi := some []
  tests := .ok [viewsTests]

/-- Every call returns, and the live document is that of the snapshot. -/
def viewsOracle : Oracle RunError Op.Answer := fun _ op =>
  match op with
  | .newArtifactDir parent => .ok parent
  | .fetchOpenapi _ _ => .ok ⟨200, some (snapshotText integers viewsSnapshot)⟩
  | .run _ => .ok 0
  | .print _ | .printError _ | .writeDependencyInventory _ _ _ | .writeCoverage _ _
  | .writeForbiddenCoverage _ _ | .writeGatewayCoverage _ _ | .writeDrift _ _ _ _ => .ok ()

theorem viewsOracle_answers : viewsOracle.Answers := by
  intro trace op
  cases op <;> exact ⟨_, rfl⟩

/-- A full run that goes through every gate. -/
theorem local_runner_example :
    (∃ artifactDir trace, GatesDone viewsPlatform viewsCheckout (lit "python") localConfig artifactDir []
      trace) ∧
    Unstopped viewsPlatform viewsCheckout viewsOracle [] localConfig ∧
    Started (main viewsPlatform viewsCheckout (lit "python") viewsOracle [] []).2 := by
  have htarget : localTarget viewsCheckout = .ok localConfig := by rfl
  have hzero : (main viewsPlatform viewsCheckout (lit "python") viewsOracle [] []).1 = .ok 0 := by
    decide +kernel
  have hsame : liveDifferences viewsPlatform viewsCheckout localConfig.openapiPath
      ⟨200, some (snapshotText integers viewsSnapshot)⟩ = .ok [] := by
    decide +kernel
  have hgates : ∃ artifactDir trace, GatesDone viewsPlatform viewsCheckout (lit "python") localConfig
      artifactDir [] trace := by
    have hends := ends_main viewsPlatform viewsCheckout (lit "python") viewsOracle []
    rw [hzero] at hends
    generalize (main viewsPlatform viewsCheckout (lit "python") viewsOracle [] []).2 = trace at hends
    cases hends with
    | stopped hcode _ => simp at hcode
    | ran answer _ htarget' _ hgates =>
      obtain rfl := Except.ok.inj (htarget.symm.trans htarget')
      exact ⟨_, _, hgates rfl⟩
  have hunstopped : Unstopped viewsPlatform viewsCheckout viewsOracle [] localConfig := by
    obtain ⟨-, -, baseline, coverage, forbidden, report, -, hbaseline, hpasses, -⟩ := hgates
    refine ⟨viewsOracle_answers, rfl, htarget, fun _ => ⟨baseline, coverage, forbidden, report,
      hbaseline, hpasses, ?_⟩⟩
    rintro trace requestLog response hresponse
    cases hresponse
    exact hsame
  exact ⟨hgates, hunstopped, (local_runner viewsPlatform viewsCheckout (lit "python") viewsOracle
    []).2.2.2 localConfig hunstopped⟩

end ApiTests.Runner
