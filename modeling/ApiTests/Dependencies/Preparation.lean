import ApiTests.Dependencies.ReadinessMarker

/-!
# The preparation of a bootstrap run

Before `bootstrap_environment` looks at `.venv` it installs the pinned uv and the managed Python, checks
the lock and computes the identity (`local_bootstrap.py:73-94`). Which of this succeeds is a matter of
what the commands answer: each is asked behind the commands so far, its history.

`uvCommands` are the commands up to a uv of the pinned version, `PythonAt` says which Python is
listed behind them, and `Prepares` that the preparation succeeds.

Results:
* `Prepares.unique`: the answers admit one outcome.
* **`prepare_at`**: the preparation returns what its answers admit, and otherwise stops with a
  `BootstrapError`, unless a listing or a path cannot be read (`Unprepared`).
-/

namespace ApiTests.Dependencies

open Py Program

variable (world : Surroundings) (root : Text)

/-! ## What the commands answer -/

/-- The command exits 0 behind its history. -/
def succeeds (history : List Command) (command : Command) : Bool :=
  match world.respond (history ++ [command]) with
  | .ok result => result.returncode = 0
  | .error _ => false

/-- The pinned uv is there and reports its version. -/
def reportsPin (contract : DependencyContract) (history : List Command) : Bool :=
  world.isFile history (pinnedUvExecutable root contract) &&
    match world.respond (history ++ [uvVersionCommand (pinnedUvExecutable root contract)]) with
    | .ok result => result.returncode = 0 &&
        beforeParenthesis (strip result.stdout) = lit "uv " ++ contract.uvVersion
    | .error _ => false

/-- The commands behind a look at the pinned uv. -/
def probed (contract : DependencyContract) (history : List Command) : List Command :=
  if world.isFile history (pinnedUvExecutable root contract) then
    history ++ [uvVersionCommand (pinnedUvExecutable root contract)]
  else history

/-- The commands up to a uv that reports the pinned version, at once or after its installation. -/
def uvCommands (contract : DependencyContract) : Option (List Command) :=
  if reportsPin world root contract [] then some (probed world root contract [])
  else
    let created := probed world root contract [] ++ [toolEnvironmentCommand world root contract]
    let installed := created ++ [uvInstallCommand root contract]
    if succeeds world (probed world root contract []) (toolEnvironmentCommand world root contract) ∧
        succeeds world created (uvInstallCommand root contract) ∧
        reportsPin world root contract installed then some (probed world root contract installed)
    else none

/-- The commands up to the list of the managed Pythons. -/
def listCommands (contract : DependencyContract) (history : List Command) : List Command :=
  history ++ [pythonInstallCommand contract (pinnedUvExecutable root contract)] ++
    [pythonListCommand contract (pinnedUvExecutable root contract)]

/-- The managed Python is installed, and this is what is made of the list. -/
structure ListedAs (contract : DependencyContract) (history : List Command) (path : Except Stop Text) :
    Prop where
  installed : succeeds world history
    (pythonInstallCommand contract (pinnedUvExecutable root contract)) = true
  listed : ∃ result, world.respond (listCommands root contract history) = .ok result ∧
    result.returncode = 0 ∧ managedPath world contract result.stdout = path

/-- The one Python of the list is an absolute path, and reports the pinned version. -/
structure PythonAt (contract : DependencyContract) (history : List Command) (python : Text) : Prop where
  listed : ListedAs world root contract history (.ok python)
  absolute : headIn (fun c => c = 47) python = true
  version : ∃ result, world.respond (listCommands root contract history ++
    [pythonVersionCommand python]) = .ok result ∧ result.returncode = 0 ∧
      strip result.stdout = contract.pythonPin

/-- What a run knows before it looks at `.venv`. -/
structure Prepared where
  contract : DependencyContract
  uvExecutable : Text
  pythonExecutable : Text
  identity : BootstrapIdentity

/-- The commands of a whole preparation. -/
def preparedCommands (contract : DependencyContract) (python : Text) (history : List Command) :
    List Command :=
  listCommands root contract history ++ [pythonVersionCommand python] ++
    [frozenLockCheckCommand (pinnedUvExecutable root contract) python]

/-- A uv and a Python are there, and the lock is fresh. -/
structure Ready (contract : DependencyContract) (history : List Command) (python : Text) : Prop where
  read : readContract world = .ok contract
  uv : uvCommands world root contract = some history
  found : PythonAt world root contract history python
  lock : succeeds world (listCommands root contract history ++ [pythonVersionCommand python])
    (frozenLockCheckCommand (pinnedUvExecutable root contract) python) = true

/-- **The preparation succeeds**, with these commands. -/
structure Prepares (prepared : Prepared) (commands : List Command) : Prop where
  ready : ∃ history, Ready world root prepared.contract history prepared.pythonExecutable ∧
    commands = preparedCommands root prepared.contract prepared.pythonExecutable history
  uvExecutable : prepared.uvExecutable = pinnedUvExecutable root prepared.contract
  identity : bootstrapIdentity world root prepared.contract prepared.pythonExecutable =
    .ok prepared.identity

/-- The list of the managed Pythons, or the path of the one it has, cannot be read. -/
inductive Unprepared : Prop where
  | list {contract : DependencyContract} {history : List Command}
      (hcontract : readContract world = .ok contract)
      (huv : uvCommands world root contract = some history)
      (hlisted : ListedAs world root contract history (.error .other))
  | path {contract : DependencyContract} {history : List Command} {python : Text}
      (hready : Ready world root contract history python) (hpath : world.resolve python = none)

/-- What a run may rely on: its commands run, its file operations do not fail, and `json.loads` makes
dicts of distinct keys. -/
structure Works : Prop where
  commands : ∀ commands, ∃ result, world.respond commands = .ok result
  files : ∀ step, world.fileFails step = none
  contract : world.contractFiles ≠ none
  inputs : ∀ name ∈ [lit ".python-version", lit "pyproject.toml", lit "uv.lock"],
    world.readBytes (joinPath root name) ≠ none
  loads : ∀ t value, world.loads t = .ok value → value.KeysDistinct

/-! ## One outcome -/

variable {world : Surroundings} {root : Text} {contract : DependencyContract}

theorem ListedAs.unique {history : List Command} {path path' : Except Stop Text}
    (h : ListedAs world root contract history path) (h' : ListedAs world root contract history path') :
    path = path' := by
  obtain ⟨result, hresult, -, rfl⟩ := h.listed
  obtain ⟨result', hresult', -, rfl⟩ := h'.listed
  rw [hresult, Except.ok.injEq] at hresult'
  rw [hresult']

theorem Ready.unique {contract' : DependencyContract} {history history' : List Command}
    {python python' : Text} (h : Ready world root contract history python)
    (h' : Ready world root contract' history' python') :
    contract = contract' ∧ history = history' ∧ python = python' := by
  have hcontract := h.read.symm.trans h'.read
  cases hcontract
  have huv := h.uv.symm.trans h'.uv
  cases huv
  have hlisted := h.found.listed.unique h'.found.listed
  cases hlisted
  exact ⟨rfl, rfl, rfl⟩

theorem Prepares.unique {prepared prepared' : Prepared} {commands commands' : List Command}
    (h : Prepares world root prepared commands) (h' : Prepares world root prepared' commands') :
    prepared = prepared' ∧ commands = commands' := by
  obtain ⟨contract, uv, python, identity⟩ := prepared
  obtain ⟨contract', uv', python', identity'⟩ := prepared'
  obtain ⟨⟨history, hready, rfl⟩, huv, hidentity⟩ := h
  obtain ⟨⟨history', hready', rfl⟩, huv', hidentity'⟩ := h'
  obtain ⟨hcontract, hhistory, hpython⟩ := hready.unique hready'
  dsimp only at hcontract hhistory hpython huv huv'
  subst hcontract hhistory hpython huv huv'
  have heq := hidentity.symm.trans hidentity'
  cases heq
  exact ⟨rfl, rfl⟩

/-- An identity needs the path of the Python. -/
theorem resolve_of_identity {python : Text} {identity : BootstrapIdentity}
    (h : bootstrapIdentity world root contract python = .ok identity) : world.resolve python ≠ none := by
  intro hpath
  have hresolved : resolved world python = .error .other := by
    unfold resolved
    split
    · rename_i t ht
      rw [hpath] at ht
      cases ht
    · rfl
  rw [bootstrapIdentity, hresolved] at h
  cases h

theorem Prepares.not_unprepared {prepared : Prepared} {commands : List Command}
    (h : Prepares world root prepared commands) : ¬ Unprepared world root := by
  obtain ⟨⟨history, hready, -⟩, -, hidentity⟩ := h
  rintro (⟨hcontract, huv, hlisted⟩ | ⟨hready', hpath⟩)
  · cases hready.read.symm.trans hcontract
    cases hready.uv.symm.trans huv
    have heq := hready.found.listed.unique hlisted
    cases heq
  · obtain ⟨hcontract, -, hpython⟩ := hready.unique hready'
    subst hpython
    exact resolve_of_identity hidentity hpath

/-! ## The steps of the preparation -/

/-- A machine behind these commands, with this at `.venv`. -/
def At (history : List Command) (target : Target) (m : Machine) : Prop :=
  m.commands = history ∧ m.checkout.venv.target = target

def IsBootstrapError (stop : Stop) : Prop := ∃ message, stop = .bootstrapError message

variable {history : List Command} {target : Target}

theorem bootstrapError_at {α : Type} {message : Text} {P : Machine → Prop} {Q : α → Machine → Prop}
    {E : Stop → Machine → Prop} (h : ∀ stop m, IsBootstrapError stop → P m → E stop m) :
    Triple P (bootstrapError message : Bootstrap α) Q E :=
  Triple.raise fun m hm => h _ m ⟨message, rfl⟩ hm

section Steps

variable (hworld : Works world root)

include hworld

theorem runCommand_at (command : Command) : Triple (At history target) (runCommand world command)
    (fun result m => world.respond (history ++ [command]) = .ok result ∧
      At (history ++ [command]) target m) fun _ _ => False := by
  rintro m ⟨rfl, htarget⟩
  obtain ⟨result, hresult⟩ := hworld.commands (m.commands ++ [command])
  have hrun : runCommand world command m =
      (.ok result, { m with commands := m.commands ++ [command] }) := by
    rw [← hresult]
    rfl
  rw [hrun]
  exact ⟨hresult, rfl, htarget⟩

/-- A command that has to exit 0. -/
theorem runCommand_succeeds {α : Type} (command : Command) {f : CompletedProcess → Bootstrap α}
    {Q : α → Machine → Prop} {E : Stop → Machine → Prop}
    (hf : ∀ result, world.respond (history ++ [command]) = .ok result →
      Triple (At (history ++ [command]) target) (f result) Q E) :
    Triple (At history target) (runCommand world command >>= f) Q E :=
  Triple.bind (Triple.weaken (runCommand_at hworld command) (fun _ h => h) (fun _ _ h => h)
    fun _ _ h => h.elim) fun result => Triple.ofAnd (hf result)

omit hworld in
theorem succeeds_iff {command : Command} {result : CompletedProcess}
    (h : world.respond (history ++ [command]) = .ok result) :
    succeeds world history command = true ↔ result.returncode = 0 := by
  rw [succeeds, h, decide_eq_true_iff]

theorem uvVersionMatches_at : Triple (At history target)
    (uvVersionMatches world (pinnedUvExecutable root contract) contract.uvVersion)
    (fun matching m => matching = reportsPin world root contract history ∧
      At (probed world root contract history) target m) fun _ _ => False := by
  refine Triple.getBind fun m hm => ?_
  rw [hm.1]
  unfold reportsPin probed
  cases hfile : world.isFile history (pinnedUvExecutable root contract) with
  | false => exact Triple.pure fun m' hm' => ⟨rfl, hm'⟩
  | true =>
    refine Triple.handle (show Triple _ _ _ fun _ _ => False from ?_) fun stop _ h => h.elim
    refine runCommand_succeeds hworld _ fun result hresult => Triple.pure fun m' hm' => ?_
    rw [hresult]
    exact ⟨rfl, hm'⟩

theorem ensurePinnedUv_at : Triple (At [] target) (ensurePinnedUv world root contract)
    (fun executable m => executable = pinnedUvExecutable root contract ∧
      ∃ history, uvCommands world root contract = some history ∧ At history target m)
    fun stop _ => IsBootstrapError stop ∧ uvCommands world root contract = none := by
  have hnone : reportsPin world root contract [] = false →
      (¬ (succeeds world (probed world root contract []) (toolEnvironmentCommand world root contract) ∧
        succeeds world (probed world root contract [] ++ [toolEnvironmentCommand world root contract])
          (uvInstallCommand root contract) ∧
        reportsPin world root contract (probed world root contract [] ++
          [toolEnvironmentCommand world root contract] ++ [uvInstallCommand root contract]))) →
      uvCommands world root contract = none := by
    intro hpin hrest
    unfold uvCommands
    rw [hpin, if_neg Bool.false_ne_true]
    exact if_neg hrest
  refine Triple.bind (Triple.weaken (uvVersionMatches_at hworld) (fun _ h => h) (fun _ _ h => h)
    fun _ _ h => h.elim) fun matching => Triple.ofAnd ?_
  rintro rfl
  cases hpin : reportsPin world root contract [] with
  | true =>
    refine Triple.pure fun m hm => ⟨rfl, _, ?_, hm⟩
    unfold uvCommands
    rw [hpin, if_pos rfl]
  | false =>
    refine runCommand_succeeds hworld _ fun created hcreated => Triple.ite (fun hcode => ?_) fun hcode => ?_
    · refine bootstrapError_at fun stop m hstop _ => ⟨hstop, hnone hpin fun h => hcode ?_⟩
      exact (succeeds_iff hcreated).mp h.1
    refine runCommand_succeeds hworld _ fun installed hinstalled =>
      Triple.ite (fun hcode' => ?_) fun hcode' => ?_
    · refine bootstrapError_at fun stop m hstop _ => ⟨hstop, hnone hpin fun h => hcode' ?_⟩
      exact (succeeds_iff hinstalled).mp h.2.1
    refine Triple.bind (Triple.weaken (uvVersionMatches_at hworld) (fun _ h => h) (fun _ _ h => h)
      fun _ _ h => h.elim) fun matching => Triple.ofAnd ?_
    rintro rfl
    refine Triple.ite (fun hmatching => ?_) fun hmatching => ?_
    · refine Triple.pure fun m hm => ⟨rfl, _, ?_, hm⟩
      unfold uvCommands
      rw [hpin, if_neg Bool.false_ne_true]
      exact if_pos ⟨(succeeds_iff hcreated).mpr (not_not.mp hcode),
        (succeeds_iff hinstalled).mpr (not_not.mp hcode'), hmatching⟩
    · exact bootstrapError_at fun stop m hstop _ => ⟨hstop, hnone hpin fun h => hmatching h.2.2⟩

omit hworld in
theorem managedPath_stop {stdout : Text} {stop : Stop} (h : managedPath world contract stdout = .error stop) :
    stop = .other ∨ IsBootstrapError stop := by
  unfold managedPath at h
  cases hloads : world.loads stdout with
  | error failure =>
    rw [hloads] at h
    cases failure with
    | jsonDecodeError message =>
      cases h
      exact .inr ⟨_, rfl⟩
    | other =>
      cases h
      exact .inl rfl
  | ok value =>
    rw [hloads] at h
    cases value with
    | list installations =>
      simp only at h
      split at h
      · cases h
      · cases h
        exact .inr ⟨_, rfl⟩
    | _ =>
      cases h
      exact .inr ⟨_, rfl⟩

theorem ensureManagedPython_at :
    Triple (At history target)
      (ensureManagedPython world contract (pinnedUvExecutable root contract))
      (fun python m => PythonAt world root contract history python ∧
        At (listCommands root contract history ++ [pythonVersionCommand python]) target m)
      fun stop _ => stop = .other ∧ ListedAs world root contract history (.error .other) ∨
        IsBootstrapError stop ∧ ¬ ListedAs world root contract history (.error .other) ∧
          ∀ python, ¬ PythonAt world root contract history python := by
  have hunlisted : (∀ path, ¬ ListedAs world root contract history path) →
      ¬ ListedAs world root contract history (.error .other) ∧
        ∀ python, ¬ PythonAt world root contract history python :=
    fun h => ⟨h _, fun python hpython => h _ hpython.listed⟩
  refine runCommand_succeeds hworld _ fun installed hinstalled => Triple.ite (fun hcode => ?_) fun hcode => ?_
  · exact bootstrapError_at fun stop m hstop _ => .inr ⟨hstop, hunlisted fun path hpath =>
      hcode ((succeeds_iff hinstalled).mp hpath.installed)⟩
  refine runCommand_succeeds hworld _ fun listed hlisted => Triple.ite (fun hcode' => ?_) fun hcode' => ?_
  · refine bootstrapError_at fun stop m hstop _ => .inr ⟨hstop, hunlisted fun path hpath => hcode' ?_⟩
    obtain ⟨result, hresult, hzero, -⟩ := hpath.listed
    rw [listCommands, hlisted, Except.ok.injEq] at hresult
    rw [hresult, hzero]
  have hpath : ListedAs world root contract history (managedPath world contract listed.stdout) :=
    ⟨(succeeds_iff hinstalled).mpr (not_not.mp hcode), listed, hlisted, not_not.mp hcode', rfl⟩
  have hother : ∀ {path}, managedPath world contract listed.stdout = path → path ≠ .error .other →
      ¬ ListedAs world root contract history (.error .other) := fun heq hne h =>
    hne (heq.symm.trans (hpath.unique h))
  cases hmanaged : managedPath world contract listed.stdout with
  | error stop =>
    rw [hmanaged] at hpath
    refine fun m hm => ?_
    rcases managedPath_stop hmanaged with rfl | hstop
    · exact .inl ⟨rfl, hpath⟩
    · refine .inr ⟨hstop, hother hmanaged fun heq => ?_, fun python hpython => ?_⟩
      · cases heq
        obtain ⟨message, heq⟩ := hstop
        cases heq
      · have heq := hpath.unique hpython.listed
        cases heq
  | ok executable =>
    rw [hmanaged] at hpath
    have hunique : ∀ {python}, PythonAt world root contract history python → executable = python :=
      fun h => Except.ok.inj (hpath.unique h.listed)
    have hother := hother hmanaged fun heq => nomatch heq
    refine Triple.bind (Q := fun python m => python = executable ∧
      At (listCommands root contract history) target m)
      (Triple.lift (fun a ha m hm => ⟨(Except.ok.inj ha).symm, hm⟩) fun _ h => (nomatch h))
      fun python => Triple.ofAnd ?_
    rintro rfl
    refine Triple.ite (fun habsolute => ?_) fun habsolute => ?_
    · refine runCommand_succeeds hworld _ fun version hversion => ?_
      refine Triple.ite (fun hcode'' => ?_) fun hcode'' => Triple.ite (fun hpin => ?_) fun hpin => ?_
      · refine bootstrapError_at fun stop m hstop _ => .inr ⟨hstop, hother, fun other h => hcode'' ?_⟩
        cases hunique h
        obtain ⟨result, hresult, hzero, -⟩ := h.version
        rw [hversion, Except.ok.injEq] at hresult
        rw [hresult, hzero]
      · refine bootstrapError_at fun stop m hstop _ => .inr ⟨hstop, hother, fun other h => hpin ?_⟩
        cases hunique h
        obtain ⟨result, hresult, -, hreports⟩ := h.version
        rw [hversion, Except.ok.injEq] at hresult
        rw [hresult, hreports]
      · exact Triple.pure fun m hm => ⟨⟨hpath, habsolute, version, hversion, not_not.mp hcode'',
          not_not.mp hpin⟩, hm⟩
    · refine bootstrapError_at fun stop m hstop _ => .inr ⟨hstop, hother, fun other h => habsolute ?_⟩
      cases hunique h
      exact h.absolute

omit hworld in
theorem readContract_stop (hworld : Works world root) {stop : Stop}
    (h : readContract world = .error stop) : IsBootstrapError stop := by
  unfold readContract at h
  split at h
  · exact absurd ‹_› hworld.contract
  · split at h
    · cases h
    · cases h
      exact ⟨_, rfl⟩
  · cases h
    exact ⟨_, rfl⟩
  · cases h
    exact ⟨_, rfl⟩

theorem fileSha256_returns (name : Text)
    (hname : name ∈ [lit ".python-version", lit "pyproject.toml", lit "uv.lock"]) :
    ∃ t, fileSha256 world root name = .ok t := by
  unfold fileSha256
  cases hbytes : world.readBytes (joinPath root name) with
  | none => exact absurd hbytes (hworld.inputs name hname)
  | some bytes => exact ⟨_, rfl⟩

/-- An identity is computed iff the path of the Python resolves. -/
theorem bootstrapIdentity_cases (contract : DependencyContract) (python : Text) :
    (∃ identity, bootstrapIdentity world root contract python = .ok identity) ∨
      bootstrapIdentity world root contract python = .error .other ∧ world.resolve python = none := by
  obtain ⟨pin, hpin⟩ := fileSha256_returns hworld (lit ".python-version") (by decide)
  obtain ⟨manifest, hmanifest⟩ := fileSha256_returns hworld (lit "pyproject.toml") (by decide)
  obtain ⟨lock, hlock⟩ := fileSha256_returns hworld (lit "uv.lock") (by decide)
  unfold bootstrapIdentity
  rw [hpin, hmanifest, hlock]
  have hresolved : (∃ executable, resolved world python = .ok executable) ∨
      resolved world python = .error .other ∧ world.resolve python = none := by
    unfold resolved
    split
    · exact .inl ⟨_, rfl⟩
    · exact .inr ⟨rfl, ‹_›⟩
  rcases hresolved with ⟨executable, h⟩ | ⟨h, hpath⟩
  · rw [h]
    exact .inl ⟨_, rfl⟩
  · rw [h]
    exact .inr ⟨rfl, hpath⟩

/-- The run up to the identity. -/
def prepare (world : Surroundings) (root : Text) : Bootstrap Prepared := do
  let contract ← Program.lift (readContract world)
  let uvExecutable ← ensurePinnedUv world root contract
  let pythonExecutable ← ensureManagedPython world contract uvExecutable
  checkLock world contract uvExecutable pythonExecutable
  let identity ← Program.lift (bootstrapIdentity world root contract pythonExecutable)
  pure ⟨contract, uvExecutable, pythonExecutable, identity⟩

/-- How the preparation stops. -/
def Refused (world : Surroundings) (root : Text) (stop : Stop) : Prop :=
  stop = .other ∧ Unprepared world root ∨
    IsBootstrapError stop ∧ ¬ Unprepared world root ∧
      ∀ prepared commands, ¬ Prepares world root prepared commands

omit hworld in
/-- A preparation that is neither done nor unreadable. -/
theorem refused_of_not_ready {stop : Stop} (hstop : IsBootstrapError stop)
    (h : ∀ contract history, readContract world = .ok contract →
      uvCommands world root contract = some history →
        ¬ ListedAs world root contract history (.error .other) ∧
          ∀ python, ¬ Ready world root contract history python) : Refused world root stop := by
  refine .inr ⟨hstop, ?_, fun prepared commands hprepares => ?_⟩
  · rintro (⟨hcontract, huv, hlisted⟩ | ⟨hready, -⟩)
    · exact (h _ _ hcontract huv).1 hlisted
    · exact (h _ _ hready.read hready.uv).2 _ hready
  · obtain ⟨history, hready, -⟩ := hprepares.ready
    exact (h _ _ hready.read hready.uv).2 _ hready

/-- **The preparation returns what its answers admit.** Otherwise it stops with a `BootstrapError`, or with
another exception where a listing or a path cannot be read. -/
theorem prepare_at : Triple (At [] target) (prepare world root)
    (fun prepared m => ∃ commands, Prepares world root prepared commands ∧ At commands target m)
    fun stop _ => Refused world root stop := by
  cases hcontract : readContract world with
  | error stop =>
    unfold prepare
    rw [hcontract]
    intro m hm
    refine refused_of_not_ready (readContract_stop hworld hcontract) fun _ _ h => ?_
    rw [hcontract] at h
    cases h
  | ok contract =>
    have hread : ∀ {contract'}, readContract world = .ok contract' → contract = contract' := fun h =>
      Except.ok.inj (hcontract.symm.trans h)
    unfold prepare
    rw [hcontract]
    refine Triple.bind (Q := fun contract' m => contract' = contract ∧ At [] target m)
      (Triple.lift (fun _ h _ hm => ⟨(Except.ok.inj h).symm, hm⟩) fun _ h => (nomatch h))
      fun contract' => Triple.ofAnd ?_
    rintro rfl
    refine Triple.bind (Triple.weaken (ensurePinnedUv_at hworld) (fun _ h => h) (fun _ _ h => h) ?_)
      fun executable => Triple.ofAnd ?_
    · rintro stop m ⟨hstop, hnone⟩
      refine refused_of_not_ready hstop fun _ _ h huv => ?_
      cases hread h
      rw [hnone] at huv
      cases huv
    rintro rfl
    refine Triple.ofExists fun history => Triple.ofAnd fun huv => ?_
    have hhistory : ∀ {history'}, uvCommands world root contract' = some history' → history = history' :=
      fun h => Option.some.inj (huv.symm.trans h)
    refine Triple.bind (Triple.weaken (ensureManagedPython_at hworld) (fun _ h => h) (fun _ _ h => h) ?_)
      fun python => Triple.ofAnd fun hpython => ?_
    · rintro stop m (⟨hother, hlisted⟩ | ⟨hstop, hlisted, hpython⟩)
      · exact .inl ⟨hother, .list hcontract huv hlisted⟩
      · refine refused_of_not_ready hstop fun _ _ h huv' => ?_
        cases hread h
        cases hhistory huv'
        exact ⟨hlisted, fun python h => hpython python h.found⟩
    have hlisted : ¬ ListedAs world root contract' history (.error .other) := fun h => by
      have heq := h.unique hpython.listed
      cases heq
    unfold checkLock
    rw [Program.bind_assoc]
    refine runCommand_succeeds hworld _ fun locked hlocked => ?_
    refine Triple.bind (Q := fun _ m => Ready world root contract' history python ∧
      At (preparedCommands root contract' python history) target m) (Triple.ite (fun hcode => ?_)
        fun hcode => ?_) fun _ => Triple.ofAnd fun h => ?_
    · refine bootstrapError_at fun stop m hstop _ => refused_of_not_ready hstop fun _ _ h huv' => ?_
      cases hread h
      cases hhistory huv'
      refine ⟨hlisted, fun python' h => hcode ?_⟩
      -- What is ready is the listed Python, whose lock has to be fresh.
      have heq := hpython.listed.unique h.found.listed
      cases heq
      exact (succeeds_iff hlocked).mp h.lock
    · exact Triple.pure fun m hm =>
        ⟨⟨hcontract, huv, hpython, (succeeds_iff hlocked).mpr (not_not.mp hcode)⟩, hm⟩
    rcases bootstrapIdentity_cases hworld contract' python with
      ⟨identity, hidentity⟩ | ⟨hidentity, hpath⟩
    · rw [hidentity]
      exact fun m hm => ⟨_, ⟨⟨history, h, rfl⟩, rfl, hidentity⟩, hm⟩
    · rw [hidentity]
      exact fun m hm => .inl ⟨rfl, .path h hpath⟩

end Steps

end ApiTests.Dependencies
