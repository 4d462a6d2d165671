import ApiTests.Dependencies.Preparation
import ApiTests.Py.JsonEqual

/-!
# Recovery from what stands at `.venv`

Before `bootstrap_environment` replaces an environment it reads the marker in it and unlinks it
(`local_bootstrap.py:93-104`). Either step may raise where `.venv` is not what a run has left:
`_marker_matches` takes a missing file, an `OSError` and a `JSONDecodeError`, but not bytes that are no
UTF-8 or a JSON text that is too deep; and below a regular file there is nothing to unlink, which is a
`NotADirectoryError`. And it compares with `==`, to which `true` is 1.

A run is cut where it looks at `.venv`: `prepare` before, `finish` from there on. `Obstructed` says what
stands in the way of a run, in terms of `.venv`, of the marker in it and of what the commands answer.

Results:
* `markerIs_iff`: **a marker that matches is the identity, unless its schema version is `true`.**
* `finishWith_at`: what the rest of a run makes of its answers.
* `finishWith_replaces`: an environment that is not kept is removed and synchronized.
* **`recovers_iff`**: a run returns or raises a `BootstrapError`, and replaces an environment without
  the marker, unless it is obstructed.
-/

namespace ApiTests.Dependencies

open Py Program

variable (world : Surroundings) (root : Text)

/-! ## The two parts of a run -/

/-- The run from there on. -/
def finish (prepared : Prepared) : Bootstrap Bool := do
  setIdentity prepared.identity
  let reused ← reuse world root prepared.contract prepared.uvExecutable prepared.identity
  if reused then pure true
  else do
    replaceEnvironment world root prepared.contract prepared.uvExecutable prepared.pythonExecutable
      prepared.identity
    pure false

/-- The verdict on the environment, as it is kept. -/
def verdict (prepared : Prepared) : Bootstrap Bool := do
  let checked ← checkEnvironment world prepared.uvExecutable
  if checked.returncode = 0 then verifyPackages world root prepared.contract prepared.uvExecutable
  else pure false

/-- The rest of a run whose marker matches or not. -/
def finishWith (prepared : Prepared) (matching : Bool) : Bootstrap Bool := do
  let reused ← (if matching then verdict world root prepared else pure false : Bootstrap Bool)
  if reused then pure true
  else do
    replaceEnvironment world root prepared.contract prepared.uvExecutable prepared.pythonExecutable
      prepared.identity
    pure false

/-- The machine under an identity. -/
def Machine.identified (I : BootstrapIdentity) (m : Machine) : Machine :=
  { m with
    checkout := { m.checkout with identity := some I }
    passed := { m.checkout with identity := some I } :: m.passed }

theorem bootstrapEnvironment_eq :
    bootstrapEnvironment world root = prepare world root >>= finish world root := by
  unfold bootstrapEnvironment prepare
  simp only [Program.bind_assoc]
  rfl

/-! ## What a run promises -/

/-- The marker is a JSON document that equals the identity. -/
def MarkerIs (venv : Venv) (identity : BootstrapIdentity) : Prop :=
  ∃ bytes text value, venv.marker = some bytes ∧ decodeUtf8 bytes = some text ∧
    world.loads (universalNewlines text) = .ok value ∧
    SameJson value (.dict (identity.asdict PyNumber.int))

/-- No exception but a `BootstrapError`. -/
def Handled {α : Type} (result : Except Stop α) : Prop := ∀ stop, result = .error stop → IsBootstrapError stop

/-- The environment was removed, so that nothing was left at `.venv`, and synchronized from there. -/
def Replaced (m : Machine) : Prop :=
  ∃ before after, m.checkout.events = before ++ .removal :: .sync :: after ∧
    ∃ c ∈ m.passed, c.venv = ⟨false, .absent⟩ ∧ c.events = before ++ [.removal]

/-- **A run recovers**: it returns or raises a `BootstrapError`, and does not keep an environment
without the marker of its identity. -/
structure Recovers (venv : Venv) (run : Except Stop Bool × Machine) : Prop where
  handled : Handled run.1
  replaces : ∀ identity, run.2.checkout.identity = some identity → ¬ MarkerIs world venv identity →
    run.1 ≠ .ok true ∧ Replaced run.2

/-! ## What stands in its way -/

/-- A marker that `_marker_matches` cannot take: it is no UTF-8, or `json.loads` raises another error than
`JSONDecodeError`. -/
def refuses (bytes : List Nat) : Bool :=
  match decodeUtf8 bytes with
  | none => true
  | some text =>
    match world.loads (universalNewlines text) with
    | .error .other => true
    | _ => false

/-- **What stands in the way of a run**: a regular file, or a marker that it cannot take. -/
def obstructs (venv : Venv) : Bool :=
  match venv.target with
  | .absent => false
  | .file => true
  | .directory none => false
  | .directory (some bytes) => refuses world bytes

/-- The marker is a dict whose schema version is `true`. -/
def SchemaTrue (venv : Venv) : Prop :=
  ∃ bytes text entries, venv.marker = some bytes ∧ decodeUtf8 bytes = some text ∧
    world.loads (universalNewlines text) = .ok (.dict entries) ∧
    entries.lookup (lit "schema_version") = some (.bool true)

/-- The verdict on the packages that are listed behind these commands; `none` where the list cannot be
read. -/
def listingOn (prepared : Prepared) (history : List Command) : Option Bool :=
  match world.respond (history ++ [packageListCommand root prepared.uvExecutable]) with
  | .ok listed => environmentHasOnlyLockedPackages world.toReader root prepared.contract listed
  | .error _ => none

/-- The verdict on the environment: of the check, and then of the list. -/
def verdictOn (prepared : Prepared) (history : List Command) : Option Bool :=
  if succeeds world history (frozenSyncCheckCommand prepared.uvExecutable) then
    listingOn world root prepared (history ++ [frozenSyncCheckCommand prepared.uvExecutable])
  else some false

/-- The commands behind the verdict. -/
def verdictCommands (prepared : Prepared) (history : List Command) : List Command :=
  if succeeds world history (frozenSyncCheckCommand prepared.uvExecutable) then
    history ++ [frozenSyncCheckCommand prepared.uvExecutable] ++
      [packageListCommand root prepared.uvExecutable]
  else history ++ [frozenSyncCheckCommand prepared.uvExecutable]

/-- The environment is given up: its marker does not match, or the verdict on it is negative. -/
inductive GivenUp (prepared : Prepared) (matching : Bool) (history : List Command) : List Command → Prop where
  | unmatched (h : matching = false) : GivenUp prepared matching history history
  | failed (h : matching = true) (hverdict : verdictOn world root prepared history = some false) :
      GivenUp prepared matching history (verdictCommands world root prepared history)

/-- A replacement gets stuck: its listing cannot be read, or the marker cannot be written where uv has
left a regular file at `.venv`. -/
structure Stuck (prepared : Prepared) (history : List Command) : Prop where
  synced : succeeds world history (syncCommand prepared.uvExecutable prepared.pythonExecutable) = true
  verdict : verdictOn world root prepared
      (history ++ [syncCommand prepared.uvExecutable prepared.pythonExecutable]) = none ∨
    verdictOn world root prepared
      (history ++ [syncCommand prepared.uvExecutable prepared.pythonExecutable]) = some true ∧
        world.layout = .file

/-- What stands in the way of a run that is prepared. -/
inductive Blocked (venv : Venv) (prepared : Prepared) (commands : List Command) : Prop where
  | environment (h : obstructs world venv = true)
  | verdict (hmatches : markerMatches world prepared.identity venv = .ok true)
      (h : verdictOn world root prepared commands = none)
  | schema (hmatches : markerMatches world prepared.identity venv = .ok true)
      (hverdict : verdictOn world root prepared commands = some true) (h : SchemaTrue world venv)
  | replacement {matching : Bool} {history : List Command}
      (hmatches : markerMatches world prepared.identity venv = .ok matching)
      (hgiven : GivenUp world root prepared matching commands history)
      (h : Stuck world root prepared history)

/-- **What stands in the way of a run**: its preparation reads what it cannot read, or it is prepared
and blocked. -/
def Obstructed (venv : Venv) : Prop :=
  Unprepared world root ∨ ∃ prepared commands, Prepares world root prepared commands ∧
    Blocked world root venv prepared commands

/-! ## What the steps keep -/

variable {world : Surroundings} {root : Text} {contract : DependencyContract}

theorem prepare_keeps (world : Surroundings) (root : Text) {checkout : Checkout} {passed : List Checkout} :
    Keeps (Holding checkout passed) (prepare world root) := by
  refine Keeps.lift.bind fun contract => ensurePinnedUv_keeps.bind fun uvExecutable => ?_
  refine ensureManagedPython_keeps.bind fun pythonExecutable => checkLock_keeps.bind fun _ => ?_
  exact Keeps.lift.bind fun identity => Keeps.pure

/-- The run goes on: under the same identity, with more events. -/
def Extends (c c' : Checkout) : Prop :=
  c'.identity = c.identity ∧ ∃ events, c'.events = c.events ++ events

/-- A predicate that the steps after the identity keep. -/
structure Stable (P : Machine → Prop) : Prop where
  commands : ∀ m commands, P m → P { m with commands }
  extends_update : ∀ m c, Extends m.checkout c → P m → P { m with checkout := c, passed := c :: m.passed }

theorem stable_replaced (I : BootstrapIdentity) :
    Stable fun m => m.checkout.identity = some I ∧ Replaced m := by
  refine ⟨fun _ _ h => h, fun m c hc h => ⟨hc.1.trans h.1, ?_⟩⟩
  obtain ⟨before, after, hevents, cleared, hmem, hcleared⟩ := h.2
  obtain ⟨more, hmore⟩ := hc.2
  refine ⟨before, after ++ more, ?_, cleared, List.mem_cons_of_mem _ hmem, hcleared⟩
  rw [hmore, hevents, List.append_assoc]
  rfl

theorem Extends.note (c : Checkout) (event : Event) : Extends c (c.note event) := ⟨rfl, [event], rfl⟩

theorem Extends.venv (c : Checkout) (venv : Venv) : Extends c { c with venv } :=
  ⟨rfl, [], (List.append_nil _).symm⟩

section Stable

variable {P : Machine → Prop} (hP : Stable P)

include hP

theorem Stable.update {f : Checkout → Checkout} (hf : ∀ c, Extends c (f c)) : Keeps P (update f) :=
  Keeps.modify fun m hm => hP.extends_update m _ (hf m.checkout) hm

theorem Stable.runCommand {command : Command} : Keeps P (runCommand world command) :=
  (Keeps.modify fun m hm => hP.commands m _ hm).bind fun _ => Keeps.get.bind fun _ => Keeps.lift

theorem Stable.checkEnvironment {uvExecutable : Text} : Keeps P (checkEnvironment world uvExecutable) :=
  hP.runCommand.bind fun _ => (hP.update fun c => Extends.note c _).bind fun _ => Keeps.pure

theorem Stable.verifyPackages {uvExecutable : Text} :
    Keeps P (verifyPackages world root contract uvExecutable) := by
  refine hP.runCommand.bind fun result => ?_
  cases environmentHasOnlyLockedPackages world.toReader root contract result with
  | none => exact Keeps.raise
  | some passed => exact (hP.update fun c => Extends.note c _).bind fun _ => Keeps.pure

theorem Stable.writeMarker {I : BootstrapIdentity} : Keeps P (writeMarker world I) := by
  have hstep : ∀ step, Keeps P (fileStep world step) := by
    intro step
    unfold fileStep
    cases world.fileFails step with
    | some message => exact Keeps.raise
    | none => exact Keeps.pure
  refine ((hstep _).bind fun _ => Keeps.get.bind fun m => ?_).bind fun _ =>
    (hstep _).bind fun _ => (hstep _).bind fun _ => hP.update fun c => Extends.venv c _
  cases m.checkout.venv.target with
  | file => exact Keeps.raise
  | absent => exact hP.update fun c => Extends.venv c _
  | directory marker => exact Keeps.pure

/-- What the synchronization reaches, the steps after it keep. -/
theorem replaceEnvironment_stable {uvExecutable pythonExecutable : Text} {I : BootstrapIdentity}
    {S : Machine → Prop}
    (h : Triple S (do
        unlinkMarker world
        removeProjectEnvironment world root
        synchronize world uvExecutable pythonExecutable) (fun _ => P) fun _ => P) :
    Triple S (replaceEnvironment world root contract uvExecutable pythonExecutable I) (fun _ => P)
      fun _ => P := by
  unfold replaceEnvironment
  rw [← Program.bind_assoc, ← Program.bind_assoc, Program.bind_assoc (unlinkMarker world)]
  refine Triple.bind h fun _ => hP.checkEnvironment.bind fun checked => Keeps.ite Keeps.raise ?_
  exact hP.verifyPackages.bind fun verified => Keeps.ite hP.writeMarker Keeps.raise

end Stable

/-! ## The marker -/

section Marker

variable {venv : Venv} {bytes : List Nat}

theorem obstructs_marker (hmarker : venv.marker = some bytes) :
    obstructs world venv = refuses world bytes := by
  rcases venv with ⟨symlink, target⟩
  cases target with
  | directory marker =>
    cases hmarker
    rfl
  | absent => cases hmarker
  | file => cases hmarker

variable (hworld : Works world root)

include hworld

/-- A marker that does not obstruct is read. -/
theorem markerMatches_returns (I : BootstrapIdentity) (h : obstructs world venv = false) :
    ∃ matching, markerMatches world I venv = .ok matching := by
  unfold markerMatches
  rw [hworld.files]
  cases hmarker : venv.marker with
  | none => exact ⟨false, rfl⟩
  | some bytes =>
    rw [obstructs_marker hmarker, refuses] at h
    cases hdecode : decodeUtf8 bytes with
    | none =>
      rw [hdecode] at h
      cases h
    | some text =>
      simp only [hdecode] at h ⊢
      cases hloads : world.loads (universalNewlines text) with
      | error failure =>
        cases failure with
        | jsonDecodeError message => exact ⟨false, rfl⟩
        | other =>
          rw [hloads] at h
          cases h
      | ok value => exact ⟨_, rfl⟩

/-- A marker that obstructs raises. -/
theorem markerMatches_raises (I : BootstrapIdentity)
    (hmarker : venv.marker = some bytes) (h : obstructs world venv = true) :
    markerMatches world I venv = .error .other := by
  rw [obstructs_marker hmarker, refuses] at h
  unfold markerMatches
  rw [hworld.files, hmarker]
  cases hdecode : decodeUtf8 bytes with
  | none => simp only [hdecode]
  | some text =>
    simp only [hdecode] at h ⊢
    split at h
    · rename_i hother
      simp only [hother]
    · cases h

/-- A marker that matches is a document that Python finds equal to the identity. -/
theorem document_of_matches {I : BootstrapIdentity} (h : markerMatches world I venv = .ok true) :
    ∃ bytes text value, venv.marker = some bytes ∧ decodeUtf8 bytes = some text ∧
      world.loads (universalNewlines text) = .ok value ∧
      pyEq value (.dict (I.asdict PyNumber.int)) = true := by
  unfold markerMatches at h
  rw [hworld.files] at h
  cases hmarker : venv.marker with
  | none =>
    rw [hmarker] at h
    cases h
  | some bytes =>
    rw [hmarker] at h
    cases hdecode : decodeUtf8 bytes with
    | none =>
      simp only [hdecode] at h
      cases h
    | some text =>
      simp only [hdecode] at h
      cases hloads : world.loads (universalNewlines text) with
      | error failure =>
        rw [hloads] at h
        cases failure <;> cases h
      | ok value =>
        rw [hloads] at h
        exact ⟨bytes, text, value, rfl, hdecode, hloads, Except.ok.inj h⟩

omit hworld in
/-- The only value of an identity that a boolean can be equal to is its schema version. -/
theorem clashes_asdict {I : BootstrapIdentity} {key : Text} {x y : Json PyNumber}
    (hy : (key, y) ∈ I.asdict PyNumber.int) (hclash : clashes x y = true) (heq : pyEq x y = true) :
    key = lit "schema_version" ∧ x = .bool true := by
  simp only [BootstrapIdentity.asdict, List.mem_cons, List.not_mem_nil, or_false, Prod.mk.injEq] at hy
  rcases hy with ⟨rfl, rfl⟩ | ⟨-, rfl⟩ | ⟨-, rfl⟩ | ⟨-, rfl⟩ | ⟨-, rfl⟩ | ⟨-, rfl⟩ | ⟨-, rfl⟩
  · refine ⟨rfl, ?_⟩
    rw [I.schemaVersion_eq] at heq
    cases x with
    | bool b =>
      cases b with
      | true => rfl
      | false => cases heq
    | _ => cases hclash
  all_goals cases x <;> cases hclash

omit hworld in
theorem asdict_keysDistinct (I : BootstrapIdentity) :
    (Json.dict (I.asdict PyNumber.int)).KeysDistinct := by
  refine Json.keysDistinct_dict_iff.mpr ⟨?_, ?_⟩
  · simp only [BootstrapIdentity.asdict, List.map_cons, List.map_nil]
    decide
  simp only [BootstrapIdentity.asdict, List.forall_mem_cons, List.not_mem_nil, false_implies,
    implies_true, and_true]
  exact ⟨trivial, trivial, trivial, trivial, trivial, trivial, trivial⟩

/-- **A marker that matches is the identity, unless its schema version is `true`.** -/
theorem markerIs_iff {I : BootstrapIdentity} (h : markerMatches world I venv = .ok true) :
    MarkerIs world venv I ↔ ¬ SchemaTrue world venv := by
  obtain ⟨bytes, text, value, hmarker, hdecode, hloads, heq⟩ := document_of_matches hworld h
  have hvalue := hworld.loads _ value hloads
  have hsame := sameJson_iff_pyEq hvalue (asdict_keysDistinct I)
  cases value with
  | dict entries =>
    have hentries := (Json.keysDistinct_dict_iff.mp hvalue).1
    have hasdict := (Json.keysDistinct_dict_iff.mp (asdict_keysDistinct I)).1
    have hclashes : clashes (.dict entries) (.dict (I.asdict PyNumber.int)) = true ↔
        entries.lookup (lit "schema_version") = some (.bool true) := by
      rw [clashes_dict_iff hasdict]
      constructor
      · rintro ⟨key, x, y, hx, hy, hclash⟩
        obtain ⟨rfl, rfl⟩ := clashes_asdict hy hclash
          (((pyEq_dict_iff hentries hasdict).mp heq).2 key x y hx hy)
        exact (Dict.lookup_eq_some_iff_mem hentries).mpr hx
      · intro hlookup
        exact ⟨_, _, _, (Dict.lookup_eq_some_iff_mem hentries).mp hlookup, List.mem_cons_self, rfl⟩
    have hmarkerIs : MarkerIs world venv I ↔ SameJson (.dict entries) (.dict (I.asdict PyNumber.int)) := by
      constructor
      · rintro ⟨bytes', text', value', hmarker', hdecode', hloads', hsame'⟩
        cases hmarker.symm.trans hmarker'
        cases hdecode.symm.trans hdecode'
        cases hloads.symm.trans hloads'
        exact hsame'
      · exact fun hsame' => ⟨bytes, text, _, hmarker, hdecode, hloads, hsame'⟩
    rw [hmarkerIs, hsame, ← Bool.not_eq_true, hclashes, and_iff_right heq]
    refine not_congr ⟨fun hlookup => ⟨bytes, text, entries, hmarker, hdecode, hloads, hlookup⟩, ?_⟩
    rintro ⟨bytes', text', entries', hmarker', hdecode', hloads', hlookup⟩
    cases hmarker.symm.trans hmarker'
    cases hdecode.symm.trans hdecode'
    cases hloads.symm.trans hloads'
    exact hlookup
  | _ => simp [pyEq] at heq

end Marker

/-! ## What the rest of a run makes of its answers -/

section Finish

variable {history : List Command} {target : Target} (hworld : Works world root) (prepared : Prepared)

theorem note_at {event : Event} : Triple (At history target) (note event)
    (fun _ => At history target) fun _ _ => False :=
  Triple.modify fun _ hm => hm

include hworld

theorem checkEnvironment_at {uvExecutable : Text} :
    Triple (At history target) (checkEnvironment world uvExecutable)
      (fun checked m => (succeeds world history (frozenSyncCheckCommand uvExecutable) = true ↔
        checked.returncode = 0) ∧ At (history ++ [frozenSyncCheckCommand uvExecutable]) target m)
      fun _ _ => False :=
  runCommand_succeeds hworld _ fun _ hchecked => Triple.bind note_at fun _ =>
    Triple.pure fun _ hm => ⟨succeeds_iff hchecked, hm⟩

theorem verifyPackages_at : Triple (At history target)
    (verifyPackages world root prepared.contract prepared.uvExecutable)
    (fun passed m => listingOn world root prepared history = some passed ∧
      At (history ++ [packageListCommand root prepared.uvExecutable]) target m)
    fun stop _ => stop = .other ∧ listingOn world root prepared history = none := by
  refine runCommand_succeeds hworld _ fun listed hlisted => ?_
  unfold listingOn
  rw [hlisted]
  simp only
  cases environmentHasOnlyLockedPackages world.toReader root prepared.contract listed with
  | none => exact Triple.raise fun m hm => ⟨rfl, rfl⟩
  | some passed =>
    exact Triple.bind (Triple.weaken note_at (fun _ h => h) (fun _ _ h => h) fun _ _ h => h.elim)
      fun _ => Triple.pure fun m hm => ⟨rfl, hm⟩

/-- **The verdict** is that of the answers. -/
theorem verdict_at : Triple (At history target) (verdict world root prepared)
    (fun passed m => verdictOn world root prepared history = some passed ∧
      At (verdictCommands world root prepared history) target m)
    fun stop _ => stop = .other ∧ verdictOn world root prepared history = none := by
  refine Triple.bind (Triple.weaken (checkEnvironment_at hworld) (fun _ h => h) (fun _ _ h => h)
    fun _ _ h => h.elim) fun checked => Triple.ofAnd fun hchecked => ?_
  unfold verdictOn verdictCommands
  refine Triple.ite (fun hcode => ?_) fun hcode => ?_
  · rw [if_pos (hchecked.mpr hcode), if_pos (hchecked.mpr hcode)]
    exact verifyPackages_at hworld prepared
  · rw [if_neg fun h => hcode (hchecked.mp h), if_neg fun h => hcode (hchecked.mp h)]
    exact Triple.pure fun m hm => ⟨rfl, hm⟩

theorem unlinkMarker_at (htarget : target ≠ .file) : Triple (At history target) (unlinkMarker world)
    (fun _ m => m.commands = history) fun _ _ => False := by
  refine Triple.getBind fun m hm => ?_
  rw [hworld.files, hm.2]
  cases target with
  | absent => exact Triple.pure fun m hm => hm.1
  | file => exact absurd rfl htarget
  | directory marker => exact Triple.modify fun m hm => hm.1

theorem removeProjectEnvironment_at : Triple (fun m => m.commands = history)
    (removeProjectEnvironment world root) (fun _ => At history .absent) fun _ _ => False := by
  refine Triple.bind (Q := fun _ m => m.commands = history) (Triple.modify fun _ hm => hm) fun _ => ?_
  rw [hworld.files]
  exact Triple.modify fun m hm => ⟨hm, rfl⟩

/-- What `uv sync` leaves where nothing stood. -/
theorem synchronize_at {uvExecutable pythonExecutable : Text} : Triple (At history .absent)
    (synchronize world uvExecutable pythonExecutable)
    (fun _ m => succeeds world history (syncCommand uvExecutable pythonExecutable) = true ∧
      At (history ++ [syncCommand uvExecutable pythonExecutable])
        (Venv.afterSync ⟨false, .absent⟩ world.layout).target m)
    fun stop _ => IsBootstrapError stop ∧
      succeeds world history (syncCommand uvExecutable pythonExecutable) = false := by
  refine Triple.bind (Triple.weaken note_at (fun _ h => h) (fun _ _ h => h) fun _ _ h => h.elim)
    fun _ => ?_
  refine Triple.bind (Q := fun _ => At history (Venv.afterSync ⟨false, .absent⟩ world.layout).target)
    (Triple.modify fun m hm => ⟨hm.1, ?_⟩) fun _ => ?_
  · change (m.checkout.venv.afterSync world.layout).target = _
    obtain ⟨commands, ⟨⟨symlink, target⟩, events, identity⟩, passed⟩ := m
    cases hm.2
    cases world.layout <;> rfl
  · refine runCommand_succeeds hworld _ fun synced hsynced =>
      Triple.ite (fun hcode => ?_) fun hcode => ?_
    · refine bootstrapError_at fun stop m hstop _ => ⟨hstop, ?_⟩
      rw [← Bool.not_eq_true]
      exact fun h => hcode ((succeeds_iff hsynced).mp h)
    · exact Triple.pure fun m hm => ⟨(succeeds_iff hsynced).mpr (not_not.mp hcode), hm⟩

/-- A marker is written where no regular file stands. -/
theorem writeMarker_at {I : BootstrapIdentity} : Triple (At history target) (writeMarker world I)
    (fun _ _ => target ≠ .file) fun stop _ => stop = .osError ∧ target = .file := by
  have hstep : ∀ step, fileStep world step = pure () := by
    intro step
    unfold fileStep
    rw [hworld.files]
  refine Triple.bind (Q := fun _ _ => target ≠ .file) ?_ fun _ => ?_
  · unfold makeDirectory
    rw [hstep]
    refine Triple.bind (Q := fun _ => At history target) (Triple.pure fun _ h => h) fun _ => ?_
    refine Triple.getBind fun m hm => ?_
    rw [hm.2]
    cases target with
    | absent => exact Triple.modify fun _ _ h => nomatch h
    | file => exact Triple.raise fun _ _ => ⟨rfl, rfl⟩
    | directory marker => exact Triple.pure fun _ _ h => nomatch h
  · rw [hstep, hstep]
    exact Triple.modify fun _ h => h

/-- How a replacement stops. -/
def Stops (stuck : Prop) (stop : Stop) : Prop :=
  IsBootstrapError stop ∧ ¬ stuck ∨ ¬ IsBootstrapError stop ∧ stuck

omit hworld in
theorem not_isBootstrapError_other : ¬ IsBootstrapError .other := by
  rintro ⟨message, h⟩
  cases h

omit hworld in
theorem not_isBootstrapError_osError : ¬ IsBootstrapError .osError := by
  rintro ⟨message, h⟩
  cases h

/-- **A replacement** returns or stops with a `BootstrapError`, unless it gets stuck. -/
theorem replaceEnvironment_at (htarget : target ≠ .file) : Triple (At history target)
    (replaceEnvironment world root prepared.contract prepared.uvExecutable prepared.pythonExecutable
      prepared.identity) (fun _ _ => ¬ Stuck world root prepared history)
    fun stop _ => Stops (Stuck world root prepared history) stop := by
  have hlayout : (Venv.afterSync ⟨false, .absent⟩ world.layout).target = .file ↔ world.layout = .file := by
    cases world.layout <;> simp [Venv.afterSync]
  refine Triple.bind (Triple.weaken (unlinkMarker_at hworld htarget) (fun _ h => h) (fun _ _ h => h)
    fun _ _ h => h.elim) fun _ => ?_
  refine Triple.bind (Triple.weaken (removeProjectEnvironment_at hworld) (fun _ h => h) (fun _ _ h => h)
    fun _ _ h => h.elim) fun _ => ?_
  refine Triple.bind (Triple.weaken (synchronize_at hworld) (fun _ h => h) (fun _ _ h => h) ?_)
    fun _ => Triple.ofAnd fun hsynced => ?_
  · rintro stop m ⟨hstop, hfailed⟩
    refine .inl ⟨hstop, fun h => ?_⟩
    rw [h.synced] at hfailed
    cases hfailed
  refine Triple.bind (Triple.weaken (checkEnvironment_at hworld) (fun _ h => h) (fun _ _ h => h)
    fun _ _ h => h.elim) fun checked => Triple.ofAnd fun hchecked => ?_
  -- A negative verdict is a `BootstrapError`.
  have hnegative : verdictOn world root prepared
      (history ++ [syncCommand prepared.uvExecutable prepared.pythonExecutable]) = some false →
      ¬ Stuck world root prepared history := by
    rintro hverdict ⟨-, hnone | ⟨htrue, -⟩⟩
    · rw [hverdict] at hnone
      cases hnone
    · rw [hverdict] at htrue
      cases htrue
  refine Triple.ite (fun hcode => ?_) fun hcode => ?_
  · refine bootstrapError_at fun stop m hstop _ => .inl ⟨hstop, hnegative ?_⟩
    exact if_neg fun h => hcode (hchecked.mp h)
  have hverdict : ∀ {passed}, listingOn world root prepared (history ++
      [syncCommand prepared.uvExecutable prepared.pythonExecutable] ++
      [frozenSyncCheckCommand prepared.uvExecutable]) = passed → verdictOn world root prepared
        (history ++ [syncCommand prepared.uvExecutable prepared.pythonExecutable]) = passed :=
    fun h => (if_pos (hchecked.mpr (not_not.mp hcode))).trans h
  refine Triple.bind (Triple.weaken (verifyPackages_at hworld prepared) (fun _ h => h) (fun _ _ h => h) ?_)
    fun verified => Triple.ofAnd fun hverified => ?_
  · rintro stop m ⟨rfl, hnone⟩
    exact .inr ⟨not_isBootstrapError_other, hsynced, .inl (hverdict hnone)⟩
  cases verified with
  | true =>
    refine Triple.weaken (writeMarker_at hworld) (fun _ h => h) (fun _ _ htarget' => ?_) ?_
    · rintro ⟨-, hnone | ⟨-, hfile⟩⟩
      · rw [hverdict hverified] at hnone
        cases hnone
      · exact htarget' (hlayout.mpr hfile)
    · rintro stop m ⟨rfl, hfile⟩
      exact .inr ⟨not_isBootstrapError_osError, hsynced, .inr ⟨hverdict hverified, hlayout.mp hfile⟩⟩
  | false => exact bootstrapError_at fun stop m hstop _ => .inl ⟨hstop, hnegative (hverdict hverified)⟩

/-- **The rest of a run whose marker matches or not.** -/
theorem finishWith_at (htarget : target ≠ .file) (matching : Bool) : Triple (At history target)
    (finishWith world root prepared matching)
    (fun reused _ =>
      reused = true ∧ matching = true ∧ verdictOn world root prepared history = some true ∨
      reused = false ∧ ∃ history', GivenUp world root prepared matching history history' ∧
        ¬ Stuck world root prepared history')
    fun stop _ =>
      stop = .other ∧ matching = true ∧ verdictOn world root prepared history = none ∨
      ∃ history', GivenUp world root prepared matching history history' ∧
        Stops (Stuck world root prepared history') stop := by
  have hreplace : ∀ {history'}, GivenUp world root prepared matching history history' →
      Triple (At history' target) (replaceEnvironment world root prepared.contract prepared.uvExecutable
        prepared.pythonExecutable prepared.identity >>= fun _ => pure false)
        (fun reused _ =>
          reused = true ∧ matching = true ∧ verdictOn world root prepared history = some true ∨
          reused = false ∧ ∃ history', GivenUp world root prepared matching history history' ∧
            ¬ Stuck world root prepared history')
        fun stop _ =>
          stop = .other ∧ matching = true ∧ verdictOn world root prepared history = none ∨
          ∃ history', GivenUp world root prepared matching history history' ∧
            Stops (Stuck world root prepared history') stop := by
    intro history' hgiven
    refine Triple.bind (Triple.weaken (replaceEnvironment_at hworld prepared htarget) (fun _ h => h)
      (fun _ _ h => h) fun stop m h => .inr ⟨history', hgiven, h⟩) fun _ => ?_
    exact Triple.pure fun m h => .inr ⟨rfl, history', hgiven, h⟩
  unfold finishWith
  cases matching with
  | false =>
    refine Triple.bind (Q := fun reused m => reused = false ∧ At history target m)
      (Triple.pure fun m hm => ⟨rfl, hm⟩) fun reused => Triple.ofAnd ?_
    rintro rfl
    exact hreplace (.unmatched rfl)
  | true =>
    refine Triple.bind (Triple.weaken (verdict_at hworld prepared) (fun _ h => h) (fun _ _ h => h) ?_)
      fun reused => Triple.ofAnd fun hverdict => ?_
    · rintro stop m ⟨rfl, hnone⟩
      exact .inl ⟨rfl, rfl, hnone⟩
    cases reused with
    | true => exact Triple.pure fun m hm => .inl ⟨rfl, rfl, hverdict⟩
    | false => exact hreplace (.failed rfl hverdict)

end Finish

/-! ## The environment is replaced -/

section Replaced

variable (hworld : Works world root)

/-- What stands at `.venv` is no regular file. -/
def Clear (m : Machine) : Prop := m.checkout.venv.target ≠ .file

include hworld

/-- The environment is removed before it is synchronized. -/
theorem removed_synchronized {uvExecutable pythonExecutable : Text} {I : BootstrapIdentity} :
    Triple (fun m => Clear m ∧ m.checkout.identity = some I)
      (do
        unlinkMarker world
        removeProjectEnvironment world root
        synchronize world uvExecutable pythonExecutable)
      (fun _ m => m.checkout.identity = some I ∧ Replaced m)
      fun _ m => m.checkout.identity = some I ∧ Replaced m := by
  have hunlink : ∀ before, Triple
      (fun m => Clear m ∧ m.checkout.events = before ∧ m.checkout.identity = some I)
      (unlinkMarker world) (fun _ m => m.checkout.events = before ∧ m.checkout.identity = some I)
      fun _ m => m.checkout.identity = some I ∧ Replaced m := by
    intro before
    refine Triple.getBind fun m hm => ?_
    rw [hworld.files]
    cases htarget : m.checkout.venv.target with
    | absent => exact Triple.pure fun m' hm' => hm'.2
    | file => exact absurd htarget hm.1
    | directory marker => exact Triple.modify fun m' hm' => hm'.2
  have hremove : ∀ before, Triple
      (fun m => m.checkout.events = before ∧ m.checkout.identity = some I)
      (removeProjectEnvironment world root)
      (fun _ m => m.checkout.identity = some I ∧ m.checkout.events = before ++ [.removal] ∧
        ∃ c ∈ m.passed, c.venv = ⟨false, .absent⟩ ∧ c.events = before ++ [.removal])
      fun _ m => m.checkout.identity = some I ∧ Replaced m := by
    intro before
    unfold removeProjectEnvironment
    rw [hworld.files]
    refine Triple.bind
      (Q := fun _ m => m.checkout.identity = some I ∧ m.checkout.events = before ++ [.removal])
      (Triple.modify fun m hm => ⟨hm.2, ?_⟩) fun _ => Triple.modify fun m hm => ?_
    · change m.checkout.events ++ [.removal] = before ++ [.removal]
      rw [hm.1]
    · exact ⟨hm.1, hm.2, _, List.mem_cons_self, rfl, hm.2⟩
  have hsynchronize : ∀ before, Triple
      (fun m => m.checkout.identity = some I ∧ m.checkout.events = before ++ [.removal] ∧
        ∃ c ∈ m.passed, c.venv = ⟨false, .absent⟩ ∧ c.events = before ++ [.removal])
      (synchronize world uvExecutable pythonExecutable)
      (fun _ m => m.checkout.identity = some I ∧ Replaced m)
      fun _ m => m.checkout.identity = some I ∧ Replaced m := by
    intro before
    have hstable := stable_replaced I
    refine Triple.bind (Q := fun _ m => m.checkout.identity = some I ∧ Replaced m)
      (Triple.modify fun m hm => ⟨hm.1, before, [], ?_, ?_⟩) fun _ => ?_
    · change m.checkout.events ++ [.sync] = _
      rw [hm.2.1, List.append_assoc]
      rfl
    · obtain ⟨c, hc, hcleared⟩ := hm.2.2
      exact ⟨c, List.mem_cons_of_mem _ hc, hcleared⟩
    · exact (hstable.update fun c => Extends.venv c _).bind fun _ =>
        hstable.runCommand.bind fun _ => Keeps.ite Keeps.raise Keeps.pure
  intro m hm
  exact ((hunlink m.checkout.events).bind fun _ => (hremove m.checkout.events).bind fun _ =>
    hsynchronize m.checkout.events) m ⟨hm.1, rfl, hm.2⟩

/-- **An environment that is not kept is replaced.** -/
theorem finishWith_replaces (prepared : Prepared) (matching : Bool) :
    Triple (fun m => Clear m ∧ m.checkout.identity = some prepared.identity)
      (finishWith world root prepared matching)
      (fun reused m => m.checkout.identity = some prepared.identity ∧ (reused = true ∨ Replaced m))
      fun stop m => m.checkout.identity = some prepared.identity ∧ (stop = .other ∨ Replaced m) := by
  have hcommand : ∀ command, Triple
      (fun m => Clear m ∧ m.checkout.identity = some prepared.identity) (runCommand world command)
      (fun _ m => Clear m ∧ m.checkout.identity = some prepared.identity) fun _ _ => False := by
    intro command m hm
    obtain ⟨result, hresult⟩ := hworld.commands (m.commands ++ [command])
    have hrun : runCommand world command m =
        (.ok result, { m with commands := m.commands ++ [command] }) := by
      rw [← hresult]
      rfl
    rw [hrun]
    exact hm
  have hverdict : Triple (fun m => Clear m ∧ m.checkout.identity = some prepared.identity)
      (verdict world root prepared)
      (fun _ m => Clear m ∧ m.checkout.identity = some prepared.identity)
      fun stop m => m.checkout.identity = some prepared.identity ∧ (stop = .other ∨ Replaced m) := by
    have hnote : ∀ event, Keeps (fun m => Clear m ∧ m.checkout.identity = some prepared.identity)
        (note event) := fun event => Keeps.modify fun _ h => h
    have hcheck : Triple (fun m => Clear m ∧ m.checkout.identity = some prepared.identity)
        (checkEnvironment world prepared.uvExecutable)
        (fun _ m => Clear m ∧ m.checkout.identity = some prepared.identity)
        fun stop m => m.checkout.identity = some prepared.identity ∧ (stop = .other ∨ Replaced m) := by
      refine Triple.bind (Triple.weaken (hcommand _) (fun _ h => h) (fun _ _ h => h)
        fun _ _ h => h.elim) fun checked => ?_
      exact fun m hm => hm
    refine Triple.bind hcheck fun checked => Triple.ite (fun _ => ?_) fun _ => Triple.pure fun _ h => h
    refine Triple.bind (Triple.weaken (hcommand _) (fun _ h => h) (fun _ _ h => h)
      fun _ _ h => h.elim) fun listed => ?_
    cases environmentHasOnlyLockedPackages world.toReader root prepared.contract listed with
    | none => exact Triple.raise fun m hm => ⟨hm.2, .inl rfl⟩
    | some passed => exact fun m hm => hm
  have hreplace : Triple (fun m => Clear m ∧ m.checkout.identity = some prepared.identity)
      (replaceEnvironment world root prepared.contract prepared.uvExecutable prepared.pythonExecutable
        prepared.identity >>= fun _ => pure false)
      (fun reused m => m.checkout.identity = some prepared.identity ∧ (reused = true ∨ Replaced m))
      fun stop m => m.checkout.identity = some prepared.identity ∧ (stop = .other ∨ Replaced m) :=
    Triple.bind (Triple.weaken (replaceEnvironment_stable (stable_replaced prepared.identity)
      (removed_synchronized hworld)) (fun _ h => h) (fun _ _ h => h) fun _ _ h => ⟨h.1, .inr h.2⟩)
      fun _ => Triple.pure fun m hm => ⟨hm.1, .inr hm.2⟩
  unfold finishWith
  refine Triple.bind (Q := fun _ m => Clear m ∧ m.checkout.identity = some prepared.identity) ?_
    fun reused => Triple.ite (fun _ => ?_) fun _ => hreplace
  · cases matching with
    | true => exact hverdict
    | false => exact Triple.pure fun _ h => h
  · exact Triple.pure fun m hm => ⟨hm.2, .inl rfl⟩

end Replaced

/-! ## A run -/

/-- The marker is read, and matches or not. -/
theorem finish_eq {prepared : Prepared} {matching : Bool} {m : Machine}
    (h : markerMatches world prepared.identity m.checkout.venv = .ok matching) :
    finish world root prepared m =
      finishWith world root prepared matching (m.identified prepared.identity) := by
  have hset : setIdentity prepared.identity m = (.ok (), m.identified prepared.identity) := rfl
  have hlift : (Program.lift (markerMatches world prepared.identity m.checkout.venv) : Bootstrap Bool)
      (m.identified prepared.identity) = (.ok matching, m.identified prepared.identity) := by
    rw [h]
    rfl
  have hreuse : reuse world root prepared.contract prepared.uvExecutable prepared.identity
      (m.identified prepared.identity) = (if matching then verdict world root prepared else pure false :
        Bootstrap Bool) (m.identified prepared.identity) := bind_of_ok hlift
  unfold finish finishWith
  rw [bind_of_ok hset, bind_apply, hreuse, bind_apply]

section Run

variable {venv : Venv} {prepared : Prepared} {m : Machine} (hworld : Works world root)

include hworld

/-- Below a regular file there is nothing to unlink. -/
theorem unlinkMarker_file (h : m.checkout.venv.target = .file) :
    unlinkMarker world m = (.error .osError, m) := by
  unfold unlinkMarker
  rw [hworld.files]
  obtain ⟨commands, ⟨⟨symlink, target⟩, events, identity⟩, passed⟩ := m
  cases h
  rfl

/-- What obstructs a run makes it raise another exception. -/
theorem finish_obstructed (hm : m.checkout.venv = venv) (h : obstructs world venv = true) :
    ¬ Handled (finish world root prepared m).1 := by
  have hne : ∀ (stop : Stop) m', (∀ message, stop ≠ .bootstrapError message) →
      finish world root prepared m = (.error stop, m') → ¬ Handled (finish world root prepared m).1 := by
    intro stop m' hstop hfinish hhandled
    rw [hfinish] at hhandled
    obtain ⟨message, heq⟩ := hhandled stop rfl
    exact hstop message heq
  subst hm
  have hcases : m.checkout.venv.target = .file ∨ ∃ bytes, m.checkout.venv.marker = some bytes := by
    unfold obstructs at h
    unfold Venv.marker
    cases htarget : m.checkout.venv.target with
    | file => exact .inl rfl
    | absent =>
      rw [htarget] at h
      cases h
    | directory marker =>
      cases marker with
      | none =>
        rw [htarget] at h
        cases h
      | some bytes => exact .inr ⟨bytes, rfl⟩
  rcases hcases with hfile | ⟨bytes, hmarker⟩
  · have hmatches : markerMatches world prepared.identity m.checkout.venv = .ok false := by
      unfold markerMatches Venv.marker
      rw [hworld.files, hfile]
    have hunlink := unlinkMarker_file hworld (m := m.identified prepared.identity) hfile
    refine hne .osError (m.identified prepared.identity) (fun message h => nomatch h) ?_
    rw [finish_eq hmatches]
    change (replaceEnvironment world root prepared.contract prepared.uvExecutable
      prepared.pythonExecutable prepared.identity >>= fun _ => pure false) _ = _
    exact bind_of_error (bind_of_error hunlink)
  · have hmatches := markerMatches_raises hworld prepared.identity hmarker h
    have hlift : (Program.lift (markerMatches world prepared.identity m.checkout.venv) : Bootstrap Bool)
        (m.identified prepared.identity) = (.error .other, m.identified prepared.identity) := by
      rw [hmatches]
      rfl
    refine hne .other (m.identified prepared.identity) (fun message h => nomatch h) ?_
    have hreuse : reuse world root prepared.contract prepared.uvExecutable prepared.identity
        (m.identified prepared.identity) = (.error .other, m.identified prepared.identity) := by
      have hget : (Program.get : Bootstrap Machine) (m.identified prepared.identity) =
        (.ok (m.identified prepared.identity), m.identified prepared.identity) := rfl
      exact (bind_of_ok hget).trans (bind_of_error hlift)
    have hset : setIdentity prepared.identity m = (.ok (), m.identified prepared.identity) := rfl
    exact (bind_of_ok hset).trans (bind_of_error hreuse)

omit hworld in
/-- Nothing blocks a run that gives the environment up and does not get stuck. -/
theorem not_blocked {matching : Bool} {commands history : List Command}
    (hobstructs : obstructs world venv = false)
    (hmatches : markerMatches world prepared.identity venv = .ok matching)
    (hgiven : GivenUp world root prepared matching commands history)
    (hstuck : ¬ Stuck world root prepared history) : ¬ Blocked world root venv prepared commands := by
  have hverdict : ∀ {result}, markerMatches world prepared.identity venv = .ok true →
      verdictOn world root prepared commands = result → result = some false := by
    intro result htrue hresult
    cases hmatches.symm.trans htrue
    cases hgiven with
    | unmatched h => cases h
    | failed _ h => exact hresult.symm.trans h
  rintro (h | ⟨htrue, h⟩ | ⟨htrue, h, -⟩ | ⟨hmatches', hgiven', h⟩)
  · rw [hobstructs] at h
    cases h
  · cases hverdict htrue h
  · cases hverdict htrue h
  · cases hmatches.symm.trans hmatches'
    refine hstuck ?_
    cases hgiven with
    | unmatched hm =>
      cases hgiven' with
      | unmatched => exact h
      | failed hm' => cases hm.symm.trans hm'
    | failed hm =>
      cases hgiven' with
      | unmatched hm' => cases hm.symm.trans hm'
      | failed => exact h

/-- **A run that is prepared recovers**, unless it is blocked. -/
theorem finish_recovers {commands : List Command} (hm : m.checkout = ⟨venv, [], none⟩)
    (hcommands : m.commands = commands) : Recovers world venv (finish world root prepared m) ↔
      ¬ Blocked world root venv prepared commands := by
  cases hobstructs : obstructs world venv with
  | true =>
    have hvenv : m.checkout.venv = venv := by rw [hm]
    exact iff_of_false (fun h => finish_obstructed hworld hvenv hobstructs h.handled)
      (not_not_intro (.environment hobstructs))
  | false =>
    obtain ⟨matching, hmatches⟩ := markerMatches_returns hworld prepared.identity hobstructs
    have hclear : Clear (m.identified prepared.identity) := by
      intro hfile
      change m.checkout.venv.target = .file at hfile
      rw [hm] at hfile
      rw [obstructs, hfile] at hobstructs
      cases hobstructs
    have hmatches' : markerMatches world prepared.identity m.checkout.venv = .ok matching := by
      rw [hm]
      exact hmatches
    have hanswers := finishWith_at hworld prepared hclear matching (m.identified prepared.identity)
      ⟨hcommands, rfl⟩
    have hreplaces := finishWith_replaces hworld prepared matching (m.identified prepared.identity)
      ⟨hclear, rfl⟩
    rw [finish_eq hmatches']
    rcases hrun : finishWith world root prepared matching (m.identified prepared.identity) with
      ⟨result, m'⟩
    rw [hrun] at hanswers hreplaces
    cases result with
    | ok reused =>
      obtain ⟨hidentity, hreplaced⟩ := hreplaces
      rcases hanswers with ⟨rfl, rfl, hverdict⟩ | ⟨rfl, history, hgiven, hstuck⟩
      · -- A reused environment has to have the marker.
        have hmarker := markerIs_iff hworld hmatches
        constructor
        · intro hrecovers hblocked
          rcases hblocked with h | ⟨-, h⟩ | ⟨-, -, h⟩ | ⟨htrue, hgiven, -⟩
          · rw [hobstructs] at h
            cases h
          · rw [hverdict] at h
            cases h
          · exact (hrecovers.replaces _ hidentity fun hm => hmarker.mp hm h).1 rfl
          · cases hmatches.symm.trans htrue
            cases hgiven with
            | unmatched h => cases h
            | failed _ h =>
              rw [hverdict] at h
              cases h
        · intro hblocked
          refine ⟨fun stop hstop => (nomatch hstop), fun I hI hne => (hne ?_).elim⟩
          cases hidentity.symm.trans hI
          exact hmarker.mpr fun h => hblocked (.schema hmatches hverdict h)
      · refine iff_of_true ⟨fun stop hstop => (nomatch hstop), fun I hI hne => ⟨fun h => ?_, ?_⟩⟩
          (not_blocked hobstructs hmatches hgiven hstuck)
        · cases h
        · exact hreplaced.resolve_left Bool.false_ne_true
    | error stop =>
      obtain ⟨hidentity, hreplaced⟩ := hreplaces
      have hhandled : ∀ {I}, ¬ IsBootstrapError stop →
          ¬ Recovers world I ((.error stop, m') : Except Stop Bool × Machine) :=
        fun hstop hrecovers => hstop (hrecovers.handled stop rfl)
      rcases hanswers with ⟨rfl, rfl, hverdict⟩ | ⟨history, hgiven, ⟨hstop, hstuck⟩ | ⟨hstop, hstuck⟩⟩
      · exact iff_of_false (hhandled not_isBootstrapError_other)
          (not_not_intro (.verdict hmatches hverdict))
      · refine iff_of_true ⟨fun stop' hstop' => ?_, fun I hI hne => ⟨fun h => (nomatch h), ?_⟩⟩
          (not_blocked hobstructs hmatches hgiven hstuck)
        · cases hstop'
          exact hstop
        · refine hreplaced.resolve_left fun hother => not_isBootstrapError_other ?_
          rwa [hother] at hstop
      · exact iff_of_false (hhandled hstop) (not_not_intro (.replacement hmatches hgiven hstuck))

end Run

/-- **A run recovers from what stands at `.venv`**, unless it is obstructed. -/
theorem recovers_iff (world : Surroundings) (root : Text) (venv : Venv) (hworld : Works world root) :
    Recovers world venv (bootstrapEnvironment world root (Machine.start venv)) ↔
      ¬ Obstructed world root venv := by
  have hkept := prepare_keeps world root (Machine.start venv) ⟨rfl, rfl⟩
  have hprepared := prepare_at hworld (Machine.start venv) ⟨rfl, rfl⟩
  rw [bootstrapEnvironment_eq, bind_apply]
  rcases hrun : prepare world root (Machine.start venv) with ⟨result, m⟩
  rw [hrun] at hkept hprepared
  cases result with
  | ok prepared =>
    obtain ⟨commands, hprepares, hcommands, -⟩ := hprepared
    refine (finish_recovers hworld hkept.1 hcommands).trans (not_congr ?_)
    constructor
    · exact fun hblocked => .inr ⟨prepared, commands, hprepares, hblocked⟩
    · rintro (h | ⟨prepared', commands', hprepares', hblocked⟩)
      · exact absurd h hprepares.not_unprepared
      · obtain ⟨rfl, rfl⟩ := hprepares.unique hprepares'
        exact hblocked
  | error stop =>
    rcases hprepared with ⟨rfl, hunprepared⟩ | ⟨hstop, hunprepared, hprepares⟩
    · refine iff_of_false (fun hrecovers => ?_) (not_not_intro (.inl hunprepared))
      exact not_isBootstrapError_other (hrecovers.handled _ rfl)
    · refine iff_of_true ⟨fun stop' hstop' => ?_, fun I hI => ?_⟩ ?_
      · cases hstop'
        exact hstop
      · rw [hkept.1] at hI
        cases hI
      · rintro (h | ⟨prepared, commands, h, -⟩)
        · exact hunprepared h
        · exact hprepares prepared commands h

/-! ## A checkout with a regular file at `.venv` -/

/-- What `uv python list` and `uv pip list` print. -/
def pythonList : Json PyNumber :=
  .list [.dict [(lit "version", .str (lit "3.12.12")), (lit "implementation", .str (lit "cpython")),
    (lit "path", .str (lit "/python/bin/python3.12"))]]

def packageList : Json PyNumber :=
  .list [
    .dict [(lit "name", .str projectName), (lit "version", .str (lit "0.1.0")),
      (lit "editable_project_location", .str (lit "/repository"))],
    .dict [(lit "name", .str (lit "attrs")), (lit "version", .str (lit "25.4.0"))]]

/-- Commands that all succeed, and `uv sync` that leaves a directory. -/
def quietSurroundings : Surroundings where
  toReader := { editableReader with
    loads t :=
      if t = dumps (fun _ => []) pythonList then .ok pythonList
      else if t = dumps (fun _ => []) packageList then .ok packageList
      else .error (.jsonDecodeError (lit "Expecting value: line 1 column 1 (char 0)")) }
  contractFiles := some (some attrsContract, [])
  respond commands := .ok
    ⟨0, match commands.getLast? with
      | some [_, argument] => if argument = lit "--version" then lit "uv 0.9.18\n" else []
      | some (_ :: argument :: subcommand :: _) =>
        if argument = lit "-c" then lit "3.12.12\n"
        else if subcommand = lit "list" then
          dumps (fun _ => []) (if argument = lit "python" then pythonList else packageList)
        else []
      | _ => [], []⟩
  isFile _ _ := true
  pathText t := t
  readBytes _ := some []
  sha256 _ := lit "e3b0c44298fc1c149afbf4c8996fb92427ae41e4649b934ca495991b7852b855"
  sha256_system _ := by decide
  fileFails _ := none
  layout := .directory false
  bootstrapPythonExecutable := lit "/usr/bin/python3.12"
  bootstrapRuntimeVersion := lit "3.12.3"

theorem quietSurroundings_works : Works quietSurroundings (lit "/repository") where
  commands _ := ⟨_, rfl⟩
  files _ := rfl
  contract h := by cases h
  inputs _ _ h := by cases h
  loads t value h := by
    unfold quietSurroundings at h
    simp only at h
    split_ifs at h
    · cases h
      exact ⟨⟨by decide, trivial, trivial, trivial, trivial⟩, trivial⟩
    · cases h
      exact ⟨⟨by decide, trivial, trivial, trivial, trivial⟩, ⟨by decide, trivial, trivial, trivial⟩, trivial⟩

/-- The Python that is listed, behind the uv that is there. -/
theorem quietSurroundings_ready {contract : DependencyContract} {history : List Command} {python : Text}
    (h : Ready quietSurroundings (lit "/repository") contract history python) :
    contract = attrsContract ∧
      history = [[lit "/repository/.dependency-tools/uv-0.9.18/bin/uv", lit "--version"]] ∧
      python = lit "/python/bin/python3.12" := by
  have hread : readContract quietSurroundings = .ok attrsContract := rfl
  cases hread.symm.trans h.read
  have huv : uvCommands quietSurroundings (lit "/repository") attrsContract =
      some [[lit "/repository/.dependency-tools/uv-0.9.18/bin/uv", lit "--version"]] := by
    decide +kernel
  cases huv.symm.trans h.uv
  have hlisted : ListedAs quietSurroundings (lit "/repository") attrsContract
      [[lit "/repository/.dependency-tools/uv-0.9.18/bin/uv", lit "--version"]]
      (.ok (lit "/python/bin/python3.12")) :=
    ⟨by decide +kernel, _, rfl, rfl, by decide +kernel⟩
  exact ⟨rfl, rfl, (Except.ok.inj (hlisted.unique h.found.listed)).symm⟩

/-- The verdict on any environment. -/
theorem quietSurroundings_verdict {prepared : Prepared} {history : List Command}
    (h : prepared.contract = attrsContract) :
    verdictOn quietSurroundings (lit "/repository") prepared history = some true := by
  have hsucceeds : succeeds quietSurroundings history
      (frozenSyncCheckCommand prepared.uvExecutable) = true := by
    unfold succeeds quietSurroundings
    simp only [decide_true]
  have hlisted : quietSurroundings.respond (history ++
      [frozenSyncCheckCommand prepared.uvExecutable] ++
      [packageListCommand (lit "/repository") prepared.uvExecutable]) =
        .ok ⟨0, dumps (fun _ => []) packageList, []⟩ := by
    unfold quietSurroundings packageListCommand
    simp only [List.getLast?_append, List.getLast?_singleton, Option.some_or]
    rfl
  rw [verdictOn, if_pos hsucceeds, listingOn, hlisted, h]
  decide +kernel

theorem not_obstructed_example :
    ¬ Obstructed quietSurroundings (lit "/repository") ⟨true, .directory (some [])⟩ := by
  have hresolve : quietSurroundings.resolve (lit "/python/bin/python3.12") ≠ none := by decide +kernel
  rintro (hunprepared | ⟨prepared, commands, hprepares, hblocked⟩)
  · cases hunprepared with
    | list hread huv hlisted =>
      have hmanaged : ∀ contract history, ListedAs quietSurroundings (lit "/repository") contract history
          (.error .other) → managedPath quietSurroundings contract
            (dumps (fun _ => []) pythonList) = .error .other := by
        intro contract history h
        obtain ⟨result, hresult, -, hpath⟩ := h.listed
        have heq : quietSurroundings.respond (listCommands (lit "/repository") contract history) =
            .ok ⟨0, dumps (fun _ => []) pythonList, []⟩ := by
          unfold quietSurroundings listCommands
          simp only [List.getLast?_append, List.getLast?_singleton, Option.some_or]
          rfl
        cases heq.symm.trans hresult
        exact hpath
      have hcontract : readContract quietSurroundings = .ok attrsContract := rfl
      cases hcontract.symm.trans hread
      have hpath : managedPath quietSurroundings attrsContract (dumps (fun _ => []) pythonList) =
          .ok (lit "/python/bin/python3.12") := by
        decide +kernel
      cases hpath.symm.trans (hmanaged _ _ hlisted)
    | path hready hpath =>
      obtain ⟨-, -, rfl⟩ := quietSurroundings_ready hready
      exact hresolve hpath
  · obtain ⟨⟨history, hready, rfl⟩, huv, -⟩ := hprepares
    obtain ⟨contract, uv, python, identity⟩ := prepared
    obtain ⟨hcontract, hhistory, hpython⟩ := quietSurroundings_ready hready
    dsimp only at hcontract hhistory hpython huv
    subst hcontract hhistory hpython huv
    have hmatches : markerMatches quietSurroundings identity ⟨true, .directory (some [])⟩ = .ok false := rfl
    cases hblocked with
    | environment h =>
      have hobstructs : obstructs quietSurroundings ⟨true, .directory (some [])⟩ = false := by
        decide +kernel
      rw [hobstructs] at h
      cases h
    | verdict htrue => cases hmatches.symm.trans htrue
    | schema htrue => cases hmatches.symm.trans htrue
    | replacement hfalse hgiven h =>
      cases hmatches.symm.trans hfalse
      cases hgiven with
      | failed hmatching => cases hmatching
      | unmatched =>
        obtain ⟨-, hnone | ⟨-, hfile⟩⟩ := h
        · rw [quietSurroundings_verdict rfl] at hnone
          cases hnone
        · cases hfile

/-- A link to a directory with an empty marker. -/
theorem recovers_example : Recovers quietSurroundings ⟨true, .directory (some [])⟩
    (bootstrapEnvironment quietSurroundings (lit "/repository")
      (Machine.start ⟨true, .directory (some [])⟩)) :=
  (recovers_iff quietSurroundings (lit "/repository") ⟨true, .directory (some [])⟩
    quietSurroundings_works).mpr not_obstructed_example

/-- A regular file at `.venv` ends the run with a `NotADirectoryError`. -/
theorem regular_file_example : Works quietSurroundings (lit "/repository") ∧
    (bootstrapEnvironment quietSurroundings (lit "/repository")
      (Machine.start ⟨false, .file⟩)).1 = .error .osError ∧
    ¬ Recovers quietSurroundings ⟨false, .file⟩ (bootstrapEnvironment quietSurroundings
      (lit "/repository") (Machine.start ⟨false, .file⟩)) := by
  have hresult : (bootstrapEnvironment quietSurroundings (lit "/repository")
      (Machine.start ⟨false, .file⟩)).1 = .error .osError := by
    decide +kernel
  refine ⟨quietSurroundings_works, hresult, fun hrecovers => ?_⟩
  obtain ⟨message, hstop⟩ := hrecovers.handled _ hresult
  cases hstop

end ApiTests.Dependencies
