import ApiTests.Dependencies.Bootstrap
import ApiTests.Py.JsonString

/-!
# The readiness marker

What a marker at `.venv` says after any sequence of bootstrap runs. `Safe` is the invariant: a marker of
an identity stands only if the last run that removed or synchronized `.venv` did so under this identity,
and then checked it and verified its packages. A run comes through three kinds of checkout: `.venv` is
untouched, or it has no marker, or it is verified and the marker is written.

Results:
* `markerBytes_inj`: **the marker determines the identity.**
* `ensureManagedPython_keeps` and its like: the steps before the marker is read touch nothing.
* `bootstrapEnvironment_steps`: one run, stopped anywhere.
* `safe_after`, `readiness_marker_safe`: **every run, at every moment.**
-/

namespace ApiTests.Dependencies

open Py Program

/-! ## The marker determines the identity -/

variable {world : Surroundings} {root : Text} {I J : BootstrapIdentity}

/-- The start of a line of the marker. -/
def markerKey (key : String) : Text := newline 1 ++ (dumpsStr (lit key) ++ lit ": ")

/-- The marker written out, its keys in order. -/
theorem markerText_eq (I : BootstrapIdentity) : markerText I =
    lit "\x7b" ++ (markerKey "lock_sha256" ++ (dumpsStr I.lockSha256 ++ (lit "," ++
      (markerKey "manifest_sha256" ++ (dumpsStr I.manifestSha256 ++ (lit "," ++
      (markerKey "python_executable" ++ (dumpsStr I.pythonExecutable ++ (lit "," ++
      (markerKey "python_pin_sha256" ++ (dumpsStr I.pythonPinSha256 ++ (lit "," ++
      (markerKey "python_version" ++ (dumpsStr I.pythonVersion ++ (lit "," ++
      (markerKey "schema_version" ++ (lit (toString I.schemaVersion) ++ (lit "," ++
      (markerKey "uv_version" ++ (dumpsStr I.uvVersion ++
      (newline 0 ++ (lit "\x7d" ++ [lf])))))))))))))))))))))) := by
  have hsorted : sortByKey (dumpsIndentedEntries (fun n : Int => lit (toString n)) 1 (I.asdict id)) =
      [(lit "lock_sha256", dumpsStr I.lockSha256), (lit "manifest_sha256", dumpsStr I.manifestSha256),
        (lit "python_executable", dumpsStr I.pythonExecutable),
        (lit "python_pin_sha256", dumpsStr I.pythonPinSha256),
        (lit "python_version", dumpsStr I.pythonVersion),
        (lit "schema_version", lit (toString I.schemaVersion)),
        (lit "uv_version", dumpsStr I.uvVersion)] := rfl
  unfold markerText dumpsIndented
  rw [if_neg (by exact Bool.false_ne_true), hsorted]
  simp only [List.map_cons, List.map_nil, List.intercalate_cons_cons, List.intercalate_singleton,
    List.append_assoc, markerKey]

theorem markerKey_ascii (key : String) : ∀ c ∈ markerKey key, c < 128 := by
  intro c hc
  simp only [markerKey, List.mem_append] at hc
  rcases hc with h | h | h
  · exact (by decide : ∀ c ∈ newline 1, c < 128) c h
  · exact dumpsStr_ascii _ c h
  · exact (by decide : ∀ c ∈ lit ": ", c < 128) c h

theorem markerText_ascii (I : BootstrapIdentity) : ∀ c ∈ markerText I, c < 128 := by
  have hopen : ∀ c ∈ lit "\x7b", c < 128 := by decide
  have hcomma : ∀ c ∈ lit ",", c < 128 := by decide
  have hnewline : ∀ c ∈ newline 0, c < 128 := by decide
  have hclose : ∀ c ∈ lit "\x7d", c < 128 := by decide
  have hlf : ∀ c ∈ [lf], c < 128 := by decide
  have hschema : ∀ c ∈ lit (toString I.schemaVersion), c < 128 := by
    rw [I.schemaVersion_eq]
    decide
  rw [markerText_eq]
  repeat' rw [List.forall_mem_append]
  exact ⟨hopen, markerKey_ascii _, dumpsStr_ascii _, hcomma, markerKey_ascii _, dumpsStr_ascii _, hcomma,
    markerKey_ascii _, dumpsStr_ascii _, hcomma, markerKey_ascii _, dumpsStr_ascii _, hcomma,
    markerKey_ascii _, dumpsStr_ascii _, hcomma, markerKey_ascii _, hschema, hcomma, markerKey_ascii _,
    dumpsStr_ascii _, hnewline, hclose, hlf⟩

/-- A value of the marker, before the next key. -/
theorem markerValue_inj {t t' r r' : Text} {key : String} (ht : IsSystemText t) (ht' : IsSystemText t')
    (h : dumpsStr t ++ (lit "," ++ (markerKey key ++ r)) =
      dumpsStr t' ++ (lit "," ++ (markerKey key ++ r'))) : t = t' ∧ r = r' := by
  obtain ⟨htext, hrest⟩ := dumpsStr_append_inj ht ht' h
  exact ⟨htext, List.append_cancel_left (List.append_cancel_left hrest)⟩

/-- **The marker determines the identity**: a text of the file system ends where it is written to. -/
theorem markerBytes_inj (h : markerBytes I = markerBytes J) : I = J := by
  have hI := I.texts_system
  have hJ := J.texts_system
  simp only [List.forall_mem_cons, List.not_mem_nil, false_implies, implies_true, and_true] at hI hJ
  obtain ⟨hpython, hexecutable, huv, hpin, hmanifest, hlock⟩ := hI
  obtain ⟨hpython', hexecutable', huv', hpin', hmanifest', hlock'⟩ := hJ
  have hschema : I.schemaVersion = J.schemaVersion := I.schemaVersion_eq.trans J.schemaVersion_eq.symm
  unfold markerBytes at h
  rw [flatMap_utf8Bytes_of_ascii (markerText_ascii I), flatMap_utf8Bytes_of_ascii (markerText_ascii J),
    markerText_eq, markerText_eq, hschema] at h
  obtain ⟨hlockEq, h⟩ := markerValue_inj hlock hlock' (List.append_cancel_left (List.append_cancel_left h))
  obtain ⟨hmanifestEq, h⟩ := markerValue_inj hmanifest hmanifest' h
  obtain ⟨hexecutableEq, h⟩ := markerValue_inj hexecutable hexecutable' h
  obtain ⟨hpinEq, h⟩ := markerValue_inj hpin hpin' h
  obtain ⟨hpythonEq, h⟩ := markerValue_inj hpython hpython' h
  simp only [List.append_cancel_left_eq] at h
  obtain ⟨huvEq, -⟩ := dumpsStr_append_inj huv huv' h
  cases I
  cases J
  simp_all only

/-! ## Commands -/

/-- A machine with this checkout, which has come through these. -/
def Holding (checkout : Checkout) (passed : List Checkout) (m : Machine) : Prop :=
  m.checkout = checkout ∧ m.passed = passed

variable {checkout : Checkout} {passed : List Checkout} {contract : DependencyContract}

theorem runCommand_keeps {command : Command} : Keeps (Holding checkout passed) (runCommand world command) :=
  Keeps.bind (Keeps.modify fun _ h => h) fun _ => Keeps.bind Keeps.get fun _ => Keeps.lift

theorem uvVersionMatches_keeps {executable expected : Text} :
    Keeps (Holding checkout passed) (uvVersionMatches world executable expected) := by
  refine Keeps.bind Keeps.get fun m => Keeps.ite (Keeps.handle ?_ fun stop => ?_) Keeps.pure
  · exact Keeps.bind runCommand_keeps fun _ => Keeps.pure
  · cases stop with
    | osError => exact Keeps.pure
    | bootstrapError message => exact Keeps.raise
    | other => exact Keeps.raise

theorem ensurePinnedUv_keeps : Keeps (Holding checkout passed) (ensurePinnedUv world root contract) := by
  refine Keeps.bind uvVersionMatches_keeps fun matching => Keeps.ite Keeps.pure ?_
  refine Keeps.bind runCommand_keeps fun created => Keeps.ite Keeps.raise ?_
  refine Keeps.bind runCommand_keeps fun installed => Keeps.ite Keeps.raise ?_
  exact Keeps.bind uvVersionMatches_keeps fun matching => Keeps.ite Keeps.pure Keeps.raise

/-- **The steps before the marker is read touch nothing.** -/
theorem ensureManagedPython_keeps {uvExecutable : Text} :
    Keeps (Holding checkout passed) (ensureManagedPython world contract uvExecutable) := by
  refine Keeps.bind runCommand_keeps fun installed => Keeps.ite Keeps.raise ?_
  refine Keeps.bind runCommand_keeps fun listed => Keeps.ite Keeps.raise ?_
  refine Keeps.bind Keeps.lift fun executable => Keeps.ite ?_ Keeps.raise
  exact Keeps.bind runCommand_keeps fun version =>
    Keeps.ite Keeps.raise (Keeps.ite Keeps.raise Keeps.pure)

theorem checkLock_keeps {uvExecutable pythonExecutable : Text} :
    Keeps (Holding checkout passed) (checkLock world contract uvExecutable pythonExecutable) :=
  Keeps.bind runCommand_keeps fun _ => Keeps.ite Keeps.raise Keeps.pure

/-! ## Checkouts on the way -/

/-- The run has come through checkouts in `S`, and stands at one in `P`. -/
def Through (S P : Checkout → Prop) (m : Machine) : Prop :=
  m.checkout ∈ m.passed ∧ (∀ c ∈ m.passed, S c) ∧ P m.checkout

/-- **A part of the run** starts in `P`, comes through `S` and returns in `Q`. -/
def Steps {α : Type} (S P : Checkout → Prop) (x : Bootstrap α) (Q : α → Checkout → Prop) : Prop :=
  Triple (Through S P) x (fun a => Through S (Q a)) fun _ => Through S fun _ => True

variable {α β : Type} {S P P' : Checkout → Prop} {Q : α → Checkout → Prop} {R : β → Checkout → Prop}
  {x : Bootstrap α} {f : α → Bootstrap β}

theorem Steps.bind (hx : Steps S P x Q) (hf : ∀ a, Steps S (Q a) (f a) R) : Steps S P (x >>= f) R :=
  Triple.bind hx hf

theorem Steps.raise {stop : Stop} : Steps S P (Program.raise stop : Bootstrap α) Q :=
  Triple.raise fun _ h => ⟨h.1, h.2.1, trivial⟩

theorem Steps.pure {a : α} (h : ∀ c, P c → Q a c) : Steps S P (Pure.pure a : Bootstrap α) Q :=
  Triple.pure fun _ hm => ⟨hm.1, hm.2.1, h _ hm.2.2⟩

theorem Steps.get {Q : Machine → Checkout → Prop} (h : ∀ m, P m.checkout → Q m m.checkout) :
    Steps S P (Program.get : Bootstrap Machine) Q :=
  Triple.get fun m hm => ⟨hm.1, hm.2.1, h m hm.2.2⟩

theorem Steps.lift {y : Except Stop α} (h : ∀ a, y = .ok a → ∀ c, P c → Q a c) :
    Steps S P (Program.lift y) Q :=
  Triple.lift (fun a ha _ hm => ⟨hm.1, hm.2.1, h a ha _ hm.2.2⟩) fun _ _ _ hm => ⟨hm.1, hm.2.1, trivial⟩

/-- A change of the checkout. -/
theorem Steps.update {g : Checkout → Checkout} {Q : Unit → Checkout → Prop}
    (h : ∀ c, P c → Q () (g c) ∧ S (g c)) : Steps S P (update g) Q :=
  Triple.modify fun _ hm =>
    ⟨List.mem_cons_self, List.forall_mem_cons.mpr ⟨(h _ hm.2.2).2, hm.2.1⟩, (h _ hm.2.2).1⟩

theorem Steps.ite {b : Prop} [Decidable b] {y : Bootstrap α} (hx : b → Steps S P x Q)
    (hy : ¬ b → Steps S P y Q) : Steps S P (if b then x else y) Q :=
  Triple.ite hx hy

theorem Steps.weaken {Q' : α → Checkout → Prop} (h : Steps S P x Q) (hP : ∀ c, P' c → P c)
    (hQ : ∀ a c, Q a c → Q' a c) : Steps S P' x Q' :=
  Triple.weaken h (fun _ hm => ⟨hm.1, hm.2.1, hP _ hm.2.2⟩) (fun a _ hm => ⟨hm.1, hm.2.1, hQ a _ hm.2.2⟩)
    fun _ _ hm => hm

/-- A part that keeps the checkout. -/
theorem Steps.quiet (h : ∀ c l, Keeps (Holding c l) x) : Steps S P x fun _ => P := by
  intro m hm
  have hkept := h m.checkout m.passed m ⟨rfl, rfl⟩
  have hthrough : ∀ m', Holding m.checkout m.passed m' → Through S P m' := by
    rintro m' ⟨hcheckout, hpassed⟩
    unfold Through
    rwa [hcheckout, hpassed]
  cases hx : x m with
  | mk result m' =>
    rw [hx] at hkept
    cases result with
    | ok a => exact hthrough m' hkept
    | error stop => exact ⟨(hthrough m' hkept).1, (hthrough m' hkept).2.1, trivial⟩

/-! ## What a run has checked -/

/-- Whether the event changes `.venv`. -/
def Event.changes : Event → Bool
  | .removal => true
  | .sync => true
  | .check _ => false
  | .verify _ => false

/-- Whether the run has removed or synchronized `.venv`. -/
def Checkout.changed (c : Checkout) : Bool := c.events.any Event.changes

/-- The events after the last removal or synchronization. -/
def Checkout.sinceChange (c : Checkout) : List Event :=
  c.events.foldl (fun since event => if event.changes then [] else since ++ [event]) []

/-- **The environment was checked and its packages verified**, after its last change. -/
def Checkout.Verified (c : Checkout) : Prop :=
  .check true ∈ c.sinceChange ∧ .verify true ∈ c.sinceChange

@[simp] theorem Checkout.venv_note (c : Checkout) (event : Event) : (c.note event).venv = c.venv := rfl

@[simp] theorem Checkout.identity_note (c : Checkout) (event : Event) :
    (c.note event).identity = c.identity := rfl

@[simp] theorem Checkout.changed_note (c : Checkout) (event : Event) :
    (c.note event).changed = (c.changed || event.changes) := by
  unfold changed note
  rw [List.any_append, List.any_cons, List.any_nil, Bool.or_false]

@[simp] theorem Checkout.sinceChange_note (c : Checkout) (event : Event) :
    (c.note event).sinceChange = if event.changes then [] else c.sinceChange ++ [event] := by
  unfold sinceChange note
  rw [List.foldl_append]
  rfl

/-- A check, with the verdict it notes. -/
theorem checkEnvironment_steps {uvExecutable : Text} {Q : Checkout → Prop}
    (h : ∀ c passed, P c → Q (c.note (.check passed)) ∧ S (c.note (.check passed))) :
    Steps S P (checkEnvironment world uvExecutable) fun result c =>
      Q c ∧ (result.returncode = 0 → .check true ∈ c.sinceChange) := by
  refine Steps.bind (Steps.quiet fun _ _ => runCommand_keeps) fun result => ?_
  refine Steps.bind (Q := fun _ c => Q c ∧ (result.returncode = 0 → .check true ∈ c.sinceChange))
    (Steps.update fun c hc => ⟨⟨(h c _ hc).1, fun hcode => ?_⟩, (h c _ hc).2⟩)
    fun _ => Steps.pure fun _ hc => hc
  simp [Event.changes, hcode]

/-- A verification, with the verdict it notes. -/
theorem verifyPackages_steps {uvExecutable : Text} {Q : Checkout → Prop}
    (h : ∀ c passed, P c → Q (c.note (.verify passed)) ∧ S (c.note (.verify passed))) :
    Steps S P (verifyPackages world root contract uvExecutable) fun passed c =>
      Q c ∧ (passed → .verify true ∈ c.sinceChange) := by
  refine Steps.bind (Steps.quiet fun _ _ => runCommand_keeps) fun result => ?_
  cases environmentHasOnlyLockedPackages world.toReader root contract result with
  | none => exact Steps.raise
  | some passed =>
    refine Steps.bind (Q := fun _ c => Q c ∧ (passed → .verify true ∈ c.sinceChange))
      (Steps.update fun c hc => ⟨⟨(h c _ hc).1, fun hpassed => ?_⟩, (h c _ hc).2⟩)
      fun _ => Steps.pure fun _ hc => hc
    simp [Event.changes, hpassed]

/-! ## One run -/

/-- What the marker at a checkout says is true. `earlier` are the ends of the runs before, the last one
first: **a marker of `I` stands only if the last run that changed `.venv` has verified it under `I`.** -/
def Safe (earlier : List Checkout) (c : Checkout) : Prop :=
  ∀ I, c.venv.marker = some (markerBytes I) →
    ∀ record, (c :: earlier).find? Checkout.changed = some record →
      record.identity = some I ∧ record.Verified

/-- The run has not touched `.venv`. -/
def Untouched (venv : Venv) (c : Checkout) : Prop := c.venv = venv ∧ c.changed = false

variable {venv : Venv} {earlier : List Checkout}

theorem Untouched.safe {c : Checkout} (h : Untouched venv c) (hstart : Safe earlier ⟨venv, [], none⟩) :
    Safe earlier c := by
  intro I hmarker record hrecord
  rw [h.1] at hmarker
  rw [List.find?_cons_of_neg (by simp [h.2])] at hrecord
  exact hstart I hmarker record hrecord

theorem safe_of_unmarked {c : Checkout} (h : c.venv.marker = none) : Safe earlier c := by
  intro I hmarker
  rw [h] at hmarker
  cases hmarker

theorem safe_of_verified {c : Checkout} (hmarker : c.venv.marker = some (markerBytes I))
    (hidentity : c.identity = some I) (hchanged : c.changed = true) (h : c.Verified) :
    Safe earlier c := by
  intro J hJ record hrecord
  rw [List.find?_cons_of_pos hchanged] at hrecord
  cases hrecord
  rw [hmarker] at hJ
  rw [hidentity, markerBytes_inj (Option.some.inj hJ)]
  exact ⟨rfl, h⟩

/-- A run under `I` that has not touched `.venv`. -/
def Reusing (venv : Venv) (I : BootstrapIdentity) (c : Checkout) : Prop :=
  Untouched venv c ∧ c.identity = some I

/-- A run under `I` that has begun to replace `.venv`, which has no marker. -/
def Replacing (I : BootstrapIdentity) (c : Checkout) : Prop :=
  c.venv.marker = none ∧ c.identity = some I ∧ c.changed = true

theorem Reusing.note {c : Checkout} {event : Event} (h : Reusing venv I c) (hevent : event.changes = false) :
    Reusing venv I (c.note event) :=
  ⟨⟨h.1.1, by rw [Checkout.changed_note, h.1.2, hevent]; rfl⟩, h.2⟩

theorem Replacing.note {c : Checkout} {event : Event} (h : Replacing I c) : Replacing I (c.note event) :=
  ⟨h.1, h.2.1, by rw [Checkout.changed_note, h.2.2]; rfl⟩

/-- A check that passed is not forgotten in a verification. -/
theorem check_mem_note {c : Checkout} {passed : Bool} (h : .check true ∈ c.sinceChange) :
    .check true ∈ (c.note (.verify passed)).sinceChange := by
  rw [Checkout.sinceChange_note]
  exact List.mem_append_left _ h

/-- **A kept environment is checked and verified.** -/
theorem reuse_steps {uvExecutable : Text} (hS : ∀ c, Untouched venv c → S c) :
    Steps S (Reusing venv I) (reuse world root contract uvExecutable I) fun reused c =>
      Reusing venv I c ∧ (reused → c.Verified) := by
  refine Steps.bind (Q := fun _ => Reusing venv I) (Steps.get fun _ h => h) fun m => ?_
  refine Steps.bind (Q := fun _ => Reusing venv I) (Steps.lift fun _ _ _ h => h) fun matching => ?_
  refine Steps.ite (fun _ => ?_) fun _ => Steps.pure fun c hc => ⟨hc, fun h => by cases h⟩
  refine Steps.bind (checkEnvironment_steps (Q := Reusing venv I)
    fun c passed hc => ⟨hc.note rfl, hS _ (hc.note rfl).1⟩) fun checked => ?_
  refine Steps.ite (fun hcode => ?_) fun _ => Steps.pure fun c hc => ⟨hc.1, fun h => by cases h⟩
  refine Steps.weaken (verifyPackages_steps
    (P := fun c => Reusing venv I c ∧ .check true ∈ c.sinceChange)
    (Q := fun c => Reusing venv I c ∧ .check true ∈ c.sinceChange)
    fun c passed hc => ⟨⟨hc.1.note rfl, check_mem_note hc.2⟩, hS _ (hc.1.note rfl).1⟩) ?_ ?_
  · exact fun c hc => ⟨hc.1, hc.2 hcode⟩
  · exact fun verified c hc => ⟨hc.1.1, fun h => ⟨hc.1.2, hc.2 h⟩⟩

/-- The marker is taken away first. -/
theorem unlinkMarker_steps : Steps (Safe earlier) (Reusing venv I) (unlinkMarker world) fun _ c =>
    c.venv.marker = none ∧ c.identity = some I := by
  refine Steps.bind (Q := fun m c => c = m.checkout ∧ c.identity = some I)
    (Steps.get fun m h => ⟨rfl, h.2⟩) fun m => ?_
  cases world.fileFails .unlinkMarker with
  | some message => exact Steps.raise
  | none =>
    cases htarget : m.checkout.venv.target with
    | absent =>
      refine Steps.pure fun c hc => ⟨?_, hc.2⟩
      rw [hc.1, Venv.marker, htarget]
    | file => exact Steps.raise
    | directory marker => exact Steps.update fun c hc => ⟨⟨rfl, hc.2⟩, safe_of_unmarked rfl⟩

theorem removeProjectEnvironment_steps :
    Steps (Safe earlier) (fun c => c.venv.marker = none ∧ c.identity = some I)
      (removeProjectEnvironment world root) fun _ => Replacing I := by
  refine Steps.bind (Q := fun _ => Replacing I)
    (Steps.update fun c hc => ⟨⟨hc.1, hc.2, ?_⟩, safe_of_unmarked hc.1⟩) fun _ => ?_
  · rw [Checkout.changed_note]
    exact Bool.or_true _
  · cases world.fileFails .removeEnvironment with
    | some message => exact Steps.raise
    | none => exact Steps.update fun c hc => ⟨⟨rfl, hc.2⟩, safe_of_unmarked rfl⟩

/-- uv leaves no marker where there was none. -/
theorem marker_afterSync {layout : Layout} (h : venv.marker = none) :
    (venv.afterSync layout).marker = none := by
  cases layout with
  | absent => rfl
  | file => rfl
  | directory keepsMarker =>
    cases keepsMarker with
    | false => rfl
    | true => exact h

theorem synchronize_steps {uvExecutable pythonExecutable : Text} :
    Steps (Safe earlier) (Replacing I) (synchronize world uvExecutable pythonExecutable) fun _ =>
      Replacing I := by
  refine Steps.bind (Q := fun _ => Replacing I)
    (Steps.update fun c hc => ⟨hc.note, safe_of_unmarked hc.1⟩) fun _ => ?_
  refine Steps.bind (Q := fun _ => Replacing I) (Steps.update fun c hc =>
    ⟨⟨marker_afterSync hc.1, hc.2⟩, safe_of_unmarked (marker_afterSync hc.1)⟩) fun _ => ?_
  refine Steps.bind (Steps.quiet fun _ _ => runCommand_keeps) fun result => ?_
  exact Steps.ite (fun _ => Steps.raise) fun _ => Steps.pure fun _ hc => hc

/-- A file operation that may fail. -/
theorem fileStep_steps {step : FileStep} : Steps S P (fileStep world step) fun _ => P := by
  unfold fileStep
  cases world.fileFails step with
  | some message => exact Steps.raise
  | none => exact Steps.pure fun _ hc => hc

theorem makeDirectory_steps :
    Steps (Safe earlier) (fun c => Replacing I c ∧ c.Verified) (makeDirectory world) fun _ c =>
      Replacing I c ∧ c.Verified := by
  refine Steps.bind fileStep_steps fun _ => ?_
  refine Steps.bind (Q := fun _ c => Replacing I c ∧ c.Verified) (Steps.get fun _ h => h) fun m => ?_
  cases m.checkout.venv.target with
  | absent => exact Steps.update fun c hc => ⟨⟨⟨rfl, hc.1.2⟩, hc.2⟩, safe_of_unmarked rfl⟩
  | file => exact Steps.raise
  | directory marker => exact Steps.pure fun _ hc => hc

/-- **The marker is written last**, when the environment is verified. -/
theorem writeMarker_steps :
    Steps (Safe earlier) (fun c => Replacing I c ∧ c.Verified) (writeMarker world I) fun _ c =>
      c.Verified := by
  refine Steps.bind makeDirectory_steps fun _ => ?_
  refine Steps.bind fileStep_steps fun _ => Steps.bind fileStep_steps fun _ => ?_
  exact Steps.update fun c hc => ⟨hc.2, safe_of_verified rfl hc.1.2.1 hc.1.2.2 hc.2⟩

theorem replaceEnvironment_steps {uvExecutable pythonExecutable : Text} :
    Steps (Safe earlier) (Reusing venv I)
      (replaceEnvironment world root contract uvExecutable pythonExecutable I) fun _ c => c.Verified := by
  refine Steps.bind unlinkMarker_steps fun _ => Steps.bind removeProjectEnvironment_steps fun _ => ?_
  refine Steps.bind synchronize_steps fun _ => ?_
  refine Steps.bind (checkEnvironment_steps (Q := Replacing I)
    fun c passed hc => ⟨hc.note, safe_of_unmarked hc.1⟩) fun checked => ?_
  refine Steps.ite (fun _ => Steps.raise) fun hcode => ?_
  refine Steps.bind (Q := fun (verified : Bool) c => (Replacing I c ∧ .check true ∈ c.sinceChange) ∧
    (verified → .verify true ∈ c.sinceChange)) ?_ fun verified => ?_
  · refine Steps.weaken (verifyPackages_steps
      (P := fun c => Replacing I c ∧ .check true ∈ c.sinceChange)
      (Q := fun c => Replacing I c ∧ .check true ∈ c.sinceChange)
      fun c passed hc => ⟨⟨hc.1.note, check_mem_note hc.2⟩, safe_of_unmarked hc.1.1⟩)
      (fun c hc => ⟨hc.1, hc.2 (not_not.mp hcode)⟩) fun _ _ hc => hc
  · refine Steps.ite (fun hverified => ?_) fun _ => Steps.raise
    exact Steps.weaken writeMarker_steps (fun c hc => ⟨hc.1.1, hc.1.2, hc.2 hverified⟩) fun _ _ hc => hc

/-- **A run that starts from a true marker** comes through true markers, and returns only when the
environment is verified. -/
theorem bootstrapEnvironment_steps (hstart : Safe earlier ⟨venv, [], none⟩) :
    Steps (Safe earlier) (Untouched venv) (bootstrapEnvironment world root) fun _ c => c.Verified := by
  refine Steps.bind (Q := fun _ => Untouched venv) (Steps.lift fun _ _ _ h => h) fun contract => ?_
  refine Steps.bind (Steps.quiet fun _ _ => ensurePinnedUv_keeps) fun uvExecutable => ?_
  refine Steps.bind (Steps.quiet fun _ _ => ensureManagedPython_keeps) fun pythonExecutable => ?_
  refine Steps.bind (Steps.quiet fun _ _ => checkLock_keeps) fun _ => ?_
  refine Steps.bind (Q := fun _ => Untouched venv) (Steps.lift fun _ _ _ h => h) fun identity => ?_
  refine Steps.bind (Q := fun _ => Reusing venv identity) (Steps.update fun c hc => ⟨⟨hc, rfl⟩, ?_⟩)
    fun _ => ?_
  · exact Untouched.safe hc hstart
  refine Steps.bind (reuse_steps fun c hc => hc.safe hstart) fun reused => ?_
  refine Steps.ite (fun hreused => Steps.pure fun c hc => hc.2 hreused) fun _ => ?_
  refine Steps.bind (Steps.weaken replaceEnvironment_steps (fun c hc => hc.1) fun _ _ hc => hc) fun _ => ?_
  exact Steps.pure fun _ hc => hc

/-! ## Every sequence of runs -/

/-- The checkout after some runs: what stands at `.venv`, and how each run has ended, the last one
first. -/
structure History where
  venv : Venv
  ends : List Checkout

/-- One more run, with its result. -/
def History.run (h : History) (root : Text) (world : Surroundings) : Except Stop Bool × Machine :=
  bootstrapEnvironment world root (Machine.start h.venv)

def History.next (root : Text) (h : History) (world : Surroundings) : History :=
  ⟨(h.run root world).2.checkout.venv, (h.run root world).2.checkout :: h.ends⟩

/-- The runs one after another. -/
def History.after (root : Text) (venv : Venv) (worlds : List Surroundings) : History :=
  worlds.foldl (History.next root) ⟨venv, []⟩

/-- A run from a true marker. -/
theorem run_through (root : Text) (world : Surroundings) {h : History}
    (hstart : Safe h.ends ⟨h.venv, [], none⟩) :
    (∀ c ∈ (h.run root world).2.passed, Safe h.ends c) ∧
      (h.run root world).2.checkout ∈ (h.run root world).2.passed ∧
      ∀ b, (h.run root world).1 = .ok b → (h.run root world).2.checkout.Verified := by
  have hrun : Steps (Safe h.ends) (Untouched h.venv) (bootstrapEnvironment world root) fun _ c =>
      c.Verified := bootstrapEnvironment_steps hstart
  have hrun := hrun (Machine.start h.venv)
    ⟨List.mem_singleton_self _, List.forall_mem_singleton.mpr hstart, rfl, rfl⟩
  unfold History.run
  cases hx : bootstrapEnvironment world root (Machine.start h.venv) with
  | mk result m =>
    rw [hx] at hrun
    cases result with
    | ok b => exact ⟨hrun.2.1, hrun.1, fun _ _ => hrun.2.2⟩
    | error stop => exact ⟨hrun.2.1, hrun.1, fun b hb => by cases hb⟩

/-- A run that ends at a true marker leaves one to the next. -/
theorem Safe.next {c : Checkout} (h : Safe earlier c) : Safe (c :: earlier) ⟨c.venv, [], none⟩ := h

/-- **After any runs the marker is true.** -/
theorem safe_after (worlds : List Surroundings) (h : History) (hstart : Safe h.ends ⟨h.venv, [], none⟩) :
    Safe (worlds.foldl (History.next root) h).ends ⟨(worlds.foldl (History.next root) h).venv, [], none⟩ := by
  induction worlds generalizing h with
  | nil => exact hstart
  | cons world worlds ih =>
    obtain ⟨hpassed, hend, -⟩ := run_through root world hstart
    exact ih (h.next root world) (hpassed _ hend).next

/-- **The readiness marker is safe.** After any runs on a checkout, whatever a run met, and at every
moment of one more: a marker of `I` stands only if the last run that removed or synchronized `.venv` did
so under `I` and then checked it and verified its packages; and the run returns only if it has checked
and verified `.venv` since it last changed it. -/
theorem readiness_marker_safe (root : Text) (venv : Venv) (worlds : List Surroundings)
    (world : Surroundings) :
    (∀ c ∈ ((History.after root venv worlds).run root world).2.passed,
      Safe (History.after root venv worlds).ends c) ∧
    ∀ b, ((History.after root venv worlds).run root world).1 = .ok b →
      ((History.after root venv worlds).run root world).2.checkout.Verified := by
  have hstart : Safe (History.after root venv worlds).ends
      ⟨(History.after root venv worlds).venv, [], none⟩ :=
    safe_after worlds ⟨venv, []⟩ fun I _ record hrecord => by cases hrecord
  obtain ⟨hpassed, -, hresult⟩ := run_through root world hstart
  exact ⟨hpassed, hresult⟩

end ApiTests.Dependencies
