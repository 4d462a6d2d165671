import ApiTests.Credentials.Session

/-!
# The identity bound to a disposable record

`bind_disposable_identity` (`local_credentials.py:164-225`) compares the new identity with the
binding its record argument carries, not with the one the file saves. A caller that still holds a
completed record from before the first binding can therefore bind the record again, to another
identity (`rebinding_example`).

`BindsOnce` is the condition under which that does not happen: a completed record without a binding
is bound only while the file saves no binding of it, or the same one again. `Bindings values
returned` is the invariant: every returned record is saved with its own ids, and the binding it
carries is the saved one.

Results: `bindings_step`, `bindings_of_reaches` (the invariant, over a step and over a run) and
`binding_kept` (**in every session of such calls a binding is final, and an owned identity is the
saved one**).
-/

namespace ApiTests.Credentials

open Py

/-! ## The condition and the invariant -/

/-- The identity is the one saved under `names`, or none is saved there. -/
def SavedOrFree (values : Values) (names : DisposableVariableNames) (subject userId : Text) : Prop :=
  (saved values names.subject = [] ∨ saved values names.subject = subject) ∧
    (saved values names.userId = [] ∨ saved values names.userId = userId)

/-- Credentials are of one line each, and a completed record without a binding is bound only where
the file saves no other binding of it. -/
def BindsOnce (path : Text) (s : Session) (call : DisposableCall) : Prop :=
  call.OneLineCredentials ∧
    match call with
    | .bind _ record _ _ subject userId _ _ =>
      record.state = .complete → record.subject = none ∨ record.userId = none →
        ∀ values pre, readCredentialFile path s.file = .ok values →
          disposableVariablePrefix record.runId record.scenarioId = .ok pre →
          SavedOrFree values (disposableVariableNames pre) subject userId
    | _ => True

/-- The variables under `pre` save the ids of the record and the binding it carries. -/
structure BoundAs (values : Values) (pre : Text) (record : DisposableCredentialRecord) : Prop where
  runId : saved values (pre ++ lit "_RUN_ID") = record.runId
  scenarioId : saved values (pre ++ lit "_SCENARIO_ID") = record.scenarioId
  subject : ∀ x, record.subject = some x → x ≠ [] ∧ saved values (pre ++ subjectSuffix) = x
  userId : ∀ x, record.userId = some x → x ≠ [] ∧ saved values (pre ++ userIdSuffix) = x

/-- Every returned record is saved with its ids and its binding. -/
def Bindings (values : Values) (returned : List DisposableCredentialRecord) : Prop :=
  ∀ r ∈ returned, ∃ pre, disposableVariablePrefix r.runId r.scenarioId = .ok pre ∧
    BoundAs values pre r

theorem saved_congr {values values' : Values} {name : Text}
    (h : values'.get? name = values.get? name) : saved values' name = saved values name := by
  rw [saved, saved, Dict.getD, Dict.getD, h]

theorem Bindings.at {values : Values} {returned : List DisposableCredentialRecord}
    (h : Bindings values returned) {r : DisposableCredentialRecord} (hr : r ∈ returned) {pre : Text}
    (hpre : disposableVariablePrefix r.runId r.scenarioId = .ok pre) : BoundAs values pre r := by
  obtain ⟨pre', hpre', hbound⟩ := h r hr
  rw [hpre, Except.ok.injEq] at hpre'
  exact hpre' ▸ hbound

/-- A record stays bound as it is where its variables keep their values. -/
theorem BoundAs.keep {values values' : Values} {pre : Text} {r : DisposableCredentialRecord}
    (h : BoundAs values pre r)
    (hkeep : ∀ s ∈ [lit "_RUN_ID", lit "_SCENARIO_ID", subjectSuffix, userIdSuffix],
      values'.get? (pre ++ s) = values.get? (pre ++ s)) : BoundAs values' pre r where
  runId := (saved_congr (hkeep _ (by decide))).trans h.runId
  scenarioId := (saved_congr (hkeep _ (by decide))).trans h.scenarioId
  subject x hx := ⟨(h.subject x hx).1, (saved_congr (hkeep _ (by decide))).trans (h.subject x hx).2⟩
  userId x hx := ⟨(h.userId x hx).1, (saved_congr (hkeep _ (by decide))).trans (h.userId x hx).2⟩

/-! ## One step -/

/-- A record that is found carries the saved binding. -/
theorem boundAs_loaded {values : Values} {pre runId scenarioId : Text}
    {generator : BrowserLoginCredentials} {record : DisposableCredentialRecord}
    (hload : DisposableLoad (disposableVariableNames pre) runId scenarioId generator values
      (.done record)) : BoundAs values pre record := by
  have horNone : ∀ {v x : Text}, orNone v = some x → x ≠ [] ∧ v = x := by
    intro v x h
    unfold orNone at h
    split_ifs at h with hv
    cases h
    exact ⟨hv, rfl⟩
  cases hload with
  | stored hrun hscenario => exact ⟨hrun, hscenario, fun _ => horNone, fun _ => horNone⟩

/-- A fresh record carries no binding. -/
theorem boundAs_created (values : Values) {runId scenarioId : Text} (pre : Text)
    (generator : BrowserLoginCredentials) (hrun : Plain runId) (hscenario : Plain scenarioId) :
    BoundAs (values.update (parsed (recordUpdate pre (freshFields runId scenarioId generator)))) pre
      ⟨runId, scenarioId, generator, .pending, none, none⟩ := by
  have hl := fields_fresh runId scenarioId generator
  exact ⟨saved_of_get? (get?_update_plain hl values (by simp [freshFields]) hrun) hrun,
    saved_of_get? (get?_update_plain hl values (by simp [freshFields]) hscenario) hscenario,
    fun _ h => (nomatch h), fun _ h => (nomatch h)⟩

/-- A completion leaves ids and bindings. -/
theorem BoundAs.complete {values : Values} {pre : Text} {r : DisposableCredentialRecord}
    (h : BoundAs values pre r) :
    BoundAs (values.update (parsed (recordUpdate pre completeFields))) pre r := by
  have hkeys : ∀ s ∈ [lit "_RUN_ID", lit "_SCENARIO_ID", subjectSuffix, userIdSuffix],
      s ∈ suffixes ∧ s ∉ completeFields.map Prod.fst := by decide
  exact h.keep fun s hs => get?_update_keep fields_complete values (hkeys s hs).1 (hkeys s hs).2

/-- The saved identity after a binding. -/
theorem saved_bound (values : Values) (pre : Text) {subject userId : Text} (hs : Plain subject)
    (hu : Plain userId) :
    saved (values.update (parsed (recordUpdate pre (bindingFields subject userId))))
        (pre ++ subjectSuffix) = subject ∧
      saved (values.update (parsed (recordUpdate pre (bindingFields subject userId))))
        (pre ++ userIdSuffix) = userId := by
  have hl := fields_binding subject userId
  exact ⟨saved_of_get? (get?_update_plain hl values (by simp [bindingFields]) hs) hs,
    saved_of_get? (get?_update_plain hl values (by simp [bindingFields]) hu) hu⟩

/-- A record is bound as it was after a binding to the identity it carries. -/
theorem BoundAs.bind {values : Values} {pre subject userId : Text} {r : DisposableCredentialRecord}
    (h : BoundAs values pre r) (hs : Plain subject) (hu : Plain userId)
    (hsubject : ∀ x, r.subject = some x → x ≠ [] ∧ subject = x)
    (huser : ∀ x, r.userId = some x → x ≠ [] ∧ userId = x) :
    BoundAs (values.update (parsed (recordUpdate pre (bindingFields subject userId)))) pre r := by
  obtain ⟨hs', hu'⟩ := saved_bound values pre hs hu
  have hkeys : ∀ s ∈ [lit "_RUN_ID", lit "_SCENARIO_ID"], s ∈ suffixes ∧ s ∉ suffixes.drop 5 := by
    decide
  have hkeep : ∀ s ∈ [lit "_RUN_ID", lit "_SCENARIO_ID"],
      saved (values.update (parsed (recordUpdate pre (bindingFields subject userId)))) (pre ++ s) =
        saved values (pre ++ s) := fun s hmem =>
    saved_congr (get?_update_keep (fields_binding subject userId) values (hkeys s hmem).1
      (hkeys s hmem).2)
  exact ⟨(hkeep _ (by decide)).trans h.runId, (hkeep _ (by decide)).trans h.scenarioId,
    fun x hx => ⟨(hsubject x hx).1, hs'.trans (hsubject x hx).2⟩,
    fun x hx => ⟨(huser x hx).1, hu'.trans (huser x hx).2⟩⟩

/-- **Under the condition a binding repeats the saved one**: what the record argument carries is
saved, and where it carries none, none else is. -/
theorem bound_identity {values : Values} {pre subject userId : Text}
    {record : DisposableCredentialRecord} (hrecord : BoundAs values pre record)
    (hchecks : BindChecks (disposableVariableNames pre) record subject userId values)
    (honce : record.subject = none ∨ record.userId = none →
      SavedOrFree values (disposableVariableNames pre) subject userId) :
    SavedOrFree values (disposableVariableNames pre) subject userId := by
  cases hs : record.subject with
  | none => exact honce (Or.inl hs)
  | some x =>
    cases hu : record.userId with
    | none => exact honce (Or.inr hu)
    | some y =>
      have hsame := hchecks.subject_same (by rw [hs]; exact Option.some_ne_none x)
      have hsame' := hchecks.userId_same (by rw [hu]; exact Option.some_ne_none y)
      exact ⟨Or.inr (hrecord.subject subject hsame).2, Or.inr (hrecord.userId userId hsame').2⟩

/-- **One step keeps the invariant.** -/
theorem bindings_step {path : Text} {s : Session} {values values' : Values} {pre : Text}
    {call : DisposableCall} {record : DisposableCredentialRecord}
    (hread : readCredentialFile path s.file = .ok values) (h : Bindings values s.returned)
    (heffect : Effect values pre call record values') (hadm : call.Admissible s.returned)
    (honce : BindsOnce path s call)
    (hcall : disposableVariablePrefix call.pair.1 call.pair.2 = .ok pre) :
    Bindings values' (record :: s.returned) := by
  -- A record under another prefix is left alone; it remains to look at this one.
  have hother : (∀ r ∈ s.returned, disposableVariablePrefix r.runId r.scenarioId = .ok pre →
      BoundAs values pre r → BoundAs values' pre r) →
      ∀ r ∈ s.returned, ∃ pre', disposableVariablePrefix r.runId r.scenarioId = .ok pre' ∧
        BoundAs values' pre' r := by
    intro hsame r hr
    obtain ⟨pre', hpre', hbound⟩ := h r hr
    refine ⟨pre', hpre', ?_⟩
    by_cases hp : pre' = pre
    · subst hp
      exact hsame r hr hpre' hbound
    · have hall : ∀ x ∈ [lit "_RUN_ID", lit "_SCENARIO_ID", subjectSuffix, userIdSuffix],
          x ∈ suffixes := by decide
      exact hbound.keep fun x hx => heffect.frame (hall x hx) hp
  cases heffect with
  | loaded hload =>
    exact List.forall_mem_cons.mpr ⟨⟨pre, by cases hload; exact hcall, boundAs_loaded hload⟩, h⟩
  | created hfree =>
    refine List.forall_mem_cons.mpr ⟨⟨pre, hcall, boundAs_created values pre _ hadm.1 hadm.2⟩,
      hother fun r _ hpre hbound => ?_⟩
    have hrun := hfree (pre ++ lit "_RUN_ID") List.mem_cons_self
    rw [hbound.runId] at hrun
    exact absurd hrun (runId_ne_nil hpre)
  | @completed _ record =>
    have hbound := (h.at (r := record) hadm hcall).complete
    exact List.forall_mem_cons.mpr ⟨⟨pre, hcall, hbound.runId, hbound.scenarioId, hbound.subject,
      hbound.userId⟩, hother fun _ _ _ hb => hb.complete⟩
  | @bound _ record _ _ subject userId _ _ hchecks =>
    have hrecord := h.at (r := record) hadm.1 hcall
    obtain ⟨hs, hu⟩ := bound_identity hrecord hchecks fun hnone =>
      honce.2 hchecks.complete hnone values pre hread hcall
    have hafter : ∀ r, BoundAs values pre r → BoundAs
        (values.update (parsed (recordUpdate pre (bindingFields subject userId)))) pre r := by
      intro r hr
      refine hr.bind hadm.2.1 hadm.2.2 (fun x hx => ?_) fun x hx => ?_
      · obtain ⟨hne, hsaved⟩ := hr.subject x hx
        exact ⟨hne, (hs.resolve_left fun hnil => hne (hsaved.symm.trans hnil)).symm.trans hsaved⟩
      · obtain ⟨hne, hsaved⟩ := hr.userId x hx
        exact ⟨hne, (hu.resolve_left fun hnil => hne (hsaved.symm.trans hnil)).symm.trans hsaved⟩
    obtain ⟨hs', hu'⟩ := saved_bound values pre hadm.2.1 hadm.2.2
    refine List.forall_mem_cons.mpr ⟨⟨pre, hcall, (hafter record hrecord).runId,
      (hafter record hrecord).scenarioId, fun x hx => ?_, fun x hx => ?_⟩,
      hother fun r _ _ hr => hafter r hr⟩
    · cases hx
      exact ⟨hchecks.subject_ne, hs'⟩
    · cases hx
      exact ⟨hchecks.userId_ne, hu'⟩

/-! ## Runs -/

/-- **The invariant holds at the end of every run.** -/
theorem bindings_of_reaches {path : Text} {s s' : Session} {values : Values}
    (hread : readCredentialFile path s.file = .ok values) (h : Bindings values s.returned)
    (hrun : Session.Reaches path (BindsOnce path) s s') :
    ∃ values', readCredentialFile path s'.file = .ok values' ∧ Bindings values' s'.returned ∧
      s.returned ⊆ s'.returned := by
  induction hrun with
  | refl => exact ⟨values, hread, h, fun _ hr => hr⟩
  | tail _ hstep ih =>
    obtain ⟨values', hread', hbindings, hreturned⟩ := ih
    obtain ⟨call, hadm, honce, rfl⟩ := hstep
    rcases Session.after_cases hread' hadm honce.1 with
      ⟨-, hafter⟩ | ⟨record, pre, values'', -, hafter, hread'', hpre, heffect⟩
    · rw [hafter]
      exact ⟨values', hread', hbindings, hreturned⟩
    · refine ⟨values'', hread'', ?_, ?_⟩
      · rw [hafter]
        exact bindings_step hread' hbindings heffect hadm honce hpre
      · rw [hafter]
        exact fun _ hr => List.mem_cons_of_mem record (hreturned hr)

/-- **A binding that succeeds is in the records returned.** -/
theorem returned_of_bind {path : Text} {s : Session} {values : Values} {call : DisposableCall}
    {subject userId : Text} {bound : DisposableCredentialRecord}
    (hread : readCredentialFile path s.file = .ok values) (h : Bindings values s.returned)
    (hadm : call.Admissible s.returned) (honce : BindsOnce path s call)
    (hidentity : call.identity = some (subject, userId))
    (hok : (perform path (call.operation path) s.file).1 = .ok bound) :
    ∃ values' r, readCredentialFile path (s.after path call).file = .ok values' ∧
      Bindings values' (s.after path call).returned ∧ s.returned ⊆ (s.after path call).returned ∧
      r ∈ (s.after path call).returned ∧ (r.runId, r.scenarioId) = call.pair ∧
      r.subject = some subject ∧ r.userId = some userId := by
  rcases Session.after_cases hread hadm honce.1 with
    ⟨⟨e, he⟩, -⟩ | ⟨record, pre, values', -, hafter, hread', hpre, heffect⟩
  · rw [he] at hok
    exact nomatch hok
  · have hbindings := bindings_step hread h heffect hadm honce hpre
    rw [hafter]
    refine ⟨values', record, hread', hbindings, List.subset_cons_self _ _, List.mem_cons_self, ?_⟩
    cases heffect with
    | bound =>
      cases hidentity
      exact ⟨rfl, rfl, rfl⟩
    | _ => exact nomatch hidentity

/-- Bindings are final from a session on, in calls that meet a condition, and an owned identity is
the saved one. -/
structure BindingKept (path : Text) (condition : Session → DisposableCall → Prop) (s : Session) :
    Prop where
  /-- A binding that succeeds stays saved, and every later one for the pair repeats it. -/
  final : ∀ (call : DisposableCall) subject userId bound, call.Admissible s.returned →
    condition s call → call.identity = some (subject, userId) →
    (perform path (call.operation path) s.file).1 = .ok bound →
    ∀ s', Session.Reaches path condition (s.after path call) s' →
      (∃ values pre, readCredentialFile path s'.file = .ok values ∧
        disposableVariablePrefix call.pair.1 call.pair.2 = .ok pre ∧
        saved values (disposableVariableNames pre).subject = subject ∧
        saved values (disposableVariableNames pre).userId = userId) ∧
      ∀ (call' : DisposableCall) subject' userId' bound', call'.Admissible s'.returned →
        condition s' call' → call'.identity = some (subject', userId') →
        call'.pair = call.pair → (perform path (call'.operation path) s'.file).1 = .ok bound' →
        subject' = subject ∧ userId' = userId
  /-- An accepted identity is the one the file saves for the record. -/
  owned : ∀ r ∈ s.returned, ∀ currentRunId currentScenarioId subject userId reusableSubjects
    reusableUserIds, requireOwnedDisposableIdentity r currentRunId currentScenarioId subject userId
      reusableSubjects reusableUserIds = .ok () →
    ∃ values pre, readCredentialFile path s.file = .ok values ∧
      disposableVariablePrefix r.runId r.scenarioId = .ok pre ∧
      r.subject = some (saved values (disposableVariableNames pre).subject) ∧
      r.userId = some (saved values (disposableVariableNames pre).userId) ∧
      subject = saved values (disposableVariableNames pre).subject ∧
      userId = saved values (disposableVariableNames pre).userId

theorem requireOwned_identity {r : DisposableCredentialRecord}
    {currentRunId currentScenarioId subject userId : Text}
    {reusableSubjects reusableUserIds : Finset Text}
    (h : requireOwnedDisposableIdentity r currentRunId currentScenarioId subject userId
      reusableSubjects reusableUserIds = .ok ()) : r.subject = some subject ∧ r.userId = some userId := by
  simp only [requireOwnedDisposableIdentity, bind_eq_ok, raiseIf_eq_ok, not_or, not_not] at h
  obtain ⟨-, -, -, -, -, hsame, -⟩ := h
  exact hsame

/-- **A binding is final** in every session whose calls bind once, and only the saved identity is
owned. -/
theorem binding_kept {path : Text} {start : CredentialFile} {values₀ : Values}
    (hstart : readCredentialFile path start = .ok values₀) {s : Session}
    (hs : Session.Reaches path (BindsOnce path) ⟨start, []⟩ s) :
    BindingKept path (BindsOnce path) s := by
  obtain ⟨values, hread, hbindings, -⟩ := bindings_of_reaches (s := ⟨start, []⟩) hstart
    (fun _ hr => absurd hr List.not_mem_nil) hs
  refine ⟨fun call subject userId bound hadm honce hidentity hok s' hrun => ?_,
    fun r hr _ _ subject userId _ _ howned => ?_⟩
  · obtain ⟨values₁, r, hread₁, hbindings₁, -, hr, hpair, hsubject, huser⟩ :=
      returned_of_bind hread hbindings hadm honce hidentity hok
    obtain ⟨values', hread', hbindings', hreturned⟩ := bindings_of_reaches hread₁ hbindings₁ hrun
    obtain ⟨pre, hpre, hbound⟩ := hbindings' r (hreturned hr)
    rw [← hpair]
    refine ⟨⟨values', pre, hread', hpre, (hbound.subject _ hsubject).2, (hbound.userId _ huser).2⟩,
      fun call' subject' userId' bound' hadm' honce' hidentity' hsame hok' => ?_⟩
    obtain ⟨values₂, r', -, hbindings₂, hreturned₂, hr', hpair', hsubject', huser'⟩ :=
      returned_of_bind hread' hbindings' hadm' honce' hidentity' hok'
    -- Both bindings are carried by returned records of one prefix, so both are the saved one.
    rw [hsame] at hpair'
    obtain ⟨hrun', hscenario'⟩ := Prod.mk.inj hpair'
    have h₁ := hbindings₂.at (hreturned₂ (hreturned hr)) hpre
    have h₂ := hbindings₂.at hr' (by rw [hrun', hscenario', hpre])
    exact ⟨(h₂.subject _ hsubject').2.symm.trans (h₁.subject _ hsubject).2,
      (h₂.userId _ huser').2.symm.trans (h₁.userId _ huser).2⟩
  · obtain ⟨hsubject, huser⟩ := requireOwned_identity howned
    obtain ⟨pre, hpre, hbound⟩ := hbindings r hr
    have hs := (hbound.subject _ hsubject).2
    have hu := (hbound.userId _ huser).2
    exact ⟨values, pre, hread, hpre, by rw [hsubject]; exact congrArg some hs.symm,
      by rw [huser]; exact congrArg some hu.symm, hs.symm, hu.symm⟩

/-! ## Binding a stale record -/

/-- The record of the run "r" and the scenario "s", completed and not bound. -/
def staleRecord : DisposableCredentialRecord :=
  ⟨lit "r", lit "s", ⟨lit "u@test.com", lit "Ba9!x"⟩, .complete, none, none⟩

/-- The record is created on an absent file and completed. -/
def staleSession : Session :=
  (Session.after (lit ".env.local") ⟨.absent, []⟩
    (.load localConfig .empty (lit "r") (lit "s") ⟨lit "u@test.com", lit "Ba9!x"⟩)).after
      (lit ".env.local") (.mark localConfig { staleRecord with state := .pending })

/-- The calls that make it are admissible, whatever else is asked of a call that binds. -/
theorem reaches_staleSession {condition : Session → DisposableCall → Prop}
    (h : ∀ s (call : DisposableCall), call.OneLineCredentials → call.identity = none →
      condition s call) :
    Session.Reaches (lit ".env.local") condition ⟨.absent, []⟩ staleSession := by
  have hload : ({ staleRecord with state := .pending } : DisposableCredentialRecord) ∈
      (Session.after (lit ".env.local") ⟨.absent, []⟩
        (.load localConfig .empty (lit "r") (lit "s") ⟨lit "u@test.com", lit "Ba9!x"⟩)).returned := by
    decide +kernel
  exact (Relation.ReflTransGen.single ⟨.load _ _ _ _ _, ⟨by decide, by decide⟩,
    h _ _ ⟨by decide, by decide⟩ rfl, rfl⟩).tail ⟨.mark _ _, hload, h _ _ trivial rfl, rfl⟩

/-- The completed record is bound to an identity. -/
def bindStale (subject userId : Text) : DisposableCall :=
  .bind localConfig staleRecord (lit "r") (lit "s") subject userId ∅ ∅

/-- The record of another run is created behind the completed one, which is then bound. -/
def boundSession : Session :=
  ((staleSession.after (lit ".env.local")
    (.load localConfig .empty (lit "r2") (lit "s") ⟨lit "v@test.com", lit "Ba9!y"⟩)).after
      (lit ".env.local") (bindStale (lit "s1") (lit "u1")))

/-- Both calls return, and the one that binds meets the condition: the file saves no binding. -/
theorem reaches_boundSession :
    Session.Reaches (lit ".env.local") (BindsOnce (lit ".env.local")) ⟨.absent, []⟩ boundSession := by
  have hstale := @reaches_staleSession (BindsOnce (lit ".env.local"))
    fun s call hline hnone => ⟨hline, by
      cases call with
      | bind => exact nomatch hnone
      | _ => trivial⟩
  have hmem : staleRecord ∈ (staleSession.after (lit ".env.local") (.load localConfig .empty
      (lit "r2") (lit "s") ⟨lit "v@test.com", lit "Ba9!y"⟩)).returned := by
    decide +kernel
  have hfree : (readCredentialFile (lit ".env.local") (staleSession.after (lit ".env.local")
      (.load localConfig .empty (lit "r2") (lit "s") ⟨lit "v@test.com", lit "Ba9!y"⟩)).file).bind
        (fun values => (disposableVariablePrefix (lit "r") (lit "s")).map fun pre =>
          (saved values (disposableVariableNames pre).subject,
            saved values (disposableVariableNames pre).userId)) = .ok ([], []) := by
    decide +kernel
  refine (hstale.tail ⟨.load _ _ _ _ _, ⟨by decide, by decide⟩, ⟨⟨by decide, by decide⟩, trivial⟩,
    rfl⟩).tail ⟨bindStale (lit "s1") (lit "u1"), ⟨hmem, by decide, by decide⟩, ⟨trivial, ?_⟩, rfl⟩
  intro _ _ values pre hread hpre
  rw [hread, show disposableVariablePrefix (lit "r") (lit "s") = .ok pre from hpre] at hfree
  obtain ⟨hsubject, huser⟩ := Prod.mk.inj (Except.ok.inj hfree)
  exact ⟨Or.inl hsubject, Or.inl huser⟩

/-- All four calls return, the last one with the binding. -/
theorem binding_kept_example :
    boundSession.returned.length = 4 ∧
      BindingKept (lit ".env.local") (BindsOnce (lit ".env.local")) boundSession := by
  have hread : readCredentialFile (lit ".env.local") .absent = .ok .empty := rfl
  exact ⟨by decide +kernel, binding_kept hread reaches_boundSession⟩

/-- A record returned before the first binding binds the account to a second identity: the session
is one of admissible calls, both bindings succeed, and so no binding is final. -/
theorem rebinding_example :
    Session.Reaches (lit ".env.local") (fun _ _ => True) ⟨.absent, []⟩ staleSession ∧
      (perform (lit ".env.local") ((bindStale (lit "s1") (lit "u1")).operation (lit ".env.local"))
        staleSession.file).1 =
        .ok { staleRecord with subject := some (lit "s1"), userId := some (lit "u1") } ∧
      (perform (lit ".env.local") ((bindStale (lit "s2") (lit "u2")).operation (lit ".env.local"))
        (staleSession.after (lit ".env.local") (bindStale (lit "s1") (lit "u1"))).file).1 =
        .ok { staleRecord with subject := some (lit "s2"), userId := some (lit "u2") } ∧
      ¬ BindingKept (lit ".env.local") (fun _ _ => True) staleSession := by
  have hstale : staleRecord ∈ staleSession.returned := by decide +kernel
  have hstale' : staleRecord ∈
      (staleSession.after (lit ".env.local") (bindStale (lit "s1") (lit "u1"))).returned := by
    decide +kernel
  have hfirst : (perform (lit ".env.local")
      ((bindStale (lit "s1") (lit "u1")).operation (lit ".env.local")) staleSession.file).1 =
      .ok { staleRecord with subject := some (lit "s1"), userId := some (lit "u1") } := by
    decide +kernel
  have hsecond : (perform (lit ".env.local")
      ((bindStale (lit "s2") (lit "u2")).operation (lit ".env.local"))
      (staleSession.after (lit ".env.local") (bindStale (lit "s1") (lit "u1"))).file).1 =
      .ok { staleRecord with subject := some (lit "s2"), userId := some (lit "u2") } := by
    decide +kernel
  refine ⟨reaches_staleSession fun _ _ _ _ => trivial, hfirst, hsecond, fun h => ?_⟩
  obtain ⟨-, hlater⟩ := h.final (bindStale (lit "s1") (lit "u1")) _ _ _
    ⟨hstale, by decide, by decide⟩ trivial rfl hfirst _ Relation.ReflTransGen.refl
  have hsame := (hlater (bindStale (lit "s2") (lit "u2")) _ _ _ ⟨hstale', by decide, by decide⟩
    trivial rfl rfl hsecond).1
  exact absurd hsame (by decide)

end ApiTests.Credentials
