import ApiTests.Credentials.Session

/-!
# The provenance of disposable records over whole sessions

Sessions of `load_or_create_disposable_credentials`, `mark_disposable_credentials_complete` and
`bind_disposable_identity` (`local_credentials.py:51-225`) that start from an accepted file without
a record variable, with ids, identities and credentials that hold no whitespace, quote or `#`.

`Provenance values returned` is what holds of the variables and the records returned so far: every
record variable belongs to a returned record, every returned record is saved with its own ids and
credentials, and no two records save one username, one bound subject or one bound user id. The
record variables are named by a lossy prefix of run and scenario; `Effect.pair_eq` shows that no
call for another pair gets past the checks where the prefixes meet.

Results: `provenance_step`, `provenance_of_reaches` (the invariant, over a step and over a run),
`disposable_records_kept` (**ids and credentials never change, the state only completes, a call for
another pair changes nothing, and the three identities are unique**).
-/

namespace ApiTests.Credentials

open Py

/-! ## The invariant -/

/-- No two record variables with the suffix save one value. -/
def Distinct (values : Values) (suffix : Text) : Prop :=
  values.DistinctOn (RecordVariable suffix) strip

/-- The variables under `pre` save the record, in some state. -/
structure Holds (values : Values) (pre : Text) (record : DisposableCredentialRecord) : Prop where
  runId : values.get? (pre ++ lit "_RUN_ID") = some record.runId
  scenarioId : values.get? (pre ++ lit "_SCENARIO_ID") = some record.scenarioId
  username : values.get? (pre ++ usernameSuffix) = some record.credentials.username
  password : values.get? (pre ++ lit "_PASSWORD") = some record.credentials.password
  state : ∃ state : AccountState, values.get? (pre ++ lit "_ACCOUNT_STATE") = some state.text

/-- The ids and credentials of a record hold no whitespace, quote or `#`. -/
structure PlainRecord (record : DisposableCredentialRecord) : Prop where
  runId : Plain record.runId
  scenarioId : Plain record.scenarioId
  username : Plain record.credentials.username
  password : Plain record.credentials.password

/-- What holds of the variables and the records returned so far. -/
structure Provenance (values : Values) (returned : List DisposableCredentialRecord) : Prop where
  owned : ∀ name, disposableRecordPrefix <+: name → values.get? name ≠ none → ∃ r ∈ returned,
    ∃ pre, disposableVariablePrefix r.runId r.scenarioId = .ok pre ∧
      name ∈ (disposableVariableNames pre).all
  held : ∀ r ∈ returned, PlainRecord r ∧
    ∃ pre, disposableVariablePrefix r.runId r.scenarioId = .ok pre ∧ Holds values pre r
  usernames : Distinct values usernameSuffix
  subjects : Distinct values subjectSuffix
  userIds : Distinct values userIdSuffix

/-- The record saved under a prefix is the only returned one with that prefix, up to its state and
binding. -/
theorem Provenance.held_at {values : Values} {returned : List DisposableCredentialRecord}
    (h : Provenance values returned) {r : DisposableCredentialRecord} (hr : r ∈ returned) {pre : Text}
    (hpre : disposableVariablePrefix r.runId r.scenarioId = .ok pre) :
    PlainRecord r ∧ Holds values pre r := by
  obtain ⟨hplain, pre', hpre', hheld⟩ := h.held r hr
  rw [hpre, Except.ok.injEq] at hpre'
  exact ⟨hplain, hpre' ▸ hheld⟩

/-- A saved record is one an earlier call returned. -/
theorem Provenance.exists_of_saved {values : Values} {returned : List DisposableCredentialRecord}
    (h : Provenance values returned) {runId scenarioId pre : Text}
    (hpre : disposableVariablePrefix runId scenarioId = .ok pre)
    (hsaved : saved values (pre ++ lit "_RUN_ID") ≠ []) :
    ∃ r ∈ returned, disposableVariablePrefix r.runId r.scenarioId = .ok pre := by
  have hname : pre ++ lit "_RUN_ID" ∈ (disposableVariableNames pre).all := List.mem_cons_self
  obtain ⟨r, hr, pre', hpre', hmem⟩ := h.owned _ (isName_of_disposablePrefix hpre hname).2
    (get?_ne_none_of_saved hsaved)
  obtain ⟨s, hs, hsame⟩ := mem_all.mp hmem
  obtain ⟨rfl, -⟩ := name_injective hs (by decide) hsame
  exact ⟨r, hr, hpre'⟩

/-- **Where prefixes meet, so do the pairs**: a call that returns is for the pair saved under its
prefix, and creates nothing there. -/
theorem Effect.pair_eq {values values' : Values} {returned : List DisposableCredentialRecord}
    {pre : Text} {call : DisposableCall} {record r : DisposableCredentialRecord}
    (heffect : Effect values pre call record values') (h : Provenance values returned)
    (hadm : call.Admissible returned) (hcall : disposableVariablePrefix call.pair.1 call.pair.2 = .ok pre)
    (hr : r ∈ returned) (hpre : disposableVariablePrefix r.runId r.scenarioId = .ok pre) :
    call.pair = (r.runId, r.scenarioId) := by
  obtain ⟨hplain, hheld⟩ := h.held_at hr hpre
  have hrun := saved_of_get? hheld.runId hplain.runId
  have hscenario := saved_of_get? hheld.scenarioId hplain.scenarioId
  have hmem : ∀ r' ∈ returned, disposableVariablePrefix r'.runId r'.scenarioId = .ok pre →
      (r'.runId, r'.scenarioId) = (r.runId, r.scenarioId) := by
    intro r' hr' hpre'
    obtain ⟨-, hheld'⟩ := h.held_at hr' hpre'
    have h₁ := hheld'.runId.symm.trans hheld.runId
    have h₂ := hheld'.scenarioId.symm.trans hheld.scenarioId
    rw [Option.some.inj h₁, Option.some.inj h₂]
  cases heffect with
  | loaded hload =>
    cases hload with
    | stored hr' hs' => exact Prod.ext (hr'.symm.trans hrun) (hs'.symm.trans hscenario)
  | created hfree =>
    have := hfree (pre ++ lit "_RUN_ID") List.mem_cons_self
    rw [hrun] at this
    exact absurd this (runId_ne_nil hpre)
  | completed => exact hmem _ hadm hcall
  | bound => exact hmem _ hadm.1 hcall

/-! ## One step -/

/-- A record is still held after an update of another one. -/
theorem Holds.update_other {values : Values} {l : List (Text × Text)} {pre pre' : Text}
    {r : DisposableCredentialRecord} (hr : Holds values pre' r) (h : Fields l) (hne : pre' ≠ pre) :
    Holds (values.update (parsed (recordUpdate pre l))) pre' r where
  runId := (get?_update_other h values (by decide) hne).trans hr.runId
  scenarioId := (get?_update_other h values (by decide) hne).trans hr.scenarioId
  username := (get?_update_other h values (by decide) hne).trans hr.username
  password := (get?_update_other h values (by decide) hne).trans hr.password
  state := hr.state.imp fun _ hs => (get?_update_other h values (by decide) hne).trans hs

/-- An update keeps the values of a suffix distinct if its own value is saved nowhere else. -/
theorem Distinct.update {values : Values} {s pre : Text} {l : List (Text × Text)}
    (h : Distinct values s) (hl : Fields l) (hs : s ∈ suffixes)
    (hnew : ∀ v, (parsed (recordUpdate pre l)).get? (pre ++ s) = some v →
      ∀ e ∈ values.entries, ¬ HeldElsewhere s (pre ++ s) (strip v) e) :
    Distinct (values.update (parsed (recordUpdate pre l))) s :=
  Dict.DistinctOn.update h (pre ++ s) (fun _ _ hname hget => eq_of_get?_recordUpdate hl hs hname hget)
    fun v hv k w hk hne hget hsame =>
      hnew v hv (k, w) (Dict.mem_entries_iff.mpr hget) ⟨hk, hne, hsame⟩

/-- Holding a record does not depend on the state and the binding the caller's copy carries. -/
theorem Holds.of_eq {values : Values} {pre : Text} {r r' : DisposableCredentialRecord}
    (h : Holds values pre r) (hrun : r'.runId = r.runId) (hscenario : r'.scenarioId = r.scenarioId)
    (hcredentials : r'.credentials = r.credentials) : Holds values pre r' where
  runId := hrun ▸ h.runId
  scenarioId := hscenario ▸ h.scenarioId
  username := hcredentials ▸ h.username
  password := hcredentials ▸ h.password
  state := h.state

theorem PlainRecord.of_eq {r r' : DisposableCredentialRecord} (h : PlainRecord r)
    (hrun : r'.runId = r.runId) (hscenario : r'.scenarioId = r.scenarioId)
    (hcredentials : r'.credentials = r.credentials) : PlainRecord r' where
  runId := hrun ▸ h.runId
  scenarioId := hscenario ▸ h.scenarioId
  username := hcredentials ▸ h.username
  password := hcredentials ▸ h.password

/-- The fields an update of a saved record may write. -/
def laterSuffixes : List Text := [lit "_ACCOUNT_STATE", subjectSuffix, userIdSuffix]

/-- A record is still held after a completion or a binding of its own. -/
theorem Holds.update_later {values : Values} {l : List (Text × Text)} {pre : Text}
    {r : DisposableCredentialRecord} (hr : Holds values pre r) (h : Fields l)
    (hlater : l.map Prod.fst ⊆ laterSuffixes)
    (hstate : ∃ state : AccountState,
      (values.update (parsed (recordUpdate pre l))).get? (pre ++ lit "_ACCOUNT_STATE") =
        some state.text) : Holds (values.update (parsed (recordUpdate pre l))) pre r where
  runId := (get?_update_keep h values (by decide) fun hm =>
    absurd (hlater hm) (by decide)).trans hr.runId
  scenarioId := (get?_update_keep h values (by decide) fun hm =>
    absurd (hlater hm) (by decide)).trans hr.scenarioId
  username := (get?_update_keep h values (by decide) fun hm =>
    absurd (hlater hm) (by decide)).trans hr.username
  password := (get?_update_keep h values (by decide) fun hm =>
    absurd (hlater hm) (by decide)).trans hr.password
  state := hstate

/-- The variables of a record are owned after its update. -/
theorem Provenance.owned_update {values : Values} {returned : List DisposableCredentialRecord}
    (h : Provenance values returned) {l : List (Text × Text)} (hl : Fields l) {pre : Text}
    {record : DisposableCredentialRecord}
    (hrecord : disposableVariablePrefix record.runId record.scenarioId = .ok pre) (name : Text)
    (hname : disposableRecordPrefix <+: name)
    (hget : (values.update (parsed (recordUpdate pre l))).get? name ≠ none) :
    ∃ r ∈ record :: returned, ∃ pre', disposableVariablePrefix r.runId r.scenarioId = .ok pre' ∧
      name ∈ (disposableVariableNames pre').all := by
  by_cases hmem : name ∈ (disposableVariableNames pre).all
  · exact ⟨record, List.mem_cons_self, pre, hrecord, hmem⟩
  · rw [Dict.get?_update, get?_parsed, get?_recordUpdate_of_notMem hl hmem] at hget
    obtain ⟨r, hr, hmore⟩ := h.owned name hname hget
    exact ⟨r, List.mem_cons_of_mem record hr, hmore⟩

/-- The saved identities stay distinct after an update, if its own are saved nowhere else. -/
theorem Provenance.update {values : Values} {returned : List DisposableCredentialRecord}
    (h : Provenance values returned) {l : List (Text × Text)} (hl : Fields l)
    (hplain : ∀ e ∈ l, Plain e.2) {pre : Text} {record : DisposableCredentialRecord}
    (hrecord : disposableVariablePrefix record.runId record.scenarioId = .ok pre)
    (hheld : ∀ r ∈ record :: returned, PlainRecord r ∧
      ∃ pre', disposableVariablePrefix r.runId r.scenarioId = .ok pre' ∧
        Holds (values.update (parsed (recordUpdate pre l))) pre' r)
    (hnew : ∀ s v, (s, v) ∈ l → s ∈ [usernameSuffix, subjectSuffix, userIdSuffix] →
      ∀ e ∈ values.entries, ¬ HeldElsewhere s (pre ++ s) v e) :
    Provenance (values.update (parsed (recordUpdate pre l))) (record :: returned) := by
  have hdistinct : ∀ s ∈ [usernameSuffix, subjectSuffix, userIdSuffix], Distinct values s →
      Distinct (values.update (parsed (recordUpdate pre l))) s := by
    intro s hmem hs
    have hall : ∀ s ∈ [usernameSuffix, subjectSuffix, userIdSuffix], s ∈ suffixes := by decide
    have hsuffix := hall s hmem
    refine hs.update hl hsuffix fun v hv => ?_
    rw [get?_parsed, get?_recordUpdate hl hsuffix, if_pos rfl] at hv
    obtain ⟨w, hw, rfl⟩ := Option.map_eq_some_iff.mp hv
    have hw := (Dict.get?_ofList_eq_some_iff hl.nodup).mp hw
    rw [(hplain _ hw).parseValue_eq, (hplain _ hw).strip_eq]
    exact hnew s w hw hmem
  exact ⟨h.owned_update hl hrecord, hheld, hdistinct _ (by decide) h.usernames,
    hdistinct _ (by decide) h.subjects, hdistinct _ (by decide) h.userIds⟩

/-- The other records are held after an update under a prefix that is not theirs. -/
theorem Provenance.held_other {values : Values} {returned : List DisposableCredentialRecord}
    (h : Provenance values returned) {l : List (Text × Text)} (hl : Fields l) {pre : Text}
    {r : DisposableCredentialRecord} (hr : r ∈ returned)
    (hne : disposableVariablePrefix r.runId r.scenarioId ≠ .ok pre) : PlainRecord r ∧
      ∃ pre', disposableVariablePrefix r.runId r.scenarioId = .ok pre' ∧
        Holds (values.update (parsed (recordUpdate pre l))) pre' r := by
  obtain ⟨hrp, pre', hpre', hheld⟩ := h.held r hr
  exact ⟨hrp, pre', hpre', hheld.update_other hl fun e => hne (e ▸ hpre')⟩

/-- A returned record is still held after a completion or a binding. -/
theorem Provenance.held_later {values : Values} {returned : List DisposableCredentialRecord}
    (h : Provenance values returned) {l : List (Text × Text)} (hl : Fields l)
    (hkeys : l.map Prod.fst ⊆ laterSuffixes) {pre : Text}
    (hstate : ∀ {r}, Holds values pre r → ∃ state : AccountState,
      (values.update (parsed (recordUpdate pre l))).get? (pre ++ lit "_ACCOUNT_STATE") =
        some state.text) {r : DisposableCredentialRecord} (hr : r ∈ returned) : PlainRecord r ∧
      ∃ pre', disposableVariablePrefix r.runId r.scenarioId = .ok pre' ∧
        Holds (values.update (parsed (recordUpdate pre l))) pre' r := by
  by_cases hpre : disposableVariablePrefix r.runId r.scenarioId = .ok pre
  · obtain ⟨hrp, hheld⟩ := h.held_at hr hpre
    exact ⟨hrp, pre, hpre, hheld.update_later hl hkeys (hstate hheld)⟩
  · exact h.held_other hl hr hpre

/-- A record that is found adds nothing to the file. -/
theorem provenance_loaded {values : Values} {returned : List DisposableCredentialRecord}
    {pre runId scenarioId : Text} {record r : DisposableCredentialRecord}
    {generator : BrowserLoginCredentials} (h : Provenance values returned)
    (hcall : disposableVariablePrefix runId scenarioId = .ok pre) (hr : r ∈ returned)
    (hpre : disposableVariablePrefix r.runId r.scenarioId = .ok pre)
    (hpair : (runId, scenarioId) = (r.runId, r.scenarioId))
    (hload : DisposableLoad (disposableVariableNames pre) runId scenarioId generator values
      (.done record)) : Provenance values (record :: returned) := by
  obtain ⟨hrp, hheld⟩ := h.held_at hr hpre
  obtain ⟨hrun, hscenario⟩ := Prod.mk.inj hpair
  cases hload with
  | stored =>
    have hcredentials : (⟨saved values (pre ++ usernameSuffix),
        saved values (pre ++ lit "_PASSWORD")⟩ : BrowserLoginCredentials) = r.credentials := by
      rw [saved_of_get? hheld.username hrp.username, saved_of_get? hheld.password hrp.password]
    refine ⟨fun name hname hget => ?_, List.forall_mem_cons.mpr ⟨⟨hrp.of_eq hrun hscenario
      hcredentials, pre, hcall, hheld.of_eq hrun hscenario hcredentials⟩, h.held⟩, h.usernames,
      h.subjects, h.userIds⟩
    obtain ⟨r', hr', hmore⟩ := h.owned name hname hget
    exact ⟨r', List.mem_cons_of_mem _ hr', hmore⟩

/-- A fresh record is held, and its username is saved nowhere else. -/
theorem provenance_created {values : Values} {returned : List DisposableCredentialRecord}
    {pre runId scenarioId : Text} {generator : BrowserLoginCredentials}
    (h : Provenance values returned) (hcall : disposableVariablePrefix runId scenarioId = .ok pre)
    (hplain : PlainRecord ⟨runId, scenarioId, generator, .pending, none, none⟩)
    (hfree : ∀ name ∈ (disposableVariableNames pre).all, saved values name = [])
    (hdistinct : ∀ e ∈ values.entries,
      ¬ HeldElsewhere usernameSuffix (pre ++ usernameSuffix) generator.username e) :
    Provenance (values.update (parsed (recordUpdate pre (freshFields runId scenarioId generator))))
      (⟨runId, scenarioId, generator, .pending, none, none⟩ :: returned) := by
  have hl := fields_fresh runId scenarioId generator
  have hvalues : ∀ e ∈ freshFields runId scenarioId generator, Plain e.2 := by
    intro e he
    simp only [freshFields, List.mem_cons, List.not_mem_nil, or_false] at he
    rcases he with rfl | rfl | rfl | rfl | rfl
    · exact hplain.runId
    · exact hplain.scenarioId
    · exact hplain.username
    · exact hplain.password
    · exact plain_state .pending
  refine h.update hl hvalues hcall (List.forall_mem_cons.mpr ⟨⟨hplain, pre, hcall, ?_⟩,
    fun r hr => h.held_other hl hr fun hpre => ?_⟩) ?_
  · exact ⟨get?_update_plain hl values (by simp [freshFields]) hplain.runId,
      get?_update_plain hl values (by simp [freshFields]) hplain.scenarioId,
      get?_update_plain hl values (by simp [freshFields]) hplain.username,
      get?_update_plain hl values (by simp [freshFields]) hplain.password,
      .pending, get?_update_plain hl values (by simp [freshFields]) (plain_state .pending)⟩
  · obtain ⟨hrp, hheld⟩ := h.held_at hr hpre
    have hsaved := hfree (pre ++ lit "_RUN_ID") List.mem_cons_self
    rw [saved_of_get? hheld.runId hrp.runId] at hsaved
    exact runId_ne_nil hpre hsaved
  · intro s v hv hs e he
    simp only [freshFields, List.mem_cons, Prod.mk.injEq, List.not_mem_nil, or_false] at hv
    rcases hv with ⟨rfl, rfl⟩ | ⟨rfl, rfl⟩ | ⟨rfl, rfl⟩ | ⟨rfl, rfl⟩ | ⟨rfl, rfl⟩
    · exact absurd hs (by decide)
    · exact absurd hs (by decide)
    · exact hdistinct e he
    · exact absurd hs (by decide)
    · exact absurd hs (by decide)

/-- A completion changes the state only. -/
theorem provenance_completed {values : Values} {returned : List DisposableCredentialRecord}
    {pre : Text} {record : DisposableCredentialRecord} (h : Provenance values returned)
    (hr : record ∈ returned)
    (hcall : disposableVariablePrefix record.runId record.scenarioId = .ok pre) :
    Provenance (values.update (parsed (recordUpdate pre completeFields)))
      ({ record with state := .complete } :: returned) := by
  obtain ⟨hrp, hheld⟩ := h.held_at hr hcall
  have hvalues : ∀ e ∈ completeFields, Plain e.2 := by
    intro e he
    rw [List.mem_singleton.mp he]
    exact plain_state .complete
  have hstate := get?_update_complete values pre
  have hkeys : completeFields.map Prod.fst ⊆ laterSuffixes := by decide
  have hheld' := hheld.update_later fields_complete hkeys ⟨.complete, hstate⟩
  refine h.update fields_complete hvalues hcall (List.forall_mem_cons.mpr
    ⟨⟨hrp.of_eq rfl rfl rfl, pre, hcall, hheld'.of_eq rfl rfl rfl⟩,
      fun r hr => h.held_later fields_complete hkeys (fun _ => ⟨.complete, hstate⟩) hr⟩) ?_
  intro s v hv hs
  rw [(Prod.mk.inj (List.mem_singleton.mp hv)).1] at hs
  exact absurd hs (by decide)

/-- A binding is saved for no other record. -/
theorem provenance_bound {values : Values} {returned : List DisposableCredentialRecord}
    {pre subject userId : Text} {record : DisposableCredentialRecord}
    (h : Provenance values returned) (hr : record ∈ returned) (hsubject : Plain subject)
    (huser : Plain userId)
    (hcall : disposableVariablePrefix record.runId record.scenarioId = .ok pre)
    (hchecks : BindChecks (disposableVariableNames pre) record subject userId values) :
    Provenance (values.update (parsed (recordUpdate pre (bindingFields subject userId))))
      ({ record with state := .complete, subject := some subject, userId := some userId } ::
        returned) := by
  obtain ⟨hrp, hheld⟩ := h.held_at hr hcall
  have hl := fields_binding subject userId
  have hvalues : ∀ e ∈ bindingFields subject userId, Plain e.2 := by
    intro e he
    simp only [bindingFields, List.mem_cons, List.not_mem_nil, or_false] at he
    rcases he with rfl | rfl
    · exact hsubject
    · exact huser
  have hkeys : (bindingFields subject userId).map Prod.fst ⊆ laterSuffixes :=
    List.drop_subset 1 laterSuffixes
  have hstate : ∀ {r}, Holds values pre r → ∃ state : AccountState,
      (values.update (parsed (recordUpdate pre (bindingFields subject userId)))).get?
        (pre ++ lit "_ACCOUNT_STATE") = some state.text := fun hr =>
    hr.state.imp fun _ hs => (get?_update_binding values pre subject userId).trans hs
  have hheld' := hheld.update_later hl hkeys (hstate hheld)
  refine h.update hl hvalues hcall (List.forall_mem_cons.mpr
    ⟨⟨hrp.of_eq rfl rfl rfl, pre, hcall, hheld'.of_eq rfl rfl rfl⟩,
      fun r hr => h.held_later hl hkeys hstate hr⟩) ?_
  intro s v hv _ e he
  simp only [bindingFields, List.mem_cons, Prod.mk.injEq, List.not_mem_nil, or_false] at hv
  rcases hv with ⟨rfl, rfl⟩ | ⟨rfl, rfl⟩
  · exact hchecks.subject_elsewhere e he
  · exact hchecks.userId_elsewhere e he

/-- **One step keeps the invariant.** -/
theorem provenance_step {values values' : Values} {returned : List DisposableCredentialRecord}
    {pre : Text} {call : DisposableCall} {record : DisposableCredentialRecord}
    (h : Provenance values returned) (heffect : Effect values pre call record values')
    (hadm : call.Admissible returned) (hplain : call.PlainCredentials)
    (hcall : disposableVariablePrefix call.pair.1 call.pair.2 = .ok pre) :
    Provenance values' (record :: returned) := by
  have hpair := fun r hr hpre => heffect.pair_eq (r := r) h hadm hcall hr hpre
  cases heffect with
  | loaded hload =>
    have hsaved : saved values (pre ++ lit "_RUN_ID") ≠ [] := by
      cases hload with
      | stored hrun => exact fun hnil => runId_ne_nil hcall (hrun.symm.trans hnil)
    obtain ⟨r, hr, hpre⟩ := h.exists_of_saved hcall hsaved
    exact provenance_loaded h hcall hr hpre (hpair r hr hpre) hload
  | created hfree hdistinct =>
    exact provenance_created h hcall ⟨hadm.1, hadm.2, hplain.1, hplain.2⟩ hfree
      (ensureDisposableUsernameIsDistinct_eq_ok.mp hdistinct).2
  | completed => exact provenance_completed h hadm hcall
  | bound hchecks => exact provenance_bound h hadm.1 hadm.2.1 hadm.2.2 hcall hchecks

/-- **A completed account stays completed.** -/
theorem Effect.complete_stays {values values' : Values} {pre pre' : Text} {call : DisposableCall}
    {record : DisposableCredentialRecord} (heffect : Effect values pre call record values')
    (h : values.get? (pre' ++ lit "_ACCOUNT_STATE") = some AccountState.complete.text) :
    values'.get? (pre' ++ lit "_ACCOUNT_STATE") = some AccountState.complete.text := by
  by_cases hpre : pre' = pre
  · subst hpre
    cases heffect with
    | loaded => exact h
    | created hfree =>
      have := hfree (pre' ++ lit "_ACCOUNT_STATE") (mem_all.mpr ⟨_, by decide, rfl⟩)
      rw [saved_of_get? h (plain_state .complete)] at this
      exact absurd this (by decide)
    | completed => exact get?_update_complete values pre'
    | bound => rwa [get?_update_binding]
  · rwa [heffect.frame (by decide) hpre]

/-! ## Runs -/

/-- The sessions of this file: every generator returns plain credentials. -/
def PlainCalls (_ : Session) (call : DisposableCall) : Prop := call.PlainCredentials

theorem DisposableCall.PlainCredentials.oneLine {call : DisposableCall}
    (h : call.PlainCredentials) : call.OneLineCredentials := by
  cases call with
  | load => exact ⟨h.1.oneLine, h.2.oneLine⟩
  | mark => trivial
  | bind => trivial

/-- The file of a session is accepted and keeps the invariant. -/
def Session.Sound (path : Text) (s : Session) (values : Values) : Prop :=
  readCredentialFile path s.file = .ok values ∧ Provenance values s.returned

theorem sound_after {path : Text} {s : Session} {values : Values} {call : DisposableCall}
    (h : s.Sound path values) (hadm : call.Admissible s.returned) (hplain : call.PlainCredentials) :
    ∃ values', (s.after path call).Sound path values' ∧
      s.returned ⊆ (s.after path call).returned ∧
      (values' = values ∨ ∃ pre record, disposableVariablePrefix call.pair.1 call.pair.2 = .ok pre ∧
        Effect values pre call record values') := by
  rcases Session.after_cases h.1 hadm hplain.oneLine with
    ⟨-, hafter⟩ | ⟨record, pre, values', -, hreturned, hread, hpre, heffect⟩
  · rw [hafter]
    exact ⟨values, h, fun _ hr => hr, Or.inl rfl⟩
  · refine ⟨values', ⟨hread, ?_⟩, ?_, Or.inr ⟨pre, record, hpre, heffect⟩⟩
    · rw [hreturned]
      exact provenance_step h.2 heffect hadm hplain hpre
    · rw [hreturned]
      exact List.subset_cons_self record s.returned

/-- **The invariant holds at the end of every run**, records stay returned, and completed accounts
stay completed. -/
theorem provenance_of_reaches {path : Text} {s s' : Session} {values : Values}
    (h : s.Sound path values) (hrun : Session.Reaches path PlainCalls s s') :
    ∃ values', s'.Sound path values' ∧ s.returned ⊆ s'.returned ∧
      ∀ pre, values.get? (pre ++ lit "_ACCOUNT_STATE") = some AccountState.complete.text →
        values'.get? (pre ++ lit "_ACCOUNT_STATE") = some AccountState.complete.text := by
  induction hrun with
  | refl => exact ⟨values, h, fun _ hr => hr, fun _ hc => hc⟩
  | tail _ hstep ih =>
    obtain ⟨values', hsound, hreturned, hcomplete⟩ := ih
    obtain ⟨call, hadm, hplain, rfl⟩ := hstep
    obtain ⟨values'', hsound', hreturned', hstep⟩ := sound_after hsound hadm hplain
    refine ⟨values'', hsound', fun _ hr => hreturned' (hreturned hr), fun pre hc => ?_⟩
    rcases hstep with rfl | ⟨_, _, -, heffect⟩
    · exact hcomplete pre hc
    · exact heffect.complete_stays (hcomplete pre hc)

/-- No two records save one value under a suffix. -/
theorem Distinct.saved_ne {values : Values} {s pre pre' v v' : Text} (h : Distinct values s)
    (hs : s ∈ suffixes) {runId scenarioId runId' scenarioId' : Text}
    (hpre : disposableVariablePrefix runId scenarioId = .ok pre)
    (hpre' : disposableVariablePrefix runId' scenarioId' = .ok pre') (hne : pre ≠ pre')
    (hv : values.get? (pre ++ s) = some v) (hv' : values.get? (pre' ++ s) = some v') :
    saved values (pre ++ s) ≠ saved values (pre' ++ s) := by
  have hname := (isName_of_disposablePrefix hpre (mem_all.mpr ⟨s, hs, rfl⟩)).2
  have hname' := (isName_of_disposablePrefix hpre' (mem_all.mpr ⟨s, hs, rfl⟩)).2
  rw [saved, saved, Dict.getD, Dict.getD, hv, hv', Option.getD_some, Option.getD_some]
  exact fun hsame => hne (name_injective hs hs (h ⟨hname, List.suffix_append pre s⟩
    ⟨hname', List.suffix_append pre' s⟩ hv hv' hsame)).1

/-- The variables of a record, and what became of them. -/
structure Kept (names : DisposableVariableNames) (record : DisposableCredentialRecord)
    (values values' : Values) : Prop where
  runId : values'.get? names.runId = some record.runId
  scenarioId : values'.get? names.scenarioId = some record.scenarioId
  username : values'.get? names.username = some record.credentials.username
  password : values'.get? names.password = some record.credentials.password
  state : ∃ state : AccountState, values'.get? names.state = some state.text
  complete : values.get? names.state = some AccountState.complete.text →
    values'.get? names.state = some AccountState.complete.text

/-- Two records share no username, no bound subject and no bound user id. -/
structure Unshared (values : Values) (names names' : DisposableVariableNames) : Prop where
  username : saved values names.username ≠ saved values names'.username
  subject : saved values names.subject ≠ [] →
    saved values names.subject ≠ saved values names'.subject
  userId : saved values names.userId ≠ [] → saved values names.userId ≠ saved values names'.userId

/-- What holds of a session whose file reads as `values`. -/
structure RecordsKept (path : Text) (s : Session) (values : Values) : Prop where
  /-- Every record variable belongs to a record some call returned. -/
  owned : ∀ name, disposableRecordPrefix <+: name → values.get? name ≠ none → ∃ r ∈ s.returned,
    ∃ pre, disposableVariablePrefix r.runId r.scenarioId = .ok pre ∧
      name ∈ (disposableVariableNames pre).all
  /-- Over every further run, ids and credentials are those of the record, and the state only
  completes. -/
  kept : ∀ r ∈ s.returned, ∃ pre, disposableVariablePrefix r.runId r.scenarioId = .ok pre ∧
    ∀ s', Session.Reaches path PlainCalls s s' →
      ∃ values', readCredentialFile path s'.file = .ok values' ∧
        Kept (disposableVariableNames pre) r values values'
  /-- A call for another pair leaves all seven variables, and raises where the prefixes meet. -/
  untouched : ∀ r ∈ s.returned, ∀ pre, disposableVariablePrefix r.runId r.scenarioId = .ok pre →
    ∀ call : DisposableCall, call.Admissible s.returned → call.PlainCredentials →
      call.pair ≠ (r.runId, r.scenarioId) →
      (∃ values', readCredentialFile path (s.after path call).file = .ok values' ∧
        ∀ name ∈ (disposableVariableNames pre).all, values'.get? name = values.get? name) ∧
      (disposableVariablePrefix call.pair.1 call.pair.2 = .ok pre →
        ∃ e, (perform path (call.operation path) s.file).1 = .error e)
  /-- Records of different pairs share no identity. -/
  unshared : ∀ r ∈ s.returned, ∀ r' ∈ s.returned, (r.runId, r.scenarioId) ≠ (r'.runId, r'.scenarioId) →
    ∀ pre pre', disposableVariablePrefix r.runId r.scenarioId = .ok pre →
      disposableVariablePrefix r'.runId r'.scenarioId = .ok pre' →
      Unshared values (disposableVariableNames pre) (disposableVariableNames pre')

theorem Session.Sound.kept {path : Text} {s : Session} {values : Values} (h : s.Sound path values)
    {r : DisposableCredentialRecord} (hr : r ∈ s.returned) :
    ∃ pre, disposableVariablePrefix r.runId r.scenarioId = .ok pre ∧
      ∀ s', Session.Reaches path PlainCalls s s' →
        ∃ values', readCredentialFile path s'.file = .ok values' ∧
          Kept (disposableVariableNames pre) r values values' := by
  obtain ⟨-, pre, hpre, -⟩ := h.2.held r hr
  refine ⟨pre, hpre, fun s' hrun => ?_⟩
  obtain ⟨values', hsound, hreturned, hcomplete⟩ := provenance_of_reaches h hrun
  obtain ⟨-, hheld⟩ := hsound.2.held_at (hreturned hr) hpre
  exact ⟨values', hsound.1, hheld.runId, hheld.scenarioId, hheld.username, hheld.password,
    hheld.state, hcomplete pre⟩

theorem Session.Sound.untouched {path : Text} {s : Session} {values : Values}
    (h : s.Sound path values) {r : DisposableCredentialRecord} (hr : r ∈ s.returned) {pre : Text}
    (hpre : disposableVariablePrefix r.runId r.scenarioId = .ok pre) {call : DisposableCall}
    (hadm : call.Admissible s.returned) (hplain : call.PlainCredentials)
    (hne : call.pair ≠ (r.runId, r.scenarioId)) :
    (∃ values', readCredentialFile path (s.after path call).file = .ok values' ∧
      ∀ name ∈ (disposableVariableNames pre).all, values'.get? name = values.get? name) ∧
    (disposableVariablePrefix call.pair.1 call.pair.2 = .ok pre →
      ∃ e, (perform path (call.operation path) s.file).1 = .error e) := by
  rcases Session.after_cases h.1 hadm hplain.oneLine with
    ⟨he, hafter⟩ | ⟨record, pre', values', -, -, hread, hpre', heffect⟩
  · rw [hafter]
    exact ⟨⟨values, h.1, fun _ _ => rfl⟩, fun _ => he⟩
  · have hmeet : disposableVariablePrefix call.pair.1 call.pair.2 ≠ .ok pre := fun hcall =>
      hne (heffect.pair_eq h.2 hadm hpre' hr (hpre.trans (hcall.symm.trans hpre')))
    refine ⟨⟨values', hread, fun name hname => ?_⟩, fun hcall => absurd hcall hmeet⟩
    obtain ⟨s', hs', rfl⟩ := mem_all.mp hname
    exact heffect.frame hs' fun e => hmeet (e ▸ hpre')

theorem Provenance.unshared {values : Values} {returned : List DisposableCredentialRecord}
    (h : Provenance values returned) {r r' : DisposableCredentialRecord} (hr : r ∈ returned)
    (hr' : r' ∈ returned) (hne : (r.runId, r.scenarioId) ≠ (r'.runId, r'.scenarioId))
    {pre pre' : Text} (hpre : disposableVariablePrefix r.runId r.scenarioId = .ok pre)
    (hpre' : disposableVariablePrefix r'.runId r'.scenarioId = .ok pre') :
    Unshared values (disposableVariableNames pre) (disposableVariableNames pre') := by
  obtain ⟨-, hheld⟩ := h.held_at hr hpre
  obtain ⟨-, hheld'⟩ := h.held_at hr' hpre'
  have hprefix : pre ≠ pre' := by
    rintro rfl
    have hrun := hheld.runId.symm.trans hheld'.runId
    have hscenario := hheld.scenarioId.symm.trans hheld'.scenarioId
    exact hne (Prod.ext (Option.some.inj hrun) (Option.some.inj hscenario))
  -- A bound identity is a variable that is there.
  have hbound : ∀ {s}, s ∈ suffixes → Distinct values s → saved values (pre ++ s) ≠ [] →
      saved values (pre ++ s) ≠ saved values (pre' ++ s) := by
    intro s hs hdistinct hsaved hsame
    obtain ⟨v, hv⟩ := Option.ne_none_iff_exists'.mp (get?_ne_none_of_saved hsaved)
    obtain ⟨v', hv'⟩ := Option.ne_none_iff_exists'.mp (get?_ne_none_of_saved (hsame ▸ hsaved))
    exact hdistinct.saved_ne hs hpre hpre' hprefix hv hv' hsame
  exact ⟨h.usernames.saved_ne (by decide) hpre hpre' hprefix hheld.username hheld'.username,
    hbound (by decide) h.subjects, hbound (by decide) h.userIds⟩

/-- The invariant holds of a file without record variables, before any call. -/
theorem provenance_start {values : Values}
    (hnone : ∀ e ∈ values.entries, ¬ disposableRecordPrefix <+: e.1) : Provenance values [] := by
  have hdistinct : ∀ s, Distinct values s := fun s m _ v _ hm _ hv =>
    absurd hm.1 (hnone (m, v) (Dict.mem_entries_iff.mpr hv))
  refine ⟨fun name hname hget => ?_, fun r hr => absurd hr List.not_mem_nil, hdistinct _,
    hdistinct _, hdistinct _⟩
  obtain ⟨v, hv⟩ := Option.ne_none_iff_exists'.mp hget
  exact absurd hname (hnone (name, v) (Dict.mem_entries_iff.mpr hv))

/-- **The records of a session are kept**: their ids and credentials never change, their state only
completes, a call for another pair leaves them alone, and no two of them share an identity. -/
theorem disposable_records_kept {path : Text} {start : CredentialFile} {values₀ : Values}
    (hstart : readCredentialFile path start = .ok values₀)
    (hnone : ∀ e ∈ values₀.entries, ¬ disposableRecordPrefix <+: e.1) {s : Session}
    (hs : Session.Reaches path PlainCalls ⟨start, []⟩ s) :
    ∃ values, readCredentialFile path s.file = .ok values ∧ RecordsKept path s values := by
  obtain ⟨values, hsound, -, -⟩ := provenance_of_reaches
    (show Session.Sound path ⟨start, []⟩ values₀ from ⟨hstart, provenance_start hnone⟩) hs
  exact ⟨values, hsound.1, hsound.2.owned, fun r hr => hsound.kept hr,
    fun r hr pre hpre call hadm hplain hne => hsound.untouched hr hpre hadm hplain hne,
    fun r hr r' hr' hne pre pre' hpre hpre' => hsound.2.unshared hr hr' hne hpre hpre'⟩

/-! ## Two records -/

/-- A record of the first run, as it is created. -/
def createdRecord : DisposableCredentialRecord :=
  ⟨lit "run-1", lit "deactivate", ⟨lit "u@test.com", lit "Ba9!x"⟩, .pending, none, none⟩

/-- On a file with another variable the record of one run is created, completed and bound, and then
that of another run is created. -/
def exampleCalls : List DisposableCall := [
  .load localConfig .empty (lit "run-1") (lit "deactivate") createdRecord.credentials,
  .mark localConfig createdRecord,
  .bind localConfig { createdRecord with state := .complete } (lit "run-1") (lit "deactivate")
    (lit "s1") (lit "u1") ∅ ∅,
  .load localConfig .empty (lit "run-2") (lit "deactivate") ⟨lit "v@test.com", lit "Ba9!y"⟩]

/-- The session after the first `n` of the calls. -/
def exampleSession (n : Nat) : Session :=
  (exampleCalls.take n).foldl (Session.after (lit ".env.local"))
    ⟨.file (lit "# local\nOTHER=1\n"), []⟩

theorem exampleSession_succ {n : Nat} {call : DisposableCall} (h : exampleCalls[n]? = some call) :
    exampleSession (n + 1) = (exampleSession n).after (lit ".env.local") call := by
  rw [exampleSession, List.take_add_one, h, List.foldl_append]
  rfl

theorem reaches_exampleSession : Session.Reaches (lit ".env.local") PlainCalls (exampleSession 0)
    (exampleSession 4) := by
  have hmarked : createdRecord ∈ (exampleSession 1).returned := by decide +kernel
  have hbound : ({ createdRecord with state := .complete } : DisposableCredentialRecord) ∈
      (exampleSession 2).returned := by decide +kernel
  have hfirst : Session.Step (lit ".env.local") PlainCalls (exampleSession 0) (exampleSession 1) :=
    ⟨.load localConfig .empty (lit "run-1") (lit "deactivate") createdRecord.credentials,
      ⟨by decide, by decide⟩, ⟨by decide, by decide⟩, exampleSession_succ rfl⟩
  have hsecond : Session.Step (lit ".env.local") PlainCalls (exampleSession 1) (exampleSession 2) :=
    ⟨.mark localConfig createdRecord, hmarked, trivial, exampleSession_succ rfl⟩
  have hthird : Session.Step (lit ".env.local") PlainCalls (exampleSession 2) (exampleSession 3) :=
    ⟨.bind localConfig { createdRecord with state := .complete } (lit "run-1") (lit "deactivate")
      (lit "s1") (lit "u1") ∅ ∅, ⟨hbound, by decide, by decide⟩, trivial, exampleSession_succ rfl⟩
  have hfourth : Session.Step (lit ".env.local") PlainCalls (exampleSession 3) (exampleSession 4) :=
    ⟨.load localConfig .empty (lit "run-2") (lit "deactivate") ⟨lit "v@test.com", lit "Ba9!y"⟩,
      ⟨by decide, by decide⟩, ⟨by decide, by decide⟩, exampleSession_succ rfl⟩
  exact (((Relation.ReflTransGen.single hfirst).tail hsecond).tail hthird).tail hfourth

/-- All four calls return, and the records are kept. -/
theorem disposable_records_kept_example :
    (exampleSession 4).returned.length = 4 ∧
      ∃ values, readCredentialFile (lit ".env.local") (exampleSession 4).file = .ok values ∧
        RecordsKept (lit ".env.local") (exampleSession 4) values := by
  have hread : readCredentialFile (lit ".env.local") (.file (lit "# local\nOTHER=1\n")) =
      .ok ⟨[(lit "OTHER", lit "1")], by decide⟩ := by decide
  exact ⟨by decide +kernel, disposable_records_kept hread (by decide) reaches_exampleSession⟩

end ApiTests.Credentials
