import ApiTests.Credentials.Binding
import ApiTests.Py.Utf8

/-!
# What of a binding the file keeps

`bind_disposable_identity` (`local_credentials.py:164-225`) writes the subject and the user id as they
are, and the reader takes a value apart: it stops at a line break, drops surrounding whitespace and
what follows ` #`, and takes off enclosing quotes. An identity of the server can be any text.

Results:
* `oneLine_of_read`: a value that was read has no line break.
* `cleanValue_iff`: of the values of one line the parser returns the clean ones as they stand.
* **`identity_persisted_iff`**: exactly which identities are loaded again as they were bound.
-/

namespace ApiTests.Credentials

open Py

/-! ## Values that were read -/

theorem mem_of_mem_strip {t : Text} {c : Nat} (hc : c ∈ strip t) : c ∈ t :=
  List.dropWhile_subset _ ((List.rdropWhile_prefix _ _).subset hc)

theorem textBefore_subset {sub : Text} : ∀ {t v : Text}, textBefore sub t = some v → ∀ c ∈ v, c ∈ t
  | [], v, h, c, hc => by
    unfold textBefore at h
    split_ifs at h
    cases h
    cases hc
  | d :: t, v, h, c, hc => by
    unfold textBefore at h
    split_ifs at h
    · cases h
      cases hc
    · obtain ⟨w, hw, rfl⟩ := Option.map_eq_some_iff.mp h
      rcases List.mem_cons.mp hc with rfl | hc
      · exact List.mem_cons_self
      · exact List.mem_cons_of_mem d (textBefore_subset hw c hc)

/-- The parser takes characters away and adds none. -/
theorem mem_of_mem_parseValue {raw : Text} {c : Nat} (hc : c ∈ parseValue raw) : c ∈ raw := by
  unfold parseValue at hc
  simp only at hc
  split_ifs at hc with hquoted
  · exact mem_of_mem_strip (List.drop_subset 1 _ ((List.dropLast_sublist _).subset hc))
  · split at hc
    · rename_i v hv
      exact mem_of_mem_strip (textBefore_subset hv c (mem_of_mem_strip hc))
    · exact mem_of_mem_strip (mem_of_mem_strip hc)

theorem mem_of_assignment {line : Text} {e : Text × Text} (h : assignment line = some e) {c : Nat}
    (hc : c ∈ e.2) : c ∈ line := by
  obtain ⟨m, hm, rfl⟩ := Option.map_eq_some_iff.mp h
  obtain ⟨-, -, ws₁, ex, ws₂, ws₃, rest, -, -, -, -, -, hline⟩ := parts_of_mem_run (Re.first_mem hm)
  have hvalue : c ∈ m.get valueGroup := mem_of_mem_parseValue hc
  rw [hline]
  simp [hvalue]

/-- **A value that was read has no line break.** -/
theorem oneLine_of_read {path : Text} {f : CredentialFile} {values : Values}
    (hread : readCredentialFile path f = .ok values) {name value : Text}
    (h : values.get? name = some value) : OneLine value := by
  obtain ⟨-, hentries⟩ := readCredentialFile_eq_ok_iff.mp hread
  have hmem : (name, value) ∈ assignments f.lines := hentries ▸ Dict.mem_entries_iff.mpr h
  obtain ⟨line, hline, hassign⟩ := List.mem_filterMap.mp hmem
  obtain ⟨l, hl, rfl⟩ := List.mem_map.mp hline
  have hbody : ∀ c ∈ l.body, isLineBreak c = false := by
    rcases (properLines_lines (cr_notMem_content f)).proper l hl with hproper | hproper
    · exact hproper.body
    · exact hproper.body
  exact fun c hc => hbody c (mem_of_assignment hassign hc)

theorem length_textBefore {sub : Text} (hsub : sub ≠ []) : ∀ {t v : Text},
    textBefore sub t = some v → v.length < t.length
  | [], v, h => by
    unfold textBefore at h
    rw [if_neg hsub] at h
    cases h
  | d :: t, v, h => by
    unfold textBefore at h
    split_ifs at h
    · cases h
      exact Nat.succ_pos _
    · obtain ⟨w, hw, rfl⟩ := Option.map_eq_some_iff.mp h
      exact Nat.succ_lt_succ (length_textBefore hsub hw)

/-- **Of the values of one line the parser returns the clean ones as they stand.** -/
theorem cleanValue_iff {v : Text} (hline : OneLine v) : strip (parseValue v) = v ↔ CleanValue v := by
  constructor
  · intro h
    have hstripped : strip v = v := by
      rw [← h, strip_strip]
    have hlength : v.length ≤ (parseValue v).length := by
      rw [congrArg List.length h.symm]
      exact length_strip_le _
    have hquote : 2 ≤ v.length ∧ v.head? = v.getLast? ∧ headIn isQuote v = true →
        parseValue v = (v.drop 1).dropLast := by
      intro hquoted
      unfold parseValue
      simp only [hstripped]
      rw [if_pos hquoted]
    have hcut : ∀ u, ¬ (2 ≤ v.length ∧ v.head? = v.getLast? ∧ headIn isQuote v = true) →
        textBefore (lit " #") v = some u → parseValue v = strip u := by
      intro u hquoted hbefore
      unfold parseValue
      simp only [hstripped]
      rw [if_neg hquoted, hbefore]
    refine ⟨hline, hstripped, fun hcomment => ?_, fun hquoted => ?_⟩
    · cases hbefore : textBefore (lit " #") v with
      | none => exact textBefore_eq_none_iff.mp hbefore hcomment
      | some u =>
        have hu := length_textBefore (by decide) hbefore
        by_cases hquoted : 2 ≤ v.length ∧ v.head? = v.getLast? ∧ headIn isQuote v = true
        · rw [hquote hquoted, List.length_dropLast, List.length_drop] at hlength
          omega
        · rw [hcut u hquoted hbefore] at hlength
          exact absurd (hlength.trans (length_strip_le u)) (by omega)
    · rw [hquote hquoted, List.length_dropLast, List.length_drop] at hlength
      omega
  · intro h
    rw [h.parseValue_eq, h.stripped]

/-! ## A binding and the file after it -/

/-- A call of `bind_disposable_identity` that returned. -/
def BindReturned (config : EnvironmentConfig) (record : DisposableCredentialRecord)
    (path subject userId : Text) (file file' : CredentialFile) : Prop :=
  ∃ currentRunId currentScenarioId reusableSubjects reusableUserIds result,
    perform path (bindDisposableIdentity config record currentRunId currentScenarioId subject userId
      reusableSubjects reusableUserIds path) file = (.ok result, file')

/-- The variables of the binding, and what they are set to. -/
def bindingUpdate (pre subject userId : Text) : Values := recordUpdate pre (bindingFields subject userId)

/-- What a call that returned leaves behind. -/
structure Persisted (config : EnvironmentConfig) (environ : Environ) (generator : BrowserLoginCredentials)
    (record : DisposableCredentialRecord) (path subject userId : Text) (file file' : CredentialFile) :
    Prop where
  /-- The file is accepted. -/
  accepted : ∃ values, readCredentialFile path file' = .ok values
  /-- The record is loaded with the identity. -/
  loaded : ∃ loaded, (perform path (loadOrCreateDisposableCredentials config environ record.runId
      record.scenarioId path generator) file').1 = .ok loaded ∧
    loaded.subject = some subject ∧ loaded.userId = some userId
  /-- All other variables have the values they had. -/
  others : ∀ values values' pre, readCredentialFile path file = .ok values →
    readCredentialFile path file' = .ok values' →
    disposableVariablePrefix record.runId record.scenarioId = .ok pre →
    ∀ name, name ≠ pre ++ subjectSuffix → name ≠ pre ++ userIdSuffix →
      values'.get? name = values.get? name

/-- The record is one that can be loaded: it has credentials, and its username is no slot's and no
other record's. -/
def Loadable (config : EnvironmentConfig) (environ : Environ) (record : DisposableCredentialRecord)
    (path subject userId : Text) (file : CredentialFile) : Prop :=
  record.credentials.username ≠ [] ∧ record.credentials.password ≠ [] ∧
    ∀ values pre, readCredentialFile path file = .ok values →
      disposableVariablePrefix record.runId record.scenarioId = .ok pre →
      ensureDisposableUsernameIsDistinct config environ record.credentials.username pre
        (values.update (bindingUpdate pre subject userId)) = .ok ()

variable {config : EnvironmentConfig} {record : DisposableCredentialRecord}
  {path subject userId : Text} {file file' : CredentialFile}

/-- What a call that returned has read, checked and written. -/
theorem BindReturned.plan (h : BindReturned config record path subject userId file file') :
    ∃ values pre, readCredentialFile path file = .ok values ∧
      disposableVariablePrefix record.runId record.scenarioId = .ok pre ∧
      BindChecks (disposableVariableNames pre) record subject userId values ∧
      file' = updatedFile (bindingUpdate pre subject userId) file ∧
      ensureExactLocalTarget config = .ok () := by
  obtain ⟨runId, scenarioId, subjects, userIds, result, hperform⟩ := h
  rcases perform_cases path (bindDisposableIdentity config record runId scenarioId subject userId
    subjects userIds path) file with ⟨e, herror⟩ | ⟨body, values, plan, hop, hread, hplan, -, hrun⟩
  · rw [hperform] at herror
    cases herror
  · obtain ⟨pre, hpre, hchecks, rfl⟩ := bindDisposable_plan hop hplan
    have hlocal : ensureExactLocalTarget config = .ok () := by
      simp only [bindDisposableIdentity, bind_eq_ok] at hop
      obtain ⟨u, hu, -⟩ := hop
      exact hu
    rw [hperform, Prod.mk.injEq] at hrun
    exact ⟨values, pre, hread, hpre, hchecks, hrun.2, hlocal⟩

/-- The saved record is loaded with the identity that is saved. -/
theorem load_saved {values : Values} {pre : Text} (path : Text) (environ : Environ)
    (generator : BrowserLoginCredentials) (hlocal : ensureExactLocalTarget config = .ok ())
    (hpre : disposableVariablePrefix record.runId record.scenarioId = .ok pre)
    (hexpected : ∀ e ∈ expected (disposableVariableNames pre) record, saved values e.1 = e.2)
    (hcomplete : record.state = .complete) (husername : record.credentials.username ≠ [])
    (hpassword : record.credentials.password ≠ [])
    (hidentity : saved values (pre ++ subjectSuffix) ≠ [] ∧ saved values (pre ++ userIdSuffix) ≠ [])
    (hdistinct : ensureDisposableUsernameIsDistinct config environ record.credentials.username pre
      values = .ok ()) :
    ∃ body, loadOrCreateDisposableCredentials config environ record.runId record.scenarioId path
        generator = .ok body ∧ body values = .ok (.done ⟨record.runId, record.scenarioId,
          ⟨record.credentials.username, record.credentials.password⟩, .complete,
          some (saved values (pre ++ subjectSuffix)), some (saved values (pre ++ userIdSuffix))⟩) := by
  refine ⟨_, bind_eq_ok.mpr ⟨(), hlocal, bind_eq_ok.mpr ⟨pre, hpre, rfl⟩⟩, ?_⟩
  simp only [expected, List.forall_mem_cons] at hexpected
  obtain ⟨hrun, hscenario, hu, hp, hstate, -⟩ := hexpected
  obtain ⟨hrunne, hscenarione, -⟩ := disposableVariablePrefix_eq_ok.mp hpre
  have hany : ∃ name ∈ (disposableVariableNames pre).all, saved values name ≠ [] :=
    ⟨_, mem_all.mpr ⟨subjectSuffix, by decide, rfl⟩, hidentity.1⟩
  rw [hcomplete] at hstate
  have htext : AccountState.ofText (saved values (disposableVariableNames pre).state) =
      some .complete := AccountState.ofText_eq_some_iff.mpr hstate
  simp only [if_pos hany]
  refine bind_eq_ok.mpr ⟨(), ?_, bind_eq_ok.mpr ⟨(), ?_, ?_⟩⟩
  · rw [raiseIf_eq_ok, hrun, hscenario, hu, hp]
    simp [hrunne, hscenarione, husername, hpassword]
  · rw [raiseIf_eq_ok, hrun, hscenario]
    simp
  · simp only [htext]
    refine bind_eq_ok.mpr ⟨(), ?_, bind_eq_ok.mpr ⟨(), ?_, bind_eq_ok.mpr ⟨(), ?_, ?_⟩⟩⟩
    · rw [raiseIf_eq_ok, not_not]
      exact iff_of_false hidentity.1 hidentity.2
    · rw [raiseIf_eq_ok]
      simp
    · rw [hu]
      exact hdistinct
    · have hsubject : orNone (saved values (disposableVariableNames pre).subject) =
          some (saved values (pre ++ subjectSuffix)) := if_neg hidentity.1
      have huser : orNone (saved values (disposableVariableNames pre).userId) =
          some (saved values (pre ++ userIdSuffix)) := if_neg hidentity.2
      rw [hu, hp, hsubject, huser]
      rfl

/-- What the update leaves of the values the binding has checked. -/
theorem saved_keep {values : Values} {pre s : Text} (hs : s ∈ suffixes)
    (hne : s ∉ (bindingFields subject userId).map Prod.fst) :
    saved (values.update (parsed (bindingUpdate pre subject userId))) (pre ++ s) =
      saved values (pre ++ s) :=
  saved_congr (get?_update_keep (fields_binding subject userId) values hs hne)

theorem expected_keep {values : Values} {pre : Text} (subject userId : Text)
    (h : ∀ e ∈ expected (disposableVariableNames pre) record, saved values e.1 = e.2) :
    ∀ e ∈ expected (disposableVariableNames pre) record,
      saved (values.update (parsed (bindingUpdate pre subject userId))) e.1 = e.2 := by
  have hkeep : ∀ s ∈ suffixes.take 5,
      saved (values.update (parsed (bindingUpdate pre subject userId))) (pre ++ s) =
        saved values (pre ++ s) := by
    have hmem : ∀ s ∈ suffixes.take 5, s ∈ suffixes ∧ s ∉ suffixes.drop 5 := by decide
    exact fun s hs => saved_keep (hmem s hs).1 (hmem s hs).2
  intro e he
  rw [← h e he]
  simp only [expected, List.mem_cons, List.not_mem_nil, or_false] at he
  rcases he with rfl | rfl | rfl | rfl | rfl <;> exact hkeep _ (by decide)

/-- The identity is saved as the parser reads it. -/
theorem saved_identity (values : Values) (pre subject userId : Text) :
    saved (values.update (parsed (bindingUpdate pre subject userId))) (pre ++ subjectSuffix) =
        strip (parseValue subject) ∧
      saved (values.update (parsed (bindingUpdate pre subject userId))) (pre ++ userIdSuffix) =
        strip (parseValue userId) := by
  have hfields := fields_binding subject userId
  have hget : ∀ s v, (s, v) ∈ bindingFields subject userId →
      saved (values.update (parsed (bindingUpdate pre subject userId))) (pre ++ s) =
        strip (parseValue v) := by
    intro s v hmem
    refine saved_of_some ?_
    rw [bindingUpdate, get?_update_record hfields values (hfields.mem hmem), if_pos rfl,
      (Dict.get?_ofList_eq_some_iff hfields.nodup).mpr hmem]
    rfl
  exact ⟨hget _ _ List.mem_cons_self, hget _ _ (List.mem_cons_of_mem _ List.mem_cons_self)⟩

theorem lineUpdates_binding {pre : Text}
    (hpre : disposableVariablePrefix record.runId record.scenarioId = .ok pre)
    (hs : OneLine subject) (hu : OneLine userId) : LineUpdates (bindingUpdate pre subject userId) := by
  intro e he
  have hfields := fields_binding subject userId
  obtain ⟨e', he', rfl⟩ := (mem_recordUpdate hfields).mp he
  refine ⟨(isName_of_disposablePrefix hpre (mem_all.mpr ⟨e'.1, hfields.mem he', rfl⟩)).1, ?_⟩
  simp only [bindingFields, List.mem_cons, List.not_mem_nil, or_false] at he'
  rcases he' with rfl | rfl
  · exact hs
  · exact hu

theorem cleanUpdates_binding {pre : Text}
    (hpre : disposableVariablePrefix record.runId record.scenarioId = .ok pre)
    (hs : CleanValue subject) (hu : CleanValue userId) :
    CleanUpdates (bindingUpdate pre subject userId) := by
  intro e he
  refine ⟨(lineUpdates_binding hpre hs.noBreak hu.noBreak e he).1, ?_⟩
  obtain ⟨e', he', rfl⟩ := (mem_recordUpdate (fields_binding subject userId)).mp he
  simp only [bindingFields, List.mem_cons, List.not_mem_nil, or_false] at he'
  rcases he' with rfl | rfl
  · exact hs
  · exact hu

/-- What is read back has no line break. -/
theorem oneLine_of_saved {values : Values} {name v : Text} (hread : readCredentialFile path file = .ok values)
    (hv : v ≠ []) (hsaved : saved values name = v) : OneLine v := by
  intro c hc
  obtain ⟨raw, hraw⟩ := Option.ne_none_iff_exists'.mp (get?_ne_none_of_saved (hsaved ▸ hv))
  rw [← hsaved, saved_of_some hraw] at hc
  exact oneLine_of_read hread hraw c (mem_of_mem_strip hc)

theorem eq_of_orNone {v x : Text} (h : orNone v = some x) : v = x := by
  unfold orNone at h
  split_ifs at h
  exact Option.some.inj h

section Loaded

variable {environ : Environ} {generator : BrowserLoginCredentials}

/-- An identity that is loaded again is clean, and its record can be loaded. -/
theorem Persisted.clean (h : BindReturned config record path subject userId file file')
    (hpersisted : Persisted config environ generator record path subject userId file file') :
    (CleanValue subject ∧ CleanValue userId) ∧
      Loadable config environ record path subject userId file := by
  obtain ⟨values, pre, hread, hpre, hchecks, rfl, -⟩ := h.plan
  obtain ⟨values', hread'⟩ := hpersisted.accepted
  obtain ⟨loaded, hload, hsubject, huser⟩ := hpersisted.loaded
  rcases perform_cases path (loadOrCreateDisposableCredentials config environ record.runId
    record.scenarioId path generator) (updatedFile (bindingUpdate pre subject userId) file)
    with ⟨e, herror⟩ | ⟨body, values'', plan, hop, hread'', hplan, -, hrun⟩
  · rw [herror] at hload
    cases hload
  rw [hread', Except.ok.injEq] at hread''
  subst hread''
  obtain ⟨pre', hpre', hloaded, hdistinct⟩ := loadOrCreateDisposable_plan hop hplan
  rw [hpre, Except.ok.injEq] at hpre'
  subst hpre'
  have hresult : plan.result = loaded := by
    rw [hrun] at hload
    exact Except.ok.inj hload
  cases hloaded with
  | fresh _ =>
    rw [← hresult] at hsubject
    cases hsubject
  | stored hrun' hscenario hu hp hstate hbinding hcomplete =>
    rw [← hresult] at hsubject huser
    have hs' := eq_of_orNone hsubject
    have hu' := eq_of_orNone huser
    have hlines := oneLine_of_saved hread' hchecks.subject_ne hs'
    have hlineu := oneLine_of_saved hread' hchecks.userId_ne hu'
    have hvalues : values' = values.update (parsed (bindingUpdate pre subject userId)) :=
      Except.ok.inj (hread'.symm.trans
        (read_update_line hread (lineUpdates_binding hpre hlines hlineu)))
    obtain ⟨hsubject', huser'⟩ := saved_identity values pre subject userId
    have hcleans := (cleanValue_iff hlines).mp (hsubject'.symm.trans (hvalues ▸ hs'))
    have hcleanu := (cleanValue_iff hlineu).mp (huser'.symm.trans (hvalues ▸ hu'))
    have hparsed := parsed_eq (cleanUpdates_binding hpre hcleans hcleanu)
    have hexpected := expected_keep subject userId hchecks.expected
    rw [← hvalues] at hexpected
    simp only [expected, List.forall_mem_cons] at hexpected
    obtain ⟨-, -, husername, hpassword, -, -⟩ := hexpected
    refine ⟨⟨hcleans, hcleanu⟩, husername ▸ hu, hpassword ▸ hp, fun values₀ pre₀ hread₀ hpre₀ => ?_⟩
    rw [hread, Except.ok.injEq] at hread₀
    rw [hpre, Except.ok.injEq] at hpre₀
    subst hread₀ hpre₀
    rw [← husername, ← hparsed, ← hvalues]
    exact hdistinct

/-- A clean identity of a record that can be loaded is loaded again. -/
theorem BindReturned.persisted (h : BindReturned config record path subject userId file file')
    (hs : CleanValue subject) (hu : CleanValue userId)
    (hloadable : Loadable config environ record path subject userId file) :
    Persisted config environ generator record path subject userId file file' := by
  obtain ⟨values, pre, hread, hpre, hchecks, rfl, hlocal⟩ := h.plan
  obtain ⟨husername, hpassword, hdistinct⟩ := hloadable
  have hparsed := parsed_eq (cleanUpdates_binding hpre hs hu)
  have hread' := read_update_line hread (lineUpdates_binding hpre hs.noBreak hu.noBreak)
  obtain ⟨hsubject, huser⟩ := saved_identity values pre subject userId
  rw [hs.parseValue_eq, hs.stripped] at hsubject
  rw [hu.parseValue_eq, hu.stripped] at huser
  refine ⟨⟨_, hread'⟩, ?_, fun values₀ values' pre₀ hread₀ hread'' hpre₀ name hname hname' => ?_⟩
  · have hidentity : saved (values.update (parsed (bindingUpdate pre subject userId)))
          (pre ++ subjectSuffix) ≠ [] ∧
        saved (values.update (parsed (bindingUpdate pre subject userId))) (pre ++ userIdSuffix) ≠ [] :=
      ⟨by rw [hsubject]; exact hchecks.subject_ne, by rw [huser]; exact hchecks.userId_ne⟩
    obtain ⟨body, hop, hbody⟩ := load_saved path environ generator hlocal hpre
      (expected_keep subject userId hchecks.expected) hchecks.complete husername hpassword hidentity
      (hparsed.symm ▸ hdistinct values pre hread hpre)
    rw [hsubject, huser] at hbody
    refine ⟨⟨record.runId, record.scenarioId, record.credentials, .complete, some subject,
      some userId⟩, ?_, rfl, rfl⟩
    rw [perform, planOf_eq_ok.mpr ⟨body, _, hop, hread', hbody⟩]
    rfl
  · rw [hread, Except.ok.injEq] at hread₀
    rw [hpre, Except.ok.injEq] at hpre₀
    subst hread₀ hpre₀
    rw [hread', Except.ok.injEq] at hread''
    rw [← hread'', hparsed]
    refine Dict.get?_update_of_none ((Dict.get?_ofList_eq_none_iff
      ((fields_binding subject userId).nodup_keys pre)).mpr ?_)
    simp [bindingFields, hname, hname']

end Loaded

/-- **Exactly which identities are loaded again as they were bound.** -/
theorem identity_persisted_iff {environ : Environ} {generator : BrowserLoginCredentials}
    (h : BindReturned config record path subject userId file file') :
    Persisted config environ generator record path subject userId file file' ↔
      (CleanValue subject ∧ CleanValue userId) ∧
        Loadable config environ record path subject userId file := by
  constructor
  · exact fun hpersisted => hpersisted.clean h
  · rintro ⟨⟨hs, hu⟩, hloadable⟩
    exact h.persisted hs hu hloadable

/-! ## A record bound to `s1`, and to two lines -/

/-- The file after the completed record of `staleSession` is bound. -/
def boundFile (subject userId : Text) : CredentialFile :=
  (perform (lit ".env.local") (bindDisposableIdentity localConfig staleRecord (lit "r") (lit "s")
    subject userId ∅ ∅ (lit ".env.local")) staleSession.file).2

theorem bindReturned_stale {subject userId : Text}
    (hbind : (perform (lit ".env.local") (bindDisposableIdentity localConfig staleRecord (lit "r")
      (lit "s") subject userId ∅ ∅ (lit ".env.local")) staleSession.file).1 =
        .ok { staleRecord with subject := some subject, userId := some userId }) :
    BindReturned localConfig staleRecord (lit ".env.local") subject userId staleSession.file
      (boundFile subject userId) :=
  ⟨lit "r", lit "s", ∅, ∅, _, Prod.ext hbind rfl⟩

theorem identity_persisted_example :
    Persisted localConfig .empty ⟨lit "v@test.com", lit "Ba9!y"⟩ staleRecord (lit ".env.local")
      (lit "s1") (lit "u1") staleSession.file (boundFile (lit "s1") (lit "u1")) := by
  have hdistinct : (readCredentialFile (lit ".env.local") staleSession.file).bind (fun values =>
      (disposableVariablePrefix staleRecord.runId staleRecord.scenarioId).bind fun pre =>
        ensureDisposableUsernameIsDistinct localConfig .empty staleRecord.credentials.username pre
          (values.update (bindingUpdate pre (lit "s1") (lit "u1")))) = .ok () := by
    decide +kernel
  refine (identity_persisted_iff (bindReturned_stale (by decide +kernel))).mpr
    ⟨⟨Plain.cleanValue (by decide), Plain.cleanValue (by decide)⟩, by decide, by decide,
      fun values pre hread hpre => ?_⟩
  rw [hread, hpre] at hdistinct
  exact hdistinct

/-- A subject of two lines is cut at the line break, and its second line sets another variable. -/
theorem identity_splits_example :
    BindReturned localConfig staleRecord (lit ".env.local")
        (lit "s1\nBA_PRIMARY_TEST_USERNAME=other") (lit "u1") staleSession.file
        (boundFile (lit "s1\nBA_PRIMARY_TEST_USERNAME=other") (lit "u1")) ∧
      (perform (lit ".env.local") (loadOrCreateDisposableCredentials localConfig .empty (lit "r")
        (lit "s") (lit ".env.local") ⟨lit "v@test.com", lit "Ba9!y"⟩)
        (boundFile (lit "s1\nBA_PRIMARY_TEST_USERNAME=other") (lit "u1"))).1 =
          .ok { staleRecord with subject := some (lit "s1"), userId := some (lit "u1") } ∧
      (readCredentialFile (lit ".env.local") staleSession.file).map
        (·.get? (lit "BA_PRIMARY_TEST_USERNAME")) = .ok none ∧
      (readCredentialFile (lit ".env.local")
        (boundFile (lit "s1\nBA_PRIMARY_TEST_USERNAME=other") (lit "u1"))).map
          (·.get? (lit "BA_PRIMARY_TEST_USERNAME")) = .ok (some (lit "other")) ∧
      ¬ Persisted localConfig .empty ⟨lit "v@test.com", lit "Ba9!y"⟩ staleRecord (lit ".env.local")
        (lit "s1\nBA_PRIMARY_TEST_USERNAME=other") (lit "u1") staleSession.file
        (boundFile (lit "s1\nBA_PRIMARY_TEST_USERNAME=other") (lit "u1")) := by
  have hload : (perform (lit ".env.local") (loadOrCreateDisposableCredentials localConfig .empty
      (lit "r") (lit "s") (lit ".env.local") ⟨lit "v@test.com", lit "Ba9!y"⟩)
      (boundFile (lit "s1\nBA_PRIMARY_TEST_USERNAME=other") (lit "u1"))).1 =
        .ok { staleRecord with subject := some (lit "s1"), userId := some (lit "u1") } := by
    decide +kernel
  refine ⟨bindReturned_stale (by decide +kernel), hload, by decide +kernel,
    by decide +kernel, fun h => ?_⟩
  obtain ⟨loaded, hloaded, hsubject, -⟩ := h.loaded
  have hsame : _ = loaded := Except.ok.inj (hload.symm.trans hloaded)
  rw [← hsame] at hsubject
  exact absurd hsubject (by decide)

end ApiTests.Credentials
