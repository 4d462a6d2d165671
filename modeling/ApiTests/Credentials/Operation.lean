import ApiTests.Config
import ApiTests.Credentials.Codec

/-!
# Credential operations: check, read, check, rewrite

Every operation on the credential file (`local_credentials.py`) has one shape: checks that precede
the file access, one `_read_credential_file`, checks on the variables read, and then either a plain
return or one `_update_credential_file` followed by the return. `Operation` is that shape, `planOf`
what its checks come to, and `perform` runs it on a file. The state is returned beside the outcome, so
an exception leaves behind whatever file there is when it is raised.

This file also holds what all operations share: the exact-local gate, the reusable roles and their
variable names.

Results: `perform_error` (an operation that raises leaves the file as it was) and `perform_cases`
(what one run of an operation can do: everything later says about it starts from this).
-/

namespace ApiTests.Credentials

open Py

/-- `BrowserLoginCredentials`. -/
structure BrowserLoginCredentials where
  username : Text
  password : Text
  deriving Repr, DecidableEq

/-- `SessionRole`. -/
inductive SessionRole where
  | primary
  | secondary
  | admin
  deriving Repr, DecidableEq

/-- The role as it is written in messages. -/
def SessionRole.text : SessionRole → Text
  | .primary => lit "primary"
  | .secondary => lit "secondary"
  | .admin => lit "admin"

/-- What an operation may raise, or its value. -/
abbrev Checked := Except LocalCredentialError

/-- `raise LocalCredentialError(message)`. -/
def raise {α : Type} (message : Text) : Checked α := .error ⟨message⟩

/-- `if condition: raise LocalCredentialError(message)`. -/
def raiseIf (condition : Prop) [Decidable condition] (message : Text) : Checked Unit :=
  if condition then raise message else .ok ()

@[simp] theorem raiseIf_eq_ok {condition : Prop} [Decidable condition] {message : Text} {u : Unit} :
    raiseIf condition message = .ok u ↔ ¬ condition := by
  unfold raiseIf
  split <;> simp_all [raise]

@[simp] theorem raise_ne_ok {α : Type} {message : Text} {a : α} : raise message ≠ .ok a :=
  fun h => nomatch h

/-- A sequence of checks passes iff each one does. -/
theorem bind_eq_ok {α β : Type} {x : Checked α} {f : α → Checked β} {b : β} :
    (x >>= f) = .ok b ↔ ∃ a, x = .ok a ∧ f a = .ok b := by
  cases x with
  | error e => exact ⟨fun h => (nomatch h), fun ⟨_, h, _⟩ => (nomatch h)⟩
  | ok a => exact ⟨fun h => ⟨a, rfl, h⟩, fun ⟨_, h, h'⟩ => by cases h; exact h'⟩

/-- `for x in xs: check(x)`. -/
def forEach {β : Type} (check : β → Checked Unit) : List β → Checked Unit
  | [] => .ok ()
  | x :: xs => do
    check x
    forEach check xs

theorem forEach_eq_ok {β : Type} {check : β → Checked Unit} {u : Unit} : ∀ {xs : List β},
    forEach check xs = .ok u ↔ ∀ x ∈ xs, check x = .ok ()
  | [] => by simp [forEach]
  | x :: xs => by
    rw [forEach, List.forall_mem_cons, ← forEach_eq_ok (u := u), bind_eq_ok]
    exact ⟨fun ⟨_, hx, hxs⟩ => ⟨hx, hxs⟩, fun ⟨hx, hxs⟩ => ⟨(), hx, hxs⟩⟩

/-- What an operation does after its checks on the variables it read. -/
inductive Plan (α : Type) where
  /-- It returns. -/
  | done (result : α)
  /-- It updates the file and returns. -/
  | write (updates : Values) (result : α)

/-- The part of an operation behind its read. -/
abbrev Body (α : Type) := Values → Checked (Plan α)

/-- An operation: checks in front of the file access, then what follows from the variables. -/
abbrev Operation (α : Type) := Checked (Body α)

variable {α : Type}

/-- What the operation returns. -/
def Plan.result : Plan α → α
  | .done result => result
  | .write _ result => result

/-- The file behind a plan. -/
def Plan.rewritten (file : CredentialFile) : Plan α → CredentialFile
  | .done _ => file
  | .write updates _ => updatedFile updates file

/-- What the plan writes can be encoded. -/
def Plan.Encodable : Plan α → Prop
  | .done _ => True
  | .write updates _ => EncodableUpdates updates

instance (plan : Plan α) : Decidable plan.Encodable :=
  match plan with
  | .done _ => inferInstanceAs (Decidable True)
  | .write updates _ => inferInstanceAs (Decidable (EncodableUpdates updates))

/-- Run the part of an operation behind its checks. -/
def Plan.execute (file : CredentialFile) : Plan α → Except OperationError α × CredentialFile
  | .done result => (.ok result, file)
  | .write updates result =>
    match updateCredentialFile updates file with
    | .error e => (.error e, file)
    | .ok file' => (.ok result, file')

/-- The checks of an operation, and its read. -/
def planOf (path : Text) (op : Operation α) (file : CredentialFile) : Checked (Plan α) := do
  let body ← op
  let values ← readCredentialFile path file
  body values

/-- Run an operation on the credential file at `path`. -/
def perform (path : Text) (op : Operation α) (file : CredentialFile) :
    Except OperationError α × CredentialFile :=
  match planOf path op file with
  | .error e => (.error (.credential e), file)
  | .ok plan => plan.execute file

theorem planOf_eq_ok {path : Text} {op : Operation α} {file : CredentialFile} {plan : Plan α} :
    planOf path op file = .ok plan ↔ ∃ body values, op = .ok body ∧
      readCredentialFile path file = .ok values ∧ body values = .ok plan := by
  unfold planOf
  simp only [bind_eq_ok]
  exact ⟨fun ⟨body, hop, values, hread, hplan⟩ => ⟨body, values, hop, hread, hplan⟩,
    fun ⟨body, values, hop, hread, hplan⟩ => ⟨body, hop, values, hread, hplan⟩⟩

/-- **A plan is carried out** unless what it writes cannot be encoded; then the file is as it was. -/
theorem Plan.execute_eq (plan : Plan α) (file : CredentialFile) :
    plan.execute file =
      if plan.Encodable then (.ok plan.result, plan.rewritten file)
      else (.error .unicodeEncode, file) := by
  cases plan with
  | done result => exact (if_pos trivial).symm
  | write updates result =>
    rw [Plan.execute, updateCredentialFile]
    by_cases h : EncodableUpdates updates
    · rw [if_pos h, if_pos (show (Plan.write updates result).Encodable from h)]
      rfl
    · rw [if_neg h, if_neg (show ¬ (Plan.write updates result).Encodable from h)]

/-- **What a run of an operation can do**: raise with the file untouched, or follow the plan its
checks on the variables read have made. -/
theorem perform_cases (path : Text) (op : Operation α) (file : CredentialFile) :
    (∃ e, perform path op file = (.error e, file)) ∨
    ∃ body values plan, op = .ok body ∧ readCredentialFile path file = .ok values ∧
      body values = .ok plan ∧ plan.Encodable ∧
      perform path op file = (.ok plan.result, plan.rewritten file) := by
  unfold perform
  cases hplan : planOf path op file with
  | error e => exact Or.inl ⟨_, rfl⟩
  | ok plan =>
    obtain ⟨body, values, hop, hread, hbody⟩ := planOf_eq_ok.mp hplan
    simp only [Plan.execute_eq]
    by_cases h : plan.Encodable
    · exact Or.inr ⟨body, values, plan, hop, hread, hbody, h, if_pos h⟩
    · exact Or.inl ⟨_, if_neg h⟩

/-- **An operation that raises leaves the file as it was.** -/
theorem perform_error {path : Text} {op : Operation α} {file : CredentialFile}
    {e : OperationError} (h : (perform path op file).1 = .error e) :
    (perform path op file).2 = file := by
  rcases perform_cases path op file with ⟨e', h'⟩ | ⟨_, _, plan, _, _, _, _, h'⟩
  · rw [h']
  · rw [h'] at h
    exact nomatch h

/-- On a file the reader rejects every operation raises. -/
theorem perform_unreadable {path : Text} (op : Operation α) {file : CredentialFile}
    {e : LocalCredentialError} (h : readCredentialFile path file = .error e) :
    ∃ e', perform path op file = (.error e', file) := by
  rcases perform_cases path op file with he | ⟨_, values, _, _, hread, _⟩
  · exact he
  · rw [h] at hread
    exact nomatch hread

/-- A successful run: the plan that was followed. -/
theorem perform_ok {path : Text} {op : Operation α} {file : CredentialFile} {result : α}
    (h : (perform path op file).1 = .ok result) :
    ∃ body values plan, op = .ok body ∧ readCredentialFile path file = .ok values ∧
      body values = .ok plan ∧ plan.result = result ∧
      plan.rewritten file = (perform path op file).2 := by
  rcases perform_cases path op file with ⟨e', h'⟩ | ⟨body, values, plan, hop, hread, hbody, -, h'⟩
  · rw [h'] at h
    exact nomatch h
  · rw [h', Except.ok.injEq] at h
    exact ⟨body, values, plan, hop, hread, hbody, h, by rw [h']⟩

/-! ## The variables behind the file

An accepted file stands for its variables. On them an operation is a check and an update of a
dictionary, and `perform` refines that: what a call returns and what the file holds afterwards
follow from the variables alone. -/

/-- The variables after a plan, as the reader sees them. -/
def Plan.after (values : Values) : Plan α → Values
  | .done _ => values
  | .write updates _ => values.update (parsed updates)

/-- What the plan writes are variables of one line each. -/
def Plan.Lines : Plan α → Prop
  | .done _ => True
  | .write updates _ => LineUpdates updates

/-- The checks of an operation, on the variables. -/
def planOn (op : Operation α) (values : Values) : Checked (Plan α) := do
  let body ← op
  body values

/-- An operation on the variables. -/
def performOn (op : Operation α) (values : Values) : Except OperationError α × Values :=
  match planOn op values with
  | .error e => (.error (.credential e), values)
  | .ok plan =>
    if plan.Encodable then (.ok plan.result, plan.after values) else (.error .unicodeEncode, values)

theorem planOn_eq_ok {op : Operation α} {values : Values} {plan : Plan α} :
    planOn op values = .ok plan ↔ ∃ body, op = .ok body ∧ body values = .ok plan := bind_eq_ok

theorem planOf_of_read {path : Text} {op : Operation α} {file : CredentialFile} {values : Values}
    (hread : readCredentialFile path file = .ok values) : planOf path op file = planOn op values := by
  unfold planOf planOn
  rw [hread]
  rfl

/-- The plans an operation makes on the variables write lines. -/
def WritesLines (op : Operation α) (values : Values) : Prop :=
  ∀ body plan, op = .ok body → body values = .ok plan → plan.Lines

/-- **The file refines its variables**: a call on the file returns what the call on the variables
returns, and afterwards the file reads as the variables are. -/
theorem perform_refines {path : Text} {op : Operation α} {file : CredentialFile} {values : Values}
    (hread : readCredentialFile path file = .ok values) (hlines : WritesLines op values) :
    (perform path op file).1 = (performOn op values).1 ∧
      readCredentialFile path (perform path op file).2 = .ok (performOn op values).2 := by
  unfold perform performOn
  rw [planOf_of_read hread]
  cases hplan : planOn op values with
  | error e => exact ⟨rfl, hread⟩
  | ok plan =>
    obtain ⟨body, hop, hbody⟩ := planOn_eq_ok.mp hplan
    have hwrites := hlines body plan hop hbody
    simp only [Plan.execute_eq]
    split
    · cases plan with
      | done result => exact ⟨rfl, hread⟩
      | write updates result => exact ⟨rfl, read_update_line hread hwrites⟩
    · exact ⟨rfl, hread⟩

/-- What an operation on the variables can do. -/
theorem performOn_cases (op : Operation α) (values : Values) :
    (∃ e, performOn op values = (.error e, values)) ∨
    ∃ body plan, op = .ok body ∧ body values = .ok plan ∧
      performOn op values = (.ok plan.result, plan.after values) := by
  unfold performOn
  cases hplan : planOn op values with
  | error e => exact Or.inl ⟨_, rfl⟩
  | ok plan =>
    obtain ⟨body, hop, hbody⟩ := planOn_eq_ok.mp hplan
    by_cases h : plan.Encodable
    · exact Or.inr ⟨body, plan, hop, hbody, if_pos h⟩
    · exact Or.inl ⟨_, if_neg h⟩

/-- What a plan writes. -/
def Plan.updates : Plan α → Option Values
  | .done _ => none
  | .write updates _ => some updates

/-- What an operation writes if it is run on a file, seen behind its first read. -/
def plannedUpdates (path : Text) (op : Operation α) (file : CredentialFile) : Option Values :=
  match planOf path op file with
  | .error _ => none
  | .ok plan => plan.updates

theorem plannedUpdates_eq_some {path : Text} {op : Operation α} {file : CredentialFile}
    {updates : Values} (h : plannedUpdates path op file = some updates) :
    ∃ body values result, op = .ok body ∧ readCredentialFile path file = .ok values ∧
      body values = .ok (.write updates result) := by
  unfold plannedUpdates at h
  cases hplan : planOf path op file with
  | error e =>
    rw [hplan] at h
    exact nomatch h
  | ok plan =>
    rw [hplan] at h
    obtain ⟨body, values, hop, hread, hbody⟩ := planOf_eq_ok.mp hplan
    cases plan with
    | done result => exact nomatch h
    | write updates' result =>
      cases h
      exact ⟨body, values, result, hop, hread, hbody⟩

/-! ## Saved values -/

/-- `values.get(name, "").strip()`. -/
def saved (values : Values) (name : Text) : Text := strip (values.getD name [])

theorem saved_of_some {values : Values} {name value : Text} (h : values.get? name = some value) :
    saved values name = strip value := by
  rw [saved, Dict.getD, h, Option.getD_some]

theorem saved_of_get? {values : Values} {name v : Text} (h : values.get? name = some v)
    (hv : Plain v) : saved values name = v := by
  rw [saved_of_some h, hv.strip_eq]

theorem get?_ne_none_of_saved {values : Values} {name : Text} (h : saved values name ≠ []) :
    values.get? name ≠ none := by
  intro hn
  rw [saved, Dict.getD, hn] at h
  exact h strip_nil

/-! ## The exact-local gate -/

/-- `LOCAL_ENVIRONMENT_NAME`. -/
def localEnvironmentName : Text := lit "local"

/-- `LOCAL_ORIGIN`. -/
def localOrigin : Text := lit "https://app.budgetanalyzer.localhost"

/-- `ensure_exact_local_target`. -/
def ensureExactLocalTarget (config : EnvironmentConfig) : Checked Unit :=
  if config.name ≠ localEnvironmentName ∨ config.environmentType ≠ .localType ∨
      config.origin ≠ localOrigin then
    raise (lit "automatic local credentials require --env local resolving exactly to " ++
      localOrigin)
  else .ok ()

/-- The shipped local environment passes the gate. -/
example : ensureExactLocalTarget localConfig = .ok () := by decide

/-! ## The reusable roles -/

/-- The variables of a role. -/
structure RoleVariables where
  username : Text
  password : Text
  state : Text
  deriving Repr, DecidableEq

/-- The account-state variable of a role. -/
def SessionRole.stateName : SessionRole → Text
  | .primary => lit "BA_PRIMARY_TEST_ACCOUNT_STATE"
  | .secondary => lit "BA_SECONDARY_TEST_ACCOUNT_STATE"
  | .admin => lit "BA_ADMIN_TEST_ACCOUNT_STATE"

/-- The variables of a role under browser settings. -/
def roleVariables (browser : BrowserConfig) (role : SessionRole) : RoleVariables :=
  match role with
  | .primary => ⟨browser.primaryUsernameEnv, browser.primaryPasswordEnv, role.stateName⟩
  | .secondary => ⟨browser.secondaryUsernameEnv, browser.secondaryPasswordEnv, role.stateName⟩
  | .admin => ⟨browser.adminUsernameEnv, browser.adminPasswordEnv, role.stateName⟩

/-- `_variable_names`. -/
def variableNames (config : EnvironmentConfig) (role : SessionRole) : Checked RoleVariables :=
  match config.auth.browser with
  | none => raise (lit "local browser authentication requires browser settings")
  | some browser => .ok (roleVariables browser role)

/-- `("primary", "secondary", "admin")`. -/
def roles : List SessionRole := [.primary, .secondary, .admin]

theorem mem_roles (role : SessionRole) : role ∈ roles := by
  cases role <;> decide

/-- The username a role resolves to: the environment's pair, else the pair saved in the file,
else none (`continue`). An incomplete pair in the environment resolves to none. -/
def resolvedUsername (environ : Environ) (values : Values) (names : RoleVariables) : Option Text :=
  let externalUsername := saved environ names.username
  let externalPassword := saved environ names.password
  if externalUsername ≠ [] ∧ externalPassword ≠ [] then some externalUsername
  else if externalUsername ≠ [] ∨ externalPassword ≠ [] then none
  else
    let savedUsername := saved values names.username
    let savedPassword := saved values names.password
    if savedUsername = [] ∨ savedPassword = [] then none else some savedUsername

end ApiTests.Credentials
