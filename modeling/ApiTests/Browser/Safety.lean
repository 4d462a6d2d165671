import ApiTests.Browser.Trace

/-!
# The browser flows, whatever the browser does (`browser_login.py:114-300`)

A flow opens Playwright, a browser and a context, and each that was opened is closed once, the last
opened first (`Bracketed`). What it read in between it hands back only behind an answer 200 to
`/auth/v1/user`, or has it logged out, or leaves it (`Disposed`).

Results:
* `bracket_spec`: **what is opened around a body is closed behind it, and nothing is lost of what the
  body says of itself.**
* `loginInContext_spec`: what a login result certifies.
* **`login_with_browser_ends`**, `signup_with_browser_ends`: the calls of a whole login or signup, in
  every world.
-/

namespace ApiTests.Browser

open Py Client Credentials Logging

variable {tables : UrlTables} {config : EnvironmentConfig} {world : World}

/-! ## Brackets -/

/-- The calls of what is opened, used and closed. -/
inductive Bracketed (openOp closeOp : Op) (Inner : List Call → Prop) : List Call → Prop where
  | unopened (e : FlowError) : Bracketed openOp closeOp Inner [⟨openOp, .error e⟩]
  | closed (answer : openOp.Answer) {calls : List Call} (h : Inner calls)
      (close : Except FlowError closeOp.Answer) :
      Bracketed openOp closeOp Inner (⟨openOp, .ok answer⟩ :: (calls ++ [⟨closeOp, close⟩]))

/-- Calls to the page. -/
def PageCalls (calls : List Call) : Prop := ∀ call ∈ calls, call.op.onPage = true

/-- **The calls of a browser**: all that was opened is closed again. -/
def Opened (headless : Bool) : List Call → Prop :=
  Bracketed .start .stop (Bracketed (.launch headless) .closeBrowser
    (Bracketed .newContext .closeContext PageCalls))

/-- The calls since `before`, with what was read in them in the session variable. -/
def Ran (cookieName : Text) (before calls : List Call) (s : FlowState) : Prop :=
  s.trace = before ++ calls ∧ s.session = sessionIn cookieName calls

/-- A computation that begins with nothing read makes calls in `L`; those of one that returns `a` are
in `R a`. -/
def Makes {α : Type} (cookieName : Text) (x : Program FlowState FlowError α)
    (R : α → List Call → Prop) (L : List Call → Prop) : Prop :=
  ∀ before, Program.Triple (Fresh before) x
    (fun a s => ∃ calls, (R a calls ∧ L calls) ∧ Ran cookieName before calls s)
    fun _ s => ∃ calls, L calls ∧ Ran cookieName before calls s

/-- Closing adds what a listener still does, and the call itself. -/
def Closes (close : Program FlowState FlowError Unit) (closeOp : Op) (L : List Call → Prop) : Prop :=
  ∀ s calls, L calls → ∃ extra answer, L (calls ++ extra) ∧ (∀ call ∈ extra, call.cookies? = none) ∧
    (close s).2.trace = s.trace ++ (extra ++ [⟨closeOp, answer⟩]) ∧ (close s).2.session = s.session

section Bracket

variable {α : Type} {cookieName : Text} {body : Program FlowState FlowError α}
  {close : Program FlowState FlowError Unit} {openOp closeOp : Op} {R : α → List Call → Prop}
  {L : List Call → Prop}

theorem call_fresh {before : List Call} (op : Op) :
    Program.Triple (Fresh before) (call world op) (fun a => Fresh (before ++ [⟨op, .ok a⟩]))
      fun e => Fresh (before ++ [⟨op, .error e⟩]) := by
  rintro s ⟨rfl, hobserver, hsession⟩
  unfold call
  cases h : world.answer s.trace op with
  | ok a => exact ⟨rfl, hobserver, hsession⟩
  | error e => exact ⟨rfl, hobserver, hsession⟩

/-- What the calls in between say is still said with the brackets around them. -/
theorem sessionIn_bracket {first last : Call} {calls extra : List Call}
    (hfirst : first.cookies? = none) (hlast : last.cookies? = none)
    (hextra : ∀ call ∈ extra, call.cookies? = none) :
    sessionIn cookieName (first :: (calls ++ extra ++ [last])) = sessionIn cookieName calls := by
  rw [List.append_assoc, ← List.cons_append,
    sessionIn_append (by simpa [hlast, or_imp, forall_and] using hextra), sessionIn,
    List.findSome?_cons, hfirst, sessionIn]

/-- The bracket is closed behind the calls of its body. -/
theorem close_spec {openAnswer : openOp.Answer} {before calls : List Call} {s : FlowState}
    (hopen : ∀ result, Call.cookies? ⟨openOp, result⟩ = none)
    (hcloseOp : ∀ result, Call.cookies? ⟨closeOp, result⟩ = none) (hclose : Closes close closeOp L)
    (hcalls : L calls) (hran : Ran cookieName (before ++ [⟨openOp, .ok openAnswer⟩]) calls s) :
    ∃ first extra last, Bracketed openOp closeOp L (first :: (calls ++ extra ++ [last])) ∧
      (∀ call ∈ first :: (extra ++ [last]), call.cookies? = none) ∧
      Ran cookieName before (first :: (calls ++ extra ++ [last])) (close s).2 := by
  obtain ⟨extra, answer, hL, hextra, htrace, hsession⟩ := hclose s calls hcalls
  refine ⟨⟨openOp, .ok openAnswer⟩, extra, ⟨closeOp, answer⟩, .closed openAnswer hL answer, ?_, ?_, ?_⟩
  · simpa [hopen, hcloseOp, or_imp, forall_and] using hextra
  · rw [htrace, hran.1]
    simp
  · rw [hsession, hran.2, sessionIn_bracket (hopen _) (hcloseOp _) hextra]

/-- **A bracket around a body.** -/
theorem bracket_spec (world : World) (openOp closeOp : Op) (hbody : Makes cookieName body R L)
    (hopen : ∀ result, Call.cookies? ⟨openOp, result⟩ = none)
    (hcloseOp : ∀ result, Call.cookies? ⟨closeOp, result⟩ = none) (hclose : Closes close closeOp L)
    (hkept : ∀ a calls first extra, R a calls →
      (∀ call ∈ first :: extra, call.cookies? = none) → R a (first :: (calls ++ extra))) :
    Makes cookieName (call world openOp >>= fun _ => Program.withCleanup body close) R
      (Bracketed openOp closeOp L) := by
  intro before
  refine Program.Triple.bind ((call_fresh openOp).weaken (fun _ h => h) (fun _ _ h => h)
    fun e s h => ⟨_, .unopened e, h.1, h.2.2.trans ?_⟩) fun openAnswer => ?_
  · rw [sessionIn, List.findSome?_cons, hopen]
    rfl
  have hclosed : ∀ calls, L calls → Program.Triple
      (Ran cookieName (before ++ [⟨openOp, .ok openAnswer⟩]) calls) close
      (fun _ s => ∃ first extra, (∀ call ∈ first :: extra, call.cookies? = none) ∧
        Bracketed openOp closeOp L (first :: (calls ++ extra)) ∧
        Ran cookieName before (first :: (calls ++ extra)) s)
      (fun _ s => ∃ calls, Bracketed openOp closeOp L calls ∧ Ran cookieName before calls s) := by
    intro calls hcalls s hs
    obtain ⟨first, extra, last, hbracketed, hnone, hran⟩ :=
      close_spec hopen hcloseOp hclose hcalls hs
    rw [List.append_assoc] at hbracketed hran
    rcases hrun : close s with ⟨result, s'⟩
    rw [hrun] at hran
    cases result with
    | ok u => exact ⟨first, extra ++ [last], hnone, hbracketed, hran⟩
    | error e => exact ⟨_, hbracketed, hran⟩
  refine Program.Triple.withCleanup (hbody _) (fun a => ?_) fun _ => ?_
  · refine Program.Triple.ofExists fun calls => Program.Triple.ofAnd fun hcalls =>
      (hclosed calls hcalls.2).weaken (fun _ h => h) (fun _ s h => ?_) fun _ _ h => h
    obtain ⟨first, extra, hnone, hbracketed, hran⟩ := h
    exact ⟨_, ⟨hkept a calls first extra hcalls.1 hnone, hbracketed⟩, hran⟩
  · refine Program.Triple.ofExists fun calls => Program.Triple.ofAnd fun hcalls =>
      (hclosed calls hcalls).weaken (fun _ h => h) (fun _ s h => ?_) fun _ _ h => h
    obtain ⟨first, extra, -, hbracketed, hran⟩ := h
    exact ⟨_, hbracketed, hran⟩

/-- A call that closes what no event comes from. -/
theorem closes_call (world : World) (op : Op) (h : ∀ s, (close s).2 = (call world op s).2) :
    Closes close op L := by
  intro s calls hcalls
  refine ⟨[], world.answer s.trace op, by rwa [List.append_nil], by simp, ?_⟩
  rw [h s]
  exact ⟨rfl, rfl⟩

/-- The context is closed while its page may still send events. -/
theorem closes_context (tables : UrlTables) (config : EnvironmentConfig) (world : World) :
    Closes (perform tables config world .closeContext) .closeContext PageCalls := by
  intro s calls hcalls
  obtain ⟨extra, hadds, hextra⟩ := deliverAll_adds tables config world
    (world.events s.trace .closeContext) s
  refine ⟨extra, world.answer (s.trace ++ extra) .closeContext,
    List.forall_mem_append.mpr ⟨hcalls, hadds.onPage⟩, hextra, ?_, hadds.session⟩
  change (deliverAll tables config world _ s).trace ++ _ = _
  rw [hadds.trace, List.append_assoc]

end Bracket

/-! ## In the context -/

/-- The first reading of the cookies, and the session variable that goes with it. -/
def Settled (cookieName : Text) (before : List Call) (s : FlowState) : Prop :=
  ∃ answer, InContext before answer (readIn cookieName answer) s

/-- The calls behind the opening of the context. -/
theorem InContext.ran {cookieName : Text} {before : List Call} {session : Option Session}
    {answer : Option (Except FlowError (List PlaywrightCookie))} {s : FlowState}
    (h : InContext before answer session s) (hread : readIn cookieName answer = session) :
    ∃ calls, PageCalls calls ∧ sessionIn cookieName calls = session ∧
      (∀ o, s.observer = some o → o.pacedSameOriginPaths = calls.filterMap Call.paced?) ∧
      Ran cookieName before calls s := by
  obtain ⟨⟨calls, htrace, honPage, rfl, hpaced⟩, rfl⟩ := h
  exact ⟨calls, honPage, hread, hpaced, htrace, hread.symm⟩

theorem Settled.ran {cookieName : Text} {before : List Call} {s : FlowState}
    (h : Settled cookieName before s) : ∃ calls, PageCalls calls ∧ Ran cookieName before calls s := by
  obtain ⟨answer, h⟩ := h
  obtain ⟨calls, hcalls, -, -, hran⟩ := h.ran rfl
  exact ⟨calls, hcalls, hran⟩

/-- **What a login result certifies**, read off the calls of its flow. -/
structure Certifies (tables : UrlTables) (config : EnvironmentConfig) (allowed : List Text)
    (r : BrowserLoginResult) (calls : List Call) : Prop where
  /-- The session is the one the browser showed first. -/
  session : sessionIn config.sessionCookieName calls = some r.session
  /-- The page ended at an address of the application with an allowed path. -/
  page : ∃ url, ⟨.pageUrl, .ok url⟩ ∈ calls ∧ sameOriginPagePath tables config url = .ok r.finalPath
  finalPath : r.finalPath ∈ allowed
  /-- The callback was answered. -/
  callback : ∃ observation ∈ r.observations,
    observation.sameOriginPath = some config.browserAuthContract.callbackPath
  /-- No rate-limited path has more responses than reservations. -/
  paced : ∀ path, (r.observations.filterMap (BrowserFlowObservation.limitedPath tables)).count path ≤
    (calls.filterMap Call.paced?).count path

/-- What was read is still what was read, with other calls around. -/
theorem sessionIn_around {cookieName : Text} {read : Option Session} {calls extra : List Call}
    {first : Call} (h : sessionIn cookieName calls = read)
    (hnone : ∀ call ∈ first :: extra, call.cookies? = none) :
    sessionIn cookieName (first :: (calls ++ extra)) = read := by
  rw [← List.cons_append, sessionIn_append fun c hc => hnone c (List.mem_cons_of_mem _ hc), sessionIn,
    List.findSome?_cons, hnone first List.mem_cons_self]
  exact h

theorem Certifies.bracket {allowed : List Text} {r : BrowserLoginResult} {calls extra : List Call}
    {first : Call} (h : Certifies tables config allowed r calls)
    (hnone : ∀ call ∈ first :: extra, call.cookies? = none) :
    Certifies tables config allowed r (first :: (calls ++ extra)) where
  session := sessionIn_around h.session hnone
  page := by
    obtain ⟨url, hmem, hpath⟩ := h.page
    exact ⟨url, List.mem_cons_of_mem _ (List.mem_append_left _ hmem), hpath⟩
  finalPath := h.finalPath
  callback := h.callback
  paced path := by
    refine (h.paced path).trans ((List.Sublist.count_le path ?_))
    exact (List.sublist_append_left calls extra |>.trans (List.sublist_cons_self _ _)).filterMap _

section Login

variable {before : List Call} {session : Option Session}
  {answer : Option (Except FlowError (List PlaywrightCookie))}

theorem keeps_pacePublicGatewayRequests : Program.Keeps (InContext before answer session)
    (pacePublicGatewayRequests tables config world) := by
  refine Program.Keeps.bind (keeps_perform rfl (fun _ => rfl) fun _ => rfl) fun _ => ?_
  refine Program.Keeps.bind (keeps_perform rfl (fun _ => rfl) fun _ => rfl) fun _ => ?_
  refine Program.Keeps.bind (keeps_switch (fun _ => rfl) (fun _ => rfl) fun _ => rfl) fun _ => ?_
  exact keeps_perform rfl (fun _ => rfl) fun _ => rfl

theorem keeps_openPublicLogin (returnUrl : Option Text) : Program.Keeps (InContext before answer session)
    (openPublicLogin tables config world returnUrl) := by
  refine Program.Keeps.bind Program.Keeps.lift fun query => ?_
  exact Program.Keeps.bind (keeps_perform rfl (fun _ => rfl) fun _ => rfl) fun _ => Program.Keeps.lift

theorem keeps_fillHostedForm (email : Text) (credentials : BrowserLoginCredentials) :
    Program.Keeps (InContext before answer session)
      (fillHostedForm tables config world email credentials) := by
  refine Program.Keeps.bind (keeps_perform rfl (fun _ => rfl) fun _ => rfl) fun _ => ?_
  refine Program.Keeps.bind (keeps_perform rfl (fun _ => rfl) fun _ => rfl) fun _ => ?_
  exact keeps_perform rfl (fun _ => rfl) fun _ => rfl

theorem keeps_waitForApplication : Program.Keeps (InContext before answer session)
    (waitForApplication tables config world) :=
  keeps_perform rfl (fun _ => rfl) fun _ => rfl

theorem keeps_hostedItems (selector : Text) : ∀ indices : List Nat,
    Program.Keeps (InContext before answer session) (hostedItems tables config world selector indices)
  | [] => Program.Keeps.pure
  | index :: indices => by
    refine Program.Keeps.bind (keeps_perform rfl (fun _ => rfl) fun _ => rfl) fun visible => ?_
    refine Program.Keeps.ite ?_ (keeps_hostedItems selector indices)
    refine Program.Keeps.bind (keeps_perform rfl (fun _ => rfl) fun _ => rfl) fun text => ?_
    exact Program.Keeps.bind (keeps_hostedItems selector indices) fun _ => Program.Keeps.pure

theorem keeps_hostedTexts : ∀ selectors : List Text,
    Program.Keeps (InContext before answer session) (hostedTexts tables config world selectors)
  | [] => Program.Keeps.pure
  | selector :: selectors => by
    refine Program.Keeps.bind (keeps_perform rfl (fun _ => rfl) fun _ => rfl) fun count => ?_
    refine Program.Keeps.bind (keeps_hostedItems selector _) fun _ => ?_
    exact Program.Keeps.bind (keeps_hostedTexts selectors) fun _ => Program.Keeps.pure

/-- The first reading of the cookies. -/
theorem firstCookies_spec {cookieName : Text} :
    Program.Triple (InContext before none none) (perform tables config world .cookies)
      (fun cookies => InContext before (some (.ok cookies)) none)
      fun _ => Settled cookieName before :=
  (Triple.perform rfl fun _ => rfl).weaken (fun _ h => h) (fun _ _ h => h.1) fun _ _ h => ⟨_, h⟩

/-- What the session variable holds is what the cookies read first gave. -/
theorem readSession_spec {cookieName : Text} {cookies : List PlaywrightCookie}
    {Q : Session → FlowState → Prop}
    (h : ∀ session s, readIn cookieName (some (.ok cookies)) = some session →
      InContext before (some (.ok cookies)) none s → Q session s) :
    Program.Triple (InContext before (some (.ok cookies)) none)
      (Program.lift (readSessionCookie cookieName cookies)) Q fun _ => Settled cookieName before := by
  refine Program.Triple.lift (fun session hread s hs => h session s ?_ hs)
    fun e hread s hs => ⟨some (.ok cookies), ?_⟩
  · rw [readIn, hread]
    rfl
  · rw [readIn, hread]
    exact hs

/-- The session is kept in its variable. -/
theorem keepSession_spec {cookieName : Text} {first : Except FlowError (List PlaywrightCookie)}
    {session : Session} :
    Program.Triple (InContext before (some first) none)
      (Program.modify fun s => { s with session := some session } : Program FlowState FlowError Unit)
      (fun _ => InContext before (some first) (some session)) fun _ => Settled cookieName before := by
  refine Program.Triple.modify fun s hs => ?_
  obtain ⟨⟨calls, htrace, honPage, hfirst, hpaced⟩, -⟩ := hs
  exact ⟨⟨calls, htrace, honPage, hfirst, hpaced⟩, rfl⟩

/-- A step that keeps where the flow stands, in a flow that is settled. -/
theorem settled_of_keeps {α : Type} {cookieName : Text} {x : Program FlowState FlowError α}
    (hread : readIn cookieName answer = session) (h : Program.Keeps (InContext before answer session) x) :
    Program.Triple (InContext before answer session) x (fun _ => InContext before answer session)
      fun _ => Settled cookieName before := by
  subst hread
  exact h.weaken (fun _ h => h) (fun _ _ h => h) fun _ _ h => ⟨_, h⟩

theorem auditError_eq_ok {result : Except AuditError Unit} {u : Unit} :
    auditError result = .ok u ↔ result = .ok () := by
  cases result with
  | ok v => exact iff_of_true rfl rfl
  | error e =>
    refine iff_of_false (fun h => ?_) fun h => by cases h
    cases e <;> cases h

/-- The address of the page, read from a state that is known. -/
theorem pageUrl_spec {first : Except FlowError (List PlaywrightCookie)} {held : FlowState}
    (hheld : InContext before (some first) session held) :
    Program.Triple (fun s => s = held) (perform tables config world .pageUrl)
      (fun url s => ∃ calls, (⟨.pageUrl, .ok url⟩ ∈ calls ∧ ∀ call ∈ calls, call.cookies? = none) ∧
        Adds held s calls)
      fun _ => InContext before (some first) session := by
  rintro s rfl
  obtain ⟨extra, hnone, hadds⟩ := perform_adds tables config world
    (show Op.pageUrl.onPage = true from rfl) (fun _ => rfl) s
  rcases hrun : perform tables config world .pageUrl s with ⟨result, s'⟩
  rw [hrun] at hadds
  cases result with
  | ok url => exact ⟨_, ⟨by simp, by simpa [or_imp, forall_and, Call.cookies?] using hnone⟩, hadds⟩
  | error e => exact hheld.adds hadds

/-- **A result is certified** by the calls up to the audit and those behind it. -/
theorem certified {allowed : List Text} {cookies : List PlaywrightCookie} {held s : FlowState}
    {calls : List Call} {r : BrowserLoginResult} {observer : BrowserFlowObserver} {url : Text}
    (hheld : InContext before (some (.ok cookies)) (some r.session) held)
    (hread : readIn config.sessionCookieName (some (.ok cookies)) = some r.session)
    (hobserver : held.observer = some observer)
    (haudit : auditFrom tables observer.observations observer.pacedSameOriginPaths = .ok ())
    (hadds : Adds held s calls) (hurl : ⟨.pageUrl, .ok url⟩ ∈ calls)
    (hnone : ∀ call ∈ calls, call.cookies? = none)
    (hpath : sameOriginPagePath tables config url = .ok r.finalPath) (hallowed : r.finalPath ∈ allowed)
    (hobservations : r.observations = observer.observations)
    (hcallback : (observer.observations.any fun observation =>
      observation.sameOriginPath == some config.browserAuthContract.callbackPath) = true) :
    ∃ calls, (Certifies tables config allowed r calls ∧ PageCalls calls) ∧
      Ran config.sessionCookieName before calls s := by
  obtain ⟨done, hdone, hsession, hpaced, hran⟩ := hheld.ran hread
  have hsame : sessionIn config.sessionCookieName (done ++ calls) = some r.session := by
    rw [sessionIn_append hnone, hsession]
  refine ⟨done ++ calls, ⟨⟨hsame, ⟨url, List.mem_append_right _ hurl, hpath⟩, hallowed, ?_, fun path => ?_⟩,
    List.forall_mem_append.mpr ⟨hdone, hadds.onPage⟩⟩, ?_, ?_⟩
  · obtain ⟨observation, hmem, heq⟩ := List.any_eq_true.mp hcallback
    exact ⟨observation, hobservations ▸ hmem, beq_iff_eq.mp heq⟩
  · rw [hobservations, List.filterMap_append, List.count_append, ← hpaced observer hobserver]
    exact ((auditFrom_eq_ok_iff.mp haudit).2 path).trans (Nat.le_add_right _ _)
  · rw [hadds.trace, hran.1, List.append_assoc]
  · rw [hadds.session, hheld.session_eq, hsame]

/-- **What a login leaves behind in its context.** -/
theorem loginInContext_spec (tables : UrlTables) (config : EnvironmentConfig) (world : World)
    (credentials : BrowserLoginCredentials) (returnUrl : Option Text)
    (allowed : List Text) :
    Makes config.sessionCookieName (loginInContext tables config world credentials returnUrl allowed)
      (Certifies tables config allowed) PageCalls := by
  intro before
  refine Program.Triple.weaken (E := fun _ => Settled config.sessionCookieName before) ?_
    (fun _ h => h) (fun _ _ h => h) fun _ _ h => h.ran
  have hnone : readIn config.sessionCookieName none = none := rfl
  refine Program.Triple.bind (Q := fun _ => InContext before none none)
    (Program.Triple.modify fun s hs => hs.inContext rfl rfl fun o ho => ?_) fun _ => ?_
  · cases ho
    rfl
  refine Program.Triple.bind (settled_of_keeps hnone
    (keeps_perform rfl (fun _ => rfl) fun _ => rfl)) fun _ => ?_
  refine Program.Triple.bind (settled_of_keeps hnone keeps_pacePublicGatewayRequests) fun _ => ?_
  refine Program.Triple.bind (settled_of_keeps hnone
    (keeps_perform rfl (fun _ => rfl) fun _ => rfl)) fun _ => ?_
  refine Program.Triple.bind (settled_of_keeps hnone
    (keeps_switch (fun _ => rfl) (fun _ => rfl) fun _ => rfl)) fun _ => ?_
  refine Program.Triple.bind (settled_of_keeps hnone (keeps_openPublicLogin returnUrl)) fun _ => ?_
  refine Program.Triple.bind (settled_of_keeps hnone (keeps_fillHostedForm _ credentials)) fun _ => ?_
  refine Program.Triple.bind (settled_of_keeps hnone keeps_waitForApplication) fun _ => ?_
  refine Program.Triple.bind firstCookies_spec fun cookies => ?_
  refine Program.Triple.bind (readSession_spec
    (Q := fun session s => readIn config.sessionCookieName (some (.ok cookies)) = some session ∧
      InContext before (some (.ok cookies)) none s)
    fun session s hread hs => ⟨hread, hs⟩) fun session => Program.Triple.ofAnd fun hread => ?_
  refine Program.Triple.bind keepSession_spec fun _ => ?_
  refine Program.Triple.bind (settled_of_keeps hread keeps_cookies) fun cookies' => ?_
  refine Program.Triple.bind (settled_of_keeps hread Program.Keeps.lift) fun sessionCookie => ?_
  refine Program.Triple.bind (settled_of_keeps hread keeps_cookies) fun cookies'' => ?_
  refine Program.Triple.getEq fun held hheld => ?_
  refine Program.Triple.bind (Program.Triple.lift
    (Q := fun _ s => (held.observer.getD ⟨[], []⟩).assertRateLimitedResponsesWerePaced tables = .ok () ∧
      s = held) (fun _ haudit s hs => ⟨?_, hs⟩) fun _ _ s hs => ⟨_, hread ▸ hs ▸ hheld⟩) fun _ =>
      Program.Triple.ofAnd fun haudit => ?_
  · exact auditError_eq_ok.mp haudit
  refine Program.Triple.bind ((pageUrl_spec hheld).weaken (fun _ h => h) (fun _ _ h => h)
    fun _ _ h => ⟨_, hread ▸ h⟩) fun url => Program.Triple.ofExists fun calls =>
      Program.Triple.ofAnd fun hcalls => ?_
  have hsettled : ∀ s, Adds held s calls → Settled config.sessionCookieName before s := fun s hs =>
    ⟨some (.ok cookies), hread ▸ hheld.adds hs⟩
  refine Program.Triple.bind (Program.Triple.lift
    (Q := fun finalPath s => sameOriginPagePath tables config url = .ok finalPath ∧ Adds held s calls)
    (fun finalPath hpath s hs => ⟨hpath, hs⟩) fun _ _ s hs => hsettled s hs) fun finalPath =>
      Program.Triple.ofAnd fun hpath => ?_
  refine Program.Triple.ite (fun _ => Program.Triple.raise hsettled) fun hallowed => ?_
  refine Program.Triple.ite (fun hcallback => Program.Triple.pure fun s hs => ?_)
    fun _ => Program.Triple.raise hsettled
  cases hobserver : held.observer with
  | none =>
    rw [hobserver] at hcallback
    cases hcallback
  | some observer =>
    rw [hobserver] at haudit hcallback
    exact certified hheld hread hobserver haudit hs hcalls.1 hcalls.2 hpath (not_not.mp hallowed)
      (by rw [Option.getD_some]) hcallback

/-- **What a signup leaves behind in its context.** -/
theorem signupInContext_spec (tables : UrlTables) (config : EnvironmentConfig) (world : World)
    (credentials : BrowserLoginCredentials) :
    Makes config.sessionCookieName (signupInContext tables config world credentials)
      (fun session calls => sessionIn config.sessionCookieName calls = some session) PageCalls := by
  intro before
  refine Program.Triple.weaken (E := fun _ => Settled config.sessionCookieName before) ?_
    (fun _ h => h) (fun _ _ h => h) fun _ _ h => h.ran
  have hnone : readIn config.sessionCookieName none = none := rfl
  refine Program.Triple.weaken (P := InContext before none none) ?_
    (fun s hs => hs.inContext rfl rfl fun o ho => ?_) (fun _ _ h => h) fun _ _ h => h
  · refine Program.Triple.bind (settled_of_keeps hnone
      (keeps_perform rfl (fun _ => rfl) fun _ => rfl)) fun _ => ?_
    refine Program.Triple.bind (settled_of_keeps hnone keeps_pacePublicGatewayRequests) fun _ => ?_
    refine Program.Triple.bind (settled_of_keeps hnone (keeps_openPublicLogin none)) fun _ => ?_
    refine Program.Triple.bind (settled_of_keeps hnone
      (keeps_perform rfl (fun _ => rfl) fun _ => rfl)) fun _ => ?_
    refine Program.Triple.bind (settled_of_keeps hnone (keeps_fillHostedForm _ credentials)) fun _ => ?_
    refine Program.Triple.bind (settled_of_keeps hnone
      (Program.Keeps.handle keeps_waitForApplication fun e => ?_)) fun _ => ?_
    · cases e with
      | playwright message =>
        exact Program.Keeps.bind (Program.Keeps.bind (keeps_hostedTexts _) fun _ => Program.Keeps.pure)
          fun _ => Program.Keeps.ite Program.Keeps.raise Program.Keeps.raise
      | login _ | accountExists _ | request _ | other _ | interrupt => exact Program.Keeps.raise
    refine Program.Triple.bind firstCookies_spec fun cookies => ?_
    refine Program.Triple.bind (readSession_spec
      (Q := fun session s => readIn config.sessionCookieName (some (.ok cookies)) = some session ∧
        InContext before (some (.ok cookies)) none s)
      fun session s hread hs => ⟨hread, hs⟩) fun session => Program.Triple.ofAnd fun hread => ?_
    refine Program.Triple.bind keepSession_spec fun _ => Program.Triple.pure fun s hs => ?_
    obtain ⟨calls, hcalls, hsession, -, hran⟩ := hs.ran hread
    exact ⟨calls, ⟨hsession, hcalls⟩, hran⟩
  · rw [hs.2.1] at ho
    cases ho

end Login

/-! ## Behind the context -/

/-- **The browser is gone**, and what its calls gave is in the session variable. -/
theorem inContext_spec {α : Type} (tables : UrlTables) (config : EnvironmentConfig) (world : World)
    (headless : Bool) {cookieName : Text} {body : Program FlowState FlowError α} {R : α → List Call → Prop}
    (hbody : Makes cookieName body R PageCalls)
    (hkept : ∀ a calls first extra, R a calls →
      (∀ call ∈ first :: extra, call.cookies? = none) → R a (first :: (calls ++ extra))) :
    Makes cookieName (inContext tables config world headless body) R (Opened headless) := by
  have hcontext := bracket_spec world .newContext .closeContext hbody (fun _ => rfl) (fun _ => rfl)
    (closes_context tables config world) hkept
  have hbrowser := bracket_spec world (.launch headless) .closeBrowser hcontext (fun _ => rfl)
    (fun _ => rfl) (closes_call world .closeBrowser fun _ => rfl) hkept
  exact bracket_spec world .start .stop hbrowser (fun _ => rfl) (fun _ => rfl)
    (closes_call world .stop fun _ => rfl) hkept

/-- The calls that check a session. -/
abbrev CheckCalls (session : Session) : List Call → Prop :=
  ClientCalls session (lit "GET") (lit "/auth/v1/user")

/-- The calls that log a session out. -/
abbrev LogoutCalls (session : Session) : List Call → Prop :=
  ClientCalls session (lit "GET") (lit "/logout")

/-- **What becomes of a session** in a flow that raises. -/
inductive Disposed : Option Session → FlowError → List Call → Prop where
  /-- No session was read. -/
  | nothing (e : FlowError) : Disposed none e []
  /-- The logout was attempted, with the session itself. -/
  | loggedOut (session : Session) {e : FlowError} (h : e.isLogin = true ∨ e = .interrupt)
      {calls : List Call} (hcalls : LogoutCalls session calls) : Disposed (some session) e calls
  /-- Any other exception leaves the session logged in. -/
  | left (session : Session) {e : FlowError} (h : e.isLogin = false) : Disposed (some session) e []

/-- What a flow raises, which is no `PlaywrightError`. -/
structure Fails (read : Option Session) (e : FlowError) (logout : List Call) : Prop where
  disposed : Disposed read e logout
  converted : ∀ message, e ≠ .playwright message

/-- An exception that no handler logs out for. -/
theorem disposed_left {e : FlowError} (h : e.isLogin = false) :
    ∀ read : Option Session, Disposed read e []
  | none => .nothing e
  | some session => .left session h

section Behind

variable {before : List Call} {read : Option Session}

/-- A session that is checked. -/
theorem verifySession_spec (session : Session) :
    Program.Triple (At before read) (verifySession world session)
      (fun _ => At (before ++ answered session (lit "GET") (lit "/auth/v1/user") 200) read)
      fun _ s => ∃ calls, CheckCalls session calls ∧ At (before ++ calls) read s := by
  refine Program.Triple.bind (Program.Triple.handle (clientRequest_spec session _ _) fun e => ?_)
    fun status => ?_
  · cases e <;> exact Program.Triple.raise fun s hs => hs
  · refine Program.Triple.ite (fun hstatus => ?_) fun _ => ?_
    · subst hstatus
      exact Program.Triple.pure fun s hs => hs
    · exact Program.Triple.raise fun s hs => ⟨_, answered_clientCalls session _ _ status, hs⟩

/-- **A session that is logged out**: whatever the gateway does, the attempt ends silently, unless it is
interrupted. -/
theorem cleanup_spec (session : Session) :
    Program.Triple (At before read) (cleanupFailedBrowserSession world session)
      (fun _ s => ∃ calls, LogoutCalls session calls ∧ At (before ++ calls) read s)
      fun e s => e = .interrupt ∧ ∃ calls, LogoutCalls session calls ∧ At (before ++ calls) read s := by
  have hrequest : Program.Triple (At before read)
      (clientRequest world session (lit "GET") (lit "/logout") >>= fun _ => pure ())
      (fun _ s => ∃ calls, LogoutCalls session calls ∧ At (before ++ calls) read s)
      fun _ s => ∃ calls, LogoutCalls session calls ∧ At (before ++ calls) read s :=
    Program.Triple.bind (clientRequest_spec session _ _) fun status =>
      Program.Triple.pure fun s hs => ⟨_, answered_clientCalls session _ _ status, hs⟩
  refine Program.Triple.handle hrequest fun e => ?_
  cases e with
  | interrupt => exact Program.Triple.raise fun s hs => ⟨rfl, hs⟩
  | playwright _ | login _ | accountExists _ | request _ | other _ =>
    exact Program.Triple.pure fun s hs => hs

theorem ne_playwright_of_isLogin {e : FlowError} (h : e.isLogin = true) (message : Text) :
    e ≠ .playwright message := by
  rintro rfl
  cases h

/-- What was read is disposed of, for whatever login error is raised next. -/
theorem cleanupRead_spec : Program.Triple (At before read) (cleanupRead world)
    (fun _ s => ∀ e : FlowError, e.isLogin = true → ∃ logout, Fails read e logout ∧
      s.trace = before ++ logout)
    fun e s => ∃ logout, Fails read e logout ∧ s.trace = before ++ logout := by
  refine Program.Triple.getEq fun held hheld => ?_
  rw [hheld.2]
  cases read with
  | none =>
    refine Program.Triple.pure fun s hs e he => ⟨[], ⟨.nothing e, ne_playwright_of_isLogin he⟩, ?_⟩
    rw [hs, hheld.1, List.append_nil]
  | some session =>
    refine (cleanup_spec session).weaken (fun s hs => hs ▸ hheld) (fun _ s h e he => ?_) fun e s h => ?_
    · obtain ⟨calls, hcalls, hat⟩ := h
      exact ⟨calls, ⟨.loggedOut session (Or.inl he) hcalls, ne_playwright_of_isLogin he⟩, hat.1⟩
    · obtain ⟨rfl, calls, hcalls, hat⟩ := h
      exact ⟨calls, ⟨.loggedOut session (Or.inr rfl) hcalls, fun _ h => by cases h⟩, hat.1⟩

/-- A login error is raised behind the cleanup. -/
theorem raiseCleaned_spec {α : Type} {e : FlowError} (he : e.isLogin = true)
    {Q : α → FlowState → Prop} :
    Program.Triple (At before read) (cleanupRead world >>= fun _ => Program.raise e) Q
      fun e s => ∃ logout, Fails read e logout ∧ s.trace = before ++ logout :=
  Program.Triple.bind cleanupRead_spec fun _ => Program.Triple.raise fun _ h => h e he

end Behind

/-! ## The flows -/

/-- No browser was opened, or all that was opened is closed. -/
def Released (flow : List Call) : Prop := flow = [] ∨ ∃ headless, Opened headless flow

section Flows

variable {before : List Call}

/-- A flow that raised. -/
def Failed (cookieName : Text) (before : List Call) (e : FlowError) (s : FlowState) : Prop :=
  ∃ flow logout, (Released flow ∧ Fails (sessionIn cookieName flow) e logout) ∧
    s.trace = before ++ (flow ++ logout)

theorem failed_unopened {cookieName : Text} {e : FlowError} {s : FlowState}
    (h : ∀ message, e ≠ .playwright message) (hs : s.trace = before) : Failed cookieName before e s :=
  ⟨[], [], ⟨Or.inl rfl, .nothing e, h⟩, by rw [hs, List.append_nil, List.append_nil]⟩

/-- What a flow does with what its context raised. -/
theorem handler_spec {α : Type} (world : World) (e : FlowError) {cookieName : Text} {flow : List Call}
    (hreleased : Released flow) {x : Program FlowState FlowError α}
    (hcleaned : ∀ message, e = .playwright message → ∃ e', e'.isLogin = true ∧
      x = cleanupRead world >>= fun _ => Program.raise e')
    (hlogin : e.isLogin = true → x = cleanupRead world >>= fun _ => Program.raise e)
    (hother : e.isLogin = false → (∀ message, e ≠ .playwright message) → x = Program.raise e)
    {Q : α → FlowState → Prop} :
    Program.Triple (Ran cookieName before flow) x Q (Failed cookieName before) := by
  have hraised : ∀ e' : FlowError, e'.isLogin = true → Program.Triple (Ran cookieName before flow)
      (cleanupRead world >>= fun _ => Program.raise e') Q (Failed cookieName before) := fun e' he' =>
    (raiseCleaned_spec he').weaken (fun _ h => h) (fun _ _ h => h) fun e s h => by
      obtain ⟨logout, hfails, htrace⟩ := h
      exact ⟨flow, logout, ⟨hreleased, hfails⟩, by rw [htrace, List.append_assoc]⟩
  by_cases hplaywright : ∃ message, e = .playwright message
  · obtain ⟨message, he⟩ := hplaywright
    obtain ⟨e', he', heq⟩ := hcleaned message he
    rw [heq]
    exact hraised e' he'
  · have hne : ∀ message, e ≠ .playwright message := fun message he => hplaywright ⟨message, he⟩
    cases hlog : e.isLogin with
    | true =>
      rw [hlogin hlog]
      exact hraised e hlog
    | false =>
      rw [hother hlog hne]
      exact Program.Triple.raise fun s hs =>
        ⟨flow, [], ⟨hreleased, disposed_left hlog _, hne⟩, by rw [hs.1, List.append_nil]⟩

/-- The paths are refused with a login error or a `ValueError`. -/
theorem validateExpectedReturnPath_error {path : Text} {e : FlowError}
    (h : validateExpectedReturnPath tables path = .error e) (message : Text) :
    e ≠ .playwright message := by
  unfold validateExpectedReturnPath at h
  cases hsplit : urlsplit tables.checks path with
  | error m =>
    rw [hsplit] at h
    cases h
    simp
  | ok parts =>
    rw [hsplit] at h
    change (if _ then _ else _) = _ at h
    split_ifs at h
    cases h
    simp

theorem validateEach_error {e : FlowError} : ∀ {paths : List Text},
    validateEach tables paths = .error e → ∀ message, e ≠ .playwright message
  | [], h => nomatch h
  | path :: paths, h => by
    rw [validateEach, bind_eq_error_iff] at h
    rcases h with h | ⟨_, _, h⟩
    · exact validateExpectedReturnPath_error h
    · exact validateEach_error h

theorem chosenReturnPaths_error {expectedReturnPath : Option Text} {e : FlowError} :
    ∀ {expectedReturnPaths : Option ReturnPaths},
      chosenReturnPaths config expectedReturnPath expectedReturnPaths = .error e →
        ∀ message, e ≠ .playwright message
  | none, h => nomatch h
  | some (.text _), h => nomatch h
  | some (.paths paths), h => by
    rw [chosenReturnPaths] at h
    split_ifs at h
    cases h
    simp

theorem resolveExpectedReturnPaths_error {expectedReturnPath : Option Text}
    {expectedReturnPaths : Option ReturnPaths} {e : FlowError}
    (h : resolveExpectedReturnPaths tables config expectedReturnPath expectedReturnPaths = .error e) :
    ∀ message, e ≠ .playwright message := by
  unfold resolveExpectedReturnPaths at h
  split_ifs at h
  · cases h
    simp
  · rcases bind_eq_error_iff.mp h with h | ⟨paths, _, h⟩
    · exact chosenReturnPaths_error h
    · rcases bind_eq_error_iff.mp h with h | ⟨_, _, h⟩
      · exact validateEach_error h
      · cases h

/-- **A login flow.** -/
theorem loginFlow_spec (credentials : BrowserLoginCredentials) (returnUrl expectedReturnPath : Option Text)
    (expectedReturnPaths : Option ReturnPaths) :
    Program.Triple (fun s => s.trace = before)
      (loginFlowWithBrowser tables config world credentials returnUrl expectedReturnPath
        expectedReturnPaths)
      (fun r s => ∃ allowed flow, (resolveExpectedReturnPaths tables config expectedReturnPath
          expectedReturnPaths = .ok allowed ∧ Certifies tables config allowed r flow ∧ Released flow) ∧
        At (before ++ flow) (some r.session) s)
      (Failed config.sessionCookieName before) := by
  unfold loginFlowWithBrowser
  cases hbrowser : config.auth.browser with
  | none => exact Program.Triple.raise fun s => failed_unopened fun _ h => by cases h
  | some browser =>
    refine Program.Triple.bind (Program.Triple.lift
      (Q := fun allowed s => resolveExpectedReturnPaths tables config expectedReturnPath
        expectedReturnPaths = .ok allowed ∧ s.trace = before)
      (fun _ h s hs => ⟨h, hs⟩) fun e h s => failed_unopened (resolveExpectedReturnPaths_error h))
      fun allowed => Program.Triple.ofAnd fun hallowed => ?_
    refine Program.Triple.bind (Q := fun _ => Fresh before)
      (Program.Triple.modify fun s hs => ⟨hs, rfl, rfl⟩) fun _ => ?_
    have hflow := inContext_spec tables config world browser.headless
      (loginInContext_spec tables config world credentials returnUrl allowed)
      (fun _ _ _ _ h hnone => h.bracket hnone) before
    refine Program.Triple.handle (hflow.weaken (fun _ h => h) (fun r s h => ?_) fun _ _ h => h) fun e => ?_
    · obtain ⟨flow, ⟨hcertifies, hopened⟩, hran⟩ := h
      exact ⟨allowed, flow, ⟨hallowed, hcertifies, Or.inr ⟨_, hopened⟩⟩, hran.1,
        hran.2.trans hcertifies.session⟩
    refine Program.Triple.ofExists fun flow => Program.Triple.ofAnd fun hopened =>
      handler_spec world e (Or.inr ⟨_, hopened⟩) ?_ ?_ ?_
    · rintro message rfl
      exact ⟨.login _, rfl, rfl⟩
    · intro he
      cases e <;> first | rfl | cases he
    · intro he hne
      cases e <;> first | rfl | exact absurd rfl (hne _) | cases he

/-- **How a login ends.** Its calls are those of the browser, those of a check and those of a logout. A
session that is returned was read from the browser, certified and answered by 200; one that was read in
a login that raises is logged out, or left by an exception that is no `BrowserLoginError`; what the
browser raises always becomes one. -/
structure LoginEnds (tables : UrlTables) (config : EnvironmentConfig)
    (expectedReturnPaths : Option ReturnPaths) (result : Except FlowError Session)
    (flow check logout : List Call) : Prop where
  released : Released flow
  returned : ∀ session, result = .ok session →
    check = answered session (lit "GET") (lit "/auth/v1/user") 200 ∧ logout = [] ∧
      ∃ allowed r, resolveExpectedReturnPaths tables config none expectedReturnPaths = .ok allowed ∧
        r.session = session ∧ Certifies tables config allowed r flow
  checked : ∀ e, result = .error e → check = [] ∧ (∀ message, e ≠ .playwright message) ∨
    ∃ session, sessionIn config.sessionCookieName flow = some session ∧ CheckCalls session check
  disposed : ∀ e, result = .error e → Disposed (sessionIn config.sessionCookieName flow) e logout

/-- A login that raised. -/
theorem LoginEnds.raised {expectedReturnPaths : Option ReturnPaths} {e : FlowError}
    {flow check logout : List Call} (hreleased : Released flow)
    (hchecked : check = [] ∧ (∀ message, e ≠ .playwright message) ∨
      ∃ session, sessionIn config.sessionCookieName flow = some session ∧ CheckCalls session check)
    (hdisposed : Disposed (sessionIn config.sessionCookieName flow) e logout) :
    LoginEnds tables config expectedReturnPaths (.error e) flow check logout where
  released := hreleased
  returned _ h := by cases h
  checked _ h := by
    cases h
    exact hchecked
  disposed _ h := by
    cases h
    exact hdisposed

/-- **A whole login, in every world.** -/
theorem login_ends (tables : UrlTables) (config : EnvironmentConfig) (world : World)
    (credentials : BrowserLoginCredentials) (expectedReturnPaths : Option ReturnPaths) :
    Program.Triple (fun s => s.trace = before)
      (loginWithBrowser tables config world credentials expectedReturnPaths)
      (fun session s => ∃ flow check logout, LoginEnds tables config expectedReturnPaths (.ok session) flow
        check logout ∧ s.trace = before ++ (flow ++ check ++ logout))
      fun e s => ∃ flow check logout, LoginEnds tables config expectedReturnPaths (.error e) flow
        check logout ∧ s.trace = before ++ (flow ++ check ++ logout) := by
  refine Program.Triple.bind ((loginFlow_spec credentials none none expectedReturnPaths).weaken
    (fun _ h => h) (fun _ _ h => h) fun e s h => ?_) fun r => ?_
  · obtain ⟨flow, logout, ⟨hreleased, hfails⟩, htrace⟩ := h
    exact ⟨flow, [], logout, .raised hreleased (Or.inl ⟨rfl, hfails.converted⟩) hfails.disposed, by
      rw [htrace, List.append_nil]⟩
  refine Program.Triple.ofExists fun allowed => Program.Triple.ofExists fun flow =>
    Program.Triple.ofAnd fun hflow => ?_
  obtain ⟨hallowed, hcertifies, hreleased⟩ := hflow
  have hfailed : ∀ {e : FlowError} {check logout : List Call} {s : FlowState},
      CheckCalls r.session check → Disposed (some r.session) e logout →
      s.trace = before ++ flow ++ check ++ logout →
      ∃ flow check logout, LoginEnds tables config expectedReturnPaths (.error e) flow check logout ∧
        s.trace = before ++ (flow ++ check ++ logout) := by
    intro e check logout s hcheck hdisposed htrace
    refine ⟨flow, check, logout, .raised hreleased (Or.inr ⟨r.session, hcertifies.session, hcheck⟩) ?_, ?_⟩
    · rwa [hcertifies.session]
    · rw [htrace, List.append_assoc, List.append_assoc, List.append_assoc]
  refine Program.Triple.bind (Program.Triple.handle (verifySession_spec r.session) fun e => ?_)
    fun _ => Program.Triple.pure fun s hs => ?_
  · refine Program.Triple.ofExists fun check => Program.Triple.ofAnd fun hcheck => ?_
    refine Program.Triple.ite (fun he => ?_) fun he => ?_
    · refine Program.Triple.bind ((cleanup_spec r.session).weaken (fun _ h => h) (fun _ _ h => h)
        fun e' s h => ?_) fun _ => Program.Triple.raise fun s h => ?_
      · obtain ⟨rfl, calls, hcalls, hat⟩ := h
        exact hfailed hcheck (.loggedOut _ (Or.inr rfl) hcalls) hat.1
      · obtain ⟨calls, hcalls, hat⟩ := h
        exact hfailed hcheck (.loggedOut _ (Or.inl he) hcalls) hat.1
    · exact Program.Triple.raise fun s hs =>
        hfailed hcheck (.left _ (Bool.not_eq_true _ ▸ he)) (by rw [hs.1, List.append_nil])
  · refine ⟨flow, answered r.session (lit "GET") (lit "/auth/v1/user") 200, [], ⟨hreleased, ?_,
      (fun _ h => by cases h), (fun _ h => by cases h)⟩, ?_⟩
    · intro session h
      cases h
      exact ⟨rfl, rfl, allowed, r, hallowed, rfl, hcertifies⟩
    · rw [hs.1, List.append_nil, List.append_assoc]

/-- **How a signup ends**: as a login, but a session that was read is not logged out. -/
structure SignupEnds (config : EnvironmentConfig) (result : Except FlowError Session)
    (flow check : List Call) : Prop where
  released : Released flow
  returned : ∀ session, result = .ok session → sessionIn config.sessionCookieName flow = some session ∧
    check = answered session (lit "GET") (lit "/auth/v1/user") 200
  checked : ∀ e, result = .error e → check = [] ∨
    ∃ session, sessionIn config.sessionCookieName flow = some session ∧ CheckCalls session check

theorem SignupEnds.raised {e : FlowError} {flow check : List Call} (hreleased : Released flow)
    (hchecked : check = [] ∨
      ∃ session, sessionIn config.sessionCookieName flow = some session ∧ CheckCalls session check) :
    SignupEnds config (.error e) flow check where
  released := hreleased
  returned _ h := by cases h
  checked _ _ := hchecked

/-- **A whole signup, in every world.** -/
theorem signup_ends (tables : UrlTables) (config : EnvironmentConfig) (world : World)
    (credentials : BrowserLoginCredentials) :
    Program.Triple (fun s => s.trace = before) (signupWithBrowser tables config world credentials)
      (fun session s => ∃ flow check, SignupEnds config (.ok session) flow check ∧
        s.trace = before ++ (flow ++ check))
      fun e s => ∃ flow check, SignupEnds config (.error e) flow check ∧
        s.trace = before ++ (flow ++ check) := by
  unfold signupWithBrowser
  cases hbrowser : config.auth.browser with
  | none =>
    exact Program.Triple.raise fun s hs =>
      ⟨[], [], .raised (Or.inl rfl) (Or.inl rfl), by rw [hs, List.append_nil, List.append_nil]⟩
  | some browser =>
    refine Program.Triple.bind (Q := fun _ => Fresh before)
      (Program.Triple.modify fun s hs => ⟨hs, rfl, rfl⟩) fun _ => ?_
    have hflow := inContext_spec tables config world browser.headless
      (signupInContext_spec tables config world credentials)
      (fun session calls first extra h hnone => (sessionIn_around h hnone)) before
    have hraise : ∀ (e : FlowError) (s : FlowState), (∃ flow, Opened browser.headless flow ∧
        Ran config.sessionCookieName before flow s) → ∃ flow check, SignupEnds config (.error e) flow check ∧
        s.trace = before ++ (flow ++ check) := by
      rintro e s ⟨flow, hopened, hran⟩
      exact ⟨flow, [], .raised (Or.inr ⟨_, hopened⟩) (Or.inl rfl), by rw [hran.1, List.append_nil]⟩
    refine Program.Triple.bind (Program.Triple.handle hflow fun e => ?_) fun session => ?_
    · cases e <;> exact Program.Triple.raise (hraise _)
    refine Program.Triple.ofExists fun flow => Program.Triple.ofAnd fun hopened => ?_
    obtain ⟨hsession, hopened⟩ := hopened
    refine Program.Triple.bind ((verifySession_spec session).weaken (fun _ h => h) (fun _ _ h => h)
      fun e s h => ?_) fun _ => Program.Triple.pure fun s hs => ?_
    · obtain ⟨check, hcheck, hat⟩ := h
      exact ⟨flow, check, .raised (Or.inr ⟨_, hopened⟩) (Or.inr ⟨session, hsession, hcheck⟩), by
        rw [hat.1, List.append_assoc]⟩
    · refine ⟨flow, answered session (lit "GET") (lit "/auth/v1/user") 200,
        ⟨Or.inr ⟨_, hopened⟩, ?_, (fun _ h => by cases h)⟩, by rw [hs.1, List.append_assoc]⟩
      intro session' h
      cases h
      exact ⟨hsession, rfl⟩

end Flows

/-- A world in which a login succeeds: the page answers its callback, whose request was paused. -/
def quietWorld : World where
  answer _ op := match op with
    | .goto _ => .ok (some 200)
    | .cookies => .ok [⟨some (lit "BA_SESSION"), some (lit "s1"), none, none, none, none, none⟩]
    | .pageUrl => .ok (localConfig.origin ++ lit "/")
    | .count _ => .ok 0
    | .isVisible _ _ => .ok false
    | .innerText _ _ => .ok []
    | .request _ _ _ => .ok 200
    | .start | .stop | .launch _ | .closeBrowser | .newContext | .closeContext | .newPage
    | .newCdpSession | .listenPaused | .enableFetch _ | .listenResponse | .fill _ _ | .click _
    | .clickSignUp | .waitForUrl _ | .continueRequest _ | .pace _ | .openClient _ | .closeClient _ =>
      .ok ()
  events _ op := match op with
    | .waitForUrl _ =>
      [.requestPaused (.dict [(lit "requestId", .str (lit "1")), (lit "request", .dict
          [(lit "url", .str (localConfig.origin ++ lit "/login/oauth2/code/idp?code=1"))])]),
        .response ⟨lit "GET", 302, localConfig.origin ++ lit "/login/oauth2/code/idp?code=1"⟩]
    | _ => []

example : (loginWithBrowser asciiUrlTables localConfig quietWorld ⟨lit "u", lit "p"⟩ none
    ⟨[], none, false, false, none⟩).1.toOption = some ⟨lit "BA_SESSION", lit "s1"⟩ := by rfl
end ApiTests.Browser
