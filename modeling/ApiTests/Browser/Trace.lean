import ApiTests.Browser.Flow

/-!
# What a flow adds to the trace

`Adds` is what a computation in a context leaves behind: calls to the page and to the pacing, and an
observer that knows of a path for every reservation of it that was made. `Reading` says which session
the cookies gave that were read first.

Results:
* `deliverAll_adds`: **whatever the browser sends, the listeners only reserve and continue**, and the
  observer is told of each reservation.
* `Triple.perform`: the rule for a call to the page.
* `clientRequest_spec`: the calls of one request to the gateway.
-/

namespace ApiTests.Browser

open Py Client Credentials Logging

/-! ## Calls -/

/-- A call to the page, or one a listener makes. -/
def Op.onPage : Op → Bool
  | .start | .stop | .launch _ | .closeBrowser | .newContext | .closeContext => false
  | .openClient _ | .request _ _ _ | .closeClient _ => false
  | _ => true

/-- The path a call has reserved. -/
def Call.paced? : Call → Option Text
  | ⟨.pace path, .ok _⟩ => some path
  | _ => none

/-- What a call said of the cookies. -/
def Call.cookies? : Call → Option (Except FlowError (List PlaywrightCookie))
  | ⟨.cookies, answer⟩ => some answer
  | _ => none

/-- The session that the first reading of the cookies gave. -/
def readIn (cookieName : Text) : Option (Except FlowError (List PlaywrightCookie)) → Option Session
  | some (.ok cookies) => (readSessionCookie cookieName cookies).toOption
  | _ => none

/-- The session a flow has read. -/
def sessionIn (cookieName : Text) (calls : List Call) : Option Session :=
  readIn cookieName (calls.findSome? Call.cookies?)

theorem sessionIn_append {cookieName : Text} {calls calls' : List Call}
    (h : ∀ call ∈ calls', call.cookies? = none) :
    sessionIn cookieName (calls ++ calls') = sessionIn cookieName calls := by
  rw [sessionIn, List.findSome?_append, List.findSome?_eq_none_iff.mpr h, Option.or_none, sessionIn]

/-! ## The listeners -/

variable {tables : UrlTables} {config : EnvironmentConfig} {world : World}

/-- **The calls that lead from one state to another**, made in a context: the session variable is kept,
and the observer has been told of the paths that were reserved. -/
structure Adds (s s' : FlowState) (calls : List Call) : Prop where
  trace : s'.trace = s.trace ++ calls
  onPage : ∀ call ∈ calls, call.op.onPage = true
  session : s'.session = s.session
  paced : s'.observer.map BrowserFlowObserver.pacedSameOriginPaths =
    s.observer.map fun o => o.pacedSameOriginPaths ++ calls.filterMap Call.paced?

theorem Adds.refl (s : FlowState) : Adds s s [] where
  trace := (List.append_nil _).symm
  onPage := fun _ h => absurd h List.not_mem_nil
  session := rfl
  paced := by simp

theorem Adds.trans {s s' s'' : FlowState} {calls calls' : List Call} (h : Adds s s' calls)
    (h' : Adds s' s'' calls') : Adds s s'' (calls ++ calls') where
  trace := by rw [h'.trace, h.trace, List.append_assoc]
  onPage := List.forall_mem_append.mpr ⟨h.onPage, h'.onPage⟩
  session := h'.session.trans h.session
  paced := by
    have hpaced := congrArg (Option.map (· ++ calls'.filterMap Call.paced?)) h.paced
    rw [Option.map_map, Option.map_map] at hpaced
    rw [h'.paced, List.filterMap_append]
    simpa [Function.comp_def] using hpaced

/-- One call that reserves nothing. -/
theorem Adds.one {s : FlowState} {c : Call} (honPage : c.op.onPage = true) (hpaced : c.paced? = none) :
    Adds s { s with trace := s.trace ++ [c] } [c] where
  trace := rfl
  onPage := by simpa using honPage
  session := rfl
  paced := by simp [hpaced]

/-- The listeners' variables do not matter. -/
theorem Adds.switch {s s' : FlowState} (htrace : s'.trace = s.trace) (hsession : s'.session = s.session)
    (hobserver : s'.observer = s.observer) : Adds s s' [] where
  trace := by rw [htrace, List.append_nil]
  onPage := fun _ h => absurd h List.not_mem_nil
  session := hsession
  paced := by simp [hobserver]

/-- A response changes nothing that was reserved. -/
theorem record_response (s : FlowState) (received : BrowserResponse) :
    Adds s (record tables config (.response received) s).2 [] where
  trace := (List.append_nil _).symm
  onPage := fun _ h => absurd h List.not_mem_nil
  session := rfl
  paced := by
    change (s.observer.map _).map _ = _
    rw [Option.map_map]
    refine congrArg (fun f => s.observer.map f) (funext fun o => ?_)
    change (BrowserFlowObserver.record tables config o (.response received)).pacedSameOriginPaths = _
    rw [BrowserFlowObserver.record, List.filterMap_nil, List.append_nil]
    split <;> rfl

/-- What a listener does that makes its calls and stops. -/
def Listens (x : Program FlowState FlowError Unit) : Prop :=
  ∀ s, ∃ calls, Adds s (x s).2 calls ∧ ∀ call ∈ calls, call.cookies? = none

theorem Listens.bind {α : Type} {x : Except FlowError α} {f : α → Program FlowState FlowError Unit}
    (h : ∀ a, Listens (f a)) : Listens (Program.lift x >>= f) := by
  intro s
  cases x with
  | error e => exact ⟨[], .refl s, fun _ h => absurd h List.not_mem_nil⟩
  | ok a => exact h a s

theorem listens_raise (e : FlowError) : Listens (Program.raise e) :=
  fun s => ⟨[], .refl s, fun _ h => absurd h List.not_mem_nil⟩

theorem listens_continue (requestId : Text) : Listens (call world (.continueRequest requestId)) :=
  fun s => ⟨_, .one rfl rfl, by simp [Call.cookies?]⟩

/-- A reservation that is noted, before the listener goes on. -/
theorem listens_pace (path : Text) {next : Program FlowState FlowError Unit} (hnext : Listens next) :
    Listens (call world (.pace path) >>= fun _ => record tables config (.paced path) >>= fun _ => next) := by
  intro s
  rw [Program.bind_apply]
  unfold call
  cases h : world.answer s.trace (.pace path) with
  | error e => exact ⟨[⟨.pace path, .error e⟩], .one rfl rfl, by simp [Call.cookies?]⟩
  | ok u =>
    have hpaced : Adds s (record tables config (.paced path)
        { s with trace := s.trace ++ [⟨.pace path, .ok u⟩] }).2 [⟨.pace path, .ok u⟩] :=
      { trace := rfl
        onPage := by simp [Op.onPage]
        session := rfl
        paced := by
          change (s.observer.map _).map _ = _
          rw [Option.map_map]
          rfl }
    obtain ⟨calls, hcalls, hcookies⟩ := hnext _
    exact ⟨_, hpaced.trans hcalls, List.forall_mem_append.mpr ⟨by simp [Call.cookies?], hcookies⟩⟩

theorem listens_continuePaced : ∀ event : Json PyNumber,
    Listens (continuePacedGatewayRequest tables config world event)
  | .null | .bool _ | .number _ | .str _ | .list _ => listens_raise _
  | .dict event => by
    rw [continuePacedGatewayRequest]
    split
    · split
      · refine Listens.bind fun same => ?_
        cases same with
        | true => exact Listens.bind fun path => listens_pace path (listens_continue _)
        | false => exact listens_continue _
      · exact listens_raise _
    · exact listens_raise _

theorem listens_deliver (tables : UrlTables) (config : EnvironmentConfig) (world : World)
    (event : BrowserEvent) : Listens (deliver tables config world event) := by
  intro s
  cases event with
  | requestPaused event =>
    change ∃ calls, Adds s ((if s.pacing = true then
      continuePacedGatewayRequest tables config world event else pure ()) s).2 calls ∧ _
    split
    · exact listens_continuePaced event s
    · exact ⟨[], .refl s, fun _ h => absurd h List.not_mem_nil⟩
  | response received =>
    change ∃ calls, Adds s ((if s.observing = true then
      record tables config (.response received) else pure ()) s).2 calls ∧ _
    split
    · exact ⟨[], record_response s received, fun _ h => absurd h List.not_mem_nil⟩
    · exact ⟨[], .refl s, fun _ h => absurd h List.not_mem_nil⟩

/-- **Whatever the browser sends, the listeners only reserve and continue.** -/
theorem deliverAll_adds (tables : UrlTables) (config : EnvironmentConfig) (world : World) :
    ∀ (events : List BrowserEvent) (s : FlowState),
    ∃ calls, Adds s (deliverAll tables config world events s) calls ∧
      ∀ call ∈ calls, call.cookies? = none
  | [], s => ⟨[], .refl s, fun _ h => absurd h List.not_mem_nil⟩
  | event :: events, s => by
    obtain ⟨calls, hcalls, hcookies⟩ := listens_deliver tables config world event s
    obtain ⟨calls', hcalls', hcookies'⟩ := deliverAll_adds tables config world events _
    exact ⟨calls ++ calls', hcalls.trans hcalls', List.forall_mem_append.mpr ⟨hcookies, hcookies'⟩⟩

/-! ## In a context -/

/-- **Where a flow stands in its context**, whose opening left the trace `before`: the calls made since,
what the first reading of the cookies answered, and the session variable. -/
structure InContext (before : List Call) (answer : Option (Except FlowError (List PlaywrightCookie)))
    (session : Option Session) (s : FlowState) : Prop where
  exists_calls : ∃ calls, s.trace = before ++ calls ∧ (∀ call ∈ calls, call.op.onPage = true) ∧
    calls.findSome? Call.cookies? = answer ∧ ∀ o, s.observer = some o →
      o.pacedSameOriginPaths = calls.filterMap Call.paced?
  session_eq : s.session = session

theorem InContext.adds {before calls : List Call} {session : Option Session} {s s' : FlowState}
    {answer : Option (Except FlowError (List PlaywrightCookie))}
    (h : InContext before answer session s) (hadds : Adds s s' calls) :
    InContext before (answer.or (calls.findSome? Call.cookies?)) session s' := by
  obtain ⟨⟨done, htrace, honPage, rfl, hpaced⟩, hsession⟩ := h
  refine ⟨⟨done ++ calls, ?_, List.forall_mem_append.mpr ⟨honPage, hadds.onPage⟩,
    List.findSome?_append, fun o ho => ?_⟩, hadds.session.trans hsession⟩
  · rw [hadds.trace, htrace, List.append_assoc]
  · have h := hadds.paced
    rw [ho] at h
    cases hobserver : s.observer with
    | none =>
      rw [hobserver] at h
      cases h
    | some o' =>
      rw [hobserver, Option.map_some, Option.map_some, Option.some.injEq] at h
      rw [h, hpaced o' hobserver, List.filterMap_append]

/-- A flow that has begun, its context being open. -/
def Fresh (before : List Call) (s : FlowState) : Prop :=
  s.trace = before ∧ s.observer = none ∧ s.session = none

theorem Fresh.inContext {before : List Call} {s s' : FlowState} (h : Fresh before s)
    (htrace : s'.trace = s.trace) (hsession : s'.session = s.session)
    (hobserver : ∀ o, s'.observer = some o → o.pacedSameOriginPaths = []) :
    InContext before none none s' :=
  ⟨⟨[], by rw [htrace, h.1, List.append_nil], fun _ hc => absurd hc List.not_mem_nil, rfl, hobserver⟩,
    hsession.trans h.2.2⟩

section Perform

variable {before : List Call} {session : Option Session}
  {answer : Option (Except FlowError (List PlaywrightCookie))}

/-- The state behind a call to the page. -/
theorem perform_adds (tables : UrlTables) (config : EnvironmentConfig) (world : World) {op : Op}
    (honPage : op.onPage = true) (hpaced : ∀ result, Call.paced? ⟨op, result⟩ = none)
    (s : FlowState) : ∃ calls, (∀ call ∈ calls, call.cookies? = none) ∧
      Adds s (perform tables config world op s).2
        (calls ++ [⟨op, (perform tables config world op s).1⟩]) := by
  obtain ⟨calls, hadds, hcookies⟩ := deliverAll_adds tables config world (world.events s.trace op) s
  exact ⟨calls, hcookies, hadds.trans (Adds.one honPage (hpaced _))⟩

/-- **A call to the page.** -/
theorem Triple.perform {op : Op} (honPage : op.onPage = true)
    (hpaced : ∀ result, Call.paced? ⟨op, result⟩ = none) :
    Program.Triple (InContext before answer session) (perform tables config world op)
      (fun a s => InContext before (answer.or (Call.cookies? ⟨op, .ok a⟩)) session s ∧
        ⟨op, .ok a⟩ ∈ s.trace)
      (fun e s => InContext before (answer.or (Call.cookies? ⟨op, .error e⟩)) session s) := by
  intro s hs
  obtain ⟨calls, hcookies, hadds⟩ := perform_adds tables config world honPage hpaced s
  have hafter := hs.adds hadds
  rw [List.findSome?_append, List.findSome?_eq_none_iff.mpr hcookies, Option.none_or] at hafter
  rcases hrun : Browser.perform tables config world op s with ⟨result, s'⟩
  rw [hrun] at hafter hadds
  have hlast : List.findSome? Call.cookies? [⟨op, result⟩] = Call.cookies? ⟨op, result⟩ := by
    rw [List.findSome?_cons]
    cases Call.cookies? ⟨op, result⟩ <;> rfl
  rw [hlast] at hafter
  cases result with
  | ok a => exact ⟨hafter, by rw [hadds.trace]; simp⟩
  | error e => exact hafter

/-- A call to the page that does not read the cookies. -/
theorem keeps_perform {op : Op} (honPage : op.onPage = true)
    (hpaced : ∀ result, Call.paced? ⟨op, result⟩ = none)
    (hcookies : ∀ result, Call.cookies? ⟨op, result⟩ = none) :
    Program.Keeps (InContext before answer session) (perform tables config world op) :=
  (Triple.perform honPage hpaced).weaken (fun _ h => h)
    (fun a s h => by simpa only [hcookies, Option.or_none] using h.1)
    fun e s h => by simpa only [hcookies, Option.or_none] using h

/-- The cookies are read again. -/
theorem keeps_cookies {first : Except FlowError (List PlaywrightCookie)} :
    Program.Keeps (InContext before (some first) session) (perform tables config world .cookies) :=
  (Triple.perform rfl fun _ => rfl).weaken (fun _ h => h) (fun _ _ h => h.1) fun _ _ h => h

/-- The listeners are switched on. -/
theorem keeps_switch {f : FlowState → FlowState} (htrace : ∀ s, (f s).trace = s.trace)
    (hsession : ∀ s, (f s).session = s.session) (hobserver : ∀ s, (f s).observer = s.observer) :
    Program.Keeps (InContext before answer session)
      (Program.modify f : Program FlowState FlowError Unit) := by
  refine Program.Keeps.modify fun s hs => ?_
  have := hs.adds (Adds.switch (htrace s) (hsession s) (hobserver s))
  rwa [List.findSome?_nil, Option.or_none] at this

end Perform

/-! ## Requests to the gateway -/

/-- The state at a trace and a session variable. -/
def At (before : List Call) (session : Option Session) (s : FlowState) : Prop :=
  s.trace = before ∧ s.session = session

theorem call_at {before : List Call} {read : Option Session} (op : Op) :
    Program.Triple (At before read) (call world op) (fun a => At (before ++ [⟨op, .ok a⟩]) read)
      fun e => At (before ++ [⟨op, .error e⟩]) read := by
  rintro s ⟨rfl, rfl⟩
  unfold call
  cases h : world.answer s.trace op with
  | ok a => exact ⟨rfl, rfl⟩
  | error e => exact ⟨rfl, rfl⟩

/-- The calls of one request with a client of its own. -/
inductive ClientCalls (session : Session) (method path : Text) : List Call → Prop where
  | unopened (e : FlowError) : ClientCalls session method path [⟨.openClient session, .error e⟩]
  | unsent (e : FlowError) (close : Except FlowError Unit) :
      ClientCalls session method path
        [⟨.openClient session, .ok ()⟩, ⟨.pace path, .error e⟩, ⟨.closeClient session, close⟩]
  | sent (answer : Except FlowError Nat) (close : Except FlowError Unit) :
      ClientCalls session method path
        [⟨.openClient session, .ok ()⟩, ⟨.pace path, .ok ()⟩, ⟨.request session method path, answer⟩,
          ⟨.closeClient session, close⟩]

/-- The calls of a request that is answered. -/
def answered (session : Session) (method path : Text) (status : Nat) : List Call :=
  [⟨.openClient session, .ok ()⟩, ⟨.pace path, .ok ()⟩, ⟨.request session method path, .ok status⟩,
    ⟨.closeClient session, .ok ()⟩]

theorem answered_clientCalls (session : Session) (method path : Text) (status : Nat) :
    ClientCalls session method path (answered session method path status) := .sent _ _

/-- **One request**: the client is opened and closed around it. -/
theorem clientRequest_spec {before : List Call} {read : Option Session} (session : Session)
    (method path : Text) :
    Program.Triple (At before read) (clientRequest world session method path)
      (fun status => At (before ++ answered session method path status) read)
      (fun _ s => ∃ calls, ClientCalls session method path calls ∧ At (before ++ calls) read s) := by
  refine Program.Triple.bind ((call_at (.openClient session)).weaken (fun _ h => h) (fun _ _ h => h)
    fun e _ h => ⟨_, .unopened e, h⟩) fun _ => ?_
  refine Program.Triple.withCleanup
    (M := fun status => At (before ++ [⟨.openClient session, .ok ()⟩] ++ [⟨.pace path, .ok ()⟩] ++
      [⟨.request session method path, .ok status⟩]) read)
    (F := fun _ s => ∃ made, (∀ close, ClientCalls session method path
      (⟨.openClient session, .ok ()⟩ :: (made ++ [⟨.closeClient session, close⟩]))) ∧
      At (before ++ ⟨.openClient session, .ok ()⟩ :: made) read s)
    (Program.Triple.bind ((call_at (.pace path)).weaken (fun _ h => h) (fun _ _ h => h) fun e s h => ?_)
      fun _ => (call_at (.request session method path)).weaken (fun _ h => h) (fun _ _ h => h)
        fun e s h => ?_) (fun status => ?_) fun _ => ?_
  · refine ⟨[⟨.pace path, .error e⟩], fun close => .unsent e close, ?_⟩
    rwa [List.append_assoc] at h
  · refine ⟨[⟨.pace path, .ok ()⟩, ⟨.request session method path, .error e⟩],
      fun close => .sent (.error e) close, ?_⟩
    rwa [List.append_assoc, List.append_assoc] at h
  · refine (call_at (.closeClient session)).weaken (fun _ h => h) (fun _ s h => ?_) fun e s h => ?_
    · rwa [List.append_assoc, List.append_assoc, List.append_assoc] at h
    · refine ⟨_, .sent (.ok status) (.error e), ?_⟩
      rwa [List.append_assoc, List.append_assoc, List.append_assoc] at h
  · refine Program.Triple.ofExists fun made => Program.Triple.ofAnd fun hcalls =>
      (call_at (.closeClient session)).weaken (fun _ h => h) (fun u s h => ?_) fun e s h => ?_
    · refine ⟨_, hcalls (.ok u), ?_⟩
      rwa [List.append_assoc] at h
    · refine ⟨_, hcalls (.error e), ?_⟩
      rwa [List.append_assoc] at h

end ApiTests.Browser
