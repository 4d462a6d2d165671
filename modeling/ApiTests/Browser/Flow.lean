import ApiTests.Client.FlowObserver
import ApiTests.Credentials.Operation
import ApiTests.Logging.RedactText
import ApiTests.Py.Json
import ApiTests.Py.JsonIntegers
import ApiTests.Py.Program
import ApiTests.Py.Query
import ApiTests.Py.Replace
import ApiTests.Py.Sorted

/-!
# The browser flows (`browser_login.py`)

A flow is a computation that calls on the browser, on the shared pacing and on the gateway. What a
call answers, and which events the browser sends while it is under way, is up to a `World`: it is told
every call made before. A page sends its events as long as its context is open, and each is dealt with
by the listener that is there for it; what a listener raises is reported and goes no further, though
the call it came with may raise anything.

The trace holds every call with its answer. The timeouts, and what a page shows beside the hosted
error messages, are left out.
-/

namespace ApiTests.Browser

open Py Client Credentials Logging

/-! ## Calls -/

/-- `Session`. -/
structure Session where
  cookieName : Text
  cookieValue : Text
  deriving Repr, DecidableEq

/-- What is raised. -/
inductive FlowError where
  /-- `PlaywrightError`. -/
  | playwright (message : Text)
  /-- `BrowserLoginError`. -/
  | login (message : Text)
  /-- `BrowserAccountExistsError`, which is a `BrowserLoginError`. -/
  | accountExists (message : Text)
  /-- `httpx.RequestError`. -/
  | request (message : Text)
  /-- Any other `Exception`. -/
  | other (message : Text)
  /-- A `BaseException` that is not an `Exception`. -/
  | interrupt
  deriving Repr, DecidableEq

/-- `isinstance(exc, BrowserLoginError)`. -/
def FlowError.isLogin : FlowError → Bool
  | .login _ | .accountExists _ => true
  | _ => false

/-- `PlaywrightCookie`; an absent key is `none`. -/
structure PlaywrightCookie where
  name : Option Text
  value : Option Text
  domain : Option Text
  path : Option Text
  httpOnly : Option Bool
  secure : Option Bool
  sameSite : Option Text

/-- A call that leaves the program. -/
inductive Op where
  | start
  | stop
  | launch (headless : Bool)
  | closeBrowser
  | newContext
  | closeContext
  | newPage
  | newCdpSession
  /-- `session.on("Fetch.requestPaused", …)`. -/
  | listenPaused
  | enableFetch (urlPattern : Text)
  /-- `page.on("response", …)`. -/
  | listenResponse
  | goto (url : Text)
  | fill (selector value : Text)
  | click (selector : Text)
  /-- The click on the first link named "sign up". -/
  | clickSignUp
  | waitForUrl (pattern : Text)
  | cookies
  | pageUrl
  | count (selector : Text)
  | isVisible (selector : Text) (index : Nat)
  | innerText (selector : Text) (index : Nat)
  | continueRequest (requestId : Text)
  /-- `pace_shared_request` and the pacing of a client. -/
  | pace (path : Text)
  | openClient (session : Session)
  | request (session : Session) (method path : Text)
  | closeClient (session : Session)
  deriving Repr, DecidableEq

/-- What a call returns: the status of a response where there is one. -/
@[reducible] def Op.Answer : Op → Type
  | .goto _ => Option Nat
  | .cookies => List PlaywrightCookie
  | .pageUrl => Text
  | .count _ => Nat
  | .isVisible _ _ => Bool
  | .innerText _ _ => Text
  | .request _ _ _ => Nat
  | _ => Unit

/-- A call and its answer. -/
structure Call where
  op : Op
  answer : Except FlowError op.Answer

/-- What the browser sends to its listeners. -/
inductive BrowserEvent where
  /-- `Fetch.requestPaused`. -/
  | requestPaused (event : Json PyNumber)
  | response (response : BrowserResponse)

/-- The browser, the pacing and the gateway: what they do next, behind the calls made so far. -/
structure World where
  answer : List Call → (op : Op) → Except FlowError op.Answer
  events : List Call → Op → List BrowserEvent

/-- The trace, and what a flow holds in its variables and listeners. -/
structure FlowState where
  trace : List Call
  observer : Option BrowserFlowObserver
  /-- The listener on `Fetch.requestPaused` is there. -/
  pacing : Bool
  /-- The listener on `response` is there. -/
  observing : Bool
  session : Option Session

variable (tables : UrlTables) (config : EnvironmentConfig) (world : World)

/-- A call during which no listener runs. -/
def call (op : Op) : Program FlowState FlowError op.Answer := fun s =>
  (world.answer s.trace op, { s with trace := s.trace ++ [⟨op, world.answer s.trace op⟩] })

/-! ## The listeners -/

/-- A `ValueError` of `urlsplit`. -/
def valueError {α : Type} (result : Except Text α) : Except FlowError α := result.mapError .other

/-- `observer.record_…`, where there is an observer. -/
def record (event : FlowEvent) : Program FlowState FlowError Unit :=
  Program.modify fun s => { s with observer := s.observer.map fun o => o.record tables config event }

/-- `_continue_paced_gateway_request`. -/
def continuePacedGatewayRequest : Json PyNumber → Program FlowState FlowError Unit
  | .dict event =>
    match event.lookup (lit "requestId"), event.lookup (lit "request") with
    | some (.str requestId), some (.dict request) =>
      match request.lookup (lit "url") with
      | some (.str requestUrl) => do
        if ← Program.lift (valueError (isSameOrigin tables requestUrl config.origin)) then
          let path ← Program.lift (valueError (requestPathFromUrl tables requestUrl))
          call world (.pace path)
          record tables config (.paced path)
        call world (.continueRequest requestId)
      | _ => Program.raise (.login (lit "browser request interception omitted its URL"))
    | _, _ => Program.raise (.login (lit "browser request interception omitted request metadata"))
  | _ => Program.raise (.login (lit "browser request interception returned an invalid event"))

/-- An event at the listener that is there for it. -/
def deliver : BrowserEvent → Program FlowState FlowError Unit
  | .requestPaused event => do
    if (← Program.get).pacing then continuePacedGatewayRequest tables config world event
  | .response response => do
    if (← Program.get).observing then record tables config (.response response)

/-- The listeners deal with the events, one after the other. -/
def deliverAll (events : List BrowserEvent) (s : FlowState) : FlowState :=
  events.foldl (fun s event => (deliver tables config world event s).2) s

/-- A call to the page, with the events that come while it is under way. -/
def perform (op : Op) : Program FlowState FlowError op.Answer := fun s =>
  call world op (deliverAll tables config world (world.events s.trace op) s)

/-! ## What a flow reads -/

/-- `read_session_cookie`, behind `context.cookies()`. -/
def readSessionCookie (cookieName : Text) : List PlaywrightCookie → Except FlowError Session
  | [] => .error (.login (cookieName ++ lit " cookie was not set after hosted login"))
  | cookie :: cookies =>
    if cookie.name = some cookieName then
      if cookie.value.getD [] = [] then
        .error (.login (cookieName ++ lit " cookie was present but empty"))
      else .ok ⟨cookieName, cookie.value.getD []⟩
    else readSessionCookie cookieName cookies

/-- `BrowserCookieMetadata`. -/
structure BrowserCookieMetadata where
  name : Text
  domain : Text
  path : Text
  httpOnly : Bool
  secure : Bool
  sameSite : Text
  deriving Repr, DecidableEq

/-- `read_session_cookie_metadata`, behind `context.cookies()`. -/
def readSessionCookieMetadata (cookieName : Text) :
    List PlaywrightCookie → Except FlowError BrowserCookieMetadata
  | [] => .error (.login (cookieName ++ lit " cookie metadata was not available after hosted login"))
  | cookie :: cookies =>
    if cookie.name = some cookieName then
      .ok ⟨cookieName, cookie.domain.getD [], cookie.path.getD [], cookie.httpOnly == some true,
        cookie.secure == some true, cookie.sameSite.getD []⟩
    else readSessionCookieMetadata cookieName cookies

/-- `_same_origin_page_path`. -/
def sameOriginPagePath (pageUrl : Text) : Except FlowError Text := do
  if ← valueError (isSameOrigin tables pageUrl config.origin) then
    let parsed ← valueError (urlsplit tables.checks pageUrl)
    let path := if parsed.path = [] then lit "/" else parsed.path
    .ok (if parsed.query = [] then path else path ++ lit "?" ++ parsed.query)
  else
    .error (.login (lit "browser login did not finish on the selected application origin"))

/-- `_validate_expected_return_path`. -/
def validateExpectedReturnPath (value : Text) : Except FlowError Unit := do
  let parsed ← valueError (urlsplit tables.checks value)
  if ¬ lit "/" <+: value ∨ lit "//" <+: value ∨ lit "://" <:+: value ∨ parsed.scheme ≠ [] ∨
      parsed.netloc ≠ [] ∨ parsed.fragment ≠ [] then
    .error (.login (lit "expected browser return path must be a safe same-origin path"))
  else .ok ()

/-- `Sequence[str]`: a text is a sequence of its characters, which the code tells apart. -/
inductive ReturnPaths where
  | text (path : Text)
  | paths (paths : List Text)

/-- `tuple(dict.fromkeys(texts))`. -/
def fromKeys (texts : List Text) : List Text :=
  (Dict.ofList (texts.map fun t => (t, ()))).entries.map Prod.fst

/-- `_validate_expected_return_path` on each path. -/
def validateEach : List Text → Except FlowError Unit
  | [] => .ok ()
  | path :: paths => do
    validateExpectedReturnPath tables path
    validateEach paths

/-- The paths of a call that does not give both arguments. -/
def chosenReturnPaths (expectedReturnPath : Option Text) :
    Option ReturnPaths → Except FlowError (List Text)
  | none =>
    .ok [if expectedReturnPath.getD [] = [] then config.browserAuthContract.defaultReturnPath
      else expectedReturnPath.getD []]
  | some (.text path) => .ok [path]
  | some (.paths paths) =>
    if fromKeys paths = [] then
      .error (.login (lit "expected browser return paths must not be empty"))
    else .ok (fromKeys paths)

/-- `_resolve_expected_return_paths`. -/
def resolveExpectedReturnPaths (expectedReturnPath : Option Text)
    (expectedReturnPaths : Option ReturnPaths) : Except FlowError (List Text) :=
  if expectedReturnPath.isSome ∧ expectedReturnPaths.isSome then
    .error (.login (lit
      "expected_return_path and expected_return_paths cannot both be provided"))
  else do
    let paths ← chosenReturnPaths config expectedReturnPath expectedReturnPaths
    validateEach tables paths
    .ok paths

/-- `BrowserLoginResult`. -/
structure BrowserLoginResult where
  session : Session
  sessionCookie : BrowserCookieMetadata
  cookieNames : List Text
  finalPath : Text
  callbackObserved : Bool
  observations : List BrowserFlowObservation

/-! ## Steps of a flow -/

/-- `_redact_browser_error`. -/
def redactBrowserError (message : Text) (credentials : BrowserLoginCredentials) : Text :=
  let redacted := replaceText credentials.password redactedMark message
  let redacted := replaceText credentials.username redactedMark redacted
  publicRedactSensitiveText tables.unicode redacted

/-- `_pace_public_gateway_requests`. -/
def pacePublicGatewayRequests : Program FlowState FlowError Unit := do
  perform tables config world .newCdpSession
  perform tables config world .listenPaused
  Program.modify fun s => { s with pacing := true }
  perform tables config world (.enableFetch (config.origin ++ lit "/*"))

/-- The query of the login entry, or the `UnicodeEncodeError` of `urlencode`. -/
def returnQuery : Option Text → Except FlowError Text
  | none => .ok []
  | some url =>
    match urlencode [(lit "returnUrl", url)] with
    | none => .error (.other (lit "surrogates not allowed"))
    | some query => .ok (lit "?" ++ query)

/-- The check of the response of the login entry, where there is one. -/
def checkEntry : Option Nat → Except FlowError Unit
  | none => .ok ()
  | some status =>
    if 400 ≤ status then .error (.login (lit "public login entry failed: HTTP " ++ natText status))
    else .ok ()

/-- `_open_public_login`. -/
def openPublicLogin (returnUrl : Option Text) : Program FlowState FlowError Unit := do
  let query ← Program.lift (returnQuery returnUrl)
  let response ← perform tables config world
    (.goto (config.origin ++ lit "/oauth2/authorization/idp" ++ query))
  Program.lift (checkEntry response)

/-- A hosted form, filled in and submitted. -/
def fillHostedForm (email : Text) (credentials : BrowserLoginCredentials) :
    Program FlowState FlowError Unit := do
  perform tables config world (.fill email credentials.username)
  perform tables config world
    (.fill (lit "input[name=\"password\"], input[type=\"password\"]") credentials.password)
  perform tables config world (.click (lit
    "button[type=\"submit\"], button[name=\"action\"], input[type=\"submit\"]"))

/-- `fill_hosted_login_form`. -/
def fillHostedLoginForm (credentials : BrowserLoginCredentials) : Program FlowState FlowError Unit :=
  fillHostedForm tables config world
    (lit "input[name=\"username\"], input[name=\"email\"], input[type=\"email\"]") credentials

/-- `fill_hosted_signup_form`. -/
def fillHostedSignupForm (credentials : BrowserLoginCredentials) : Program FlowState FlowError Unit :=
  fillHostedForm tables config world
    (lit "input[name=\"email\"], input[name=\"username\"], input[type=\"email\"]") credentials

/-- `_wait_for_application`. -/
def waitForApplication : Program FlowState FlowError Unit :=
  perform tables config world (.waitForUrl (config.origin ++ lit "/**"))

/-- The visible texts of the items of a selector. -/
def hostedItems (selector : Text) : List Nat → Program FlowState FlowError (List Text)
  | [] => pure []
  | index :: indices => do
    if ← perform tables config world (.isVisible selector index) then
      let text := strip (← perform tables config world (.innerText selector index))
      let texts ← hostedItems selector indices
      pure (if text = [] then texts else text :: texts)
    else hostedItems selector indices

/-- The visible texts of each selector. -/
def hostedTexts : List Text → Program FlowState FlowError (List Text)
  | [] => pure []
  | selector :: selectors => do
    let count ← perform tables config world (.count selector)
    let texts ← hostedItems tables config world selector (List.range count)
    let others ← hostedTexts selectors
    pure (texts ++ others)

/-- `_hosted_error_text`. -/
def hostedErrorText : Program FlowState FlowError Text := do
  let messages ← hostedTexts tables config world
    [lit "[role=\"alert\"]", lit ".ulp-input-error-message", lit "[data-error-code]"]
  pure ((lit " ").intercalate messages)

/-- `_is_existing_account_error`. -/
def isExistingAccountError (message : Text) : Bool :=
  decide (lit "already exists" <:+: tables.unicode.casefold message ∨
    lit "user exists" <:+: tables.unicode.casefold message)

/-! ## Requests to the gateway -/

/-- `with GatewayClient(config, session=session)`, and one `raw_request` in it. -/
def clientRequest (session : Session) (method path : Text) : Program FlowState FlowError Nat := do
  call world (.openClient session)
  Program.withCleanup
    (do
      call world (.pace path)
      call world (.request session method path))
    (call world (.closeClient session))

/-- `verify_session`. -/
def verifySession (session : Session) : Program FlowState FlowError Unit := do
  let status ← Program.handle (clientRequest world session (lit "GET") (lit "/auth/v1/user"))
    fun e => match e with
      | .request message =>
        Program.raise (.login (lit "session verification request failed: " ++ message))
      | e => Program.raise e
  if status = 200 then pure ()
  else Program.raise (.login (lit "GET /auth/v1/user failed after browser login: HTTP " ++
    natText status))

/-- `_cleanup_failed_browser_session`. -/
def cleanupFailedBrowserSession (session : Session) : Program FlowState FlowError Unit :=
  Program.handle
    (do
      let _ ← clientRequest world session (lit "GET") (lit "/logout")
      pure ())
    fun e => match e with
      | .interrupt => Program.raise .interrupt
      | _ => pure ()

/-- The cleanup of the session the flow has read, if it has read one. -/
def cleanupRead : Program FlowState FlowError Unit := do
  match (← Program.get).session with
  | none => pure ()
  | some session => cleanupFailedBrowserSession world session

/-! ## The flows -/

/-- The variables and the listeners of a flow that begins. -/
def beginFlow : Program FlowState FlowError Unit :=
  Program.modify fun s => ⟨s.trace, none, false, false, none⟩

/-- `with sync_playwright()`, the browser and the context, each closed whatever happens. -/
def inContext {α : Type} (headless : Bool) (body : Program FlowState FlowError α) :
    Program FlowState FlowError α := do
  call world .start
  Program.withCleanup
    (do
      call world (.launch headless)
      Program.withCleanup
        (do
          call world .newContext
          Program.withCleanup body (perform tables config world .closeContext))
        (call world .closeBrowser))
    (call world .stop)

/-- What the audit raises. -/
def auditError : Except AuditError Unit → Except FlowError Unit
  | .ok () => .ok ()
  | .error (.browserLoginError message) => .error (.login message)
  | .error (.valueError message) => .error (.other message)

/-- `repr` of a tuple of texts. -/
def reprTuple (texts : List Text) : Text :=
  lit "(" ++ (lit ", ").intercalate (texts.map (reprText tables.unicode)) ++
    (if texts.length = 1 then lit ",)" else lit ")")

/-- What `login_flow_with_browser` does in the context. -/
def loginInContext (credentials : BrowserLoginCredentials) (returnUrl : Option Text)
    (allowedReturnPaths : List Text) : Program FlowState FlowError BrowserLoginResult := do
  Program.modify fun s => { s with observer := some ⟨[], []⟩ }
  perform tables config world .newPage
  pacePublicGatewayRequests tables config world
  perform tables config world .listenResponse
  Program.modify fun s => { s with observing := true }
  openPublicLogin tables config world returnUrl
  fillHostedLoginForm tables config world credentials
  waitForApplication tables config world
  let session ← Program.lift
    (readSessionCookie config.sessionCookieName (← perform tables config world .cookies))
  Program.modify fun s => { s with session := some session }
  let sessionCookie ← Program.lift
    (readSessionCookieMetadata config.sessionCookieName (← perform tables config world .cookies))
  let cookieNames := sortTexts
    ((← perform tables config world .cookies).filterMap PlaywrightCookie.name)
  let observer := (← Program.get).observer.getD ⟨[], []⟩
  Program.lift (auditError (observer.assertRateLimitedResponsesWerePaced tables))
  let finalPath ← Program.lift
    (sameOriginPagePath tables config (← perform tables config world .pageUrl))
  if finalPath ∉ allowedReturnPaths then
    Program.raise (.login (lit "browser login returned to an unexpected same-origin path: " ++
      reprText tables.unicode finalPath ++ lit "; expected one of " ++
      reprTuple tables allowedReturnPaths))
  else
    let callbackObserved := observer.observations.any fun observation =>
      observation.sameOriginPath == some config.browserAuthContract.callbackPath
    if callbackObserved = true then
      pure ⟨session, sessionCookie, cookieNames, finalPath, callbackObserved, observer.observations⟩
    else
      Program.raise (.login
        (lit "browser login completed without observing the OAuth callback path"))

/-- `login_flow_with_browser`. -/
def loginFlowWithBrowser (credentials : BrowserLoginCredentials) (returnUrl expectedReturnPath :
    Option Text) (expectedReturnPaths : Option ReturnPaths) :
    Program FlowState FlowError BrowserLoginResult := do
  match config.auth.browser with
  | none => Program.raise (.login (lit "browser login requires browser settings"))
  | some browserConfig =>
    let allowedReturnPaths ← Program.lift
      (resolveExpectedReturnPaths tables config expectedReturnPath expectedReturnPaths)
    beginFlow
    Program.handle
      (inContext tables config world browserConfig.headless
        (loginInContext tables config world credentials returnUrl allowedReturnPaths))
      fun e => match e with
        | .playwright message => do
          cleanupRead world
          Program.raise (.login (lit "browser login failed: " ++
            redactBrowserError tables message credentials))
        | .login message => do
          cleanupRead world
          Program.raise (.login message)
        | .accountExists message => do
          cleanupRead world
          Program.raise (.accountExists message)
        | e => Program.raise e

/-- `login_with_browser`. -/
def loginWithBrowser (credentials : BrowserLoginCredentials)
    (expectedReturnPaths : Option ReturnPaths) : Program FlowState FlowError Session := do
  let result ← loginFlowWithBrowser tables config world credentials none none expectedReturnPaths
  Program.handle (verifySession world result.session) fun e =>
    if e.isLogin = true then do
      cleanupFailedBrowserSession world result.session
      Program.raise e
    else Program.raise e
  pure result.session

/-- What `signup_with_browser` does in the context. -/
def signupInContext (credentials : BrowserLoginCredentials) :
    Program FlowState FlowError Session := do
  perform tables config world .newPage
  pacePublicGatewayRequests tables config world
  openPublicLogin tables config world none
  perform tables config world .clickSignUp
  fillHostedSignupForm tables config world credentials
  Program.handle (waitForApplication tables config world) fun e => match e with
    | .playwright message => do
      let errorText ← hostedErrorText tables config world
      if isExistingAccountError tables errorText then
        Program.raise (.accountExists (lit
          "hosted signup reports that the saved local account already exists"))
      else
        Program.raise (.login (lit "browser signup did not return to the application: " ++
          redactBrowserError tables (if errorText = [] then message else errorText) credentials))
    | e => Program.raise e
  let session ← Program.lift
    (readSessionCookie config.sessionCookieName (← perform tables config world .cookies))
  Program.modify fun s => { s with session := some session }
  pure session

/-- `signup_with_browser`. -/
def signupWithBrowser (credentials : BrowserLoginCredentials) :
    Program FlowState FlowError Session := do
  match config.auth.browser with
  | none => Program.raise (.login (lit "browser signup requires browser settings"))
  | some browserConfig =>
    beginFlow
    let session ← Program.handle
      (inContext tables config world browserConfig.headless
        (signupInContext tables config world credentials))
      fun e => match e with
        | .playwright message => Program.raise (.login (lit "browser signup failed: " ++
            redactBrowserError tables message credentials))
        | e => Program.raise e
    verifySession world session
    pure session

end ApiTests.Browser
