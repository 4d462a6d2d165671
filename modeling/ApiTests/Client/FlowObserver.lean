import ApiTests.Client.RatePolicy
import ApiTests.Config
import ApiTests.Py.Unicode
import ApiTests.Supply

/-!
# The audit of browser responses (`browser_login.py:53-122, 517-526`, `client.py:195-228`)

`BrowserFlowObserver` notes the paths whose requests were paced and what the browser received, each in
a list of its own. `assert_rate_limited_responses_were_paced` takes one noted path away for each
same-origin response whose path has a public rate policy.

A sequence of events is met (`Supply.Met`) when each such response has a reservation of its path that
was noted before it, no reservation twice.

Results:
* `run_eq`: what the two lists hold after a sequence of events.
* `audit_eq_ok_iff`: **the audit passes iff `urlsplit` reads each path and none has more responses
  than reservations.**
* **`audit_catches_iff`**: exactly on which sequences the audit passes iff they are met.
-/

namespace ApiTests.Client

open Py Supply

/-- What the reading of URLs takes from Python's tables. -/
structure UrlTables where
  checks : NetlocChecks
  unicode : Unicode
  /-- `str.lower`. -/
  lower : Text → Text

/-! ## Origins -/

/-- `SplitResult._hostinfo`: the host and the port, each as it stands. -/
def hostInfo (netloc : Text) : Text × Option Text :=
  let hostinfo := (netloc.reverse.takeWhile fun c => c != 64).reverse
  let (hostname, port) :=
    if 91 ∈ hostinfo then
      let (hostname, rest) := splitOnce 93 (splitOnce 91 hostinfo).2
      (hostname, (splitOnce 58 rest).2)
    else splitOnce 58 hostinfo
  (hostname, if port = [] then none else some port)

variable (tables : UrlTables)

/-- `SplitResult.hostname`; a zone after `%` keeps its case. -/
def hostname (parts : SplitResult) : Option Text :=
  let name := (hostInfo parts.netloc).1
  if name = [] then none
  else some (tables.lower (name.takeWhile fun c => c != 37) ++ name.dropWhile fun c => c != 37)

/-- `SplitResult.port`, or its `ValueError`. -/
def port (parts : SplitResult) : Except Unit (Option Nat) :=
  match (hostInfo parts.netloc).2 with
  | none => .ok none
  | some digits =>
    let value := digits.foldl (fun n c => 10 * n + (c - 48)) 0
    if digits.all isDigit ∧ value ≤ 65535 then .ok (some value) else .error ()

/-- `_normalized_origin`. -/
def normalizedOrigin (parts : SplitResult) : Option (Text × Text × Nat) :=
  let scheme := tables.unicode.casefold parts.scheme
  match hostname tables parts, port parts with
  | some host, .ok port =>
    if scheme = lit "http" ∨ scheme = lit "https" then
      some (scheme, tables.unicode.casefold host,
        port.getD (if scheme = lit "https" then 443 else 80))
    else none
  | _, _ => none

/-- `is_same_origin`, or the message of a `ValueError` of `urlsplit`. -/
def isSameOrigin (requestUrl origin : Text) : Except Text Bool := do
  let requestParts ← urlsplit tables.checks requestUrl
  let selectedParts ← urlsplit tables.checks origin
  .ok (match normalizedOrigin tables requestParts with
    | none => false
    | some requestOrigin => normalizedOrigin tables selectedParts == some requestOrigin)

/-- `request_path_from_url`. -/
def requestPathFromUrl (requestUrl : Text) : Except Text Text :=
  (urlsplit tables.checks requestUrl).map SplitResult.path

/-! ## The observer -/

/-- `ExternalHostClassification`. -/
inductive ExternalHostClassification where
  | identityProvider
  | externalOther
  deriving Repr, DecidableEq

/-- `_external_host_classification`. -/
def externalHostClassification (config : EnvironmentConfig) (requestUrl : Text) :
    Except Text ExternalHostClassification := do
  let parts ← urlsplit tables.checks requestUrl
  .ok (match hostname tables parts with
    | none => .externalOther
    | some host =>
      if config.browserAuthContract.providerHostSuffixes.any fun suffix =>
          tables.unicode.casefold host == suffix ||
            decide ((lit "." ++ suffix) <:+ tables.unicode.casefold host)
      then .identityProvider else .externalOther)

/-- `Response` of the browser. -/
structure BrowserResponse where
  method : Text
  status : Nat
  url : Text

/-- `BrowserFlowObservation`. -/
structure BrowserFlowObservation where
  method : Text
  status : Nat
  sameOriginPath : Option Text
  externalHostClassification : Option ExternalHostClassification

/-- `BrowserFlowObserver`. -/
structure BrowserFlowObserver where
  observations : List BrowserFlowObservation
  pacedSameOriginPaths : List Text

variable (config : EnvironmentConfig)

/-- The observation of a response. -/
def observe (response : BrowserResponse) : Except Text BrowserFlowObservation := do
  if ← isSameOrigin tables response.url config.origin then
    let path ← requestPathFromUrl tables response.url
    .ok ⟨response.method, response.status, some path, none⟩
  else
    let classification ← externalHostClassification tables config response.url
    .ok ⟨response.method, response.status, none, some classification⟩

/-- What happens to an observer. -/
inductive FlowEvent where
  /-- `record_paced_same_origin_path(path)`. -/
  | paced (path : Text)
  /-- `record_response(response)`. -/
  | response (response : BrowserResponse)

/-- An event; a call that raises leaves the observer as it is. -/
def BrowserFlowObserver.record (observer : BrowserFlowObserver) : FlowEvent → BrowserFlowObserver
  | .paced path => { observer with pacedSameOriginPaths := observer.pacedSameOriginPaths ++ [path] }
  | .response response =>
    match observe tables config response with
    | .ok observation => { observer with observations := observer.observations ++ [observation] }
    | .error _ => observer

/-- An observer after a sequence of events. -/
def observerAfter (events : List FlowEvent) : BrowserFlowObserver :=
  events.foldl (BrowserFlowObserver.record tables config) ⟨[], []⟩

/-- What the audit raises. -/
inductive AuditError where
  | browserLoginError (message : Text)
  /-- A `ValueError` of `urlsplit`. -/
  | valueError (message : Text)
  deriving Repr, DecidableEq

/-- The loop of the audit, the paths left being `pacedPaths`. -/
def auditFrom : List BrowserFlowObservation → List Text → Except AuditError Unit
  | [], _ => .ok ()
  | observation :: observations, pacedPaths =>
    match observation.sameOriginPath with
    | none => auditFrom observations pacedPaths
    | some path =>
      match classifyPublicRatePolicy tables.checks path with
      | .error message => .error (.valueError message)
      | .ok none => auditFrom observations pacedPaths
      | .ok (some _) =>
        if path ∈ pacedPaths then auditFrom observations (pacedPaths.erase path)
        else .error (.browserLoginError
          (lit "same-origin rate-limited browser response bypassed shared pacing: " ++ path))

/-- `assert_rate_limited_responses_were_paced`. -/
def BrowserFlowObserver.assertRateLimitedResponsesWerePaced (observer : BrowserFlowObserver) :
    Except AuditError Unit :=
  auditFrom tables observer.observations observer.pacedSameOriginPaths

/-! ## What the observer holds -/

/-- The path of an observation that has a public rate policy. -/
def BrowserFlowObservation.limitedPath (observation : BrowserFlowObservation) : Option Text :=
  match observation.sameOriginPath with
  | none => none
  | some path =>
    match classifyPublicRatePolicy tables.checks path with
    | .ok (some _) => some path
    | _ => none

def FlowEvent.observation? : FlowEvent → Option BrowserFlowObservation
  | .paced _ => none
  | .response received =>
    match observe tables config received with
    | .ok observation => some observation
    | .error _ => none

def FlowEvent.pacedPath? : FlowEvent → Option Text
  | .paced path => some path
  | .response _ => none

/-- What an event is to the audit: a reservation supplies its path, a same-origin response whose path
has a public rate policy demands it. -/
def FlowEvent.token : FlowEvent → Token Text
  | .paced path => .supply path
  | .response received =>
    match observe tables config received with
    | .ok observation =>
      match observation.limitedPath tables with
      | some path => .demand path
      | none => .other
    | .error _ => .other

variable {tables config}

/-- What the two lists hold after a sequence of events. -/
theorem foldl_record (events : List FlowEvent) (observer : BrowserFlowObserver) :
    events.foldl (BrowserFlowObserver.record tables config) observer =
      ⟨observer.observations ++ events.filterMap (FlowEvent.observation? tables config),
        observer.pacedSameOriginPaths ++ events.filterMap FlowEvent.pacedPath?⟩ := by
  induction events generalizing observer with
  | nil => simp
  | cons event events ih =>
    rw [List.foldl_cons, ih, List.filterMap_cons, List.filterMap_cons]
    cases event with
    | paced path => simp [BrowserFlowObserver.record, FlowEvent.observation?, FlowEvent.pacedPath?]
    | response received =>
      simp only [BrowserFlowObserver.record, FlowEvent.observation?, FlowEvent.pacedPath?]
      cases observe tables config received with
      | ok observation => simp
      | error message => simp

theorem run_eq (events : List FlowEvent) : observerAfter tables config events =
    ⟨events.filterMap (FlowEvent.observation? tables config),
      events.filterMap FlowEvent.pacedPath?⟩ :=
  foldl_record events ⟨[], []⟩

/-! ## The audit -/

/-- `urlsplit` reads the path of an observation. -/
def BrowserFlowObservation.Classified (tables : UrlTables) (observation : BrowserFlowObservation) :
    Prop :=
  ∀ path, observation.sameOriginPath = some path →
    ∃ policy, classifyPublicRatePolicy tables.checks path = .ok policy

/-- **When the audit passes**: each path is read, and none has more responses than reservations. -/
theorem auditFrom_eq_ok_iff {observations : List BrowserFlowObservation} {pacedPaths : List Text} :
    auditFrom tables observations pacedPaths = .ok () ↔
      (∀ observation ∈ observations, observation.Classified tables) ∧
      ∀ path, (observations.filterMap (BrowserFlowObservation.limitedPath tables)).count path ≤
        pacedPaths.count path := by
  induction observations generalizing pacedPaths with
  | nil => simp [auditFrom]
  | cons observation observations ih =>
    rw [List.forall_mem_cons, List.filterMap_cons, auditFrom]
    cases hpath : observation.sameOriginPath with
    | none =>
      have hlimited : observation.limitedPath tables = none := by
        rw [BrowserFlowObservation.limitedPath, hpath]
      have hread : observation.Classified tables := fun path h => by
        rw [hpath] at h
        cases h
      simp only [hlimited, hread, true_and]
      exact ih
    | some path =>
      dsimp only
      cases hclass : classifyPublicRatePolicy tables.checks path with
      | error message =>
        refine iff_of_false (fun h => (nomatch h)) ?_
        rintro ⟨⟨hread, -⟩, -⟩
        obtain ⟨policy, hpolicy⟩ := hread path hpath
        rw [hclass] at hpolicy
        cases hpolicy
      | ok policy =>
        have hread : observation.Classified tables := fun path' h => by
          rw [hpath] at h
          cases h
          exact ⟨policy, hclass⟩
        cases policy with
        | none =>
          have hlimited : observation.limitedPath tables = none := by
            rw [BrowserFlowObservation.limitedPath, hpath]
            simp only [hclass]
          simp only [hlimited, hread, true_and]
          exact ih
        | some policy =>
          have hlimited : observation.limitedPath tables = some path := by
            rw [BrowserFlowObservation.limitedPath, hpath]
            simp only [hclass]
          simp only [hlimited, hread, true_and, List.count_cons]
          by_cases hmem : path ∈ pacedPaths
          · rw [if_pos hmem, ih]
            refine and_congr_right' (forall_congr' fun path' => ?_)
            have hpos := List.count_pos_iff.mpr hmem
            rw [List.count_erase]
            by_cases hsame : path = path'
            · subst hsame
              simp only [BEq.rfl, if_true]
              omega
            · simp [hsame]
          · rw [if_neg hmem]
            refine iff_of_false (fun h => (nomatch h)) fun h => ?_
            have hcount := h.2 path
            rw [List.count_eq_zero_of_not_mem hmem, if_pos (beq_self_eq_true path)] at hcount
            omega

/-! ## The two lists and the events -/

/-- `urlsplit` reads the path the observation of an event holds. -/
def FlowEvent.Classified (tables : UrlTables) (config : EnvironmentConfig) (event : FlowEvent) :
    Prop :=
  ∀ observation, event.observation? tables config = some observation → observation.Classified tables

/-- What the events are to the audit. -/
def tokens (tables : UrlTables) (config : EnvironmentConfig) (events : List FlowEvent) :
    List (Token Text) :=
  events.map (FlowEvent.token tables config)

theorem token_response (received : BrowserResponse) :
    (FlowEvent.response received).token tables config =
      (((FlowEvent.response received).observation? tables config).bind
        (BrowserFlowObservation.limitedPath tables)).elim .other .demand := by
  simp only [FlowEvent.token, FlowEvent.observation?]
  cases observe tables config received with
  | error message => rfl
  | ok observation =>
    simp only [Option.bind_some]
    cases observation.limitedPath tables with
    | none => rfl
    | some path => rfl

/-- The reservations of a path. -/
theorem count_supply (events : List FlowEvent) (path : Text) :
    (tokens tables config events).count (.supply path) =
      (events.filterMap FlowEvent.pacedPath?).count path := by
  unfold tokens
  induction events with
  | nil => rfl
  | cons event events ih =>
    rw [List.map_cons, List.count_cons, ih, List.filterMap_cons]
    cases event with
    | paced path' =>
      simp only [FlowEvent.token, FlowEvent.pacedPath?, List.count_cons, beq_iff_eq,
        Token.supply.injEq]
    | response received =>
      rw [token_response]
      cases ((FlowEvent.response received).observation? tables config).bind
        (BrowserFlowObservation.limitedPath tables) with
      | none => rfl
      | some path' => rfl

/-- The same-origin responses of a path with a public rate policy. -/
theorem count_demand (events : List FlowEvent) (path : Text) :
    (tokens tables config events).count (.demand path) =
      ((events.filterMap (FlowEvent.observation? tables config)).filterMap
        (BrowserFlowObservation.limitedPath tables)).count path := by
  unfold tokens
  induction events with
  | nil => rfl
  | cons event events ih =>
    rw [List.map_cons, List.count_cons, ih, List.filterMap_cons]
    cases event with
    | paced path' => rfl
    | response received =>
      rw [token_response]
      cases (FlowEvent.response received).observation? tables config with
      | none => rfl
      | some observation =>
        dsimp only
        rw [Option.bind_some, List.filterMap_cons]
        cases observation.limitedPath tables with
        | none => rfl
        | some path' =>
          simp only [Option.elim_some, List.count_cons, beq_iff_eq, Token.demand.injEq]

/-- **When the audit passes after a sequence of events.** -/
theorem audit_eq_ok_iff (events : List FlowEvent) :
    (observerAfter tables config events).assertRateLimitedResponsesWerePaced tables = .ok () ↔
      (∀ event ∈ events, event.Classified tables config) ∧ Enough (tokens tables config events) := by
  rw [run_eq, BrowserFlowObserver.assertRateLimitedResponsesWerePaced, auditFrom_eq_ok_iff]
  refine and_congr ⟨fun h event hevent observation hobs => ?_, fun h observation hobs => ?_⟩ ?_
  · exact h observation (List.mem_filterMap.mpr ⟨event, hevent, hobs⟩)
  · obtain ⟨event, hevent, hobs⟩ := List.mem_filterMap.mp hobs
    exact h event hevent observation hobs
  · refine forall_congr' fun path => ?_
    rw [count_supply, count_demand]

/-- A response comes before its reservation, and each response has one in the end. -/
def ReservedLate (tables : UrlTables) (config : EnvironmentConfig) (events : List FlowEvent) : Prop :=
  Enough (tokens tables config events) ∧ ∃ n, ¬ Enough (tokens tables config (events.take n))

/-- A sequence is met when no beginning of it lacks a reservation. -/
theorem met_tokens_iff (events : List FlowEvent) :
    Met (tokens tables config events) ↔ ∀ n, Enough (tokens tables config (events.take n)) := by
  rw [met_iff]
  unfold tokens
  simp only [List.map_take]

/-- The whole sequence is a beginning of itself. -/
theorem enough_of_met {events : List FlowEvent} (h : Met (tokens tables config events)) :
    Enough (tokens tables config events) := by
  have hwhole := (met_tokens_iff events).mp h events.length
  rwa [List.take_length] at hwhole

/-- **When the audit passes iff each same-origin response with a public rate policy has an earlier
reservation of its path for itself**: `urlsplit` reads each path and no response comes before a
reservation that is made in the end, or it does not and a response has none. -/
theorem audit_catches_iff (tables : UrlTables) (config : EnvironmentConfig)
    (events : List FlowEvent) :
    ((observerAfter tables config events).assertRateLimitedResponsesWerePaced tables = .ok () ↔
      Met (tokens tables config events)) ↔
    ((∀ event ∈ events, event.Classified tables config) ∧ ¬ ReservedLate tables config events) ∨
    ((∃ event ∈ events, ¬ event.Classified tables config) ∧
      ∃ n, ¬ Enough (tokens tables config (events.take n))) := by
  rw [audit_eq_ok_iff]
  by_cases hread : ∀ event ∈ events, event.Classified tables config
  · have hnone : ¬ ∃ event ∈ events, ¬ event.Classified tables config := by
      rintro ⟨event, hevent, hnot⟩
      exact hnot (hread event hevent)
    rw [and_iff_right hread, and_iff_right hread, or_iff_left (fun h => hnone h.1)]
    refine ⟨fun h ⟨henough, n, hn⟩ => hn ((met_tokens_iff events).mp (h.mp henough) n), fun h => ?_⟩
    refine ⟨fun henough => (met_tokens_iff events).mpr fun n => ?_, enough_of_met⟩
    exact by_contra fun hn => h ⟨henough, n, hn⟩
  · have hsome : ∃ event ∈ events, ¬ event.Classified tables config := by
      simpa only [not_forall, exists_prop] using hread
    have haudit : ¬ ((∀ event ∈ events, event.Classified tables config) ∧
        Enough (tokens tables config events)) := fun h => hread h.1
    rw [or_iff_right (fun h => hread h.1), and_iff_right hsome, iff_false_left haudit,
      met_tokens_iff, not_forall]

/-! ## A response that came first -/

/-- ASCII tables. -/
def asciiUrlTables : UrlTables := ⟨⟨fun _ => none, fun _ => none⟩, .ascii, fun t => t.map lowerAscii⟩

/-- A response whose request was not paced, then a paced request that was given up. -/
def responseThenReservation : List FlowEvent :=
  [.response ⟨lit "GET", 200, lit "https://app.budgetanalyzer.localhost/api/x"⟩,
    .paced (lit "/api/x")]

/-- The audit passes though the only response has no reservation before it. -/
theorem responseThenReservation_passes :
    (observerAfter asciiUrlTables localConfig
      responseThenReservation).assertRateLimitedResponsesWerePaced asciiUrlTables = .ok () ∧
    ¬ Met (tokens asciiUrlTables localConfig responseThenReservation) := by
  have htokens : tokens asciiUrlTables localConfig responseThenReservation =
      [.demand (lit "/api/x"), .supply (lit "/api/x")] := by decide +kernel
  refine ⟨by decide +kernel, fun h => ?_⟩
  rw [htokens, met_iff] at h
  exact absurd (h 1 (lit "/api/x")) (by decide)

end ApiTests.Client
