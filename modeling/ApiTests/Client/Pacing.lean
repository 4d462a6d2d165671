import ApiTests.Client.RatePolicy
import ApiTests.Spacing
import Mathlib.Data.Rat.Floor
import Mathlib.Logic.Relation
import Mathlib.Tactic.Linarith

/-!
# Pacing of public requests (`client.py:78-143`)

A `RequestPacer` keeps the time its next request may start. `wait` takes the pacer's lock, reads the
clock, sleeps up to that time, reads the clock again and stores that reading plus the minimum
interval. `GatewayRequestPacing.wait` waits at the pacer of the target's rate policy.

Any number of threads call `wait`, and time passes between any two of their steps. What happens
under a pacer's lock before the sleep is one step (`begin`), what happens after it another one
(`finish`): no other thread sees the pacer in between. Time is exact (`ℚ`), it never goes back, and a
sleep takes at least as long as it was asked to.

Results:
* `sound_step`, `sound_of_reaches`: the invariant of a pacer, over every interleaving.
* `pacing`: **the starts of a policy with rate `r` are `1 / r` apart, a half-open window of length `w`
  holds at most `⌈w * r⌉` of them, no sleep is longer than `1 / r`, and only the waits of a policy
  touch its pacer.**
-/

namespace ApiTests.Client

open Py Spacing

/-! ## Pacers -/

/-- `RequestPacer`, without its lock. -/
structure RequestPacer where
  minimumInterval : ℚ
  positive : 0 < minimumInterval
  nextRequestAt : Option ℚ

namespace RequestPacer

/-- `RequestPacer(requests_per_second=...)`, or the message of its `ValueError`. -/
def new (requestsPerSecond : ℚ) : Except Text RequestPacer :=
  if h : 0 < requestsPerSecond then .ok ⟨1 / requestsPerSecond, one_div_pos.mpr h, none⟩
  else .error (lit "requests_per_second must be greater than zero")

/-- `request_at` of a `wait` that reads `now`. -/
def requestAt (pacer : RequestPacer) (now : ℚ) : ℚ :=
  match pacer.nextRequestAt with
  | none => now
  | some next => max now next

/-- The pacer after a `wait` whose last clock reading is `reading`. -/
def passed (pacer : RequestPacer) (reading : ℚ) : RequestPacer :=
  { pacer with nextRequestAt := some (reading + pacer.minimumInterval) }

end RequestPacer

/-- `GatewayRequestPacing._pacers`. -/
abbrev Pacers := PublicRatePolicyName → RequestPacer

/-! ## Threads -/

/-- Where a thread stands in `GatewayRequestPacing.wait`. -/
inductive Phase where
  | outside
  /-- Before the lock of the pacer of its target. -/
  | waiting (target : Text) (name : PublicRatePolicyName)
  /-- It holds the lock, has read `now` and sleeps `requestAt - now` if that is positive. -/
  | holding (target : Text) (name : PublicRatePolicyName) (now requestAt : ℚ)

/-- The lock a thread holds. -/
def Phase.lock : Phase → Option PublicRatePolicyName
  | holding _ name _ _ => some name
  | _ => none

/-- What is seen of a `wait` from outside. -/
inductive Event where
  /-- `self._sleep(seconds)`. -/
  | sleep (target : Text) (name : PublicRatePolicyName) (seconds : ℚ)
  /-- The last clock reading of a `wait`, where the request may start. -/
  | start (target : Text) (name : PublicRatePolicyName) (reading : ℚ)

namespace Event

def target : Event → Text
  | sleep target _ _ => target
  | start target _ _ => target

def name : Event → PublicRatePolicyName
  | sleep _ name _ => name
  | start _ name _ => name

/-- The reading of a start at the pacer. -/
def reading? (name : PublicRatePolicyName) : Event → Option ℚ
  | start _ name' reading => if name' = name then some reading else none
  | sleep .. => none

end Event

/-- The threads, the clock, the pacers, and what has happened, the latest event first. -/
structure World (θ : Type) where
  clock : ℚ
  pacers : Pacers
  phase : θ → Phase
  log : List Event

namespace World

variable {θ : Type}

/-- All threads outside. -/
def initial (clock : ℚ) (pacers : Pacers) : World θ := ⟨clock, pacers, fun _ => .outside, []⟩

/-- The last clock readings of the waits at a pacer, the latest first. -/
def readings (w : World θ) (name : PublicRatePolicyName) : List ℚ :=
  w.log.filterMap (Event.reading? name)

end World

/-- Where a call of `GatewayRequestPacing.wait` gets to: a target of no policy returns at once, and
so does one `urlsplit` raises on. -/
def enter (checks : NetlocChecks) (target : Text) : Phase :=
  match classifyPublicRatePolicy checks target with
  | .ok (some policy) => .waiting target policy.name
  | .ok none => .outside
  | .error _ => .outside

/-- `if delay > 0: self._sleep(delay)`. -/
def sleepEvents (target : Text) (name : PublicRatePolicyName) (delay : ℚ) : List Event :=
  if 0 < delay then [.sleep target name delay] else []

variable {θ : Type}

/-- One step: time passes, or a thread calls `wait`, enters the locked section of a pacer up to its
sleep, or leaves it behind the sleep. -/
inductive Step [DecidableEq θ] (checks : NetlocChecks) : World θ → World θ → Prop
  | tick {w : World θ} {clock : ℚ} (hclock : w.clock ≤ clock) :
      Step checks w { w with clock := clock }
  | call {w : World θ} {t : θ} {target : Text} (houtside : w.phase t = .outside) :
      Step checks w { w with phase := Function.update w.phase t (enter checks target) }
  | begin {w : World θ} {t : θ} {target : Text} {name : PublicRatePolicyName}
      (hwaiting : w.phase t = .waiting target name)
      (hfree : ∀ u, (w.phase u).lock ≠ some name) :
      Step checks w
        { w with
          phase := Function.update w.phase t
            (.holding target name w.clock ((w.pacers name).requestAt w.clock))
          log := sleepEvents target name ((w.pacers name).requestAt w.clock - w.clock) ++ w.log }
  | finish {w : World θ} {t : θ} {target : Text} {name : PublicRatePolicyName} {now requestAt : ℚ}
      (hholding : w.phase t = .holding target name now requestAt)
      (hslept : 0 < requestAt - now → now + (requestAt - now) ≤ w.clock) :
      Step checks w
        { w with
          pacers := Function.update w.pacers name ((w.pacers name).passed w.clock)
          phase := Function.update w.phase t .outside
          log := .start target name w.clock :: w.log }

/-! ## The invariant -/

/-- A pacer with its past: its next start is one interval behind the last reading, the readings are an
interval apart, and no sleep was longer than that. -/
structure PacerSound (rate : ℚ) (w : World θ) (name : PublicRatePolicyName) : Prop where
  interval : (w.pacers name).minimumInterval = 1 / rate
  next : (w.pacers name).nextRequestAt = (w.readings name).head?.map fun x => x + 1 / rate
  past : ∀ x ∈ (w.readings name).head?, x ≤ w.clock
  spaced : Spaced (1 / rate) (w.readings name)
  sleeps : ∀ target seconds, .sleep target name seconds ∈ w.log → seconds ≤ 1 / rate

/-- A thread: its target belongs to the policy it waits for, and while it holds the lock it has
computed its start from the pacer as it is. -/
def PhaseSound (checks : NetlocChecks) (w : World θ) : Phase → Prop
  | .outside => True
  | .waiting target name =>
    ∃ policy, classifyPublicRatePolicy checks target = .ok (some policy) ∧ policy.name = name
  | .holding target name now requestAt =>
    (∃ policy, classifyPublicRatePolicy checks target = .ok (some policy) ∧ policy.name = name) ∧
      now ≤ w.clock ∧ requestAt = (w.pacers name).requestAt now

/-- What holds after every step. -/
structure Sound (checks : NetlocChecks) (rates : PublicRatePolicyName → ℚ) (w : World θ) : Prop where
  pacers : ∀ name, PacerSound (rates name) w name
  phases : ∀ t, PhaseSound checks w (w.phase t)
  /-- Two threads do not hold one lock. -/
  exclusive : ∀ t u name, (w.phase t).lock = some name → (w.phase u).lock = some name → t = u
  /-- An event belongs to the policy of its target. -/
  events : ∀ e ∈ w.log, ∃ policy,
    classifyPublicRatePolicy checks e.target = .ok (some policy) ∧ policy.name = e.name

variable {checks : NetlocChecks} {rates : PublicRatePolicyName → ℚ}

theorem phaseSound_enter (w : World θ) (target : Text) :
    PhaseSound checks w (enter checks target) := by
  unfold enter
  cases h : classifyPublicRatePolicy checks target with
  | error message => trivial
  | ok found =>
    cases found with
    | none => trivial
    | some policy => exact ⟨policy, h, rfl⟩

theorem lock_enter (target : Text) : (enter checks target).lock = none := by
  unfold enter
  split <;> rfl

theorem readings_sleepEvents {w w' : World θ} {target : Text} {name name' : PublicRatePolicyName}
    {delay : ℚ} (h : w'.log = sleepEvents target name delay ++ w.log) :
    w'.readings name' = w.readings name' := by
  unfold World.readings sleepEvents at *
  rw [h, List.filterMap_append]
  split <;> rfl

namespace PacerSound

variable {rate : ℚ} {w w' : World θ} {name : PublicRatePolicyName}

theorem rate_pos (h : PacerSound rate w name) : 0 < 1 / rate :=
  h.interval ▸ (w.pacers name).positive

/-- A wait starts an interval behind the last one. -/
theorem le_requestAt (h : PacerSound rate w name) (now : ℚ) :
    ∀ x ∈ (w.readings name).head?, x + 1 / rate ≤ (w.pacers name).requestAt now := by
  intro x hx
  unfold RequestPacer.requestAt
  rw [h.next, Option.mem_def.mp hx]
  exact le_max_right _ _

/-- A wait starts at most an interval from now. -/
theorem requestAt_le (h : PacerSound rate w name) :
    (w.pacers name).requestAt w.clock - w.clock ≤ 1 / rate := by
  have hpos := h.rate_pos
  unfold RequestPacer.requestAt
  rw [h.next]
  cases hhead : (w.readings name).head? with
  | none =>
    rw [Option.map_none, sub_self]
    exact hpos.le
  | some x =>
    have hx := h.past x hhead
    rw [Option.map_some]
    rcases max_cases w.clock (x + 1 / rate) with ⟨hm, -⟩ | ⟨hm, -⟩ <;> simp only [hm] <;> linarith

/-- A step that does not touch the pacer and asks for no long sleep at it. -/
theorem keep (h : PacerSound rate w name) (hpacer : w'.pacers name = w.pacers name)
    (hreadings : w'.readings name = w.readings name) (hclock : w.clock ≤ w'.clock)
    (hsleeps : ∀ target seconds, .sleep target name seconds ∈ w'.log → seconds ≤ 1 / rate) :
    PacerSound rate w' name :=
  ⟨hpacer ▸ h.interval, by rw [hpacer, hreadings]; exact h.next,
    fun x hx => (h.past x (hreadings ▸ hx)).trans hclock, hreadings ▸ h.spaced, hsleeps⟩

/-- A start that the pacer allows. -/
theorem start (h : PacerSound rate w name) (hpacer : w'.pacers name = (w.pacers name).passed w.clock)
    (hreadings : w'.readings name = w.clock :: w.readings name) (hclock : w'.clock = w.clock)
    (hallowed : ∀ x ∈ (w.readings name).head?, x + 1 / rate ≤ w.clock)
    (hsleeps : ∀ target seconds, .sleep target name seconds ∈ w'.log → seconds ≤ 1 / rate) :
    PacerSound rate w' name := by
  refine ⟨by rw [hpacer]; exact h.interval, ?_, fun x hx => ?_, ?_, hsleeps⟩
  · rw [hpacer, hreadings]
    exact congrArg (fun d => some (w.clock + d)) h.interval
  · rw [hreadings] at hx
    rw [hclock, Option.some.inj hx]
  · rw [hreadings]
    exact h.spaced.cons hallowed

end PacerSound

/-- The pace of a policy with rate `rate`. -/
structure PolicyPaced (rate : ℚ) (w : World θ) (name : PublicRatePolicyName) : Prop where
  spaced : Spaced (1 / rate) (w.readings name)
  windows : ∀ a width,
    ((w.readings name).filter fun x => decide (a ≤ x ∧ x < a + width)).length ≤ ⌈width * rate⌉₊ ∧
      ((w.readings name).filter fun x => decide (a < x ∧ x ≤ a + width)).length ≤ ⌈width * rate⌉₊
  sleeps : ∀ target seconds, .sleep target name seconds ∈ w.log → seconds ≤ 1 / rate

theorem PacerSound.paced {w : World θ} {rate : ℚ} {name : PublicRatePolicyName}
    (h : PacerSound rate w name) : PolicyPaced rate w name := by
  refine ⟨h.spaced, fun a width => ?_, h.sleeps⟩
  have := h.spaced.count_le_ceil h.rate_pos a width
  rwa [div_div_eq_mul_div, div_one] at this

/-! ## Steps -/

theorem sound_tick {w : World θ} (h : Sound checks rates w) {clock : ℚ} (hclock : w.clock ≤ clock) :
    Sound checks rates { w with clock := clock } := by
  refine ⟨fun name => (h.pacers name).keep rfl rfl hclock (h.pacers name).sleeps, fun t => ?_,
    h.exclusive, h.events⟩
  have ht := h.phases t
  simp only
  cases hphase : w.phase t with
  | outside => trivial
  | waiting target name =>
    rw [hphase] at ht
    exact ht
  | holding target name now requestAt =>
    rw [hphase] at ht
    exact ⟨ht.1, ht.2.1.trans hclock, ht.2.2⟩

/-- All pacers are new. -/
theorem sound_initial {clock : ℚ} {pacers : Pacers}
    (hnew : ∀ name, RequestPacer.new (rates name) = .ok (pacers name)) :
    Sound checks rates (World.initial clock pacers : World θ) := by
  refine ⟨fun name => ?_, fun _ => trivial, fun _ _ _ hname => (nomatch hname),
    fun e he => absurd he List.not_mem_nil⟩
  have hpacer := hnew name
  unfold RequestPacer.new at hpacer
  split at hpacer
  · have hinitial : (World.initial clock pacers : World θ).pacers name = pacers name := rfl
    rw [← Except.ok.inj hpacer] at hinitial
    exact ⟨by rw [hinitial], by rw [hinitial]; rfl, fun _ hx => (nomatch hx), spaced_nil,
      fun _ _ he => absurd he List.not_mem_nil⟩
  · exact nomatch hpacer

variable [DecidableEq θ]

/-- A thread that moves to a phase without a lock, or takes a free one. -/
theorem exclusive_update {w : World θ} (h : Sound checks rates w) {t : θ} {phase : Phase}
    (hlock : ∀ name, phase.lock = some name → ∀ u, (w.phase u).lock ≠ some name) (u v : θ)
    (name : PublicRatePolicyName) (hu : (Function.update w.phase t phase u).lock = some name)
    (hv : (Function.update w.phase t phase v).lock = some name) : u = v := by
  by_cases hut : u = t <;> by_cases hvt : v = t
  · rw [hut, hvt]
  · subst hut
    rw [Function.update_self] at hu
    rw [Function.update_of_ne hvt] at hv
    exact absurd hv (hlock name hu v)
  · subst hvt
    rw [Function.update_self] at hv
    rw [Function.update_of_ne hut] at hu
    exact absurd hu (hlock name hv u)
  · rw [Function.update_of_ne hut] at hu
    rw [Function.update_of_ne hvt] at hv
    exact h.exclusive u v name hu hv

theorem sound_call {w : World θ} (h : Sound checks rates w) {t : θ} {target : Text} :
    Sound checks rates { w with phase := Function.update w.phase t (enter checks target) } := by
  refine ⟨fun name => (h.pacers name).keep rfl rfl le_rfl (h.pacers name).sleeps, fun u => ?_,
    exclusive_update h fun name hname => ?_, h.events⟩
  · by_cases hu : u = t
    · subst hu
      simp only [Function.update_self]
      exact phaseSound_enter _ target
    · simp only [Function.update_of_ne hu]
      exact h.phases u
  · rw [lock_enter] at hname
    exact nomatch hname

theorem sound_begin {w : World θ} (h : Sound checks rates w) {t : θ} {target : Text}
    {name : PublicRatePolicyName} (hwaiting : w.phase t = .waiting target name)
    (hfree : ∀ u, (w.phase u).lock ≠ some name) :
    Sound checks rates
      { w with
        phase := Function.update w.phase t
          (.holding target name w.clock ((w.pacers name).requestAt w.clock))
        log := sleepEvents target name ((w.pacers name).requestAt w.clock - w.clock) ++ w.log } := by
  have htarget := h.phases t
  rw [hwaiting] at htarget
  have hevent : ∀ e ∈ sleepEvents target name ((w.pacers name).requestAt w.clock - w.clock),
      e = .sleep target name ((w.pacers name).requestAt w.clock - w.clock) := by
    unfold sleepEvents
    split
    · exact fun e he => List.mem_singleton.mp he
    · exact fun e he => absurd he List.not_mem_nil
  refine ⟨fun name' => (h.pacers name').keep rfl (readings_sleepEvents rfl) le_rfl
    fun target' seconds he => ?_, fun u => ?_, exclusive_update h fun name' hname => ?_, fun e he => ?_⟩
  · rcases List.mem_append.mp he with he | he
    · obtain ⟨rfl, rfl, rfl⟩ := Event.sleep.inj (hevent _ he)
      exact (h.pacers name').requestAt_le
    · exact (h.pacers name').sleeps target' seconds he
  · by_cases hu : u = t
    · subst hu
      simp only [Function.update_self]
      exact ⟨htarget, le_rfl, rfl⟩
    · simp only [Function.update_of_ne hu]
      exact h.phases u
  · obtain rfl : name = name' := Option.some.inj hname
    exact hfree
  · rcases List.mem_append.mp he with he | he
    · rw [hevent e he]
      exact htarget
    · exact h.events e he

theorem sound_finish {w : World θ} (h : Sound checks rates w) {t : θ} {target : Text}
    {name : PublicRatePolicyName} {now requestAt : ℚ}
    (hholding : w.phase t = .holding target name now requestAt)
    (hslept : 0 < requestAt - now → now + (requestAt - now) ≤ w.clock) :
    Sound checks rates
      { w with
        pacers := Function.update w.pacers name ((w.pacers name).passed w.clock)
        phase := Function.update w.phase t .outside
        log := .start target name w.clock :: w.log } := by
  have htarget := h.phases t
  rw [hholding] at htarget
  obtain ⟨hpolicy, hnow, hrequest⟩ := htarget
  -- the clock has reached the start the thread computed, with or without a sleep
  have hreached : requestAt ≤ w.clock := by
    by_cases hpos : 0 < requestAt - now
    · linarith [hslept hpos]
    · linarith
  have hsleeps : ∀ name' target' seconds, Event.sleep target' name' seconds ∈
      Event.start target name w.clock :: w.log → seconds ≤ 1 / rates name' :=
    fun name' target' seconds he => (h.pacers name').sleeps target' seconds
      ((List.mem_cons.mp he).resolve_left fun heq => (nomatch heq))
  refine ⟨fun name' => ?_, fun u => ?_, exclusive_update h fun _ hname => (nomatch hname),
    List.forall_mem_cons.mpr ⟨hpolicy, h.events⟩⟩
  · by_cases hname : name = name'
    · subst hname
      refine (h.pacers name).start (Function.update_self _ _ _) ?_ rfl (fun x hx => ?_) (hsleeps name)
      · simp [World.readings, Event.reading?]
      · exact ((h.pacers name).le_requestAt now x hx).trans (hrequest ▸ hreached)
    · refine (h.pacers name').keep (Function.update_of_ne (Ne.symm hname) _ _) ?_ le_rfl (hsleeps name')
      simp [World.readings, Event.reading?, hname]
  · by_cases hu : u = t
    · subst hu
      simp only [Function.update_self]
      trivial
    · simp only [Function.update_of_ne hu]
      have hphase := h.phases u
      cases hp : w.phase u with
      | outside => trivial
      | waiting target' name' =>
        rw [hp] at hphase
        exact hphase
      | holding target' name' now' requestAt' =>
        rw [hp] at hphase
        refine ⟨hphase.1, hphase.2.1, hphase.2.2.trans ?_⟩
        have hne : name' ≠ name := by
          rintro rfl
          exact hu (h.exclusive u t name' (by rw [hp]; rfl) (by rw [hholding]; rfl))
        simp only [Function.update_of_ne hne]

/-- **One step keeps the invariant.** -/
theorem sound_step {w w' : World θ} (h : Sound checks rates w) (hstep : Step checks w w') :
    Sound checks rates w' := by
  cases hstep with
  | tick hclock => exact sound_tick h hclock
  | call houtside => exact sound_call h
  | begin hwaiting hfree => exact sound_begin h hwaiting hfree
  | finish hholding hslept => exact sound_finish h hholding hslept

/-- **The invariant holds in every world the threads reach.** -/
theorem sound_of_reaches {w w' : World θ} (h : Sound checks rates w)
    (hrun : Relation.ReflTransGen (Step checks) w w') : Sound checks rates w' := by
  induction hrun with
  | refl => exact h
  | tail _ hstep ih => exact sound_step ih hstep

/-! ## Runs -/

/-- The pace of all policies, and what else a wait touches: nothing. -/
structure Paced (checks : NetlocChecks) (rates : PublicRatePolicyName → ℚ) (w : World θ) : Prop where
  policies : ∀ name, PolicyPaced (rates name) w name
  /-- Only a target of a policy sleeps or starts at a pacer, and only at that policy's. -/
  events : ∀ e ∈ w.log, ∃ policy,
    classifyPublicRatePolicy checks e.target = .ok (some policy) ∧ policy.name = e.name
  /-- A target of no policy passes at once. -/
  passes : ∀ t target, w.phase t = .outside → classifyPublicRatePolicy checks target = .ok none →
    { w with phase := Function.update w.phase t (enter checks target) } = w
  /-- A pacer changes only where a wait of its own policy ends. -/
  frame : ∀ w' name, Step checks w w' → w'.pacers name ≠ w.pacers name →
    ∃ target policy, classifyPublicRatePolicy checks target = .ok (some policy) ∧
      policy.name = name ∧ w'.log = .start target name w.clock :: w.log

theorem Sound.paced {w : World θ} (h : Sound checks rates w) : Paced checks rates w := by
  refine ⟨fun name => (h.pacers name).paced, h.events, fun t target houtside hnone => ?_,
    fun w' name hstep hne => ?_⟩
  · have henter : enter checks target = w.phase t := by rw [enter, hnone, houtside]
    rw [henter, Function.update_eq_self]
  · cases hstep with
    | tick => exact absurd rfl hne
    | call => exact absurd rfl hne
    | begin => exact absurd rfl hne
    | @finish t target name' now requestAt hholding hslept =>
      have hname : name = name' := by
        by_contra hother
        exact hne (Function.update_of_ne hother _ _)
      subst hname
      have htarget := h.phases t
      rw [hholding] at htarget
      obtain ⟨⟨policy, hpolicy, hname⟩, -⟩ := htarget
      exact ⟨target, policy, hpolicy, hname, rfl⟩

/-- **Pacing**: a target belongs to one policy at most, in whatever order the policies are tried, and
from new pacers every interleaving of waits keeps the pace of each policy and touches no other. -/
theorem pacing {clock : ℚ} {pacers : Pacers}
    (hnew : ∀ name, RequestPacer.new (rates name) = .ok (pacers name)) {w : World θ}
    (hrun : Relation.ReflTransGen (Step checks) (World.initial clock pacers) w) :
    (∀ target, (∀ policy ∈ publicRatePolicies, ∀ policy' ∈ publicRatePolicies,
        policy.matches checks target = .ok true → policy'.matches checks target = .ok true →
          policy = policy') ∧
      ∀ policies : List PublicRatePolicy, policies.Perm publicRatePolicies →
        firstMatching checks target policies = classifyPublicRatePolicy checks target) ∧
      Paced checks rates w :=
  ⟨fun _ => ⟨fun _ h _ h' hm hm' => matches_unique h h' hm hm',
    fun _ hperm => classifyPublicRatePolicy_perm hperm⟩,
    (sound_of_reaches (sound_initial hnew) hrun).paced⟩

/-! ## The shared pacers -/

/-- The rate of the policy of a name. -/
def policyRate : PublicRatePolicyName → ℚ
  | .loginInitiation => loginInitiationRatePolicy.requestsPerSecond
  | .loginCompletion => loginCompletionRatePolicy.requestsPerSecond
  | .sessionOperations => sessionOperationsRatePolicy.requestsPerSecond
  | .apiRequests => apiRatePolicy.requestsPerSecond

theorem policyRate_pos (name : PublicRatePolicyName) : 0 < policyRate name := by
  cases name <;> norm_num [policyRate, loginInitiationRatePolicy, loginCompletionRatePolicy,
    sessionOperationsRatePolicy, apiRatePolicy]

/-- `_SHARED_GATEWAY_REQUEST_PACING`. -/
def sharedGatewayRequestPacing : Pacers :=
  fun name => ⟨1 / policyRate name, one_div_pos.mpr (policyRate_pos name), none⟩

theorem new_shared (name : PublicRatePolicyName) :
    RequestPacer.new (policyRate name) = .ok (sharedGatewayRequestPacing name) := by
  rw [RequestPacer.new, dif_pos (policyRate_pos name)]
  rfl

/-- The checks that find no fault. -/
def noNetlocError : NetlocChecks := ⟨fun _ => none, fun _ => none⟩

/-- Two threads, `false` and `true`. -/
def bothPhases (first second : Phase) : Bool → Phase := fun t => if t then second else first

theorem update_first (p first second : Phase) :
    Function.update (bothPhases first second) false p = bothPhases p second := by
  funext t
  cases t <;> rfl

theorem update_second (p first second : Phase) :
    Function.update (bothPhases first second) true p = bothPhases first p := by
  funext t
  cases t <;> rfl

/-- The pacers after a wait at 0. -/
def pacersAfter : Pacers :=
  Function.update sharedGatewayRequestPacing .apiRequests
    ((sharedGatewayRequestPacing .apiRequests).passed 0)

theorem requestAt_pacersAfter : (pacersAfter .apiRequests).requestAt 0 = 1 / 8 := by
  norm_num [pacersAfter, RequestPacer.passed, RequestPacer.requestAt, sharedGatewayRequestPacing,
    policyRate, apiRatePolicy]

/-- Two threads have waited at one pacer; the second one slept an interval, and longer. -/
def waitedWorld : World Bool :=
  ⟨1 / 4, Function.update pacersAfter .apiRequests ((pacersAfter .apiRequests).passed (1 / 4)),
    bothPhases .outside .outside,
    [.start (lit "/api/v1/views") .apiRequests (1 / 4),
      .sleep (lit "/api/v1/views") .apiRequests (1 / 8),
      .start (lit "/api/v1/users") .apiRequests 0]⟩

theorem reaches_waitedWorld :
    Relation.ReflTransGen (Step noNetlocError) (World.initial 0 sharedGatewayRequestPacing)
      waitedWorld := by
  have henter : ∀ target, (target = lit "/api/v1/users" ∨ target = lit "/api/v1/views") →
      enter noNetlocError target = .waiting target .apiRequests := by
    rintro target (rfl | rfl)
    · rfl
    · rfl
  have hinitial : (World.initial 0 sharedGatewayRequestPacing : World Bool) =
      ⟨0, sharedGatewayRequestPacing, bothPhases .outside .outside, []⟩ := by
    refine congrArg (fun phase => World.mk 0 sharedGatewayRequestPacing phase []) (funext fun t => ?_)
    cases t <;> rfl
  -- both threads call, and the first takes the lock, which needs no sleep
  have hfirst := @Step.call Bool _ noNetlocError
    ⟨0, sharedGatewayRequestPacing, bothPhases .outside .outside, []⟩ false (lit "/api/v1/users") rfl
  simp only [update_first, henter _ (Or.inl rfl)] at hfirst
  have hbegins := @Step.begin Bool _ noNetlocError
    ⟨0, sharedGatewayRequestPacing,
      bothPhases (.waiting (lit "/api/v1/users") .apiRequests) .outside, []⟩ false
    (lit "/api/v1/users") .apiRequests rfl fun u h => by cases u <;> cases h
  have hnow : (sharedGatewayRequestPacing .apiRequests).requestAt 0 = 0 := rfl
  simp only [hnow, sub_self, sleepEvents, lt_irrefl, if_false, List.nil_append, update_first] at hbegins
  have hsecond := @Step.call Bool _ noNetlocError
    ⟨0, sharedGatewayRequestPacing,
      bothPhases (.holding (lit "/api/v1/users") .apiRequests 0 0) .outside, []⟩ true
    (lit "/api/v1/views") rfl
  simp only [update_second, henter _ (Or.inr rfl)] at hsecond
  have hpasses := @Step.finish Bool _ noNetlocError
    ⟨0, sharedGatewayRequestPacing, bothPhases (.holding (lit "/api/v1/users") .apiRequests 0 0)
      (.waiting (lit "/api/v1/views") .apiRequests), []⟩ false (lit "/api/v1/users") .apiRequests 0 0
    rfl fun _ => by norm_num
  simp only [update_first] at hpasses
  -- the second has to wait until an eighth of a second, and sleeps up to a quarter
  have hsleeps := @Step.begin Bool _ noNetlocError
    ⟨0, pacersAfter, bothPhases .outside (.waiting (lit "/api/v1/views") .apiRequests),
      [.start (lit "/api/v1/users") .apiRequests 0]⟩ true (lit "/api/v1/views") .apiRequests rfl
    fun u h => by cases u <;> cases h
  have hpositive : (0 : ℚ) < 1 / 8 := by norm_num
  simp only [requestAt_pacersAfter, sub_zero, sleepEvents, if_pos hpositive, List.singleton_append,
    update_second] at hsleeps
  have htick := @Step.tick Bool _ noNetlocError
    ⟨0, pacersAfter, bothPhases .outside (.holding (lit "/api/v1/views") .apiRequests 0 (1 / 8)),
      [.sleep (lit "/api/v1/views") .apiRequests (1 / 8),
        .start (lit "/api/v1/users") .apiRequests 0]⟩ (1 / 4) (by norm_num)
  have hwakes := @Step.finish Bool _ noNetlocError
    ⟨1 / 4, pacersAfter, bothPhases .outside (.holding (lit "/api/v1/views") .apiRequests 0 (1 / 8)),
      [.sleep (lit "/api/v1/views") .apiRequests (1 / 8),
        .start (lit "/api/v1/users") .apiRequests 0]⟩ true (lit "/api/v1/views") .apiRequests 0 (1 / 8)
    rfl fun _ => by norm_num
  simp only [update_second] at hwakes
  rw [hinitial]
  exact ((((((Relation.ReflTransGen.single hfirst).tail hbegins).tail hsecond).tail hpasses).tail
    hsleeps).tail htick).tail hwakes

theorem pacing_example :
    (∀ target, (∀ policy ∈ publicRatePolicies, ∀ policy' ∈ publicRatePolicies,
        policy.matches noNetlocError target = .ok true →
          policy'.matches noNetlocError target = .ok true → policy = policy') ∧
      ∀ policies : List PublicRatePolicy, policies.Perm publicRatePolicies →
        firstMatching noNetlocError target policies =
          classifyPublicRatePolicy noNetlocError target) ∧
      Paced noNetlocError policyRate waitedWorld :=
  pacing new_shared reaches_waitedWorld

end ApiTests.Client
