import IntegrationPlatform.Transactions.Histories
import IntegrationPlatform.Transactions.Processes
import Mathlib.Tactic.Linarith

/-!
# The circuit breaker of the connector client

`ConnectorHttpClient.request` contacts a host at most `max_retries` times more than once, and tells
the breaker of the host how each attempt ended. The requests to one host share its breaker.
`dead_host_trips` says which failing answers open it in time.
-/

namespace IntegrationPlatform

namespace HttpClient

/-! ## The breaker of a host -/

inductive CBState where
  | closed
  | opened
  | halfOpen
  deriving DecidableEq

/-- The arguments of `ConnectorHttpClient` that its breakers and its retries use. -/
structure Config where
  maxRetries : Nat := 3
  cbFailureThreshold : Int := 5
  cbResetTimeout : Rat := 30

/-- The exceptions of a request of `httpx`: its timeouts, its network errors, and the others. -/
inductive TransportError where
  | connectTimeout
  | readTimeout
  | writeTimeout
  | poolTimeout
  | connectError
  | readError
  | writeError
  | closeError
  | other
  deriving DecidableEq

/-- What a request raises. -/
inductive RequestError where
  | circuitBreakerOpen (host : String) (remaining : Rat)
  | transport (error : TransportError)
  deriving DecidableEq

/-- `_CircuitBreaker`. -/
structure Breaker where
  state : CBState := .closed
  failureCount : Nat := 0
  lastFailure : Rat := 0

namespace Breaker

variable (config : Config) (now : Rat) (breaker : Breaker)

def preCheck : Except RequestError Breaker :=
  match breaker.state with
  | .opened =>
      let elapsed := now - breaker.lastFailure
      if config.cbResetTimeout ≤ elapsed then .ok { breaker with state := .halfOpen }
      else .error (.circuitBreakerOpen "host" (config.cbResetTimeout - elapsed))
  | .halfOpen => .ok breaker
  | .closed => .ok breaker

def onSuccess : Breaker :=
  { breaker with state := .closed, failureCount := 0 }

def onFailure : Breaker where
  state :=
    if breaker.state = .halfOpen then .opened
    else if config.cbFailureThreshold ≤ (breaker.failureCount + 1 : Nat) then .opened
    else breaker.state
  failureCount := breaker.failureCount + 1
  lastFailure := now

end Breaker

/-! ## Requests -/

/-- How an attempt ends. -/
inductive Reply where
  | response (status : Nat)
  | error (error : TransportError)
  deriving DecidableEq

/-- The exceptions that the retry loop catches. -/
def TransportError.caught : TransportError → Bool
  | .connectError | .readTimeout | .writeTimeout | .poolTimeout => true
  | _ => false

/-- A server error, or an error of the connection or a timeout. -/
def Reply.fails : Reply → Bool
  | .response status => decide (500 ≤ status)
  | .error exception => exception != .other

/-- The retry loop tells the breaker of a failing answer: a response that it does not return, and an
exception that it catches. -/
def Reply.counts (config : Config) (attempt : Nat) : Reply → Bool
  | .response _ => decide (attempt < config.maxRetries)
  | .error exception => exception.caught

/-- Where a request is: before an attempt, in it, or over. -/
inductive Phase where
  | ready (attempt : Nat)
  | sent (attempt : Nat)
  | returned (status : Nat)
  | raised (error : RequestError)
  deriving DecidableEq

/-- The breaker of the host and the clock, how often the host was contacted and has answered, and the
instant of its last answer. -/
structure Shared where
  breaker : Breaker
  clock : Rat
  contacts : Nat
  answers : Nat
  answeredAt : Rat

/-- How much time passes before a step of a request, and how its attempt ends. -/
structure Choice where
  elapsed : NNRat
  reply : Reply

/-- The clock at a step. -/
def Shared.now (shared : Shared) (choice : Choice) : Rat := shared.clock + choice.elapsed

/-- The host has answered. -/
def Shared.answered (shared : Shared) (now : Rat) (breaker : Breaker) : Shared where
  breaker := breaker
  clock := now
  contacts := shared.contacts
  answers := shared.answers + 1
  answeredAt := now

/-- The loop of `request`, from the head of an attempt to the await, and from there on. -/
def step (config : Config) (shared : Shared) (phase : Phase) (choice : Choice) :
    Option (Shared × Phase) :=
  let now := shared.now choice
  let failure := shared.answered now (shared.breaker.onFailure config now)
  match phase with
  | .ready attempt =>
      match shared.breaker.preCheck config now with
      | .ok breaker =>
          some ({ shared with breaker, clock := now, contacts := shared.contacts + 1 }, .sent attempt)
      | .error error => some ({ shared with clock := now }, .raised error)
  | .sent attempt =>
      match choice.reply with
      | .response status =>
          if 500 ≤ status ∧ attempt < config.maxRetries then some (failure, .ready (attempt + 1))
          else some (shared.answered now shared.breaker.onSuccess, .returned status)
      | .error error =>
          if error.caught then
            if attempt < config.maxRetries then some (failure, .ready (attempt + 1))
            else some (failure, .raised (.transport error))
          else some (shared.answered now shared.breaker, .raised (.transport error))
  | _ => none

/-- Requests to a host that was not contacted. -/
def initial (clock : Rat) (requests : Nat) : Processes Shared Phase where
  shared := ⟨{}, clock, 0, 0, clock⟩
  phases := List.replicate requests (.ready 0)

/-! ## A dead host -/

/-- If the step ends an attempt, then with a failing answer. -/
def Dead (requests : Processes Shared Phase) (id : Nat × Choice) : Prop :=
  ∀ attempt, requests.At id.1 (.sent attempt) → id.2.reply.fails = true

/-- If the step ends an attempt, then with an answer of which the breaker is told as a failure. -/
def Counted (config : Config) (requests : Processes Shared Phase) (id : Nat × Choice) : Prop :=
  ∀ attempt, requests.At id.1 (.sent attempt) → id.2.reply.counts config attempt = true

/-- If the step ends an attempt, then it adds to the failure count. -/
def Adds (config : Config) (requests : Processes Shared Phase) (id : Nat × Choice) : Prop :=
  ∀ attempt, requests.At id.1 (.sent attempt) →
    (requests.next (step config) id).shared.breaker.failureCount =
      requests.shared.breaker.failureCount + 1

/-- The breaker is open, or a request was let through when its timeout was over; and a request that
comes within the timeout since the last answer raises, and does not contact the host. -/
structure Tripped (config : Config) (shared : Shared) : Prop where
  opened : shared.breaker.state = .opened ∨
    shared.breaker.state = .halfOpen ∧ config.cbResetTimeout ≤ shared.clock - shared.answeredAt
  refuses : ∀ attempt choice, shared.now choice - shared.answeredAt < config.cbResetTimeout →
    ∃ remaining, step config shared (.ready attempt) choice =
      some ({ shared with clock := shared.now choice },
        .raised (.circuitBreakerOpen "host" remaining))

/-- Each answer since a state has added to the failure count, and the breaker has opened when there
were enough of them. -/
structure Trips (config : Config) (first shared : Shared) : Prop where
  counted : shared.breaker.failureCount + first.answers =
    first.breaker.failureCount + shared.answers
  tripped : config.cbFailureThreshold ≤ (shared.answers : Int) - first.answers →
    Tripped config shared

variable {config : Config} {requests : Processes Shared Phase} {first before after : Shared}
  {phase phase' : Phase} {choice : Choice} {id attempt : Nat}

/-! ## One step -/

theorem step_ready (h : step config before (.ready attempt) choice = some (after, phase')) :
    after.clock = before.now choice ∧ after.answers = before.answers ∧
      after.answeredAt = before.answeredAt ∧
      (after.breaker = before.breaker ∨
        before.breaker.state = .opened ∧
          config.cbResetTimeout ≤ before.now choice - before.breaker.lastFailure ∧
          after.breaker = { before.breaker with state := .halfOpen }) := by
  simp only [step, Breaker.preCheck] at h
  cases hstate : before.breaker.state with
  | closed =>
      simp only [hstate] at h
      obtain ⟨rfl, -⟩ := Prod.mk.inj (Option.some.inj h)
      exact ⟨rfl, rfl, rfl, .inl rfl⟩
  | opened =>
      by_cases hover : config.cbResetTimeout ≤ before.now choice - before.breaker.lastFailure
      · simp only [hstate, if_pos hover] at h
        obtain ⟨rfl, -⟩ := Prod.mk.inj (Option.some.inj h)
        exact ⟨rfl, rfl, rfl, .inr ⟨rfl, hover, rfl⟩⟩
      · simp only [hstate, if_neg hover] at h
        obtain ⟨rfl, -⟩ := Prod.mk.inj (Option.some.inj h)
        exact ⟨rfl, rfl, rfl, .inl rfl⟩
  | halfOpen =>
      simp only [hstate] at h
      obtain ⟨rfl, -⟩ := Prod.mk.inj (Option.some.inj h)
      exact ⟨rfl, rfl, rfl, .inl rfl⟩

/-- A failing answer is a failure to the breaker, or the response that the request returns, or an
exception that passes by the breaker. -/
theorem step_sent (hfails : choice.reply.fails = true)
    (h : step config before (.sent attempt) choice = some (after, phase')) :
    (choice.reply.counts config attempt = true ∧
        after = before.answered (before.now choice)
          (before.breaker.onFailure config (before.now choice))) ∨
      (choice.reply.counts config attempt = false ∧
        (after.breaker = before.breaker.onSuccess ∨ after.breaker = before.breaker)) := by
  simp only [step] at h
  cases hreply : choice.reply with
  | response status =>
      have hserver : 500 ≤ status := by
        rw [hreply] at hfails
        exact of_decide_eq_true hfails
      by_cases hlast : attempt < config.maxRetries
      · simp only [hreply, if_pos (And.intro hserver hlast)] at h
        obtain ⟨rfl, -⟩ := Prod.mk.inj (Option.some.inj h)
        exact .inl ⟨decide_eq_true hlast, rfl⟩
      · -- The response to the last attempt is returned, as if the host had answered well.
        simp only [hreply, if_neg (fun hboth : _ ∧ _ => hlast hboth.2)] at h
        obtain ⟨rfl, -⟩ := Prod.mk.inj (Option.some.inj h)
        exact .inr ⟨decide_eq_false hlast, .inl rfl⟩
  | error exception =>
      by_cases hcaught : exception.caught = true
      · refine .inl ⟨hcaught, ?_⟩
        simp only [hreply, if_pos hcaught] at h
        by_cases hlast : attempt < config.maxRetries
        · rw [if_pos hlast] at h
          exact (Prod.mk.inj (Option.some.inj h)).1.symm
        · rw [if_neg hlast] at h
          exact (Prod.mk.inj (Option.some.inj h)).1.symm
      · -- The breaker is told nothing.
        simp only [hreply, if_neg hcaught] at h
        obtain ⟨rfl, -⟩ := Prod.mk.inj (Option.some.inj h)
        exact .inr ⟨Bool.eq_false_iff.mpr hcaught, .inr rfl⟩

theorem exists_step_sent (config : Config) (before : Shared) (attempt : Nat) (choice : Choice) :
    ∃ after phase', step config before (.sent attempt) choice = some (after, phase') := by
  suffices hsome : (step config before (.sent attempt) choice).isSome = true by
    obtain ⟨⟨after, phase'⟩, hstep⟩ := Option.isSome_iff_exists.mp hsome
    exact ⟨after, phase', hstep⟩
  simp only [step]
  cases choice.reply with
  | response status =>
      show (if _ then some _ else some _ : Option (Shared × Phase)).isSome = true
      split <;> rfl
  | error exception =>
      show (if _ then if _ then some _ else some _ else some _ : Option (Shared × Phase)).isSome = true
      split
      · split <;> rfl
      · rfl

theorem adds_iff (hdead : Dead requests (id, choice)) :
    Adds config requests (id, choice) ↔ Counted config requests (id, choice) := by
  refine forall_congr' fun attempt => forall_congr' fun hphase => ?_
  obtain ⟨after, phase', hstep⟩ := exists_step_sent config requests.shared attempt choice
  rw [Processes.next_of_step hphase hstep]
  obtain ⟨hcounts, rfl⟩ | ⟨hcounts, hafter⟩ := step_sent (hdead attempt hphase) hstep
  · exact iff_of_true rfl hcounts
  · refine iff_of_false ?_ (by rw [hcounts]; exact Bool.false_ne_true)
    show after.breaker.failureCount ≠ _
    obtain hafter | hafter := hafter
    · rw [hafter]
      exact (Nat.succ_ne_zero _).symm
    · rw [hafter]
      exact (Nat.succ_ne_self _).symm

/-! ## The invariant -/

/-- Each answer has added to the failure count; and when there were enough of them, the breaker is
open since the last one, or half-open and its timeout is over. -/
structure Counts (config : Config) (first shared : Shared) : Prop where
  counted : shared.breaker.failureCount + first.answers =
    first.breaker.failureCount + shared.answers
  opened : config.cbFailureThreshold ≤ (shared.answers : Int) - first.answers →
    shared.breaker.lastFailure = shared.answeredAt ∧
      (shared.breaker.state = .opened ∨
        shared.breaker.state = .halfOpen ∧ config.cbResetTimeout ≤ shared.clock - shared.answeredAt)

theorem clock_le_now (shared : Shared) (choice : Choice) : shared.clock ≤ shared.now choice := by
  have helapsed : (0 : Rat) ≤ choice.elapsed := choice.elapsed.2
  show shared.clock ≤ shared.clock + choice.elapsed
  linarith

theorem Counts.ready (h : Counts config first before)
    (hstep : step config before (.ready attempt) choice = some (after, phase')) :
    Counts config first after := by
  obtain ⟨hclock, hanswers, hanswered, hbreaker⟩ := step_ready hstep
  have hle := clock_le_now before choice
  obtain hafter | ⟨hopened, hover, hafter⟩ := hbreaker
  · refine ⟨by rw [hafter, hanswers]; exact h.counted, fun henough => ?_⟩
    rw [hanswers] at henough
    obtain ⟨hlast, hstate⟩ := h.opened henough
    rw [hafter, hclock, hanswered]
    refine ⟨hlast, hstate.imp_right fun hhalf => ⟨hhalf.1, ?_⟩⟩
    linarith [hhalf.2]
  · -- The timeout since the last failure is over, which is the last answer.
    refine ⟨by rw [hafter, hanswers]; exact h.counted, fun henough => ?_⟩
    rw [hanswers] at henough
    obtain ⟨hlast, -⟩ := h.opened henough
    rw [hafter, hclock, hanswered]
    exact ⟨hlast, .inr ⟨rfl, hlast ▸ hover⟩⟩

theorem Counts.failure (h : Counts config first before) (now : Rat) :
    Counts config first (before.answered now (before.breaker.onFailure config now)) where
  counted := by
    have hcounted := h.counted
    show before.breaker.failureCount + 1 + first.answers =
      first.breaker.failureCount + (before.answers + 1)
    omega
  opened henough := by
    refine ⟨rfl, .inl ?_⟩
    -- Every answer since the first state is in the failure count.
    have hcount : config.cbFailureThreshold ≤ (before.breaker.failureCount + 1 : Nat) := by
      have hcounted := h.counted
      have hanswers : config.cbFailureThreshold ≤ (before.answers + 1 : Nat) - first.answers := henough
      omega
    show (if before.breaker.state = .halfOpen then CBState.opened
      else if config.cbFailureThreshold ≤ (before.breaker.failureCount + 1 : Nat) then .opened
      else before.breaker.state) = .opened
    rw [if_pos hcount, ite_self]

theorem Counts.opens (h : Counts config first before) : Trips config first before where
  counted := h.counted
  tripped henough := by
    obtain ⟨hlast, hstate⟩ := h.opened henough
    refine ⟨hstate, fun attempt choice hwithin => ?_⟩
    obtain hopened | ⟨-, hover⟩ := hstate
    · have hrefused : ¬ config.cbResetTimeout ≤ before.now choice - before.breaker.lastFailure := by
        rw [hlast]
        exact not_le.mpr hwithin
      refine ⟨config.cbResetTimeout - (before.now choice - before.breaker.lastFailure), ?_⟩
      simp only [step, Breaker.preCheck, hopened, if_neg hrefused]
    · -- A request within the timeout does not come after it.
      have hle := clock_le_now before choice
      linarith

/-! ## Runs -/

theorem Counts.next (h : Counts config first requests.shared) (hdead : Dead requests (id, choice))
    (hcounted : Counted config requests (id, choice)) :
    Counts config first (requests.next (step config) (id, choice)).shared := by
  have hkeep : ∀ phase after phase', requests.At id phase →
      step config requests.shared phase choice = some (after, phase') →
      Counts config first after := by
    intro phase after phase' hphase hstep
    cases phase with
    | ready attempt => exact h.ready hstep
    | sent attempt =>
        obtain ⟨-, rfl⟩ | ⟨hcounts, -⟩ := step_sent (hdead attempt hphase) hstep
        · exact h.failure _
        · rw [hcounted attempt hphase] at hcounts
          cases hcounts
    | returned status => cases hstep
    | raised error => cases hstep
  let inv : Processes Shared Phase → Prop := fun requests => Counts config first requests.shared
  have hfirst : inv requests := h
  exact Processes.next_keeps hfirst hkeep

/-- A host answers every attempt with a failure from some point on. Each answer adds to the failure
count exactly if it is no response to the last attempt of its request, and no exception that the
retry loop lets pass; and if this holds of all, then the breaker opens when as many have come as its
threshold says. -/
theorem dead_host_trips (config : Config) (hthreshold : 1 ≤ config.cbFailureThreshold)
    (requests : Processes Shared Phase) (steps : List (Nat × Choice))
    (hdead : Along (Processes.next (step config)) Dead requests steps) :
    (Along (Processes.next (step config)) (Adds config) requests steps ↔
      Along (Processes.next (step config)) (Counted config) requests steps) ∧
    (Along (Processes.next (step config)) (Counted config) requests steps →
      Trips config requests.shared
        (steps.foldl (Processes.next (step config)) requests).shared) := by
  constructor
  · exact hdead.congr fun _ _ hnext => adds_iff hnext
  · intro hcounted
    have hfirst : Counts config requests.shared requests.shared :=
      ⟨rfl, fun henough => by rw [sub_self] at henough; omega⟩
    have hkeep : ∀ (before : Processes Shared Phase) id,
        Counts config requests.shared before.shared → Dead before id ∧ Counted config before id →
          Counts config requests.shared (before.next (step config) id).shared :=
      fun _ _ h hnext => h.next hnext.1 hnext.2
    have hlast := (hdead.and hcounted).foldl hkeep hfirst
    exact hlast.opens

/-- An attempt, and its answer: a server error. -/
def serverError : List (Nat × Choice) :=
  [(0, ⟨0, .response 500⟩), (0, ⟨1, .response 500⟩)]

theorem dead_serverError (config : Config) :
    Along (Processes.next (step config)) Dead (initial 0 1) serverError :=
  ⟨fun _ hphase => (nomatch hphase), fun _ _ => rfl, trivial⟩

/-- A server error opens the breaker of threshold one if the request is sent again. -/
theorem trips_once :
    Trips { cbFailureThreshold := 1 } (initial 0 1).shared
      (serverError.foldl (Processes.next (step { cbFailureThreshold := 1 })) (initial 0 1)).shared := by
  refine (dead_host_trips { cbFailureThreshold := 1 } (by decide) (initial 0 1) serverError
    (dead_serverError _)).2 ⟨fun _ hphase => (nomatch hphase), fun attempt hphase => ?_, trivial⟩
  obtain rfl : 0 = attempt := Phase.sent.inj (Option.some.inj hphase)
  rfl

/-- A server error does not open the breaker of threshold one if the request is not sent again. -/
theorem never_trips :
    ¬ Trips { maxRetries := 0, cbFailureThreshold := 1 } (initial 0 1).shared
      (serverError.foldl (Processes.next (step { maxRetries := 0, cbFailureThreshold := 1 }))
        (initial 0 1)).shared := by
  intro htrips
  obtain hopened | ⟨hhalf, -⟩ := (htrips.tripped (by decide)).opened
  · exact absurd hopened (by decide)
  · exact absurd hhalf (by decide)

end HttpClient

end IntegrationPlatform
