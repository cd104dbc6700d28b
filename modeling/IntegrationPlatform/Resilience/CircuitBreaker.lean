import IntegrationPlatform.Transactions.Histories
import IntegrationPlatform.Transactions.Processes
import Mathlib.Tactic.Linarith

/-!
# The circuit breaker of the shared client

`CircuitBreaker.call` admits a call, awaits it, and changes the state by its outcome. The code of the
breaker runs without interruption before a call and after it, so that the calls of a breaker overlap
in their awaits only. `transitions_iff` says which outcomes change the state as the documentation of
the breaker says.
-/

namespace IntegrationPlatform

namespace CircuitBreaker

/-! ## The breaker -/

inductive State where
  | closed
  | opened
  | halfOpen
  deriving DecidableEq

/-- The arguments of `CircuitBreaker`. -/
structure Config where
  name : String := ""
  failureThreshold : Int := 5
  resetTimeout : Rat := 30
  halfOpenMaxCalls : Int := 1

structure CircuitBreakerOpen where
  name : String
  remainingSeconds : Rat
  deriving DecidableEq

/-- The fields of a breaker. -/
structure Breaker where
  state : State := .closed
  failureCount : Nat := 0
  lastFailureTime : Rat := 0
  halfOpenCalls : Nat := 0

namespace Breaker

variable (config : Config) (now : Rat) (breaker : Breaker)

/-- The breaker is open, and its timeout is over. -/
def retries : Bool :=
  breaker.state = .opened && decide (config.resetTimeout ≤ now - breaker.lastFailureTime)

def maybeTransitionToHalfOpen : Breaker :=
  if breaker.retries config now then { breaker with state := .halfOpen, halfOpenCalls := 0 }
  else breaker

/-- The exception of `_check_state`. -/
def refusal : CircuitBreakerOpen where
  name := config.name
  remainingSeconds := max 0 (config.resetTimeout - (now - breaker.lastFailureTime))

def checkState : Except CircuitBreakerOpen Breaker :=
  match breaker.state with
  | .closed => .ok breaker
  | .opened => .error (breaker.refusal config now)
  | .halfOpen =>
      if config.halfOpenMaxCalls ≤ breaker.halfOpenCalls then .error (breaker.refusal config now)
      else .ok { breaker with halfOpenCalls := breaker.halfOpenCalls + 1 }

def onSuccess : Breaker :=
  { breaker with state := .closed, failureCount := 0 }

def onFailure : Breaker :=
  { breaker with
    failureCount := breaker.failureCount + 1
    lastFailureTime := now
    state :=
      match breaker.state with
      | .halfOpen => .opened
      | .closed =>
          if config.failureThreshold ≤ (breaker.failureCount + 1 : Nat) then .opened else .closed
      | .opened => .opened }

theorem onFailure_state_ne {config : Config} {now : Rat} {breaker : Breaker} :
    (breaker.onFailure config now).state ≠ .halfOpen := by
  unfold onFailure
  cases breaker.state with
  | closed =>
      show (if _ then State.opened else State.closed) ≠ _
      split <;> exact State.noConfusion
  | opened => exact State.noConfusion
  | halfOpen => exact State.noConfusion

end Breaker

/-! ## Calls -/

/-- How the function of a call ends. -/
inductive Outcome where
  | returned
  /-- An exception that counts as a failure. -/
  | raised
  /-- One of `excluded_exceptions`. -/
  | excluded
  | cancelled
  deriving DecidableEq

/-- Where a call is. An admitted call keeps the number of the half-open period in which it was
admitted, if it was in one. -/
inductive Phase where
  | waiting
  | running (period : Option Nat)
  | ended (period : Option Nat) (outcome : Outcome)
  | refused (error : CircuitBreakerOpen)
  deriving DecidableEq

/-- The breaker, the clock, the instant of the last counted failure, and how many half-open periods
have begun. -/
structure Shared where
  breaker : Breaker
  clock : Rat
  failedAt : Option Rat
  period : Nat

/-- How much time passes before a step of a call, and how its function ends. -/
structure Choice where
  elapsed : NNRat
  outcome : Outcome

/-- The clock at a step. -/
def Shared.now (shared : Shared) (choice : Choice) : Rat := shared.clock + choice.elapsed

/-- The breaker and its period when a call comes to `_check_state`. -/
def Shared.checked (config : Config) (shared : Shared) (choice : Choice) : Shared where
  breaker := shared.breaker.maybeTransitionToHalfOpen config (shared.now choice)
  clock := shared.now choice
  failedAt := shared.failedAt
  period := if shared.breaker.retries config (shared.now choice) then shared.period + 1
    else shared.period

/-- The period in which a call is admitted now. -/
def Shared.admission (shared : Shared) : Option Nat :=
  if shared.breaker.state = .halfOpen then some shared.period else none

/-- `call`, up to the await of its function, and from there on. -/
def step (config : Config) (shared : Shared) (phase : Phase) (choice : Choice) :
    Option (Shared × Phase) :=
  let now := shared.now choice
  match phase with
  | .waiting =>
      let checked := shared.checked config choice
      match checked.breaker.checkState config now with
      | .ok breaker => some ({ checked with breaker }, .running checked.admission)
      | .error error => some (checked, .refused error)
  | .running period =>
      let after : Shared :=
        match choice.outcome with
        | .returned => { shared with clock := now, breaker := shared.breaker.onSuccess }
        | .raised =>
            { shared with
              clock := now
              breaker := shared.breaker.onFailure config now
              failedAt := some now }
        | .excluded => { shared with clock := now }
        -- A cancellation is no `Exception`, and passes by the handler.
        | .cancelled => { shared with clock := now }
      some (after, .ended period choice.outcome)
  | _ => none

/-- Calls of a new breaker. -/
def initial (clock : Rat) (calls : Nat) : Processes Shared Phase where
  shared := ⟨{}, clock, none, 0⟩
  phases := List.replicate calls .waiting

/-! ## Transitions -/

/-- The changes of the state that the documentation allows, and staying in a state. -/
inductive Allowed (config : Config) (before : Shared) (phase : Phase) (choice : Choice) (after : Shared) :
    Prop where
  | stays : after.breaker.state = before.breaker.state → Allowed config before phase choice after
  /-- From closed to open: there are enough failures. -/
  | trips {period} : before.breaker.state = .closed → after.breaker.state = .opened →
      phase = .running period → choice.outcome = .raised →
      config.failureThreshold ≤ after.breaker.failureCount → Allowed config before phase choice after
  /-- From open to half-open: the timeout is over. -/
  | retries : before.breaker.state = .opened → after.breaker.state = .halfOpen → phase = .waiting →
      config.resetTimeout ≤ after.clock - before.breaker.lastFailureTime →
      Allowed config before phase choice after
  /-- From half-open to closed: a call of the period returns. -/
  | recovers : before.breaker.state = .halfOpen → after.breaker.state = .closed →
      phase = .running (some before.period) → choice.outcome = .returned →
      Allowed config before phase choice after
  /-- From half-open to open: a call of the period raises. -/
  | reopens : before.breaker.state = .halfOpen → after.breaker.state = .opened →
      phase = .running (some before.period) → choice.outcome = .raised →
      Allowed config before phase choice after

/-- The step of a call makes no other change. -/
def Lawful (config : Config) (calls : Processes Shared Phase) (id : Nat × Choice) : Prop :=
  ∀ phase, calls.At id.1 phase →
    Allowed config calls.shared phase id.2 (calls.next (step config) id).shared

/-- A call that returns was admitted in the half-open period that lasts, unless the breaker is
closed; and so was one that raises while the breaker is half-open. -/
def Timely (calls : Processes Shared Phase) (id : Nat × Choice) : Prop :=
  ∀ period, calls.At id.1 (.running period) →
    (id.2.outcome = .returned → calls.shared.breaker.state = .closed ∨
      calls.shared.breaker.state = .halfOpen ∧ period = some calls.shared.period) ∧
    (id.2.outcome = .raised → calls.shared.breaker.state = .halfOpen →
      period = some calls.shared.period)

/-- The call was admitted in this half-open period. -/
def Phase.admittedIn (period : Nat) : Phase → Bool
  | .running admission => admission = some period
  | .ended admission _ => admission = some period
  | _ => false

/-- In no half-open period more calls have been admitted than there are slots. -/
def Bounded (config : Config) (calls : Processes Shared Phase) : Prop :=
  ∀ period, calls.phases.countP (Phase.admittedIn period) ≤ config.halfOpenMaxCalls.toNat

variable {config : Config} {calls : Processes Shared Phase} {before after : Shared} {phase phase' : Phase}
  {choice : Choice} {id : Nat} {period : Option Nat}

/-! ## One step -/

theorem checked_cases (config : Config) (before : Shared) (choice : Choice) :
    ((before.checked config choice).breaker = before.breaker ∧
        (before.checked config choice).period = before.period) ∨
      (before.breaker.state = .opened ∧
        config.resetTimeout ≤ before.now choice - before.breaker.lastFailureTime ∧
        (before.checked config choice).breaker =
          { before.breaker with state := .halfOpen, halfOpenCalls := 0 } ∧
        (before.checked config choice).period = before.period + 1) := by
  unfold Shared.checked Breaker.maybeTransitionToHalfOpen
  by_cases hretries : before.breaker.retries config (before.now choice) = true
  · obtain ⟨hopened, hover⟩ := Bool.and_eq_true_iff.mp hretries
    exact .inr ⟨of_decide_eq_true hopened, of_decide_eq_true hover, if_pos hretries, if_pos hretries⟩
  · exact .inl ⟨if_neg hretries, if_neg hretries⟩

/-- A call that comes is admitted, and takes a slot if the breaker is half-open, or is refused. -/
theorem step_waiting (h : step config before .waiting choice = some (after, phase')) :
    after.clock = before.now choice ∧ after.failedAt = before.failedAt ∧
      after.period = (before.checked config choice).period ∧
      ((after.breaker = (before.checked config choice).breaker ∧
          ((∃ error, phase' = .refused error) ∨
            after.breaker.state = .closed ∧ phase' = .running none)) ∨
        ((before.checked config choice).breaker.state = .halfOpen ∧
          (before.checked config choice).breaker.halfOpenCalls < config.halfOpenMaxCalls ∧
          after.breaker = { (before.checked config choice).breaker with
            halfOpenCalls := (before.checked config choice).breaker.halfOpenCalls + 1 } ∧
          phase' = .running (some after.period))) := by
  simp only [step, Breaker.checkState] at h
  have hclock : (before.checked config choice).clock = before.now choice := rfl
  have hfailed : (before.checked config choice).failedAt = before.failedAt := rfl
  have hadmission : (before.checked config choice).admission =
      if (before.checked config choice).breaker.state = .halfOpen then
        some (before.checked config choice).period
      else none := rfl
  generalize before.checked config choice = checked at h hclock hfailed hadmission ⊢
  cases hstate : checked.breaker.state with
  | closed =>
      rw [hstate] at h hadmission
      cases h
      exact ⟨hclock, hfailed, rfl, .inl ⟨rfl, .inr ⟨hstate, by rw [hadmission]; rfl⟩⟩⟩
  | opened =>
      rw [hstate] at h
      cases h
      exact ⟨hclock, hfailed, rfl, .inl ⟨rfl, .inl ⟨_, rfl⟩⟩⟩
  | halfOpen =>
      rw [if_pos hstate] at hadmission
      -- Every slot is taken, or the call takes one.
      by_cases hfull : config.halfOpenMaxCalls ≤ checked.breaker.halfOpenCalls
      · simp only [hstate, if_pos hfull] at h
        cases h
        exact ⟨hclock, hfailed, rfl, .inl ⟨rfl, .inl ⟨_, rfl⟩⟩⟩
      · have hslot : some ({ checked with breaker :=
            { checked.breaker with halfOpenCalls := checked.breaker.halfOpenCalls + 1 } },
            Phase.running checked.admission) = some (after, phase') := by
          rw [← h]
          simp only [hstate, if_neg hfull]
        cases hslot
        exact ⟨hclock, hfailed, rfl, .inr ⟨rfl, not_le.mp hfull, rfl, by rw [hadmission]⟩⟩

theorem step_running (h : step config before (.running period) choice = some (after, phase')) :
    phase' = .ended period choice.outcome ∧ after.period = before.period ∧
      ((choice.outcome = .returned ∧ after.breaker = before.breaker.onSuccess ∧
          after.failedAt = before.failedAt) ∨
        (choice.outcome = .raised ∧
          after.breaker = before.breaker.onFailure config (before.now choice) ∧
          after.failedAt = some (before.now choice)) ∨
        ((choice.outcome = .excluded ∨ choice.outcome = .cancelled) ∧
          after.breaker = before.breaker ∧ after.failedAt = before.failedAt)) := by
  simp only [step] at h
  cases h
  cases houtcome : choice.outcome <;> simp

theorem allowed_of_returned (houtcome : choice.outcome = .returned)
    (hafter : after.breaker = before.breaker.onSuccess) :
    Allowed config before (.running period) choice after ↔
      before.breaker.state = .closed ∨
        before.breaker.state = .halfOpen ∧ period = some before.period := by
  have hclosed : after.breaker.state = .closed := by
    rw [hafter]
    rfl
  constructor
  · -- Of the allowed changes only two end closed.
    rintro (hstays | ⟨-, hopened, -⟩ | ⟨-, hhalf, -⟩ | ⟨hhalf, -, hphase, -⟩ | ⟨-, hopened, -⟩)
    · exact .inl (hstays.symm.trans hclosed)
    · rw [hclosed] at hopened
      cases hopened
    · rw [hclosed] at hhalf
      cases hhalf
    · exact .inr ⟨hhalf, Phase.running.inj hphase⟩
    · rw [hclosed] at hopened
      cases hopened
  · rintro (hbefore | ⟨hhalf, rfl⟩)
    · exact .stays (hclosed.trans hbefore.symm)
    · exact .recovers hhalf hclosed rfl houtcome

/-- A call that raises opens the breaker if it is half-open, or closed with enough failures. -/
theorem allowed_of_raised {now : Rat} (houtcome : choice.outcome = .raised)
    (hafter : after.breaker = before.breaker.onFailure config now) :
    Allowed config before (.running period) choice after ↔
      (before.breaker.state = .halfOpen → period = some before.period) := by
  have hcount : after.breaker.failureCount = before.breaker.failureCount + 1 := by
    rw [hafter]
    rfl
  cases hstate : before.breaker.state with
  | closed =>
      refine iff_of_true ?_ (fun hhalf => by cases hhalf)
      by_cases henough : config.failureThreshold ≤ (before.breaker.failureCount + 1 : Nat)
      · have hopened : after.breaker.state = .opened := by
          rw [hafter]
          simp only [Breaker.onFailure, hstate, if_pos henough]
        exact .trips hstate hopened rfl houtcome (by rw [hcount]; exact henough)
      · refine .stays ?_
        rw [hafter, hstate]
        simp only [Breaker.onFailure, hstate, if_neg henough]
  | opened =>
      refine iff_of_true (.stays ?_) (fun hhalf => by cases hhalf)
      rw [hafter, hstate]
      simp [Breaker.onFailure, hstate]
  | halfOpen =>
      have hopened : after.breaker.state = .opened := by
        rw [hafter]
        simp [Breaker.onFailure, hstate]
      constructor
      · -- Of the allowed changes only the last one leads from half-open to open.
        rintro (hstays | ⟨hclosed, -⟩ | ⟨-, hhalf, -⟩ | ⟨-, hclosed, -⟩ | ⟨-, -, hphase, -⟩) _
        · rw [hopened, hstate] at hstays
          cases hstays
        · rw [hstate] at hclosed
          cases hclosed
        · rw [hopened] at hhalf
          cases hhalf
        · rw [hopened] at hclosed
          cases hclosed
        · exact Phase.running.inj hphase
      · intro hperiod
        obtain rfl := hperiod rfl
        exact .reopens hstate hopened rfl houtcome

theorem allowed_of_waiting (h : step config before .waiting choice = some (after, phase')) :
    Allowed config before .waiting choice after := by
  obtain ⟨hclock, -, -, hbreaker⟩ := step_waiting h
  have hstate : after.breaker.state = (before.checked config choice).breaker.state := by
    obtain ⟨hsame, -⟩ | ⟨-, -, hslot, -⟩ := hbreaker
    · rw [hsame]
    · rw [hslot]
  obtain ⟨hsame, -⟩ | ⟨hopened, hover, hhalf, -⟩ := checked_cases config before choice
  · exact .stays (by rw [hstate, hsame])
  · refine .retries hopened ?_ rfl ?_
    · rw [hstate, hhalf]
    · rw [hclock]
      exact hover

theorem lawful_iff (calls : Processes Shared Phase) (id : Nat × Choice) :
    Lawful config calls id ↔ Timely calls id := by
  obtain ⟨id, choice⟩ := id
  constructor
  · intro hlawful period hphase
    obtain ⟨after, phase', hstep⟩ : ∃ after phase', step config calls.shared (.running period) choice =
        some (after, phase') := ⟨_, _, rfl⟩
    have hallowed := hlawful _ hphase
    rw [Processes.next_of_step hphase hstep] at hallowed
    obtain ⟨-, -, ⟨houtcome, hafter, -⟩ | ⟨houtcome, hafter, -⟩ | ⟨houtcome, -⟩⟩ := step_running hstep
    · refine ⟨fun _ => (allowed_of_returned houtcome hafter).mp hallowed, fun hraised => ?_⟩
      rw [houtcome] at hraised
      cases hraised
    · refine ⟨fun hreturned => ?_, fun _ => (allowed_of_raised houtcome hafter).mp hallowed⟩
      rw [houtcome] at hreturned
      cases hreturned
    · obtain houtcome | houtcome := houtcome <;> simp [houtcome]
  · intro htimely phase hphase
    obtain hnext | ⟨found, after, phase', hfound, hstep, hnext⟩ :=
      calls.next_cases (step config) id choice
    -- A call that has ended takes no step.
    · exact .stays (by rw [hnext])
    obtain rfl : found = phase := Option.some.inj (hfound.symm.trans hphase)
    rw [hnext]
    cases found with
    | waiting => exact allowed_of_waiting hstep
    | running period =>
        obtain ⟨-, -, ⟨houtcome, hafter, -⟩ | ⟨houtcome, hafter, -⟩ | ⟨-, hafter, -⟩⟩ :=
          step_running hstep
        · exact (allowed_of_returned houtcome hafter).mpr ((htimely _ hphase).1 houtcome)
        · exact (allowed_of_raised houtcome hafter).mpr ((htimely _ hphase).2 houtcome)
        · exact .stays (congrArg Breaker.state hafter)
    | ended period outcome => cases hstep
    | refused error => cases hstep

/-! ## The slots of a half-open period -/

/-- The calls of this period are counted, none is of a later period, and there are not too many. -/
structure Counted (config : Config) (calls : Processes Shared Phase) : Prop where
  bounded : Bounded config calls
  later : ∀ period, calls.shared.period < period →
    calls.phases.countP (Phase.admittedIn period) = 0
  counted : calls.shared.breaker.state = .halfOpen →
    calls.phases.countP (Phase.admittedIn calls.shared.period) = calls.shared.breaker.halfOpenCalls

theorem countP_of_same (hphase : calls.At id phase)
    (hsame : ∀ period, phase'.admittedIn period = phase.admittedIn period) (period : Nat) :
    (calls.phases.set id phase').countP (Phase.admittedIn period) =
      calls.phases.countP (Phase.admittedIn period) := by
  have hset := hphase.countP_set phase' (Phase.admittedIn period)
  rw [hsame] at hset
  omega

theorem Counted.same (h : Counted config calls) (hphase : calls.At id phase)
    (hsame : ∀ period, phase'.admittedIn period = phase.admittedIn period)
    (hperiod : calls.shared.period ≤ after.period)
    (hslots : after.breaker.state = .halfOpen →
      calls.phases.countP (Phase.admittedIn after.period) = after.breaker.halfOpenCalls) :
    Counted config ⟨after, calls.phases.set id phase'⟩ where
  bounded period := by
    show (calls.phases.set id phase').countP _ ≤ _
    rw [countP_of_same hphase hsame]
    exact h.bounded period
  later period hlater := by
    show (calls.phases.set id phase').countP _ = 0
    rw [countP_of_same hphase hsame]
    exact h.later period (hperiod.trans_lt hlater)
  counted hhalf := by
    show (calls.phases.set id phase').countP _ = _
    rw [countP_of_same hphase hsame]
    exact hslots hhalf

theorem Counted.admit (h : Counted config calls) (hphase : calls.At id .waiting)
    (hperiod : calls.shared.period ≤ after.period) {slots : Nat}
    (hslots : calls.phases.countP (Phase.admittedIn after.period) = slots)
    (hfree : (slots : Int) < config.halfOpenMaxCalls)
    (htaken : after.breaker.halfOpenCalls = slots + 1) :
    Counted config ⟨after, calls.phases.set id (.running (some after.period))⟩ := by
  have hset := fun period =>
    hphase.countP_set (.running (some after.period)) (Phase.admittedIn period)
  have hother : ∀ period, after.period ≠ period →
      (calls.phases.set id (.running (some after.period))).countP (Phase.admittedIn period) =
        calls.phases.countP (Phase.admittedIn period) := by
    intro period hne
    simpa [Phase.admittedIn, hne] using hset period
  have hcurrent : (calls.phases.set id (.running (some after.period))).countP
      (Phase.admittedIn after.period) = slots + 1 := by
    simpa [Phase.admittedIn, hslots] using hset after.period
  refine ⟨fun period => ?_, fun period hlater => ?_, fun _ => ?_⟩
  · show (calls.phases.set id (.running (some after.period))).countP _ ≤ _
    by_cases hsame : after.period = period
    · subst hsame
      rw [hcurrent]
      omega
    · rw [hother period hsame]
      exact h.bounded period
  · show (calls.phases.set id (.running (some after.period))).countP _ = 0
    rw [hother period (Nat.ne_of_lt hlater)]
    exact h.later period (hperiod.trans_lt hlater)
  · exact hcurrent.trans htaken.symm

theorem Counted.checked (h : Counted config calls) (choice : Choice) :
    calls.shared.period ≤ (calls.shared.checked config choice).period ∧
      ((calls.shared.checked config choice).breaker.state = .halfOpen →
        calls.phases.countP (Phase.admittedIn (calls.shared.checked config choice).period) =
          (calls.shared.checked config choice).breaker.halfOpenCalls) := by
  obtain ⟨hbreaker, hperiod⟩ | ⟨-, -, hbreaker, hperiod⟩ := checked_cases config calls.shared choice
  · rw [hbreaker, hperiod]
    exact ⟨le_refl _, h.counted⟩
  · -- A new period begins with all its slots, and no call has been admitted in it.
    rw [hbreaker, hperiod]
    exact ⟨Nat.le_succ _, fun _ => h.later _ (Nat.lt_succ_self _)⟩

theorem Counted.step (h : Counted config calls) (hphase : calls.At id phase)
    (hstep : step config calls.shared phase choice = some (after, phase')) :
    Counted config ⟨after, calls.phases.set id phase'⟩ := by
  cases phase with
  | waiting =>
      obtain ⟨-, -, hperiod, hbreaker⟩ := step_waiting hstep
      obtain ⟨hle, hslots⟩ := h.checked choice
      rw [← hperiod] at hle hslots
      obtain ⟨hsame, hnone⟩ | ⟨hhalf, hfree, htaken, rfl⟩ := hbreaker
      · refine h.same hphase ?_ hle (by rwa [hsame])
        obtain ⟨error, rfl⟩ | ⟨-, rfl⟩ := hnone
        · exact fun _ => rfl
        · exact fun _ => rfl
      · exact h.admit hphase hle (hslots hhalf) hfree (by rw [htaken])
  | running period =>
      obtain ⟨rfl, hperiod, hcases⟩ := step_running hstep
      -- A call that ends keeps its admission, and only an excluded end leaves the breaker half-open.
      refine h.same hphase (fun _ => rfl) hperiod.ge ?_
      rw [hperiod]
      obtain ⟨-, hafter, -⟩ | ⟨-, hafter, -⟩ | ⟨-, hafter, -⟩ := hcases
      · rw [hafter]
        intro hhalf
        cases hhalf
      · rw [hafter]
        intro hhalf
        exact absurd hhalf Breaker.onFailure_state_ne
      · rw [hafter]
        exact h.counted
  | ended period outcome => cases hstep
  | refused error => cases hstep

theorem counted_initial (config : Config) (clock : Rat) (number : Nat) :
    Counted config (initial clock number) := by
  have hnone : ∀ period, (initial clock number).phases.countP (Phase.admittedIn period) = 0 := by
    intro period
    refine List.countP_eq_zero.mpr fun phase hmem => ?_
    rw [List.eq_of_mem_replicate hmem]
    exact Bool.false_ne_true
  refine ⟨fun period => ?_, fun period _ => hnone period, fun hhalf => by cases hhalf⟩
  rw [hnone]
  exact Nat.zero_le _

theorem Counted.next (h : Counted config calls) (id : Nat × Choice) :
    Counted config (calls.next (CircuitBreaker.step config) id) :=
  Processes.next_keeps h fun _ _ _ hphase hstep => h.step hphase hstep

/-- The breaker changes its state along the documented transitions, and a half-open state ends with a
call that was admitted in it, exactly if each call that returns finds the breaker closed or in the
half-open period of its admission, and each that raises finds it in this period if it is half-open;
and in every half-open period at most `half_open_max_calls` calls are admitted. -/
theorem transitions_iff (config : Config) (clock : Rat) (number : Nat) (steps : List (Nat × Choice)) :
    (Along (Processes.next (step config)) (Lawful config) (initial clock number) steps ↔
      Along (Processes.next (step config)) Timely (initial clock number) steps) ∧
    Bounded config (steps.foldl (Processes.next (step config)) (initial clock number)) := by
  constructor
  · exact along_iff (fun calls id (_ : True) => lawful_iff calls id) (fun _ _ _ _ => trivial) trivial
      steps
  · have hcounted := List.foldlRecOn (motive := Counted config) steps (Processes.next (step config))
      (counted_initial config clock number) (fun _ h id _ => h.next id)
    exact hcounted.bounded

/-- A call of the closed breaker returns when another one has opened it, which closes it again before
its timeout is over. -/
theorem opened_to_closed :
    ¬ Along (Processes.next (step { failureThreshold := 1 })) (Lawful { failureThreshold := 1 })
      (initial 0 2) [(0, ⟨0, .returned⟩), (1, ⟨0, .raised⟩), (1, ⟨1, .raised⟩), (0, ⟨2, .returned⟩)] := by
  rintro ⟨-, -, -, hlawful, -⟩
  have htimely := (lawful_iff _ _).mp hlawful none rfl
  obtain hclosed | ⟨hhalf, -⟩ := htimely.1 rfl
  · exact absurd hclosed (by decide)
  · exact absurd hhalf (by decide)

end CircuitBreaker

end IntegrationPlatform
