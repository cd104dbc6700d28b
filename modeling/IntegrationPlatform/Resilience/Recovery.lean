import IntegrationPlatform.Resilience.CircuitBreaker

/-!
# Recovery of a circuit breaker

A half-open breaker admits a limited number of calls. A call that returns or raises ends the
half-open period, and with it gives the slots back; one that ends by an excluded exception or a
cancellation passes by both callbacks and keeps its slot. `recovers_iff` says that the breaker
admits calls again unless every slot of its half-open period is lost so.
-/

namespace IntegrationPlatform

namespace CircuitBreaker

/-- No call is in flight. -/
def Idle (calls : Processes Shared Phase) : Prop :=
  ∀ id period, ¬ calls.At id (.running period)

/-- A call that comes when the timeout has passed since the last counted failure is admitted. -/
def Recovers (config : Config) (calls : Processes Shared Phase) : Prop :=
  ∀ choice : Choice,
    (∀ failed, calls.shared.failedAt = some failed →
      config.resetTimeout ≤ calls.shared.now choice - failed) →
    ∃ after period, step config calls.shared .waiting choice = some (after, .running period)

/-- The call was admitted in this half-open period and has kept its slot. -/
def Phase.lostIn (period : Nat) : Phase → Bool
  | .ended admission .excluded => admission = some period
  | .ended admission .cancelled => admission = some period
  | _ => false

/-- The breaker has a slot for a half-open period that begins, and the period that lasts has lost
fewer than all its slots. -/
def Spare (config : Config) (calls : Processes Shared Phase) : Prop :=
  (calls.shared.breaker.state = .opened → 0 < config.halfOpenMaxCalls) ∧
    (calls.shared.breaker.state = .halfOpen →
      calls.phases.countP (Phase.lostIn calls.shared.period) < config.halfOpenMaxCalls)

variable {config : Config} {calls : Processes Shared Phase} {after : Shared} {phase phase' : Phase}
  {choice : Choice} {id : Nat}

/-! ## The invariant -/

/-- The slots are counted, the failure that opened the breaker is the last one, and the calls that
have ended in a half-open period that lasts have lost their slots. -/
structure Tracked (config : Config) (calls : Processes Shared Phase) : Prop where
  counted : Counted config calls
  failed : calls.shared.breaker.state ≠ .closed →
    calls.shared.failedAt = some calls.shared.breaker.lastFailureTime
  lost : calls.shared.breaker.state = .halfOpen → ∀ id outcome,
    calls.At id (.ended (some calls.shared.period) outcome) →
      outcome = .excluded ∨ outcome = .cancelled

theorem Counted.not_ended (h : Counted config calls) {period : Nat} {outcome : Outcome}
    (hlater : calls.shared.period < period) : ¬ calls.At id (.ended (some period) outcome) := by
  intro hended
  have hcount := h.later period hlater
  rw [List.countP_eq_zero] at hcount
  exact hcount _ (List.mem_of_getElem? hended) (by simp [Phase.admittedIn])

theorem tracked_initial (config : Config) (clock : Rat) (number : Nat) :
    Tracked config (initial clock number) where
  counted := counted_initial config clock number
  failed hopened := absurd rfl hopened
  lost hhalf := by cases hhalf

theorem Tracked.failed_waiting (h : Tracked config calls)
    (hstep : step config calls.shared .waiting choice = some (after, phase'))
    (hopened : after.breaker.state ≠ .closed) :
    after.failedAt = some after.breaker.lastFailureTime := by
  obtain ⟨-, hfailed, -, hbreaker⟩ := step_waiting hstep
  have hlast : after.breaker.lastFailureTime = calls.shared.breaker.lastFailureTime ∧
      calls.shared.breaker.state ≠ .closed := by
    obtain ⟨hsame, -⟩ | ⟨hbefore, -, hhalf, -⟩ := checked_cases config calls.shared choice <;>
      obtain ⟨hafter, -⟩ | ⟨-, -, hafter, -⟩ := hbreaker
    · rw [hafter, hsame] at hopened ⊢
      exact ⟨rfl, hopened⟩
    · rw [hafter, hsame] at hopened ⊢
      exact ⟨rfl, hopened⟩
    · rw [hafter, hhalf, hbefore]
      exact ⟨rfl, State.noConfusion⟩
    · rw [hafter, hhalf, hbefore]
      exact ⟨rfl, State.noConfusion⟩
  rw [hfailed, hlast.1]
  exact h.failed hlast.2

theorem Tracked.lost_waiting (h : Tracked config calls) (hphase : calls.At id .waiting)
    (hstep : step config calls.shared .waiting choice = some (after, phase'))
    (hhalf : after.breaker.state = .halfOpen) (other : Nat) (outcome : Outcome)
    (hended : Processes.At ⟨after, calls.phases.set id phase'⟩ other
      (.ended (some after.period) outcome)) :
    outcome = .excluded ∨ outcome = .cancelled := by
  obtain ⟨-, -, hperiod, hbreaker⟩ := step_waiting hstep
  -- The call itself is admitted or refused, and has not ended.
  have hbefore : calls.At other (.ended (some after.period) outcome) := by
    obtain ⟨-, hsame⟩ | ⟨-, hother⟩ := hphase.of_set hended
    · subst hsame
      obtain ⟨-, ⟨_, hnone⟩ | ⟨-, hnone⟩⟩ | ⟨-, -, -, hnone⟩ := hbreaker <;> cases hnone
    · exact hother
  rw [hperiod] at hbefore
  obtain ⟨hsame, hlasts⟩ | ⟨-, -, -, hnew⟩ := checked_cases config calls.shared choice
  · have hlasting : calls.shared.breaker.state = .halfOpen := by
      rw [← hhalf, ← hsame]
      obtain ⟨hafter, -⟩ | ⟨-, -, hafter, -⟩ := hbreaker <;> rw [hafter]
    rw [hlasts] at hbefore
    exact h.lost hlasting other outcome hbefore
  · -- In a period that begins with this call no other one has ended.
    rw [hnew] at hbefore
    exact absurd hbefore (h.counted.not_ended (Nat.lt_succ_self _))

theorem Tracked.of_step (h : Tracked config calls) (hphase : calls.At id phase)
    (hstep : step config calls.shared phase choice = some (after, phase')) :
    Tracked config ⟨after, calls.phases.set id phase'⟩ := by
  refine ⟨h.counted.step hphase hstep, fun hopened => ?_, fun hhalf other outcome hended => ?_⟩
  · cases phase with
    | waiting => exact h.failed_waiting hstep hopened
    | running period =>
        obtain ⟨-, -, ⟨-, hafter, -⟩ | ⟨-, hafter, hfailed⟩ | ⟨-, hafter, hfailed⟩⟩ :=
          step_running hstep
        · exact absurd (congrArg Breaker.state hafter) hopened
        · exact hfailed.trans (congrArg (some ·.lastFailureTime) hafter.symm)
        · show after.failedAt = some after.breaker.lastFailureTime
          replace hopened : after.breaker.state ≠ .closed := hopened
          rw [hafter] at hopened ⊢
          rw [hfailed]
          exact h.failed hopened
    | ended period outcome => cases hstep
    | refused error => cases hstep
  · cases phase with
    | waiting => exact h.lost_waiting hphase hstep hhalf other outcome hended
    | running period =>
        replace hhalf : after.breaker.state = .halfOpen := hhalf
        obtain ⟨rfl, hperiod, ⟨-, hafter, -⟩ | ⟨-, hafter, -⟩ | ⟨houtcome, hafter, -⟩⟩ :=
          step_running hstep
        · rw [hafter] at hhalf
          cases hhalf
        · rw [hafter] at hhalf
          exact absurd hhalf Breaker.onFailure_state_ne
        · obtain ⟨-, hsame⟩ | ⟨-, hother⟩ := hphase.of_set hended
          · rw [(Phase.ended.inj hsame).2]
            exact houtcome
          · rw [hafter] at hhalf
            exact h.lost hhalf other outcome (hperiod ▸ hother)
    | ended period outcome => cases hstep
    | refused error => cases hstep

theorem Tracked.next (h : Tracked config calls) (id : Nat × Choice) :
    Tracked config (calls.next (step config) id) :=
  Processes.next_keeps h fun _ _ _ hphase hstep => h.of_step hphase hstep

/-! ## Admission -/

theorem admitted_iff (config : Config) (before : Shared) (choice : Choice) :
    (∃ after period, step config before .waiting choice = some (after, .running period)) ↔
      (before.checked config choice).breaker.state = .closed ∨
        (before.checked config choice).breaker.state = .halfOpen ∧
          (before.checked config choice).breaker.halfOpenCalls < config.halfOpenMaxCalls := by
  simp only [step, Breaker.checkState]
  cases hstate : (before.checked config choice).breaker.state with
  | closed => simp
  | opened => simp
  | halfOpen =>
      by_cases hfull : config.halfOpenMaxCalls ≤ (before.checked config choice).breaker.halfOpenCalls
      · simp [hfull]
      · simp [hfull, not_le.mp hfull]

theorem Tracked.slots_eq (h : Tracked config calls) (hidle : Idle calls)
    (hhalf : calls.shared.breaker.state = .halfOpen) :
    calls.shared.breaker.halfOpenCalls =
      calls.phases.countP (Phase.lostIn calls.shared.period) := by
  rw [← h.counted.counted hhalf]
  -- A call that was admitted in the period has ended, and by the invariant it has lost its slot.
  refine List.countP_congr fun phase hmem => ?_
  obtain ⟨id, hphase⟩ := List.mem_iff_getElem?.mp hmem
  cases phase with
  | waiting => exact Iff.rfl
  | running period => exact absurd hphase (hidle id period)
  | ended admission outcome =>
      by_cases hcurrent : admission = some calls.shared.period
      · subst hcurrent
        obtain rfl | rfl := h.lost hhalf id outcome hphase <;> exact Iff.rfl
      · cases outcome <;> simp [Phase.admittedIn, Phase.lostIn, hcurrent]
  | refused error => exact Iff.rfl

theorem Tracked.exists_over (h : Tracked config calls)
    (hclosed : calls.shared.breaker.state ≠ .closed) :
    ∃ choice : Choice,
      config.resetTimeout ≤ calls.shared.now choice - calls.shared.breaker.lastFailureTime ∧
        ∀ failed, calls.shared.failedAt = some failed →
          config.resetTimeout ≤ calls.shared.now choice - failed := by
  let rest := config.resetTimeout + calls.shared.breaker.lastFailureTime - calls.shared.clock
  have hover : config.resetTimeout ≤ calls.shared.now ⟨rest.toNNRat, .returned⟩ -
      calls.shared.breaker.lastFailureTime := by
    have hle := Rat.le_coe_toNNRat rest
    show _ ≤ calls.shared.clock + (rest.toNNRat : Rat) - calls.shared.breaker.lastFailureTime
    linarith
  refine ⟨⟨rest.toNNRat, .returned⟩, hover, fun failed hlast => ?_⟩
  -- The last counted failure is the one that the breaker knows.
  obtain rfl := Option.some.inj ((h.failed hclosed).symm.trans hlast)
  exact hover

theorem checked_of_ne_opened {before : Shared} (hopened : before.breaker.state ≠ .opened) :
    (before.checked config choice).breaker = before.breaker := by
  obtain ⟨hsame, -⟩ | ⟨hbefore, -⟩ := checked_cases config before choice
  · exact hsame
  · exact absurd hbefore hopened

theorem checked_of_opened {before : Shared} (hopened : before.breaker.state = .opened)
    (hover : config.resetTimeout ≤ before.now choice - before.breaker.lastFailureTime) :
    (before.checked config choice).breaker =
      { before.breaker with state := .halfOpen, halfOpenCalls := 0 } := by
  refine if_pos ?_
  rw [Breaker.retries, hopened, decide_eq_true hover]
  rfl

/-- An idle breaker recovers if and only if it has a slot. -/
theorem Tracked.spare_iff (h : Tracked config calls) (hidle : Idle calls) :
    Recovers config calls ↔ Spare config calls := by
  unfold Recovers
  simp only [admitted_iff]
  cases hstate : calls.shared.breaker.state with
  | closed =>
      have hne : calls.shared.breaker.state ≠ .opened := by
        rw [hstate]
        exact State.noConfusion
      refine iff_of_true (fun choice _ => .inl ?_) ⟨fun hopened => ?_, fun hhalf => ?_⟩
      · rw [checked_of_ne_opened hne, hstate]
      · rw [hstate] at hopened
        cases hopened
      · rw [hstate] at hhalf
        cases hhalf
  | opened =>
      have hclosed : calls.shared.breaker.state ≠ .closed := by
        rw [hstate]
        exact State.noConfusion
      constructor
      · intro hrecovers
        obtain ⟨choice, hover, hlate⟩ := h.exists_over hclosed
        have hadmitted := hrecovers choice hlate
        rw [checked_of_opened hstate hover] at hadmitted
        refine ⟨fun _ => ?_, fun hhalf => ?_⟩
        · obtain hclosed | ⟨-, hfree⟩ := hadmitted
          · cases hclosed
          · exact hfree
        · rw [hstate] at hhalf
          cases hhalf
      · intro hspare choice hlate
        rw [checked_of_opened hstate (hlate _ (h.failed hclosed))]
        exact .inr ⟨rfl, hspare.1 hstate⟩
  | halfOpen =>
      have hne : calls.shared.breaker.state ≠ .opened := by
        rw [hstate]
        exact State.noConfusion
      have hslots := h.slots_eq hidle hstate
      constructor
      · intro hrecovers
        obtain ⟨choice, -, hlate⟩ := h.exists_over (by rw [hstate]; exact State.noConfusion)
        have hadmitted := hrecovers choice hlate
        rw [checked_of_ne_opened hne, hstate, hslots] at hadmitted
        refine ⟨fun hopened => absurd hopened hne, fun _ => ?_⟩
        obtain hclosed | ⟨-, hfree⟩ := hadmitted
        · cases hclosed
        · exact hfree
      · intro hspare choice _
        rw [checked_of_ne_opened hne, hstate, hslots]
        exact .inr ⟨rfl, hspare.2 hstate⟩

/-! ## Runs -/

/-- After any steps of any calls, an idle breaker admits the next call once its timeout has passed,
exactly if it has a slot: its half-open period has lost fewer calls to excluded exceptions and
cancellations than `half_open_max_calls`. -/
theorem recovers_iff (config : Config) (clock : Rat) (number : Nat) (steps : List (Nat × Choice)) :
    (Idle (steps.foldl (Processes.next (step config)) (initial clock number)) →
        Recovers config (steps.foldl (Processes.next (step config)) (initial clock number))) ↔
      (Idle (steps.foldl (Processes.next (step config)) (initial clock number)) →
        Spare config (steps.foldl (Processes.next (step config)) (initial clock number))) := by
  have htracked := List.foldlRecOn (motive := Tracked config) steps (Processes.next (step config))
    (tracked_initial config clock number) (fun _ h id _ => h.next id)
  exact forall_congr' fun hidle => htracked.spare_iff hidle

/-- A call fails, and the one that probes the host when the timeout is over is cancelled. -/
def cancelledProbe : Processes Shared Phase :=
  [(0, ⟨0, .raised⟩), (0, ⟨0, .raised⟩), (1, ⟨30, .cancelled⟩), (1, ⟨1, .cancelled⟩)].foldl
    (Processes.next (step { failureThreshold := 1 })) (initial 0 2)

/-- The breaker keeps its only slot for the cancelled call, and refuses each call that comes. -/
theorem wedged : Idle cancelledProbe ∧ ¬ Recovers { failureThreshold := 1 } cancelledProbe := by
  have hphases : cancelledProbe.phases =
      [.ended none .raised, .ended (some 1) .cancelled] := by decide +kernel
  constructor
  · intro id period hrunning
    have hmem := List.mem_of_getElem? hrunning
    rw [hphases] at hmem
    simp at hmem
  · intro hrecovers
    have hfailed : cancelledProbe.shared.failedAt = some 0 := by decide +kernel
    obtain hclosed | ⟨-, hfree⟩ := (admitted_iff _ _ ⟨60, .returned⟩).mp <|
      hrecovers ⟨60, .returned⟩ fun failed hlast => by
        obtain rfl : 0 = failed := Option.some.inj (hfailed.symm.trans hlast)
        decide +kernel
    · revert hclosed
      decide +kernel
    · revert hfree
      decide +kernel

end CircuitBreaker

end IntegrationPlatform
