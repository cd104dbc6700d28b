import IntegrationPlatform.Sync.Ledger
import Mathlib.Logic.Function.Basic
import Mathlib.Tactic.Tauto

/-!
# Retries

How often the workflow is executed for an entity that fails, and what an administrative reset
makes of it. A reset leaves the failed rows pending, and a pending row is skipped for ever. The
attempt counter limits the decisions to retry only: an exhausted row is executed by the default
of the decision table, and a success does not set the counter back.
-/

namespace IntegrationPlatform

namespace Sync

/-! ## Runs of the ledger -/

/-- The committed rows of the ledger. -/
abbrev Ledger := Key → Option LedgerRow

/-- What changes the ledger: an event of an entity, a direct execution that is recorded, and an
administrative request. -/
inductive Operation where
  | event (key : Key) (event : SyncEvent) (result : ExecutionResult) (freshId : Nat)
  | recorded (key : Key) (tenantId contentHash : String) (result : ExecutionResult) (freshId : Nat)
  | admin (request : AdminRequest)

/-- The `max_retries` of `should_sync` where it is not given. -/
def defaultMaxRetries : Int := 3

/-- The ledger after an operation. -/
def Ledger.perform (ledger : Ledger) : Operation → Ledger
  | .event key event result freshId =>
      Function.update ledger key (some (handleEvent event result freshId (ledger key)).2)
  | .recorded key tenantId contentHash result freshId =>
      let checked := shouldSync (ledger key) freshId tenantId contentHash defaultMaxRetries
      Function.update ledger key (some (recordResult contentHash result checked.2))
  | .admin request => fun key => request.applyTo key (ledger key)

/-- The ledger after a run of operations. -/
def Ledger.run (ledger : Ledger) (operations : List Operation) : Ledger :=
  operations.foldl perform ledger

/-- The ledger without rows. -/
def emptyLedger : Ledger := fun _ => none

/-- The configuration of a workflow in incremental mode. -/
def incremental (maxRetries : Int) (onDuplicate : String) : SyncConfig where
  maxRetries := maxRetries
  onDuplicate := onDuplicate

/-- The operation handles an event in incremental mode. -/
def Operation.Incremental : Operation → Prop
  | .event _ handled _ _ => handled.config.mode = "incremental"
  | _ => False

variable {row : LedgerRow}

theorem handleEvent_pending {event : SyncEvent} (result : ExecutionResult)
    (freshId : Nat) (hmode : event.config.mode = "incremental") (hpending : row.syncStatus = .pending) :
    handleEvent event result freshId (some row) = (false, row) := by
  have hskip : (checkEntry row event.contentHash event.config.maxRetries).decision = .skip :=
    checkEntry_pending hpending
  have hexecutes : event.config.executes
      (checkEntry row event.contentHash event.config.maxRetries) = false := by
    simp [SyncConfig.executes, hmode, hskip]
  simp [handleEvent, shouldSync, hexecutes]

variable {ledger : Ledger}

theorem run_pending {key : Key} (events : List Operation)
    (hevents : ∀ operation ∈ events, operation.Incremental) (hrow : ledger key = some row)
    (hpending : row.syncStatus = .pending) : ledger.run events key = some row := by
  induction events generalizing ledger with
  | nil => exact hrow
  | cons operation rest ih =>
      refine ih (fun other hother => hevents other (List.mem_cons_of_mem _ hother)) ?_
      have hincremental := hevents operation List.mem_cons_self
      cases operation with
      | event key' event result freshId =>
          by_cases hkey : key' = key
          · subst hkey
            rw [Ledger.perform, Function.update_self, hrow,
              handleEvent_pending result freshId hincremental hpending]
          · rw [Ledger.perform, Function.update_of_ne (Ne.symm hkey), hrow]
      | recorded => exact hincremental.elim
      | admin => exact hincremental.elim

/-! ## Reset -/

def resetFailed (workflowId : String) (tenantId : Option String) : AdminRequest where
  op := .resetFailed
  workflowId := workflowId
  tenantId := tenantId

/-- An event of the entity would be executed, whatever its content is. -/
def Ledger.ExecutesNext (ledger : Ledger) (key : Key) : Prop :=
  ∀ event result freshId, event.config.mode = "incremental" →
    (handleEvent event result freshId (ledger key)).1 = true

/-- Every entity whose row the reset affects is executed on its next event, and no sequence of
events leaves it skipped for ever. -/
def ResetRetries (ledger : Ledger) (request : AdminRequest) : Prop :=
  ∀ key row, ledger key = some row → request.affects key row = true →
    (ledger.perform (.admin request)).ExecutesNext key ∧
      ∀ events, (∀ operation ∈ events, operation.Incremental) →
        ∃ event result freshId, event.config.mode = "incremental" ∧
          (handleEvent event result freshId
            ((ledger.perform (.admin request)).run events key)).1 = true

theorem perform_resetFailed {key : Key} {workflowId : String}
    {tenantId : Option String} (hrow : ledger key = some row)
    (haffects : (resetFailed workflowId tenantId).affects key row = true) :
    ∃ row', ledger.perform (.admin (resetFailed workflowId tenantId)) key = some row' ∧
      row'.syncStatus = .pending := by
  refine ⟨{ row with syncStatus := .pending, attemptCount := 0, lastError := none }, ?_, rfl⟩
  simp only [Ledger.perform, AdminRequest.applyTo, hrow, haffects, if_true]
  rfl

theorem skipped_after_reset {key : Key} {workflowId : String}
    {tenantId : Option String} (hrow : ledger key = some row)
    (haffects : (resetFailed workflowId tenantId).affects key row = true)
    {events : List Operation} (hevents : ∀ operation ∈ events, operation.Incremental)
    {event : SyncEvent} (hmode : event.config.mode = "incremental") (result : ExecutionResult)
    (freshId : Nat) :
    (handleEvent event result freshId
      ((ledger.perform (.admin (resetFailed workflowId tenantId))).run events key)).1 = false := by
  obtain ⟨row', hrow', hpending⟩ := perform_resetFailed hrow haffects
  rw [run_pending events hevents hrow' hpending, handleEvent_pending result freshId hmode hpending]

/-- In every ledger that a run can reach, a reset makes the failed entities retry if and only if
there are none. -/
theorem resetRetries_iff (operations : List Operation) (workflowId : String)
    (tenantId : Option String) :
    ResetRetries (emptyLedger.run operations) (resetFailed workflowId tenantId) ↔
      ∀ key row, emptyLedger.run operations key = some row → row.syncStatus = .failed →
        key.workflowId = workflowId → ∃ other, tenantId = some other ∧ other ≠ row.tenantId := by
  have haffects : ∀ key row, (resetFailed workflowId tenantId).affects key row = true ↔
      row.syncStatus = .failed ∧ key.workflowId = workflowId ∧
        ¬ ∃ other, tenantId = some other ∧ other ≠ row.tenantId := by
    intro key row
    cases tenantId <;> simp [AdminRequest.affects, resetFailed] <;> tauto
  constructor
  · intro hretries key row hrow hfailed hworkflow
    by_contra htenant
    have hreset := (haffects key row).mpr ⟨hfailed, hworkflow, htenant⟩
    let event : SyncEvent := { tenantId := "", contentHash := "", config := {} }
    have hexecuted := (hretries key row hrow hreset).1 event .success 0 rfl
    have hskipped : (handleEvent event .success 0 (((emptyLedger.run operations).perform
        (.admin (resetFailed workflowId tenantId))).run [] key)).1 = false :=
      skipped_after_reset hrow hreset (by simp) rfl .success 0
    exact Bool.noConfusion (hexecuted.symm.trans hskipped)
  · intro hnone key row hrow hreset
    obtain ⟨hfailed, hworkflow, htenant⟩ := (haffects key row).mp hreset
    exact absurd (hnone key row hrow hfailed hworkflow) htenant

/-! ## The retry bound -/

section Bound

variable (tenantId contentHash : String) (maxRetries : Nat) (onDuplicate : String)

/-- An event of a workflow in incremental mode. -/
def incrementalEvent : SyncEvent where
  tenantId := tenantId
  contentHash := contentHash
  config := incremental maxRetries onDuplicate

/-- How often the workflow is executed by events that carry the same content and fail with these
errors. -/
def executions : List (Option String) → Option LedgerRow → Nat
  | [], _ => 0
  | error :: rest, entry =>
      let handled := handleEvent (incrementalEvent tenantId contentHash maxRetries onDuplicate)
        (.failure error) 0 entry
      (if handled.1 then 1 else 0) + executions rest (some handled.2)

/-- How many of these events are executed because the entity is to be retried. -/
def retries : List (Option String) → LedgerRow → Nat
  | [], _ => 0
  | error :: rest, row =>
      (if (checkEntry row contentHash maxRetries).decision = .retry then 1 else 0) +
        retries rest (handleEvent (incrementalEvent tenantId contentHash maxRetries onDuplicate)
          (.failure error) 0 (some row)).2

/-- The entity is skipped: its row is pending, or synced with this content, or it has other
content, which is not to be updated, and is not to be retried. -/
def Refused (row : LedgerRow) : Prop :=
  row.syncStatus = .pending ∨
    (row.syncStatus = .synced ∧ row.contentHash = contentHash) ∨
    (row.contentHash ≠ contentHash ∧ onDuplicate = "skip" ∧
      ¬ (row.syncStatus = .failed ∧ row.attemptCount < maxRetries))

/-- After its next failure, the entity is retried as often as a new one after its first. -/
def FullBudget (row : LedgerRow) : Prop :=
  ∀ tenantId contentHash onDuplicate error errors,
    retries tenantId contentHash maxRetries onDuplicate errors
        (recordResult contentHash (.failure error) row) =
      retries tenantId contentHash maxRetries onDuplicate errors
        (recordResult contentHash (.failure error) (pendingRow row.id row.tenantId contentHash))

variable {tenantId contentHash maxRetries onDuplicate}

theorem handleEvent_refused (result : ExecutionResult) (freshId : Nat)
    (h : Refused contentHash maxRetries onDuplicate row) :
    handleEvent (incrementalEvent tenantId contentHash maxRetries onDuplicate) result freshId
      (some row) = (false, row) := by
  have hexecutes : (incremental maxRetries onDuplicate).executes
      (checkEntry row contentHash maxRetries) = false := by
    rcases h with hpending | ⟨hsynced, hhash⟩ | ⟨hhash, hskip, hretry⟩
    · simp [SyncConfig.executes, incremental, checkEntry, hpending]
    · simp [SyncConfig.executes, incremental, checkEntry, hsynced, hhash]
    · by_cases hpending : row.syncStatus = .pending
      · simp [SyncConfig.executes, incremental, checkEntry, hpending]
      · simp [SyncConfig.executes, incremental, checkEntry, hpending, hretry, hhash, hskip]
  exact if_neg (by simpa [incrementalEvent, shouldSync, incremental] using hexecutes)

theorem handleEvent_executed (result : ExecutionResult) (freshId : Nat)
    (h : ¬ Refused contentHash maxRetries onDuplicate row) :
    handleEvent (incrementalEvent tenantId contentHash maxRetries onDuplicate) result freshId
      (some row) = (true, recordResult contentHash result row) := by
  obtain ⟨hpending, hrest⟩ := not_or.mp h
  obtain ⟨hsynced, hupdate⟩ := not_or.mp hrest
  have hexecutes : (incremental maxRetries onDuplicate).executes
      (checkEntry row contentHash maxRetries) = true := by
    by_cases hretry : row.syncStatus = .failed ∧ row.attemptCount < maxRetries
    · simp [SyncConfig.executes, incremental, checkEntry, hretry]
    · by_cases hhash : row.contentHash = contentHash
      · have hstatus : row.syncStatus ≠ .synced := fun hstatus => hsynced ⟨hstatus, hhash⟩
        simp [SyncConfig.executes, incremental, checkEntry, hpending, hretry, hhash, hstatus]
      · have hpolicy : onDuplicate ≠ "skip" := by
          intro hskip
          exact hupdate ⟨hhash, hskip, hretry⟩
        simp [SyncConfig.executes, incremental, checkEntry, hpending, hretry, hhash, hpolicy]
  exact if_pos hexecutes

theorem handleEvent_new (result : ExecutionResult) (freshId : Nat) :
    handleEvent (incrementalEvent tenantId contentHash maxRetries onDuplicate) result freshId none =
      (true, recordResult contentHash result (pendingRow freshId tenantId contentHash)) := by
  have hexecutes : (incremental maxRetries onDuplicate).executes (insertedCheck freshId) = true := by
    simp [SyncConfig.executes, incremental, insertedCheck]
  unfold handleEvent
  exact if_pos hexecutes

theorem not_refused_failed (error : Option String) :
    ¬ Refused contentHash maxRetries onDuplicate (recordResult contentHash (.failure error) row) := by
  simp [Refused, recordResult]

theorem executions_refused (h : Refused contentHash maxRetries onDuplicate row)
    (errors : List (Option String)) :
    executions tenantId contentHash maxRetries onDuplicate errors (some row) = 0 := by
  induction errors with
  | nil => rfl
  | cons error rest ih =>
      simp only [executions, handleEvent_refused _ _ h, Bool.false_eq_true, if_false, Nat.zero_add]
      exact ih

theorem executions_executed {entry : Option LedgerRow}
    (h : ∀ row, entry = some row → ¬ Refused contentHash maxRetries onDuplicate row)
    (errors : List (Option String)) :
    executions tenantId contentHash maxRetries onDuplicate errors entry = errors.length := by
  induction errors generalizing entry with
  | nil => rfl
  | cons error rest ih =>
      have hfailed : ∃ row, handleEvent (incrementalEvent tenantId contentHash maxRetries onDuplicate)
          (.failure error) 0 entry = (true, recordResult contentHash (.failure error) row) := by
        cases entry with
        | none => exact ⟨_, handleEvent_new _ _⟩
        | some row => exact ⟨row, handleEvent_executed _ _ (h row rfl)⟩
      obtain ⟨row, hhandled⟩ := hfailed
      have hrest : executions tenantId contentHash maxRetries onDuplicate rest
          (some (recordResult contentHash (.failure error) row)) = rest.length := by
        refine ih fun row' hrow' => ?_
        cases hrow'
        exact not_refused_failed error
      simp only [executions, hhandled, if_true, hrest, List.length_cons]
      omega

theorem retries_failed (hstatus : row.syncStatus = .failed)
    (hhash : row.contentHash = contentHash) (errors : List (Option String)) :
    retries tenantId contentHash maxRetries onDuplicate errors row =
      min errors.length (maxRetries - row.attemptCount) := by
  induction errors generalizing row with
  | nil => simp [retries]
  | cons error rest ih =>
      have hrefused : ¬ Refused contentHash maxRetries onDuplicate row := by
        simp [Refused, hstatus, hhash]
      have hrest : retries tenantId contentHash maxRetries onDuplicate rest
          (recordResult contentHash (.failure error) row) =
          min rest.length (maxRetries - (row.attemptCount + 1)) := ih rfl rfl
      simp only [retries, handleEvent_executed _ _ hrefused, hrest, List.length_cons]
      by_cases hretry : row.attemptCount < maxRetries
      · have hdecision : (checkEntry row contentHash maxRetries).decision = .retry := by
          simp [checkEntry, hstatus, hretry]
        rw [if_pos hdecision]
        omega
      · have hdecision : (checkEntry row contentHash maxRetries).decision ≠ .retry := by
          simp [checkEntry, hstatus, hretry, hhash]
        rw [if_neg hdecision]
        omega

theorem fullBudget_iff :
    FullBudget maxRetries row ↔ row.attemptCount = 0 ∨ maxRetries ≤ 1 := by
  have hcount : ∀ tenantId contentHash onDuplicate error errors (row : LedgerRow),
      retries tenantId contentHash maxRetries onDuplicate errors
        (recordResult contentHash (.failure error) row) =
        min errors.length (maxRetries - (row.attemptCount + 1)) := by
    intro tenantId contentHash onDuplicate error errors row
    have hfailed : (recordResult contentHash (.failure error) row).syncStatus = .failed := rfl
    exact retries_failed hfailed rfl errors
  unfold FullBudget
  simp only [hcount]
  constructor
  · intro hbudget
    have hmany := hbudget "" "" "" none (List.replicate maxRetries none)
    simp only [List.length_replicate, pendingRow] at hmany
    omega
  · intro hzero tenantId contentHash onDuplicate error errors
    simp only [pendingRow]
    omega

end Bound

/-- Events with the same content that all fail execute the workflow at most once and for each
retry, and a success restores the retries, exactly under these conditions: the entity is refused
from the start or there are no more events than that, and the counter of the row is at zero or
there are no retries. -/
theorem retryBound_iff (tenantId contentHash : String) (maxRetries : Nat) (onDuplicate : String)
    (entry : Option LedgerRow) (errors : List (Option String)) (row : LedgerRow) :
    (executions tenantId contentHash maxRetries onDuplicate errors entry ≤ maxRetries + 1 ↔
      (∃ row, entry = some row ∧ Refused contentHash maxRetries onDuplicate row) ∨
        errors.length ≤ maxRetries + 1) ∧
      (FullBudget maxRetries (recordResult contentHash .success row) ↔
        row.attemptCount = 0 ∨ maxRetries ≤ 1) := by
  refine ⟨?_, fullBudget_iff⟩
  by_cases hrefused : ∃ row, entry = some row ∧ Refused contentHash maxRetries onDuplicate row
  · obtain ⟨row, rfl, hrow⟩ := hrefused
    rw [executions_refused hrow]
    exact iff_of_true (Nat.zero_le _) (.inl ⟨row, rfl, hrow⟩)
  · have hexecuted : executions tenantId contentHash maxRetries onDuplicate errors entry =
        errors.length :=
      executions_executed (fun row hrow hrefuse => hrefused ⟨row, hrow, hrefuse⟩) errors
    rw [hexecuted]
    exact (or_iff_right hrefused).symm

/-- With one retry, three failing events execute the workflow three times, and after a success
the entity that has failed three times has no retry left of three. -/
theorem retries_unbounded :
    ¬ executions "t" "h" 1 "skip" [none, none, none] none ≤ 1 + 1 ∧
      ¬ FullBudget 3 (recordResult "h" .success ⟨0, "t", "h", .failed, 3, none⟩) := by
  constructor
  · decide
  · rw [fullBudget_iff]
    decide

/-- A failed entity is not executed on its next event after a reset. -/
theorem reset_skips :
    ¬ ResetRetries (emptyLedger.run [.event ⟨"w", "order-1"⟩ ⟨"t", "h", {}⟩ (.failure none) 0])
      (resetFailed "w" (some "t")) := by
  rw [resetRetries_iff]
  intro hnone
  have hrow : emptyLedger.run [.event ⟨"w", "order-1"⟩ ⟨"t", "h", {}⟩ (.failure none) 0]
      ⟨"w", "order-1"⟩ = some ⟨0, "t", "h", .failed, 1, some "unknown error"⟩ := by
    decide +kernel
  obtain ⟨other, hother, hne⟩ := hnone _ _ hrow rfl rfl
  exact hne (Option.some.inj hother).symm

end Sync

end IntegrationPlatform
