import Mathlib.Tactic.SplitIfs

/-!
# The sync ledger

The rows of the sync ledger, the decision table of `should_sync` over them, and what a recorded
outcome and the administrative operations make of them. `handleEvent` is one event handled from
its check to its commit with nothing in between.
-/

namespace IntegrationPlatform

namespace Sync

/-- The unique key of a row: a workflow and one of its entities. -/
structure Key where
  workflowId : String
  entityKey : String
deriving DecidableEq, Repr

/-- The `sync_status` of a row. -/
inductive SyncStatus where
  | pending
  | synced
  | failed
  | stale
deriving DecidableEq, Repr

/-- A row of `sync_ledger`, without its key, its source and its times. -/
structure LedgerRow where
  id : Nat
  tenantId : String
  contentHash : String
  syncStatus : SyncStatus
  attemptCount : Nat
  lastError : Option String
deriving DecidableEq, Repr

/-- What `should_sync` decides. -/
inductive SyncDecision where
  | sync
  | update
  | skip
  | retry
deriving DecidableEq, Repr

/-- What `should_sync` returns. -/
structure SyncCheckResult where
  decision : SyncDecision
  existingHash : Option String := none
  attemptCount : Nat := 0
  ledgerId : Option Nat := none
deriving DecidableEq, Repr

/-- The fields of `sync_config` that decide about an event. -/
structure SyncConfig where
  mode : String := "incremental"
  maxRetries : Int := 3
  onDuplicate : String := "skip"
deriving DecidableEq, Repr

/-- How an execution ended: its status is `success`, or it is another one with this error. -/
inductive ExecutionResult where
  | success
  | failure (error : Option String)
deriving DecidableEq, Repr

/-! ## `should_sync` -/

/-- The decision about an entity with this row. -/
def checkEntry (entry : LedgerRow) (contentHash : String) (maxRetries : Int) : SyncCheckResult :=
  if entry.syncStatus = .pending then
    { decision := .skip, existingHash := some entry.contentHash, ledgerId := some entry.id }
  else if entry.syncStatus = .failed ∧ entry.attemptCount < maxRetries then
    { decision := .retry
      existingHash := some entry.contentHash
      attemptCount := entry.attemptCount
      ledgerId := some entry.id }
  else if entry.contentHash = contentHash ∧ entry.syncStatus = .synced then
    { decision := .skip, existingHash := some entry.contentHash, ledgerId := some entry.id }
  else if entry.contentHash ≠ contentHash then
    { decision := .update
      existingHash := some entry.contentHash
      attemptCount := entry.attemptCount
      ledgerId := some entry.id }
  else { decision := .sync, existingHash := some entry.contentHash, ledgerId := some entry.id }

/-- The row that `should_sync` inserts for an entity without one. -/
def pendingRow (id : Nat) (tenantId contentHash : String) : LedgerRow where
  id := id
  tenantId := tenantId
  contentHash := contentHash
  syncStatus := .pending
  attemptCount := 0
  lastError := none

/-- The result for an entity whose row has been inserted. -/
def insertedCheck (id : Nat) : SyncCheckResult where
  decision := .sync
  ledgerId := some id

/-- The result for an entity whose row somebody else has inserted in between. -/
def racedCheck : SyncCheckResult where
  decision := .skip

/-! ## Recording -/

/-- `error=execution.error or "unknown error"`, cut to `error[:2000]`. -/
def errorText (error : Option String) : String :=
  String.ofList (((error.filter (· ≠ "")).getD "unknown error").toList.take 2000)

/-- `record_success` and `record_failure`, for a row that exists. -/
def recordResult (contentHash : String) (result : ExecutionResult) (row : LedgerRow) : LedgerRow :=
  match result with
  | .success => { row with contentHash, syncStatus := .synced, lastError := none }
  | .failure error =>
      { row with
        contentHash
        syncStatus := .failed
        attemptCount := row.attemptCount + 1
        lastError := some (errorText error) }

/-- `record_success` and `record_failure`, without a row to update. -/
def newResultRow (id : Nat) (tenantId contentHash : String) (result : ExecutionResult) :
    LedgerRow :=
  match result with
  | .success =>
      { id, tenantId, contentHash, syncStatus := .synced, attemptCount := 0, lastError := none }
  | .failure error =>
      { id, tenantId, contentHash, syncStatus := .failed, attemptCount := 1
        lastError := some (errorText error) }

/-- The row says that the last execution, of this content, ended so. -/
def LedgerRow.Reflects (row : LedgerRow) (contentHash : String) (result : ExecutionResult) : Prop :=
  row.contentHash = contentHash ∧
    row.syncStatus = if result = .success then SyncStatus.synced else .failed

theorem reflects_recordResult (contentHash : String) (result : ExecutionResult) (row : LedgerRow) :
    (recordResult contentHash result row).Reflects contentHash result := by
  cases result with
  | success => exact ⟨rfl, rfl⟩
  | failure error => exact ⟨rfl, rfl⟩

theorem reflects_newResultRow (id : Nat) (tenantId contentHash : String)
    (result : ExecutionResult) :
    (newResultRow id tenantId contentHash result).Reflects contentHash result := by
  cases result with
  | success => exact ⟨rfl, rfl⟩
  | failure error => exact ⟨rfl, rfl⟩

/-! ## `_execute_with_sync` -/

/-- Whether `_execute_with_sync` executes the workflow after this check. -/
def SyncConfig.executes (config : SyncConfig) (check : SyncCheckResult) : Bool :=
  config.mode == "force" ||
    check.decision != .skip && !(check.decision == .update && config.onDuplicate == "skip")

/-- An event for an entity of a workflow. -/
structure SyncEvent where
  tenantId : String
  contentHash : String
  config : SyncConfig

/-- `should_sync` on the row of the entity, if it has one: the result, and the row afterwards. -/
def shouldSync (entry : Option LedgerRow) (freshId : Nat) (tenantId contentHash : String)
    (maxRetries : Int) : SyncCheckResult × LedgerRow :=
  match entry with
  | some entry => (checkEntry entry contentHash maxRetries, entry)
  | none => (insertedCheck freshId, pendingRow freshId tenantId contentHash)

/-- `_execute_with_sync`, as one step: whether the workflow is executed, and the row afterwards,
if the execution ends so. -/
def handleEvent (event : SyncEvent) (result : ExecutionResult) (freshId : Nat)
    (entry : Option LedgerRow) : Bool × LedgerRow :=
  let checked := shouldSync entry freshId event.tenantId event.contentHash event.config.maxRetries
  if event.config.executes checked.1 then
    (true, recordResult event.contentHash result checked.2)
  else (false, checked.2)

/-! ## Administration -/

/-- The administrative operations of a workflow. -/
inductive AdminOp where
  | markStale
  | resetFailed
  | clearLedger
deriving DecidableEq, Repr

/-- An administrative request: the rows of a workflow and, if given, of a tenant. -/
structure AdminRequest where
  op : AdminOp
  workflowId : String
  tenantId : Option String := none

/-- The `WHERE` clause of the request. -/
def AdminRequest.affects (request : AdminRequest) (key : Key) (row : LedgerRow) : Bool :=
  key.workflowId == request.workflowId && request.tenantId.all (· == row.tenantId) &&
    match request.op with
    | .markStale => row.syncStatus == .synced
    | .resetFailed => row.syncStatus == .failed
    | .clearLedger => true

/-- What the request makes of a row that it affects. -/
def AdminRequest.apply (request : AdminRequest) (row : LedgerRow) : Option LedgerRow :=
  match request.op with
  | .markStale => some { row with syncStatus := .stale }
  | .resetFailed => some { row with syncStatus := .pending, attemptCount := 0, lastError := none }
  | .clearLedger => none

/-- The request on the row under a key. -/
def AdminRequest.applyTo (request : AdminRequest) (key : Key) (entry : Option LedgerRow) :
    Option LedgerRow :=
  match entry with
  | some row => if request.affects key row then request.apply row else some row
  | none => none

/-! ## The decision table -/

variable {row : LedgerRow} {contentHash : String} {maxRetries : Int}

@[simp] theorem checkEntry_ledgerId :
    (checkEntry row contentHash maxRetries).ledgerId = some row.id := by
  unfold checkEntry
  split_ifs <;> rfl

theorem checkEntry_pending (h : row.syncStatus = .pending) :
    (checkEntry row contentHash maxRetries).decision = .skip := by
  unfold checkEntry
  rw [if_pos h]

theorem checkEntry_synced (h : row.Reflects contentHash .success) :
    (checkEntry row contentHash maxRetries).decision = .skip := by
  have hstatus : row.syncStatus = .synced := h.2
  unfold checkEntry
  rw [if_neg (by simp [hstatus]), if_neg (by simp [hstatus]), if_pos ⟨h.1, hstatus⟩]

end Sync

end IntegrationPlatform
