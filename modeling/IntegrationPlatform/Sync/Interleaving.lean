import IntegrationPlatform.Sync.Ledger
import IntegrationPlatform.Transactions.RowLocks

/-!
# Concurrent transactions on the ledger

Transactions that handle events with `_execute_with_sync`, record direct executions with
`record_execution_sync` or administrate a ledger, statement by statement and in any
interleaving. A transaction can end at any time, and an exception can end the handling of an
event and leave the transaction as it is, or undo a part of it.
-/

namespace IntegrationPlatform

namespace Sync

open RowLocks

/-- The ledger as transactions see it, which are numbers. -/
abbrev LedgerStore := Store Key LedgerRow Nat

/-- How a workflow comes to be executed for an entity: by an event, or directly, with its result
recorded afterwards. -/
inductive Handling where
  | event (config : SyncConfig)
  | recorded

/-- What a transaction does for an entity. -/
structure Task where
  key : Key
  tenantId : String
  contentHash : String
  handling : Handling

/-- The `max_retries` that `should_sync` is called with. -/
def Handling.maxRetries : Handling → Int
  | .event config => config.maxRetries
  | .recorded => 3

/-- Where a transaction is with an entity. The result is known before the check where the
execution was direct. -/
inductive Phase where
  /-- The workflow is executed directly. -/
  | running
  /-- At `SELECT … FOR UPDATE`. -/
  | select (known : Option ExecutionResult)
  /-- The statement has found a row and waits for its lock. -/
  | await (rowId : Nat) (known : Option ExecutionResult)
  /-- At the `INSERT` of a pending row. -/
  | insert (known : Option ExecutionResult)
  /-- `should_sync` has returned. -/
  | decided (check : SyncCheckResult) (known : Option ExecutionResult)
  /-- The workflow is executed for an event. -/
  | executing (check : SyncCheckResult)
  /-- At `record_success` or `record_failure`. -/
  | record (check : SyncCheckResult) (result : ExecutionResult)

/-- A recorded result, as the history keeps it. -/
structure Outcome where
  key : Key
  contentHash : String
  result : ExecutionResult

/-- A transaction that handles entities one after another. -/
structure Worker where
  current : Option (Task × Phase)
  todo : List Task
  /-- What it has recorded, a history variable. -/
  outcomes : List Outcome

/-- What a step leaves in the history. -/
inductive SyncTrace where
  | silent
  | started (tx : Nat) (key : Key) (contentHash : String)
  | refused (tx : Nat) (key : Key)
  | committed (tx : Nat) (outcomes : List Outcome)
  | administered (request : AdminRequest)

/-- The first phase of a task. -/
def Task.start (task : Task) : Phase :=
  match task.handling with
  | .event _ => .select none
  | .recorded => .running

/-- The `INSERT` or the lock that follows a `SELECT … FOR UPDATE`. -/
def afterSelect (known : Option ExecutionResult) : Option LedgerRow → Phase
  | some row => .await row.id known
  | none => .insert known

namespace Worker

variable (tx freshId : Nat)

/-- The worker goes on with this phase of its task. -/
def goto (worker : Worker) (task : Task) (phase : Phase) : Worker :=
  { worker with current := some (task, phase) }

/-- The worker is done with its task. -/
def done (worker : Worker) : Worker :=
  { worker with current := none }

/-- The worker is done with its task, whose result it has recorded. -/
def doneWith (worker : Worker) (task : Task) (result : ExecutionResult) : Worker :=
  { worker with
    current := none
    outcomes := worker.outcomes ++ [⟨task.key, task.contentHash, result⟩] }

/-- The worker after a rollback to a savepoint, which has undone its work on these keys. -/
def undo (worker : Worker) (keys : Key → Bool) : Worker :=
  { worker with
    current := none
    outcomes := worker.outcomes.filter fun outcome => !keys outcome.key }

/-- One step of a transaction that handles entities, from a ledger and its own state to a ledger
and, unless it has ended, its own state. -/
inductive Step : LedgerStore → Worker → SyncTrace → LedgerStore → Option Worker → Prop where
  /-- The next entity. -/
  | next {store worker task rest} : worker.current = none → worker.todo = task :: rest →
      Step store worker .silent store (some ⟨some (task, task.start), rest, worker.outcomes⟩)
  /-- The direct execution ends. -/
  | ran {store worker task} (result) : worker.current = some (task, .running) →
      Step store worker .silent store (some (worker.goto task (.select (some result))))
  /-- The snapshot of the `SELECT … FOR UPDATE`. -/
  | select {store worker task known} : worker.current = some (task, .select known) →
      Step store worker .silent store
        (some (worker.goto task (afterSelect known (store.visible tx task.key))))
  /-- The row of the snapshot is locked and read again. -/
  | lock {store worker task rowId known row} : worker.current = some (task, .await rowId known) →
      store.Free tx task.key → store.visible tx task.key = some row → row.id = rowId →
      Step store worker .silent (store.lock tx task.key)
        (some (worker.goto task
          (.decided (checkEntry row task.contentHash task.handling.maxRetries) known)))
  /-- The row of the snapshot has been deleted. -/
  | vanish {store worker task rowId known} : worker.current = some (task, .await rowId known) →
      store.Free tx task.key →
      (∀ row, store.visible tx task.key = some row → row.id ≠ rowId) →
      Step store worker .silent store (some (worker.goto task (.insert known)))
  /-- The pending row is inserted. -/
  | insert {store worker task known} : worker.current = some (task, .insert known) →
      store.Free tx task.key → store.visible tx task.key = none →
      Step store worker .silent
        (store.write tx task.key (some (pendingRow freshId task.tenantId task.contentHash)))
        (some (worker.goto task (.decided (insertedCheck freshId) known)))
  /-- The `INSERT` violates the unique constraint, in its savepoint. -/
  | race {store worker task known} : worker.current = some (task, .insert known) →
      store.Taken task.key →
      Step store worker .silent store (some (worker.goto task (.decided racedCheck known)))
  /-- The execution for an event starts. -/
  | execute {store worker task check config} :
      worker.current = some (task, .decided check none) → task.handling = .event config →
      config.executes check = true →
      Step store worker (.started tx task.key task.contentHash) store
        (some (worker.goto task (.executing check)))
  /-- The event is skipped. -/
  | skip {store worker task check config} :
      worker.current = some (task, .decided check none) → task.handling = .event config →
      config.executes check = false → Step store worker .silent store (some worker.done)
  /-- The execution for an event ends. -/
  | finish {store worker task check} (result) : worker.current = some (task, .executing check) →
      Step store worker .silent store (some (worker.goto task (.record check result)))
  /-- The result of a direct execution is about to be recorded, whatever the check says. -/
  | proceed {store worker task check result} :
      worker.current = some (task, .decided check (some result)) → task.handling = .recorded →
      Step store worker .silent store (some (worker.goto task (.record check result)))
  /-- The row of the check is updated. -/
  | update {store worker task check result row} :
      worker.current = some (task, .record check result) → store.Free tx task.key →
      store.visible tx task.key = some row → check.ledgerId = some row.id →
      Step store worker .silent
        (store.write tx task.key (some (recordResult task.contentHash result row)))
        (some (worker.doneWith task result))
  /-- There is no row any more to update. -/
  | miss {store worker task check result rowId} :
      worker.current = some (task, .record check result) → check.ledgerId = some rowId →
      (∀ row, store.visible tx task.key = some row → row.id ≠ rowId) →
      Step store worker .silent store (some worker.done)
  /-- Without a row from the check, one with the result is inserted. -/
  | insertResult {store worker task check result} :
      worker.current = some (task, .record check result) → check.ledgerId = none →
      store.Free tx task.key → store.visible tx task.key = none →
      Step store worker .silent
        (store.write tx task.key
          (some (newResultRow freshId task.tenantId task.contentHash result)))
        (some (worker.doneWith task result))
  /-- This `INSERT` violates the unique constraint, and the transaction is aborted. -/
  | refuse {store worker task check result} :
      worker.current = some (task, .record check result) → check.ledgerId = none →
      store.Taken task.key →
      Step store worker (.refused tx task.key) (store.rollback tx) none
  /-- The same in a savepoint, which is rolled back with what these keys hold. -/
  | refuseTo {store worker task check result} (keys) :
      worker.current = some (task, .record check result) → check.ledgerId = none →
      store.Taken task.key →
      Step store worker (.refused tx task.key) (store.release tx keys) (some (worker.undo keys))
  /-- An exception ends the handling of the entity and is caught outside. -/
  | abandon {store worker} : Step store worker .silent store (some worker.done)
  /-- The same in a savepoint. -/
  | undo {store worker} (keys) :
      Step store worker .silent (store.release tx keys) (some (worker.undo keys))
  /-- The transaction commits. -/
  | commit {store worker} : worker.current = none →
      Step store worker (.committed tx worker.outcomes) (store.commit tx) none
  /-- The transaction is rolled back. -/
  | abort {store worker} : Step store worker .silent (store.rollback tx) none

end Worker

/-! ## The system -/

/-- A transaction. -/
inductive Transaction where
  | worker (worker : Worker)
  | admin (request : AdminRequest)

/-- The ledger, the transactions under way and the history. -/
structure System where
  store : LedgerStore
  txs : Nat → Option Transaction
  freshId : Nat
  history : List SyncTrace

/-- Which transactions there are. -/
structure Traffic where
  tasks : Task → Prop
  admin : Prop

/-- The entities that a worker still has to handle. -/
def Worker.tasks (worker : Worker) : List Task :=
  (worker.current.map Prod.fst).toList ++ worker.todo

/-- A worker at the start of its transaction. -/
def Worker.fresh (todo : List Task) : Worker := ⟨none, todo, []⟩

namespace System

/-- A step of the transaction `tx`. -/
inductive Step (traffic : Traffic) (tx : Nat) : System → System → Prop where
  /-- A transaction begins to handle entities, each of which it handles once. -/
  | begin {system todo} : system.txs tx = none → (todo.map Task.key).Nodup →
      (∀ task ∈ todo, traffic.tasks task) →
      Step traffic tx system
        { system with
          txs := Function.update system.txs tx (some (.worker (.fresh todo)))
          history := system.history ++ [.silent] }
  /-- An administrative transaction begins. -/
  | beginAdmin {system request} : system.txs tx = none → traffic.admin →
      Step traffic tx system
        { system with
          txs := Function.update system.txs tx (some (.admin request))
          history := system.history ++ [.silent] }
  /-- A transaction that handles entities takes a step. -/
  | work {system worker trace store worker'} : system.txs tx = some (.worker worker) →
      Worker.Step tx system.freshId system.store worker trace store worker' →
      Step traffic tx system
        { store := store
          txs := Function.update system.txs tx (worker'.map .worker)
          freshId := system.freshId + 1
          history := system.history ++ [trace] }
  /-- An administrative statement comes to a row. -/
  | touch {system request key row} : system.txs tx = some (.admin request) →
      system.store.Free tx key → system.store.visible tx key = some row →
      request.affects key row = true →
      Step traffic tx system
        { system with
          store := system.store.write tx key (request.apply row)
          history := system.history ++ [.silent] }
  /-- An administrative transaction commits. -/
  | commitAdmin {system request} : system.txs tx = some (.admin request) →
      Step traffic tx system
        { system with
          store := system.store.commit tx
          txs := Function.update system.txs tx none
          history := system.history ++ [.administered request] }
  /-- An administrative transaction is rolled back. -/
  | abortAdmin {system request} : system.txs tx = some (.admin request) →
      Step traffic tx system
        { system with
          store := system.store.rollback tx
          txs := Function.update system.txs tx none
          history := system.history ++ [.silent] }

/-- Before the first transaction, with any committed rows. -/
structure Initial (system : System) : Prop where
  txs : ∀ tx, system.txs tx = none
  held : ∀ key, system.store.held key = none
  history : system.history = []

/-- A run from an initial system in which every step meets a condition on the state before it
and the transaction that takes it. -/
inductive Run (traffic : Traffic) (meets : System → Nat → Prop) : System → Prop where
  | start {system} : system.Initial → Run traffic meets system
  | step {system system' tx} : Run traffic meets system → meets system tx →
      Step traffic tx system system' → Run traffic meets system'

end System

end Sync

end IntegrationPlatform
