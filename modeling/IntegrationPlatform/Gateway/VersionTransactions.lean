import IntegrationPlatform.Gateway.Routing
import IntegrationPlatform.Transactions.RowLocks

/-!
# Concurrent changes of workflows

The requests that create, update and restore workflows, as transactions at READ COMMITTED that
take their statements one by one and in any interleaving. A session keeps the workflow that it has
loaded and changed as an object. The object is written back at the first flush, before the row is
locked for the snapshot, and only the columns that the request has changed are written.
-/

namespace IntegrationPlatform

namespace Gateway

open RowLocks

/-- The tables of workflows and of their versions, as transactions see them, which are numbers. A
version is kept under the id of its workflow and its number, which are unique together. -/
structure Tables where
  workflows : Store String Workflow Nat
  versions : Store (String × Nat) WorkflowVersion Nat

/-- A JSON column has the same value, for Python's `==`. -/
def sameNodes (nodes nodes' : List WorkflowNode) : Bool :=
  (Value.list (nodes.map WorkflowNode.toValue)).pyEq (.list (nodes'.map WorkflowNode.toValue))

/-- An optional object has the same value. -/
def sameDict : Option Dict → Option Dict → Bool
  | none, none => true
  | some fields, some fields' => (Value.dict fields).pyEq (.dict fields')
  | _, _ => false

/-- The columns that an `UPDATE` writes: those that are assigned a value that is not the loaded
one. -/
def Changes.written (changes : Changes) (loaded : Workflow) : Changes where
  name := changes.name.filter (· ≠ loaded.name)
  description := changes.description.filter (· ≠ loaded.description)
  isEnabled := changes.isEnabled.filter (· ≠ loaded.isEnabled)
  version := changes.version.filter (· ≠ loaded.version)
  triggerConnector := changes.triggerConnector.filter (· ≠ loaded.triggerConnector)
  triggerEvent := changes.triggerEvent.filter (· ≠ loaded.triggerEvent)
  nodes := changes.nodes.filter fun nodes => !sameNodes nodes loaded.nodes
  edges := changes.edges.filter (· ≠ loaded.edges)
  vars := changes.vars.filter fun vars => !sameDict vars loaded.vars
  syncConfig := changes.syncConfig.filter fun config => !sameDict config loaded.syncConfig
  onError := changes.onError.filter (· ≠ loaded.onError)
  maxRetries := changes.maxRetries.filter (· ≠ loaded.maxRetries)
  timeoutSeconds := changes.timeoutSeconds.filter (· ≠ loaded.timeoutSeconds)

/-- Where a transaction is with its request. -/
inductive Phase where
  /-- Before the first statement. -/
  | start
  /-- The workflow has been loaded, and the version to restore is looked up. -/
  | choosing (loaded : Workflow)
  /-- The object has been changed, in these columns, and has not been flushed. -/
  | assigned (object : Workflow) (changes : Changes)
  /-- The row of the workflow is locked. -/
  | locked (object : Workflow)
  /-- The last version has been read. -/
  | counted (object : Workflow) (last : Nat)
  /-- The new version has been inserted. -/
  | added (object : Workflow) (last : Nat)
  /-- The number of the version has been written to the workflow. -/
  | numbered (object : Workflow) (last : Nat)

/-- A request that is handled in a transaction. -/
structure Session where
  request : Request
  phase : Phase

/-- The id of the workflow of a request. -/
def Request.workflowId : Request → String
  | .create _ id _ => id
  | .update _ id _ => id
  | .rollback _ id _ => id
  | .toggle _ id => id
  | .delete _ id => id

/-- The account that makes a request. -/
def Request.tenant : Request → Tenant
  | .create tenant _ _ => tenant
  | .update tenant _ _ => tenant
  | .rollback tenant _ _ => tenant
  | .toggle tenant _ => tenant
  | .delete tenant _ => tenant

/-- The request makes a version of its workflow. -/
def Request.versions : Request → Prop
  | .create _ _ _ => True
  | .update _ _ _ => True
  | .rollback _ _ _ => True
  | .toggle _ _ => False
  | .delete _ _ => False

/-- The number is the last one of the versions of a workflow that a transaction sees, or zero. -/
structure Tables.IsLast (tables : Tables) (tx : Nat) (id : String) (last : Nat) : Prop where
  le : ∀ number, tables.versions.visible tx (id, number) ≠ none → number ≤ last
  visible : last = 0 ∨ tables.versions.visible tx (id, last) ≠ none

/-- What a step is, for the runs that are told apart. -/
inductive Event where
  | silent
  /-- The object is flushed, and the row is locked. -/
  | flushed
  /-- The transaction commits. -/
  | committed

namespace Session

variable (checkAllowedIps : Value → Except HttpError Unit) (tx : Nat)

/-- The id of the workflow of a session. -/
def id (session : Session) : String :=
  session.request.workflowId

/-- The session goes on with this phase. -/
def goto (session : Session) (phase : Phase) : Session :=
  { session with phase }

/-- The version row of a session. -/
def versionRow (session : Session) (object : Workflow) (last : Nat) : WorkflowVersion :=
  snapshot object last (some session.request.tenant.slug)

/-- One step of a transaction, from the tables and its session to the tables and, unless it has
ended, its session. -/
inductive Step : Tables → Session → Event → Tables → Option Session → Prop where
  /-- The workflow of a `create` is inserted. -/
  | insert {tables session tenant id body object} : session.phase = .start →
      session.request = .create tenant id body →
      body.workflow checkAllowedIps tenant = .ok object →
      tables.workflows.Free tx id → tables.workflows.visible tx id = none →
      Step tables session .silent
        { tables with workflows := tables.workflows.write tx id (some object) }
        (some (session.goto (.assigned object {})))
  /-- The workflow of an `update` is loaded, and changed. -/
  | load {tables session tenant id body loaded changes} : session.phase = .start →
      session.request = .update tenant id body →
      tables.workflows.visible tx id = some loaded → loaded.tenantId = tenant.id →
      body.changes checkAllowedIps = .ok changes →
      Step tables session .silent tables
        (some (session.goto (.assigned (changes.apply loaded) (changes.written loaded))))
  /-- The workflow of a `rollback` is loaded. -/
  | find {tables session tenant id target loaded} : session.phase = .start →
      session.request = .rollback tenant id target →
      tables.workflows.visible tx id = some loaded →
      Step tables session .silent tables (some (session.goto (.choosing loaded)))
  /-- The version of a `rollback` is loaded, and assigned. -/
  | choose {tables session tenant id target loaded version} {number : Nat} :
      session.phase = .choosing loaded → session.request = .rollback tenant id target →
      (number : Int) = target → tables.versions.visible tx (id, number) = some version →
      Step tables session .silent tables
        (some (session.goto
          (.assigned (version.changes.apply loaded) (version.changes.written loaded))))
  /-- The changed columns are written to the row that is there now, and the row is locked. Without
  changed columns it is only locked, and stays as it is. -/
  | flush {tables session object changes row} : session.phase = .assigned object changes →
      tables.workflows.Free tx session.id → tables.workflows.visible tx session.id = some row →
      Step tables session .flushed
        { tables with
          workflows := tables.workflows.write tx session.id (some (changes.apply row)) }
        (some (session.goto (.locked object)))
  /-- The last version is read. -/
  | count {tables session object last} : session.phase = .locked object →
      tables.IsLast tx session.id last →
      Step tables session .silent tables (some (session.goto (.counted object last)))
  /-- The new version is inserted, with the content of the object. -/
  | add {tables session object last} : session.phase = .counted object last →
      tables.versions.Free tx (session.id, last + 1) →
      tables.versions.visible tx (session.id, last + 1) = none →
      Step tables session .silent
        { tables with
          versions := tables.versions.write tx (session.id, last + 1)
            (some (session.versionRow object last)) }
        (some (session.goto (.added object last)))
  /-- The number of the new version is written to the workflow, unless the object has it. -/
  | number {tables session object last row} : session.phase = .added object last →
      tables.workflows.visible tx session.id = some row →
      Step tables session .silent
        { tables with
          workflows := tables.workflows.write tx session.id
            (some (if object.version = last + 1 then row else { row with version := last + 1 })) }
        (some (session.goto (.numbered object last)))
  /-- The transaction commits. -/
  | commit {tables session object last} : session.phase = .numbered object last →
      Step tables session .committed
        { workflows := tables.workflows.commit tx, versions := tables.versions.commit tx } none
  /-- The transaction is rolled back, for a failed statement or for any other reason. -/
  | abort {tables session} :
      Step tables session .silent
        { workflows := tables.workflows.rollback tx, versions := tables.versions.rollback tx } none

end Session

/-- The tables, and the sessions under way by their transactions. -/
structure Traffic where
  tables : Tables
  sessions : Nat → Option Session

namespace Traffic

variable (checkAllowedIps : Value → Except HttpError Unit)

/-- Empty tables, and no session. -/
def initial : Traffic where
  tables := ⟨⟨fun _ => none, fun _ => none⟩, ⟨fun _ => none, fun _ => none⟩⟩
  sessions _ := none

/-- A step of the transaction `tx`. -/
inductive Step (tx : Nat) : Traffic → Event → Traffic → Prop where
  /-- A transaction begins to handle a request. -/
  | begin {traffic} (request : Request) : traffic.sessions tx = none → request.versions →
      Step tx traffic .silent
        { traffic with
          sessions := Function.update traffic.sessions tx (some ⟨request, .start⟩) }
  /-- A transaction takes a step. -/
  | work {traffic session event tables session'} : traffic.sessions tx = some session →
      Session.Step checkAllowedIps tx traffic.tables session event tables session' →
      Step tx traffic event
        { tables, sessions := Function.update traffic.sessions tx session' }

/-- A run, in which every step meets a condition on the state before it, the transaction that
takes it and what the step is. -/
inductive Run (meets : Traffic → Nat → Event → Prop) (first : Traffic) : Traffic → Prop where
  | start : Run meets first first
  | step {traffic traffic' tx event} : Run meets first traffic → meets traffic tx event →
      Step checkAllowedIps tx traffic event traffic' → Run meets first traffic'

end Traffic

end Gateway

end IntegrationPlatform
