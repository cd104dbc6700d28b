import IntegrationPlatform.Workflow.Graph

/-!
# Execution state

What one execution of a workflow owns (`WorkflowContext`), what the branches of a parallel node
share (`MergeJoins`), and what the engine asks of the world outside (`Request`). `Event` is the
history variable of the model: it records what the engine did and is never read by it.
-/

namespace IntegrationPlatform

/-- An exception: its text, and the `node_id` that the engine attaches to a `WorkflowError`. -/
structure Exc where
  message : String
  nodeId : Option String := none
deriving DecidableEq, Repr

/-! ## The context -/

/-- The data that expressions read. -/
structure Scope where
  data : Dict
  triggerData : Dict
  vars : Dict := []
  nodeOutputs : Dict := []

/-- The `status` of an entry of `node_results`. -/
inductive Status where
  | running
  | success
  | filtered
  | failed
deriving DecidableEq, Repr

/-- The `_replay_state` of an entry: the context in which the node started. -/
structure ReplayState where
  data : Dict
  vars : Dict
  nodeOutputs : Dict

/-- An entry of `node_results`. Durations are left out. -/
structure Entry where
  nodeId : String
  nodeType : NodeType
  label : String
  status : Status
  input : Option Value := none
  output : Option Value := none
  rawOutput : Option Value := none
  replayState : ReplayState
  error : Option String := none
  retries : Option Nat := none

/-- The mutable context passed through the workflow, without the merge bookkeeping. -/
structure WorkflowContext extends Scope where
  nodeResults : List Entry := []
  dryRun : Bool := false
  workflowChain : List String := []

namespace Scope

variable (scope : Scope)

def setNodeOutput (nodeId : String) (output : Value) : Scope :=
  { scope with nodeOutputs := scope.nodeOutputs.put nodeId output }

/-- `get_node_output`: `null` for a node without one. -/
def getNodeOutput (nodeId : String) : Value :=
  (scope.nodeOutputs.find nodeId).getD .null

/-- `ctx.variables[name] = value`. -/
def setVar (name : String) (value : Value) : Scope :=
  { scope with vars := scope.vars.put name value }

/-- `ctx.data = {**ctx.data, **output}`, if the output is an object. -/
def mergeData (output : Value) : Scope :=
  match output with
  | .dict fields => { scope with data := scope.data.merge fields }
  | _ => scope

/-- The copies kept in `_replay_state`. -/
def replayState : ReplayState :=
  ⟨scope.data, scope.vars, scope.nodeOutputs⟩

end Scope

/-- The bookkeeping of merge nodes, shared by the branches of a parallel node. -/
structure MergeJoins where
  mergeHits : List (String × Nat) := []
  visitedMerges : List String := []
  completedNodes : List String := []

/-! ## Executions -/

/-- How an execution ended. -/
inductive ExecutionStatus where
  | success
  | failed
deriving DecidableEq, Repr

/-- The `context_snapshot` of an execution. -/
structure ContextSnapshot where
  data : Dict
  vars : Dict

/-- The row of a finished execution. -/
structure Execution where
  id : String
  workflowId : String
  triggerData : Dict
  status : ExecutionStatus
  error : Option String := none
  errorNodeId : Option String := none
  nodeResults : List Entry
  contextSnapshot : Option ContextSnapshot

/-! ## Requests -/

/-- The arguments of a call of the action executor. -/
structure ActionCall where
  connectorName : String
  action : String
  payload : Value
  tenantId : String
  credentialName : String
  connectorVersion : Option String := none

/-- An outgoing HTTP request. -/
structure HttpRequest where
  method : String
  url : String
  headers : List (String × String)
  params : List (String × String)
  json : Option Value
  timeout : Rat

/-- The answer to an HTTP request: `json` is `none` where the body is not JSON. -/
structure HttpResponse where
  statusCode : Int
  json : Option Value
  text : String
  headers : List (String × String)

/-- What an execution asks of the world outside. -/
inductive Request where
  | action (call : ActionCall)
  | credentials (connectorName credentialName tenantId : String)
  | http (request : HttpRequest)
  | sleep (seconds : Rat)
  | newExecution (workflowId : String)

/-- What comes back: the calls of connectors return or raise, a new execution gets its id. -/
@[reducible] def Reply : Request → Type
  | .action _ => Except Exc Value
  | .credentials .. => Except Exc (Option (List (String × String)) × String)
  | .http _ => Except Exc HttpResponse
  | .sleep _ => Unit
  | .newExecution _ => String

/-! ## History -/

/-- Where an activation of `_execute_single_node` takes place. -/
structure Site where
  chain : List String
  workflow : Workflow
  node : Node
  depth : Nat

/-- The effective error strategy: the node's own or, absent that, the workflow's. -/
def Site.onError (site : Site) : OnError :=
  site.node.config.onError.getD site.workflow.onError

/-- How a call of a node's executor ended. -/
inductive CallOutcome where
  | returned
  | raised
deriving DecidableEq, Repr

/-- What one activation of `_execute_single_node` has done so far: its entry, the positions of
`node_results` at which it has appended that entry, and how its executor calls ended. -/
structure Activation where
  entry : Entry
  positions : List Nat := []
  calls : List CallOutcome := []

/-- What the engine did. -/
inductive Event where
  /-- An execution started. -/
  | started (chain : List String) (workflow : Workflow)
  /-- `_execute_nodes` refused to go deeper. -/
  | depthExceeded (chain : List String) (workflow : Workflow) (depth : Nat)
  /-- A sub-workflow was refused as circular or nested too deeply. -/
  | nestingRefused (chain : List String) (workflow : Workflow) (workflowId : String)
  /-- An activation of a node started. -/
  | arrived (site : Site)
  /-- The merge bookkeeping raised. -/
  | mergeRaised (site : Site) (exc : Exc)
  /-- The merge bookkeeping ended the activation. -/
  | mergeSkipped (site : Site)
  /-- The node's executor is called, after these earlier calls in the same activation. -/
  | called (site : Site) (earlier : List CallOutcome)
  /-- The call of the node's executor raised. -/
  | executorRaised (site : Site) (exc : Exc)
  /-- A traversal that the activation started after these executor calls, of its successors or of
  a loop body, raised. -/
  | descendantRaised (site : Site) (calls : List CallOutcome) (exc : Exc)
  /-- An error handler is started, after these executor calls, with this `vars._error`. -/
  | handled (site : Site) (calls : List CallOutcome) (handler : Node) (error : Value)
  /-- An activation ended, by returning or by raising. -/
  | left (site : Site) (before after : WorkflowContext) (activation : Activation)
      (ended : Except Exc Unit)

/-- The chain of workflow ids that the context carried. -/
def Event.chain : Event → List String
  | .started chain _ => chain
  | .depthExceeded chain _ _ => chain
  | .nestingRefused chain _ _ => chain
  | .arrived site => site.chain
  | .mergeRaised site _ => site.chain
  | .mergeSkipped site => site.chain
  | .called site _ => site.chain
  | .executorRaised site _ => site.chain
  | .descendantRaised site _ _ => site.chain
  | .handled site _ _ _ => site.chain
  | .left site _ _ _ _ => site.chain

/-- The workflow that was being executed. -/
def Event.workflow : Event → Workflow
  | .started _ workflow => workflow
  | .depthExceeded _ workflow _ => workflow
  | .nestingRefused _ workflow _ => workflow
  | .arrived site => site.workflow
  | .mergeRaised site _ => site.workflow
  | .mergeSkipped site => site.workflow
  | .called site _ => site.workflow
  | .executorRaised site _ => site.workflow
  | .descendantRaised site _ _ => site.workflow
  | .handled site _ _ _ => site.workflow
  | .left site _ _ _ _ => site.workflow

/-- The private state of a task: the context it owns and what it did. -/
structure Thread where
  ctx : WorkflowContext
  trace : List Event := []

namespace Thread

variable (thread : Thread)

/-- Record events. -/
def log (events : List Event) : Thread :=
  { thread with trace := thread.trace ++ events }

/-- Change what expressions read. -/
def mapScope (change : Scope → Scope) : Thread :=
  { thread with ctx := { thread.ctx with toScope := change thread.ctx.toScope } }

/-- Change `node_results`. -/
def mapResults (change : List Entry → List Entry) : Thread :=
  { thread with ctx := { thread.ctx with nodeResults := change thread.ctx.nodeResults } }

/-- The site of an activation in this thread. -/
def site (workflow : Workflow) (node : Node) (depth : Nat) : Site :=
  ⟨thread.ctx.workflowChain, workflow, node, depth⟩

@[simp] theorem log_ctx (events : List Event) : (thread.log events).ctx = thread.ctx := rfl

@[simp] theorem log_trace (events : List Event) :
    (thread.log events).trace = thread.trace ++ events := rfl

theorem log_log (events events' : List Event) :
    (thread.log events).log events' = thread.log (events ++ events') := by
  simp [log]

@[simp] theorem mapScope_trace (change : Scope → Scope) :
    (thread.mapScope change).trace = thread.trace := rfl

@[simp] theorem mapScope_scope (change : Scope → Scope) :
    (thread.mapScope change).ctx.toScope = change thread.ctx.toScope := rfl

@[simp] theorem mapScope_nodeResults (change : Scope → Scope) :
    (thread.mapScope change).ctx.nodeResults = thread.ctx.nodeResults := rfl

@[simp] theorem mapScope_dryRun (change : Scope → Scope) :
    (thread.mapScope change).ctx.dryRun = thread.ctx.dryRun := rfl

@[simp] theorem mapScope_workflowChain (change : Scope → Scope) :
    (thread.mapScope change).ctx.workflowChain = thread.ctx.workflowChain := rfl

@[simp] theorem mapResults_trace (change : List Entry → List Entry) :
    (thread.mapResults change).trace = thread.trace := rfl

@[simp] theorem mapResults_scope (change : List Entry → List Entry) :
    (thread.mapResults change).ctx.toScope = thread.ctx.toScope := rfl

@[simp] theorem mapResults_nodeResults (change : List Entry → List Entry) :
    (thread.mapResults change).ctx.nodeResults = change thread.ctx.nodeResults := rfl

@[simp] theorem mapResults_dryRun (change : List Entry → List Entry) :
    (thread.mapResults change).ctx.dryRun = thread.ctx.dryRun := rfl

@[simp] theorem mapResults_workflowChain (change : List Entry → List Entry) :
    (thread.mapResults change).ctx.workflowChain = thread.ctx.workflowChain := rfl

end Thread

/-! ## Entries of activations -/

/-- The thread after an activation has changed its entry and appended it. The entry is one
object, so that the change shows at every position where it has been appended before. -/
def Thread.append (thread : Thread) (activation : Activation) (entry : Entry) : Thread :=
  thread.mapResults fun results =>
    activation.positions.foldl (fun results position => results.set position entry) results
      ++ [entry]

/-- The activation after it has changed its entry and appended it. -/
def Activation.append (activation : Activation) (thread : Thread) (entry : Entry) : Activation :=
  { activation with
    entry := entry
    positions := activation.positions ++ [thread.ctx.nodeResults.length] }

/-- The activation after a call of its executor. -/
def Activation.call (activation : Activation) (outcome : CallOutcome) : Activation :=
  { activation with calls := activation.calls ++ [outcome] }

end IntegrationPlatform
