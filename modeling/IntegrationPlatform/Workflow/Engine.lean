import IntegrationPlatform.Workflow.Executors

/-!
# The workflow engine

The traversal: `_execute_nodes` and `_execute_single_node` with its merge bookkeeping, error
path and retries, the executors that start other nodes (loops, parallel branches, batches and
sub-workflows), and the two entry points `execute_workflow` and `rerun_from_node`.

All these functions call each other through `_execute_single_node`. They are written against a
`Visit` that stands for it, and `executeSingleNode` closes the recursion with a bound on nested
activations.
-/

namespace IntegrationPlatform

open Eng

/-- The type of `_execute_single_node`: a node, visited at a depth. -/
abbrev Visit := Workflow → Node → Nat → Eng Unit

/-- What a node's executor tells the traversal: the filter did not pass, the node responds and
ends the path, or the path goes on by a handle. -/
inductive NodeOutcome where
  | filtered
  | responded (output : Value)
  | proceeds (output handle : Value)

namespace WorkflowEngine

variable (engine : WorkflowEngine) (visit : Visit)

/-! ## Traversal -/

/-- The depth limit of `_execute_nodes`. -/
def maxNodeDepth : Nat := 200

/-- Visit the nodes one after the other. -/
def executeEach (workflow : Workflow) (depth : Nat) (nodes : List Node) : Eng Unit :=
  match nodes with
  | [] => return ()
  | node :: rest => do
      visit workflow node depth
      executeEach workflow depth rest

def executeNodes (workflow : Workflow) (nodes : List Node) (depth : Nat) : Eng Unit := do
  if depth > maxNodeDepth then
    let ctx ← getContext
    emit (.depthExceeded ctx.workflowChain workflow depth)
    raise ⟨"Maximum workflow depth exceeded (possible cycle)", none⟩
  else
    executeEach visit workflow depth nodes

/-- `if nodes: await self._execute_nodes(...)`. -/
def executeIfAny (workflow : Workflow) (nodes : List Node) (depth : Nat) : Eng Unit :=
  match nodes with
  | [] => return ()
  | node :: rest => executeNodes visit workflow (node :: rest) depth

/-- Start a traversal on behalf of a node, and note if it raises into that node's activation. -/
def traverse (workflow : Workflow) (node : Node) (depth : Nat) (calls : List CallOutcome)
    (nodes : List Node) : Eng (Except Exc Unit) := do
  match ← attempt (executeIfAny visit workflow nodes (depth + 1)) with
  | .ok () => return .ok ()
  | .error exc =>
      emitAt workflow node depth (.descendantRaised · calls exc)
      return .error exc

/-! ## Loops -/

/-- The fields of `after` that are new or have changed. -/
def changedFields (before after : Dict) : Dict :=
  after.filter fun field =>
    match before.find field.1 with
    | some value => !value.pyEq field.2
    | none => true

/-- The output of an iteration or of a batch item: what it changed or, failing that, the item. -/
def itemOutput (item : Value) (before after : Dict) : Value :=
  match changedFields before after with
  | [] =>
      match item with
      | .dict fields => .dict fields
      | item => .dict [("value", item)]
  | fields => .dict fields

/-- Run the body of a loop once. -/
def executeBody (workflow : Workflow) (node : Node) (depth : Nat) (body : List Node) : Eng Unit := do
  let ended ← traverse visit workflow node depth [] body
  ofExcept ended

/-- The iterations of a loop. -/
def loopItems (workflow : Workflow) (node : Node) (depth : Nat) (itemVar indexVar : String)
    (body : List Node) (index : Nat) (items : List Value) : Eng (List Value) :=
  match items with
  | [] => return []
  | item :: rest => do
      modifyScope fun scope => (scope.setVar itemVar item).setVar indexVar (.int index)
      let before ← getContext
      executeBody visit workflow node depth body
      let after ← getContext
      let results ← loopItems workflow node depth itemVar indexVar body (index + 1) rest
      return itemOutput item before.data after.data :: results

def execLoop (workflow : Workflow) (node : Node) (depth : Nat) : Eng Value := do
  let itemVar := node.config.itemVariable.getD "item"
  let indexName := node.config.indexVariable.getD ""
  let indexVar := if indexName = "" then itemVar ++ ".$index" else indexName
  let ctx ← getContext
  match engine.resolveValue (node.config.arrayField.getD "") ctx.toScope with
  | .list items =>
      let results ← loopItems visit workflow node depth itemVar indexVar
        (workflow.graph.getSuccessors node.id (.str "default")) 0
        (slice items (min (node.config.maxIterations.getD 100) 1000))
      modifyScope fun scope => scope.setVar (itemVar ++ "_results") (.list results)
      return .dict [("loop_iterations", .int results.length), ("loop_results", .list results)]
  | _ => return .dict [("loop_iterations", .int 0), ("loop_results", .list [])]

/-! ## Concurrency -/

/-- Why a piece will never end, if it does not. -/
def endless? : Outcome Unit → Option Stop
  | .error .blocked => some .blocked
  | .error .outOfFuel => some .outOfFuel
  | _ => none

/-- Join concurrent pieces: what they did becomes part of the history and their entries are
appended to `node_results`, in this order. -/
def absorb (ended : List (Thread × Outcome Unit)) : Eng Unit := do
  emitAll (ended.flatMap fun piece => piece.1.trace)
  match ended.findSome? fun piece => endless? piece.2 with
  | some stop => halt (.error stop)
  | none => modifyResults (· ++ ended.flatMap fun piece => piece.1.ctx.nodeResults)

/-- The context of a branch: copies of everything but the merge bookkeeping. -/
def branchContext (ctx : WorkflowContext) : WorkflowContext :=
  { ctx with nodeResults := [] }

/-- What a branch that ended contributes to the results of its parallel node. -/
def branchOutput (branch : Node) (ended : Thread × Outcome Unit) : Value :=
  match ended.2 with
  | .error (.raised exc) => .dict [("error", .str exc.message)]
  | _ => ended.1.ctx.getNodeOutput branch.id

/-- The branches of a parallel node in the order of its successors, each with how it ended. -/
def branchesInOrder (successors : List Node) (ended : List (Nat × Thread × Outcome Unit)) :
    List (Node × Thread × Outcome Unit) :=
  successors.zipIdx.filterMap fun (branch, index) =>
    (List.lookup index ended).map fun piece => (branch, piece)

def execParallel (workflow : Workflow) (node : Node) (depth : Nat) : Eng Value := do
  match workflow.graph.getSuccessors node.id (.str "branch") with
  | [] => return .dict [("parallel_branches", .int 0), ("results", .dict [])]
  | first :: others =>
      let successors := first :: others
      let ctx ← getContext
      let ended ← gather others.length (successors.zipIdx.map fun (branch, index) =>
        (index, ⟨branchContext ctx, []⟩, visit workflow branch (depth + 1)))
      let branches := branchesInOrder successors ended
      absorb (branches.map fun branch => branch.2)
      let results : Dict := branches.foldl (fun results branch =>
        Assoc.put results branch.1.id (branchOutput branch.1 branch.2)) []
      modifyScope fun scope => branches.foldl (fun scope branch =>
        scope.setNodeOutput branch.1.id (branchOutput branch.1 branch.2)) scope
      modifyScope fun scope => scope.setVar "parallel_results" (.dict results)
      return .dict [("parallel_branches", .int successors.length), ("results", .dict results)]

/-! ## Batches -/

/-- The context of a batch item. -/
def itemContext (ctx : WorkflowContext) (item : Value) (index : Nat) : WorkflowContext :=
  { ctx with
    toScope := (ctx.toScope.setVar "batch_item" item).setVar "batch_index" (.int index)
    nodeResults := [] }

/-- The merge bookkeeping of a batch item: copies, and no completed nodes. -/
def itemJoins (joins : MergeJoins) : MergeJoins :=
  { joins with completedNodes := [] }

/-- What a batch item does once it holds the semaphore. -/
def itemBody (workflow : Workflow) (node : Node) (depth : Nat) (body : List Node) (index : Nat) :
    Eng Unit := do
  let throttleMs := node.config.throttleMs.getD 0
  sleepIf (0 < throttleMs ∧ 0 < index) (throttleMs / 1000)
  isolated itemJoins (executeIfAny visit workflow body (depth + 1))

/-- The output of a batch item, or the record of its error. -/
def itemResult (ctx : WorkflowContext) (item : Value) (index : Nat)
    (ended : Thread × Outcome Unit) : Except Value Value :=
  match ended.2 with
  | .error (.raised exc) =>
      .error (.dict [("index", .int index), ("status", .str "failed"),
        ("error", .str exc.message)])
  | _ => .ok (itemOutput item ctx.data ended.1.ctx.data)

/-- The items one after the other, up to the first that fails: the outputs and the errors. -/
def stopItems (workflow : Workflow) (node : Node) (depth : Nat) (body : List Node)
    (ctx : WorkflowContext) (index : Nat) (items : List Value) :
    Eng (List Value × List Value) :=
  match items with
  | [] => return ([], [])
  | item :: rest => do
      let ended ← fork ⟨itemContext ctx item index, []⟩ (itemBody visit workflow node depth body index)
      absorb [ended]
      match itemResult ctx item index ended with
      | .ok output =>
          let (outputs, errors) ← stopItems workflow node depth body ctx (index + 1) rest
          return (output :: outputs, errors)
      | .error error => return ([], [error])

/-- The results of items that ran concurrently, in the order of the items. -/
def resultsInOrder (ctx : WorkflowContext) (items : List Value)
    (ended : List (Nat × Thread × Outcome Unit)) : List (Except Value Value) :=
  items.zipIdx.filterMap fun (item, index) =>
    (List.lookup index ended).map (itemResult ctx item index)

/-- The outputs and the errors of the items. -/
def splitResults : List (Except Value Value) → List Value × List Value
  | [] => ([], [])
  | .ok output :: rest => (output :: (splitResults rest).1, (splitResults rest).2)
  | .error error :: rest => ((splitResults rest).1, error :: (splitResults rest).2)

/-- The items, at most `concurrency` of them at a time. -/
def gatherItems (workflow : Workflow) (node : Node) (depth : Nat) (body : List Node)
    (ctx : WorkflowContext) (concurrency : Nat) (items : List Value) :
    Eng (List Value × List Value) := do
  let ended ← gather (concurrency - 1) (items.zipIdx.map fun (item, index) =>
    (index, ⟨itemContext ctx item index, []⟩, itemBody visit workflow node depth body index))
  absorb (ended.map fun piece => piece.2)
  return splitResults (resultsInOrder ctx items ended)

/-- All items, in the mode that the batch is configured for. -/
def processItems (workflow : Workflow) (node : Node) (depth : Nat) (body : List Node)
    (ctx : WorkflowContext) (concurrency : Nat) (items : List Value) :
    Eng (List Value × List Value) :=
  if node.config.onItemError.getD "continue" = "stop" then
    stopItems visit workflow node depth body ctx 0 items
  else
    gatherItems visit workflow node depth body ctx concurrency items

/-- The nodes that a batch runs for each item. -/
def batchBody (workflow : Workflow) (node : Node) : List Node :=
  match node.config.bodyNodes.getD [] with
  | [] => workflow.graph.getSuccessors node.id (.str "body")
  | bodyNodeIds => bodyNodeIds.filterMap workflow.graph.getNode

/-- The output of a batch node. -/
def batchOutput (total : Nat) (outputs errors : List Value) : Value :=
  .dict [("batch_total", .int total), ("batch_succeeded", .int outputs.length),
    ("batch_failed", .int errors.length), ("batch_results", .list outputs),
    ("batch_errors", .list (errors.take 20))]

def execBatch (workflow : Workflow) (node : Node) (depth : Nat) : Eng Value := do
  let source := node.config.source.getD ""
  let concurrency := min (node.config.concurrency.getD 5) 50
  let ctx ← getContext
  match engine.resolveValue ((engine.placeholder? source).getD source) ctx.toScope with
  | .list allItems =>
      let items := slice allItems (min (node.config.maxItems.getD 1000) 10000)
      let body := batchBody workflow node
      if concurrency < 0 then
        raise ⟨"Semaphore initial value must be >= 0", none⟩
      else if concurrency = 0 ∧ ¬ items.isEmpty then
        -- Nobody ever releases a semaphore that starts at zero.
        halt (.error .blocked)
      else
        let (outputs, errors) ← processItems visit workflow node depth body ctx
          concurrency.toNat items
        modifyScope fun scope => scope.setVar "batch_results" (.list outputs)
        return batchOutput items.length outputs errors
  | _ => return batchOutput 0 [] []

/-! ## Executions -/

/-- The context in which an execution starts. -/
def initialContext (workflow : Workflow) (triggerData : Dict) (dryRun : Bool)
    (parentChain : List String) : WorkflowContext where
  data := triggerData
  triggerData := triggerData
  vars := workflow.vars.foldl (fun vars var => Assoc.put vars var.1 (defaultOf var.2)) []
  dryRun := dryRun
  workflowChain := parentChain ++ [workflow.id]
where
  /-- The initial value of a workflow variable. -/
  defaultOf : Value → Value
    | .dict fields => (Assoc.find fields "default").getD .null
    | value => value

/-- The entry of the trigger node. -/
def triggerEntry (trigger : Node) (triggerData : Dict) (scope : Scope) : Entry where
  nodeId := trigger.id
  nodeType := .trigger
  label := trigger.label.getD trigger.id
  status := .success
  output := some (engine.safeTruncate (.dict triggerData))
  rawOutput := some (.dict triggerData)
  replayState := scope.replayState

/-- The traversal of `execute_workflow`, from the trigger node. -/
def executeFromTrigger (workflow : Workflow) (triggerData : Dict) : Eng Unit := do
  let ctx ← getContext
  emit (.started ctx.workflowChain workflow)
  match workflow.graph.findTrigger with
  | none => raise ⟨"No trigger node found in workflow", none⟩
  | some trigger =>
      modifyScope fun scope => scope.setNodeOutput trigger.id (.dict triggerData)
      let ctx ← getContext
      modifyResults (· ++ [engine.triggerEntry trigger triggerData ctx.toScope])
      executeNodes visit workflow (workflow.graph.getSuccessors trigger.id .null) 0

/-- The row of an execution that ended: what an exception leaves in it, and the context. -/
def finished (id : String) (workflow : Workflow) (triggerData : Dict)
    (ended : Thread × Outcome Unit) : Outcome Execution :=
  let ctx := ended.1.ctx
  let execution : Execution :=
    { id := id
      workflowId := workflow.id
      triggerData := triggerData
      status := .success
      nodeResults := ctx.nodeResults
      contextSnapshot := some ⟨ctx.data, ctx.vars⟩ }
  match ended.2 with
  | .ok () => .ok execution
  | .error (.raised exc) =>
      .ok { execution with
        status := .failed
        error := some exc.message
        errorNodeId := exc.nodeId }
  | .error stop => .error stop

/-- The end of an execution: what it did becomes part of the history of its caller. -/
def finishExecution (id : String) (workflow : Workflow) (triggerData : Dict)
    (ended : Thread × Outcome Unit) : Eng Execution := do
  emitAll ended.1.trace
  halt (finished id workflow triggerData ended)

/-- `execute_workflow`, as the task of its caller. -/
def executeWorkflow (workflow : Workflow) (triggerData : Dict) (dryRun : Bool)
    (parentChain : List String) : Eng Execution := do
  let id ← ask (.newExecution workflow.id)
  let ended ← fork ⟨initialContext workflow triggerData dryRun parentChain, []⟩
    (isolated (fun _ => {}) (engine.executeFromTrigger visit workflow triggerData))
  finishExecution id workflow triggerData ended

/-- One value of the `input_mapping` of a sub-workflow node. -/
def inputValue (source : Value) (scope : Scope) : Value :=
  match source with
  | .str text =>
      match engine.placeholder? text with
      | some path => engine.resolveValue path scope
      | none => if hasPlaceholder text.toList then .str (engine.interpolateString text scope)
          else source
  | _ => source

/-- The trigger data of a sub-workflow: the mapped input or, failing that, the data. -/
def subTriggerData (config : NodeConfig) (scope : Scope) : Dict :=
  let mapped : Dict := (config.inputMapping.getD []).foldl (fun mapped field =>
    Assoc.put mapped field.1 (engine.inputValue field.2 scope)) []
  if mapped.isEmpty then scope.data else mapped

/-- `max(int(config.get("max_depth", 5) or 5), 1)`. -/
def maxNestingDepth (config : NodeConfig) : Int :=
  let configured := config.maxDepth.getD 5
  max (if configured = 0 then 5 else configured) 1

def execSubWorkflow (config : NodeConfig) (workflow : Workflow) : Eng Value := do
  let subWorkflowId := config.workflowId.getD ""
  if subWorkflowId = "" then
    raise ⟨"Sub-workflow node missing workflow_id", none⟩
  else
    let ctx ← getContext
    let chain := ctx.workflowChain
    match engine.workflows.find? fun child =>
        child.id = subWorkflowId ∧ child.tenantId = workflow.tenantId with
    | none => raise ⟨"Sub-workflow " ++ subWorkflowId ++ " not found", none⟩
    | some child =>
        if child.id ∈ chain then
          emit (.nestingRefused chain workflow child.id)
          raise ⟨"Circular sub-workflow reference detected: " ++ " -> ".intercalate chain ++
            " -> " ++ child.id, none⟩
        else if maxNestingDepth config ≤ chain.length then
          emit (.nestingRefused chain workflow child.id)
          raise ⟨"Maximum sub-workflow nesting depth (" ++ toString (maxNestingDepth config) ++
            ") exceeded", none⟩
        else
          let execution ← engine.executeWorkflow visit child
            (engine.subTriggerData config ctx.toScope) ctx.dryRun chain
          match execution.status with
          | .failed =>
              raise ⟨"Sub-workflow '" ++ child.name ++ "' failed: " ++
                execution.error.getD "None", none⟩
          | .success =>
              return .dict (Assoc.merge [("sub_workflow_id", .str child.id),
                ("sub_workflow_name", .str child.name), ("sub_execution_id", .str execution.id),
                ("sub_execution_status", .str "success")]
                ((execution.contextSnapshot.map ContextSnapshot.data).getD []))

/-! ## One activation of a node -/

/-- An output that the path goes on with, by every edge. -/
def proceed (output : Value) : NodeOutcome :=
  .proceeds output .null

/-- The executor of a node, by its type. -/
def execNode (workflow : Workflow) (node : Node) (depth : Nat) : Eng NodeOutcome :=
  match node.type with
  | .action => proceed <$> engine.execAction node.config workflow
  | .think => proceed <$> engine.execThink node.config workflow
  | .condition => do
      let (output, handle) ← engine.execCondition node.config
      return .proceeds output handle
  | .switch => do
      let (output, handle) ← engine.execSwitch node.config
      return .proceeds output handle
  | .transform => proceed <$> engine.execTransform node.config
  | .filter => do
      if ← engine.execFilter node.config then
        let ctx ← getContext
        return proceed (.dict ctx.data)
      else
        return .filtered
  | .delay => proceed <$> execDelay node.config
  | .loop => do
      let output ← engine.execLoop visit workflow node depth
      return .proceeds output (.str "done")
  | .httpRequest => proceed <$> engine.execHttpRequest node.config workflow
  | .setVariable => proceed <$> engine.execSetVariable node.config
  | .merge => do
      atomically fun joins => ((), { joins with visitedMerges := joins.visitedMerges.insert node.id })
      let ctx ← getContext
      return proceed (.dict ctx.data)
  | .parallel => do
      let output ← execParallel visit workflow node depth
      return .proceeds output (.str "done")
  | .aggregate => proceed <$> engine.execAggregate node.config
  | .subWorkflow => proceed <$> engine.execSubWorkflow visit node.config workflow
  | .errorHandler => proceed <$> engine.execErrorHandler node.config workflow
  | .batch => do
      let output ← engine.execBatch visit workflow node depth
      return .proceeds output (.str "done")
  | .response => NodeOutcome.responded <$> engine.execResponse node.config
  | .trigger => return proceed .null
  | .other _ => return proceed .null

/-- The executor that a retry calls. -/
def execRetry (workflow : Workflow) (node : Node) : Eng Value :=
  match node.type with
  | .action => engine.execAction node.config workflow
  | .httpRequest => engine.execHttpRequest node.config workflow
  | _ => engine.execThink node.config workflow

/-- How many of the predecessors have completed. The elements of `_incoming` are edges, and
looking up an edge, which is a dictionary, in the set of completed nodes raises. -/
def executedPredecessors (predecessors : List Edge) : Except Exc Nat :=
  match predecessors with
  | [] => .ok 0
  | _ :: _ => .error ⟨"unhashable type: 'dict'", none⟩

/-- The merge bookkeeping of an arrival: whether the activation goes on. -/
def mergeArrival (graph : WorkflowGraph) (nodeId : String) (joins : MergeJoins) :
    Except Exc Bool × MergeJoins :=
  if nodeId ∈ joins.visitedMerges then (.ok false, joins)
  else
    match executedPredecessors (graph.incoming nodeId) with
    | .error exc => (.error exc, joins)
    | .ok executed =>
        let currentHits := (Assoc.find joins.mergeHits nodeId).getD 0 + 1
        (.ok (max executed 1 ≤ currentHits),
          { joins with mergeHits := Assoc.put joins.mergeHits nodeId currentHits })

/-- Whether an activation goes on: only the bookkeeping of a merge node can end it. -/
def mergeGate (workflow : Workflow) (node : Node) : Eng (Except Exc Bool) :=
  if node.type = .merge then atomically (mergeArrival workflow.graph node.id)
  else return .ok true

/-- The entry of an activation when it starts. -/
def newEntry (node : Node) (scope : Scope) : Entry where
  nodeId := node.id
  nodeType := node.type
  label := node.label.getD ""
  status := .running
  input := some (engine.safeTruncate (.dict scope.data))
  replayState := scope.replayState

/-- `ctx.node_results.append(result_entry)`, after the entry has been changed. -/
def appendEntry (activation : Activation) (entry : Entry) : Eng Activation := fun thread joins =>
  .done joins (thread.append activation entry, .ok (activation.append thread entry))

/-- The entry after a call that returned. -/
def successEntry (entry : Entry) (output : Value) (retries : Option Nat) : Entry :=
  { entry with
    status := .success
    output := some (engine.safeTruncate output)
    rawOutput := some output
    retries := retries }

/-- The entry after the last call has raised. -/
def failedEntry (entry : Entry) (exc : Exc) : Entry :=
  { entry with
    status := .failed
    error := some exc.message }

/-- Call a node's executor, and note how the call ended. -/
def callExecutor {α : Type} (workflow : Workflow) (node : Node) (depth : Nat)
    (activation : Activation) (executor : Eng α) : Eng (Activation × Except Exc α) := do
  emitAt workflow node depth (.called · activation.calls)
  match ← attempt executor with
  | .ok value => return (activation.call .returned, .ok value)
  | .error exc =>
      emitAt workflow node depth (.executorRaised · exc)
      return (activation.call .raised, .error exc)

/-- `ctx._completed_nodes.add(node_id)`. -/
def complete (nodeId : String) : Eng Unit :=
  atomically fun joins => ((), { joins with completedNodes := joins.completedNodes.insert nodeId })

/-- The `_error` variable that a handler finds. -/
def errorInfo (node : Node) (exc : Exc) (scope : Scope) : Value :=
  .dict [("error", .str exc.message), ("failed_node_id", .str node.id),
    ("failed_node_type", .str node.type.name), ("failed_node_label", .str (node.label.getD "")),
    ("failed_node_output", scope.getNodeOutput node.id)]

/-- The end of the `except` clause, when there are no retries left: the failed entry, and then
the error handler, the successors, nothing, or the error of the node. -/
def giveUp (workflow : Workflow) (node : Node) (depth : Nat) (activation : Activation)
    (exc : Exc) : Eng (Activation × Except Exc Unit) := do
  let activation ← appendEntry activation (failedEntry activation.entry exc)
  match workflow.graph.findErrorHandler node.id with
  | some handler =>
      let ctx ← getContext
      let error := errorInfo node exc ctx.toScope
      modifyScope fun scope => scope.setVar "_error" error
      emitAt workflow node depth (.handled · activation.calls handler error)
      let ended ← attempt (visit workflow handler (depth + 1))
      return (activation, ended)
  | none =>
      match node.config.onError.getD workflow.onError with
      | .carryOn =>
          let ended ← attempt
            (executeIfAny visit workflow (workflow.graph.getSuccessors node.id .null) (depth + 1))
          return (activation, ended)
      | .ignore => return (activation, .ok ())
      | _ =>
          return (activation, .error ⟨"Node '" ++ node.label.getD node.id ++ "' failed: " ++
            exc.message, some node.id⟩)

/-- The retries of the `except` clause: whether one of them ended the activation. -/
def retryNode (workflow : Workflow) (node : Node) (depth : Nat) (remaining attempt : Nat)
    (activation : Activation) : Eng (Activation × Bool) :=
  match remaining with
  | 0 => return (activation, false)
  | remaining + 1 => do
      ask (.sleep (min (2 ^ (attempt - 1)) 30))
      match ← callExecutor workflow node depth activation (engine.execRetry workflow node) with
      | (activation, .error _) =>
          retryNode workflow node depth remaining (attempt + 1) activation
      | (activation, .ok output) =>
          modifyScope fun scope => (scope.setNodeOutput node.id output).mergeData output
          let activation ← appendEntry activation
            (engine.successEntry activation.entry output (some attempt))
          match ← traverse visit workflow node depth activation.calls
              (workflow.graph.getSuccessors node.id .null) with
          | .ok () => return (activation, true)
          | .error _ => retryNode workflow node depth remaining (attempt + 1) activation

/-- The `except` clause. -/
def exceptClause (workflow : Workflow) (node : Node) (depth : Nat) (activation : Activation)
    (exc : Exc) : Eng (Activation × Except Exc Unit) := do
  let onError := node.config.onError.getD workflow.onError
  let maxRetries := node.config.maxRetries.getD workflow.maxRetries
  let retryable := node.type = .action ∨ node.type = .httpRequest ∨ node.type = .think
  if onError = .retry ∧ 0 < maxRetries ∧ retryable then
    match ← engine.retryNode visit workflow node depth maxRetries.toNat 1 activation with
    | (activation, true) => return (activation, .ok ())
    | (activation, false) => giveUp visit workflow node depth activation exc
  else
    giveUp visit workflow node depth activation exc

/-- The `try` statement: the executor and, inside the same `try`, the successors. -/
def tryNode (workflow : Workflow) (node : Node) (depth : Nat) (entry : Entry) :
    Eng (Activation × Except Exc Unit) := do
  match ← callExecutor workflow node depth { entry := entry }
      (engine.execNode visit workflow node depth) with
  | (activation, .error exc) => engine.exceptClause visit workflow node depth activation exc
  | (activation, .ok .filtered) =>
      let activation ← appendEntry activation { entry with status := .filtered }
      return (activation, .ok ())
  | (activation, .ok (.responded output)) =>
      modifyScope fun scope => scope.setNodeOutput node.id output
      complete node.id
      let activation ← appendEntry activation (engine.successEntry entry output none)
      return (activation, .ok ())
  | (activation, .ok (.proceeds output handle)) =>
      modifyScope fun scope => scope.setNodeOutput node.id output
      complete node.id
      modifyScope fun scope => scope.mergeData output
      let activation ← appendEntry activation (engine.successEntry entry output none)
      match ← traverse visit workflow node depth activation.calls
          (workflow.graph.getSuccessors node.id handle) with
      | .ok () => return (activation, .ok ())
      | .error exc => engine.exceptClause visit workflow node depth activation exc

/-- `_execute_single_node`, with `visit` for the activations that it starts. -/
def visitNode (workflow : Workflow) (node : Node) (depth : Nat) : Eng Unit := do
  emitAt workflow node depth .arrived
  match ← mergeGate workflow node with
  | .error exc =>
      emitAt workflow node depth (.mergeRaised · exc)
      raise exc
  | .ok false => emitAt workflow node depth .mergeSkipped
  | .ok true =>
      let before ← getContext
      let (activation, ended) ← engine.tryNode visit workflow node depth
        (engine.newEntry node before.toScope)
      let after ← getContext
      emitAt workflow node depth (.left · before after activation ended)
      ofExcept ended

/-- `_execute_single_node`, for at most `fuel` nested activations. -/
def executeSingleNode : Nat → Visit
  | 0 => fun _ _ _ => halt (.error .outOfFuel)
  | fuel + 1 => engine.visitNode (executeSingleNode fuel)

/-! ## Running again from a node -/

/-- The context restored from an execution, at the first entry of a node. -/
def restoredContext (workflow : Workflow) (original : Execution) (fromNodeId : String)
    (overrideData : Dict) : WorkflowContext :=
  let blank : Scope := { data := original.triggerData, triggerData := original.triggerData }
  let restored : Scope :=
    match original.nodeResults.find? fun entry => entry.nodeId = fromNodeId with
    | some entry =>
        { blank with
          data := entry.replayState.data
          vars := entry.replayState.vars
          nodeOutputs := entry.replayState.nodeOutputs }
    | none =>
        match original.contextSnapshot with
        | some snapshot => { blank with data := snapshot.data, vars := snapshot.vars }
        | none => blank
  { restored with
    data := if overrideData.isEmpty then restored.data else restored.data.merge overrideData
    vars := workflow.vars.foldl (fun vars var =>
      if Assoc.has vars var.1 then vars
      else Assoc.put vars var.1 (initialContext.defaultOf var.2)) restored.vars
    workflowChain := [workflow.id] }

/-- The activation with which a re-run starts. -/
def executeFromNode (workflow : Workflow) (fromNodeId : String) : Eng Unit :=
  match workflow.graph.getNode fromNodeId with
  | none => raise ⟨"Node '" ++ fromNodeId ++ "' not found in workflow", none⟩
  | some node => visit workflow node 0

def rerunFromNode (workflow : Workflow) (original : Execution) (fromNodeId : String)
    (overrideData : Dict) : Eng Execution := do
  let id ← ask (.newExecution workflow.id)
  let ended ← fork ⟨restoredContext workflow original fromNodeId overrideData, []⟩
    (isolated (fun _ => {}) (executeFromNode visit workflow fromNodeId))
  finishExecution id workflow original.triggerData ended

end WorkflowEngine

end IntegrationPlatform
