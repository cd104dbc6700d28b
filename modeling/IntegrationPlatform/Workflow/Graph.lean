import IntegrationPlatform.Json.Value
import Mathlib.Data.List.Nodup

/-!
# Workflow graphs

Workflows, their nodes with the configuration each node type reads, and `WorkflowGraph`, the
in-memory form in which the engine traverses them. A configuration field is `none` where the
key is absent, so that every default of the source stays with the function that reads it.
-/

namespace IntegrationPlatform

/-- The error strategies; `carryOn` is `continue`. Any other text acts as `stop`. -/
inductive OnError where
  | retry
  | stop
  | carryOn
  | ignore
  | other (text : String)
deriving DecidableEq, Repr

/-- The `type` of a node. The engine passes over the types it does not know. -/
inductive NodeType where
  | trigger
  | action
  | condition
  | switch
  | think
  | transform
  | filter
  | delay
  | loop
  | merge
  | parallel
  | aggregate
  | httpRequest
  | setVariable
  | response
  | subWorkflow
  | errorHandler
  | batch
  | other (text : String)
deriving DecidableEq, Repr

/-- The text of a node type in a stored workflow. -/
def NodeType.name : NodeType → String
  | .trigger => "trigger"
  | .action => "action"
  | .condition => "condition"
  | .switch => "switch"
  | .think => "think"
  | .transform => "transform"
  | .filter => "filter"
  | .delay => "delay"
  | .loop => "loop"
  | .merge => "merge"
  | .parallel => "parallel"
  | .aggregate => "aggregate"
  | .httpRequest => "http_request"
  | .setVariable => "set_variable"
  | .response => "response"
  | .subWorkflow => "sub_workflow"
  | .errorHandler => "error_handler"
  | .batch => "batch"
  | .other text => text

/-- A case of a `switch` node. -/
structure SwitchCase where
  value : Option Value := none
  handle : Option Value := none

/-- A query parameter of an `http_request` node. -/
structure QueryParam where
  key : Option String := none
  value : Option String := none

/-- The fields of a `notify` action of an `error_handler` node. -/
structure NotifyConfig where
  message : Option Value := none
  channel : Option Value := none
  connectorName : Option String := none
  action : Option String := none
  payload : Option Value := none
  subject : Option Value := none
  credentialName : Option String := none

/-- An action of an `error_handler` node. -/
inductive HandlerAction where
  | setVariable (name : Option String) (value : Option Value)
  | transform (mappings : Option (List (String × Value)))
  | notify (config : NotifyConfig)
  | other (type : String)

/-- The `config` of a node: what the executors of all node types read. -/
structure NodeConfig where
  onError : Option OnError := none
  maxRetries : Option Int := none
  connectorName : Option String := none
  action : Option String := none
  credentialName : Option String := none
  connectorVersion : Option String := none
  fieldMapping : Option (List Value) := none
  prompt : Option String := none
  temperature : Option Value := none
  outputSchemaJson : Option String := none
  redactPii : Option Bool := none
  conditions : Option (List Value) := none
  logic : Option String := none
  field : Option String := none
  cases : Option (List SwitchCase) := none
  defaultHandle : Option Value := none
  mappings : Option (List Value) := none
  expressions : Option (List (String × Value)) := none
  seconds : Option Rat := none
  arrayField : Option String := none
  itemVariable : Option String := none
  indexVariable : Option String := none
  maxIterations : Option Int := none
  url : Option String := none
  method : Option String := none
  headers : Option (List (String × String)) := none
  queryParams : Option (List QueryParam) := none
  body : Option Value := none
  timeoutSeconds : Option Rat := none
  variableName : Option String := none
  value : Option Value := none
  strategy : Option String := none
  sourceVariable : Option String := none
  priceField : Option String := none
  nameField : Option String := none
  workflowId : Option String := none
  inputMapping : Option (List (String × Value)) := none
  maxDepth : Option Int := none
  catchFrom : Option (List String) := none
  actions : Option (List HandlerAction) := none
  source : Option String := none
  concurrency : Option Int := none
  throttleMs : Option Int := none
  onItemError : Option String := none
  maxItems : Option Int := none
  bodyNodes : Option (List String) := none
  triggerType : Option String := none
  event : Option String := none
  cron : Option String := none
  timezone : Option String := none
  filters : Option Value := none
  filter : Option Value := none

/-- A node of a workflow. -/
structure Node where
  id : String
  type : NodeType
  label : Option String := none
  config : NodeConfig := {}

/-- An edge of a workflow. -/
structure Edge where
  source : String
  target : String
  sourceHandle : Option String := none
deriving DecidableEq, Repr

/-- The edge starts at this handle. Without a handle, which is `null`, every edge does. -/
def Edge.leavesBy (edge : Edge) : Value → Bool
  | .null => true
  | handle => handle.pyEq (.str (edge.sourceHandle.getD "default"))

/-- A stored workflow: the columns that an execution reads. -/
structure Workflow where
  id : String
  tenantId : String := ""
  name : String := ""
  nodes : List Node
  edges : List Edge
  vars : List (String × Value) := []
  onError : OnError := .stop
  maxRetries : Int := 3

/-! ## The graph -/

/-- `nodes[node["id"]] = node`: a later node with the same id takes the place of the earlier. -/
def putNode : List Node → Node → List Node
  | [], node => [node]
  | node' :: rest, node => if node'.id = node.id then node :: rest else node' :: putNode rest node

theorem mem_map_id_putNode (nodes : List Node) (node : Node) (id : String) :
    id ∈ (putNode nodes node).map Node.id ↔ id = node.id ∨ id ∈ nodes.map Node.id := by
  induction nodes with
  | nil => simp [putNode]
  | cons node' rest ih =>
      by_cases hid : node'.id = node.id
      · simp [putNode, hid]
      · simp only [putNode, hid, if_false, List.map_cons, List.mem_cons, ih]
        exact or_left_comm

theorem nodup_putNode (nodes : List Node) (node : Node) (h : (nodes.map Node.id).Nodup) :
    ((putNode nodes node).map Node.id).Nodup := by
  induction nodes with
  | nil => simp [putNode]
  | cons node' rest ih =>
      rw [List.map_cons, List.nodup_cons] at h
      by_cases hid : node'.id = node.id
      · simpa [putNode, hid] using ⟨by simpa [hid] using h.1, h.2⟩
      · simp only [putNode, hid, if_false, List.map_cons, List.nodup_cons]
        refine ⟨fun hmem => ?_, ih h.2⟩
        rcases (mem_map_id_putNode rest node node'.id).mp hmem with heq | hrest
        · exact hid heq
        · exact h.1 hrest

/-- In-memory representation of a workflow graph for traversal. -/
structure WorkflowGraph where
  /-- The nodes, in the order in which their ids first appear. -/
  nodes : List Node
  edges : List Edge
  /-- No two nodes have the same id. -/
  distinct : (nodes.map Node.id).Nodup

namespace WorkflowGraph

/-- The graph of a list of nodes and a list of edges. -/
def ofLists (nodes : List Node) (edges : List Edge) : WorkflowGraph where
  nodes := nodes.foldl putNode []
  edges := edges
  distinct := by
    suffices h : ∀ start : List Node, (start.map Node.id).Nodup →
        ((nodes.foldl putNode start).map Node.id).Nodup from h [] (by simp)
    induction nodes with
    | nil => exact fun _ h => h
    | cons node rest ih => exact fun start h => ih _ (nodup_putNode start node h)

variable (graph : WorkflowGraph)

/-- `find_trigger`: the first trigger node. -/
def findTrigger : Option Node :=
  graph.nodes.find? fun node => node.type = .trigger

def getNode (nodeId : String) : Option Node :=
  graph.nodes.find? fun node => node.id = nodeId

/-- `_incoming.get(node_id, [])`: the edges into a node. -/
def incoming (nodeId : String) : List Edge :=
  graph.edges.filter fun edge => edge.target = nodeId

/-- The edges that leave a node through a handle. -/
def outgoing (nodeId : String) (handle : Value) : List Edge :=
  graph.edges.filter fun edge => edge.source == nodeId && edge.leavesBy handle

/-- `get_successors`: the targets of the outgoing edges, in edge order. -/
def getSuccessors (nodeId : String) (handle : Value) : List Node :=
  (graph.outgoing nodeId handle).filterMap fun edge => graph.getNode edge.target

/-- `_find_error_handler`: the first handler whose `catch_from` includes the failed node. -/
def findErrorHandler (failedNodeId : String) : Option Node :=
  graph.nodes.find? fun node =>
    node.type = .errorHandler ∧ failedNodeId ∈ node.config.catchFrom.getD []

variable {graph} {nodeId : String} {node : Node}

theorem getNode_id (h : graph.getNode nodeId = some node) :
    node.id = nodeId := by
  simpa using List.find?_some h

theorem getNode_mem (h : graph.getNode nodeId = some node) :
    node ∈ graph.nodes :=
  List.mem_of_find?_eq_some h

theorem mem_getSuccessors {handle : Value} (h : node ∈ graph.getSuccessors nodeId handle) :
    node ∈ graph.nodes ∧ graph.incoming node.id ≠ [] := by
  obtain ⟨edge, hedge, hnode⟩ := List.mem_filterMap.mp h
  have hid := getNode_id hnode
  have hin : edge ∈ graph.incoming node.id := by
    simp only [incoming, List.mem_filter, decide_eq_true_eq]
    exact ⟨List.mem_of_mem_filter hedge, hid.symm⟩
  exact ⟨getNode_mem hnode, List.ne_nil_of_mem hin⟩

theorem findErrorHandler_spec (h : graph.findErrorHandler nodeId = some node) :
    node ∈ graph.nodes ∧ node.type = .errorHandler ∧
      nodeId ∈ node.config.catchFrom.getD [] := by
  have hprop : node.type = .errorHandler ∧ nodeId ∈ node.config.catchFrom.getD [] := by
    simpa using List.find?_some h
  exact ⟨List.mem_of_find?_eq_some h, hprop⟩

end WorkflowGraph

/-- The graph of a workflow. -/
def Workflow.graph (workflow : Workflow) : WorkflowGraph :=
  .ofLists workflow.nodes workflow.edges

end IntegrationPlatform
