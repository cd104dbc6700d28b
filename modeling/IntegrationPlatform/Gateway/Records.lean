import IntegrationPlatform.Json.Value

/-!
# Workflow records

The rows of `workflows` and `workflow_versions` with the columns that requests read and write, the
bodies of the requests, and `Changes`: the columns that a request assigns to the row it has loaded.
A stored node keeps its configuration as the JSON object that the clients have sent.
-/

namespace IntegrationPlatform

namespace Gateway

/-- The reply to a failed request. -/
structure HttpError where
  statusCode : Nat
  detail : String
deriving DecidableEq, Repr

/-- The reply to a request whose handling raises any other exception. -/
def internalServerError : HttpError :=
  ⟨500, "Internal Server Error"⟩

/-- The account that makes a request. -/
structure Tenant where
  id : String
  slug : String

/-! ## Nodes and edges -/

/-- A node of a stored workflow. -/
structure WorkflowNode where
  id : String
  type : String
  label : String := ""
  position : Rat × Rat := (0, 0)
  config : Dict := []

/-- An edge of a stored workflow. -/
structure WorkflowEdge where
  id : String
  source : String
  target : String
  sourceHandle : String := "default"
  label : String := ""
deriving DecidableEq

/-- `model_dump` of a node. -/
def WorkflowNode.toValue (node : WorkflowNode) : Value :=
  .dict [("id", .str node.id), ("type", .str node.type), ("label", .str node.label),
    ("position", .dict [("x", .float node.position.1), ("y", .float node.position.2)]),
    ("config", .dict node.config)]

/-- `model_dump` of an edge. -/
def WorkflowEdge.toValue (edge : WorkflowEdge) : Value :=
  .dict [("id", .str edge.id), ("source", .str edge.source), ("target", .str edge.target),
    ("sourceHandle", .str edge.sourceHandle), ("label", .str edge.label)]

/-- `config.get(key)` of the first trigger node. -/
def triggerField (nodes : List WorkflowNode) (key : String) : Value :=
  match nodes.find? (·.type == "trigger") with
  | some node => (node.config.find key).getD .null
  | none => .null

def extractTriggerInfo (nodes : List WorkflowNode) : Value × Value :=
  (triggerField nodes "connector_name", triggerField nodes "event")

def extractTriggerAllowedIps (nodes : List WorkflowNode) : Value :=
  triggerField nodes "allowed_ips"

/-! ## Rows -/

/-- A row of `workflows`, without its times. The row is kept under its id. -/
structure Workflow where
  tenantId : String
  name : String
  description : String := ""
  isEnabled : Bool := false
  version : Nat := 1
  triggerConnector : Option String := none
  triggerEvent : Option String := none
  nodes : List WorkflowNode := []
  edges : List WorkflowEdge := []
  /-- The column can hold the JSON value `null`. -/
  vars : Option Dict := some []
  syncConfig : Option Dict := none
  onError : String := "stop"
  maxRetries : Int := 3
  timeoutSeconds : Int := 300

/-- A row of `workflow_versions`, without its time. The row is kept under the id of the workflow. -/
structure WorkflowVersion where
  tenantId : String
  version : Nat
  nodes : List WorkflowNode
  edges : List WorkflowEdge
  vars : Dict
  createdBy : Option String

/-- The version row that `snapshot_workflow_version` adds for a workflow after the last version. -/
def snapshot (workflow : Workflow) (last : Nat) (createdBy : Option String) : WorkflowVersion where
  tenantId := workflow.tenantId
  version := last + 1
  nodes := workflow.nodes
  edges := workflow.edges
  vars := workflow.vars.getD []
  createdBy := createdBy

/-- What a text column of at most 100 letters makes of a value: `none` is an error. -/
def textColumn : Value → Option (Option String)
  | .null => some none
  | .str text => if text.length ≤ 100 then some (some text) else none
  | _ => none

/-- The value of a text column. -/
def ofColumn (column : Option String) : Value :=
  (column.map Value.str).getD .null

theorem ofColumn_textColumn {value : Value} {column : Option String}
    (h : textColumn value = some column) : ofColumn column = value := by
  cases value with
  | null =>
      cases Option.some.inj h
      rfl
  | str text =>
      have hcolumn : (if text.length ≤ 100 then some (some text) else none) = some column := h
      by_cases hlength : text.length ≤ 100
      · rw [if_pos hlength] at hcolumn
        cases Option.some.inj hcolumn
        rfl
      · rw [if_neg hlength] at hcolumn
        cases hcolumn
  | _ => cases h

/-! ## Changes -/

/-- The columns of a workflow that a request assigns. -/
structure Changes where
  name : Option String := none
  description : Option String := none
  isEnabled : Option Bool := none
  version : Option Nat := none
  triggerConnector : Option (Option String) := none
  triggerEvent : Option (Option String) := none
  nodes : Option (List WorkflowNode) := none
  edges : Option (List WorkflowEdge) := none
  vars : Option (Option Dict) := none
  syncConfig : Option (Option Dict) := none
  onError : Option String := none
  maxRetries : Option Int := none
  timeoutSeconds : Option Int := none

/-- A workflow with the assigned columns changed. -/
def Changes.apply (changes : Changes) (workflow : Workflow) : Workflow where
  tenantId := workflow.tenantId
  name := changes.name.getD workflow.name
  description := changes.description.getD workflow.description
  isEnabled := changes.isEnabled.getD workflow.isEnabled
  version := changes.version.getD workflow.version
  triggerConnector := changes.triggerConnector.getD workflow.triggerConnector
  triggerEvent := changes.triggerEvent.getD workflow.triggerEvent
  nodes := changes.nodes.getD workflow.nodes
  edges := changes.edges.getD workflow.edges
  vars := changes.vars.getD workflow.vars
  syncConfig := changes.syncConfig.getD workflow.syncConfig
  onError := changes.onError.getD workflow.onError
  maxRetries := changes.maxRetries.getD workflow.maxRetries
  timeoutSeconds := changes.timeoutSeconds.getD workflow.timeoutSeconds

/-! ## Bodies of requests -/

/-- The body of `POST /api/v1/workflows`. -/
structure WorkflowCreate where
  name : String
  description : String := ""
  nodes : List WorkflowNode := []
  edges : List WorkflowEdge := []
  vars : Dict := []
  syncConfig : Option Dict := none
  onError : String := "stop"
  maxRetries : Int := 3
  timeoutSeconds : Int := 300

/-- A field of an update: unset, `null`, or a value. -/
abbrev Field (α : Type) := Option (Option α)

/-- The body of `PATCH /api/v1/workflows/{workflow_id}`. -/
structure WorkflowUpdate where
  name : Field String := none
  description : Field String := none
  nodes : Field (List WorkflowNode) := none
  edges : Field (List WorkflowEdge) := none
  vars : Field Dict := none
  syncConfig : Field Dict := none
  isEnabled : Field Bool := none
  onError : Field String := none
  maxRetries : Field Int := none
  timeoutSeconds : Field Int := none

/-- A field that must not be `null`: a list that is gone through, or a column that is `NOT NULL`. -/
def required {α : Type} : Field α → Except HttpError (Option α)
  | none => .ok none
  | some none => .error internalServerError
  | some (some value) => .ok (some value)

/-- The trigger columns for new nodes, whose allowed addresses are checked first. -/
def triggerColumns (checkAllowedIps : Value → Except HttpError Unit) (nodes : List WorkflowNode) :
    Except HttpError (Option String × Option String) :=
  (checkAllowedIps (extractTriggerAllowedIps nodes)).bind fun _ =>
    match textColumn (extractTriggerInfo nodes).1, textColumn (extractTriggerInfo nodes).2 with
    | some connector, some event => .ok (connector, event)
    | _, _ => .error internalServerError

/-- The trigger columns that an update assigns: those of its nodes, if it has any. -/
def assignedTrigger (checkAllowedIps : Value → Except HttpError Unit) :
    Option (List WorkflowNode) → Except HttpError (Option (Option String × Option String))
  | none => .ok none
  | some nodes => (triggerColumns checkAllowedIps nodes).map some

/-- The columns that an update assigns. -/
def WorkflowUpdate.changes (checkAllowedIps : Value → Except HttpError Unit)
    (body : WorkflowUpdate) : Except HttpError Changes :=
  (required body.nodes).bind fun nodes =>
    (assignedTrigger checkAllowedIps nodes).bind fun trigger =>
      (required body.edges).bind fun edges =>
        (required body.name).bind fun name =>
          (required body.description).bind fun description =>
            (required body.isEnabled).bind fun isEnabled =>
              (required body.onError).bind fun onError =>
                (required body.maxRetries).bind fun maxRetries =>
                  (required body.timeoutSeconds).bind fun timeoutSeconds =>
                    .ok
                      { name
                        description
                        isEnabled
                        triggerConnector := trigger.map (·.1)
                        triggerEvent := trigger.map (·.2)
                        nodes
                        edges
                        vars := body.vars
                        syncConfig := body.syncConfig
                        onError
                        maxRetries
                        timeoutSeconds }

/-- The workflow that `create_workflow` adds. -/
def WorkflowCreate.workflow (checkAllowedIps : Value → Except HttpError Unit) (tenant : Tenant)
    (body : WorkflowCreate) : Except HttpError Workflow :=
  (triggerColumns checkAllowedIps body.nodes).bind fun trigger =>
    .ok
      { tenantId := tenant.id
        name := body.name
        description := body.description
        triggerConnector := trigger.1
        triggerEvent := trigger.2
        nodes := body.nodes
        edges := body.edges
        vars := some body.vars
        syncConfig := body.syncConfig
        onError := body.onError
        maxRetries := body.maxRetries
        timeoutSeconds := body.timeoutSeconds }

/-- The columns that `rollback_workflow` assigns. -/
def WorkflowVersion.changes (version : WorkflowVersion) : Changes where
  nodes := some version.nodes
  edges := some version.edges
  vars := some (some version.vars)

/-! ## Trigger columns -/

/-- The trigger columns of a workflow are those of its nodes. -/
def Workflow.FollowsGraph (workflow : Workflow) : Prop :=
  ofColumn workflow.triggerConnector = (extractTriggerInfo workflow.nodes).1 ∧
    ofColumn workflow.triggerEvent = (extractTriggerInfo workflow.nodes).2

section Columns

variable {checkAllowedIps : Value → Except HttpError Unit} {nodes : List WorkflowNode}
  {columns : Option String × Option String} {workflow : Workflow} {changes : Changes}

theorem ofColumn_triggerColumns (h : triggerColumns checkAllowedIps nodes = .ok columns) :
    ofColumn columns.1 = (extractTriggerInfo nodes).1 ∧
      ofColumn columns.2 = (extractTriggerInfo nodes).2 := by
  obtain ⟨-, -, h⟩ := bind_eq_ok.mp h
  cases hconnector : textColumn (extractTriggerInfo nodes).1 with
  | none => simp [hconnector] at h
  | some connector =>
      cases hevent : textColumn (extractTriggerInfo nodes).2 with
      | none => simp [hconnector, hevent] at h
      | some event =>
          simp only [hconnector, hevent] at h
          cases Except.ok.inj h
          exact ⟨ofColumn_textColumn hconnector, ofColumn_textColumn hevent⟩

theorem WorkflowCreate.followsGraph {tenant : Tenant} {body : WorkflowCreate}
    (h : body.workflow checkAllowedIps tenant = .ok workflow) :
    workflow.FollowsGraph ∧ workflow.isEnabled = false := by
  obtain ⟨trigger, htrigger, h⟩ := bind_eq_ok.mp h
  cases Except.ok.inj h
  exact ⟨ofColumn_triggerColumns htrigger, rfl⟩

theorem WorkflowUpdate.changes_spec {body : WorkflowUpdate}
    (h : body.changes checkAllowedIps = .ok changes) :
    changes.version = none ∧ ∃ trigger, assignedTrigger checkAllowedIps changes.nodes = .ok trigger ∧
      changes.triggerConnector = trigger.map (·.1) ∧ changes.triggerEvent = trigger.map (·.2) := by
  obtain ⟨nodes, -, h⟩ := bind_eq_ok.mp h
  obtain ⟨trigger, htrigger, h⟩ := bind_eq_ok.mp h
  obtain ⟨_, -, h⟩ := bind_eq_ok.mp h
  obtain ⟨_, -, h⟩ := bind_eq_ok.mp h
  obtain ⟨_, -, h⟩ := bind_eq_ok.mp h
  obtain ⟨_, -, h⟩ := bind_eq_ok.mp h
  obtain ⟨_, -, h⟩ := bind_eq_ok.mp h
  obtain ⟨_, -, h⟩ := bind_eq_ok.mp h
  obtain ⟨_, -, h⟩ := bind_eq_ok.mp h
  cases Except.ok.inj h
  exact ⟨rfl, trigger, htrigger, rfl, rfl⟩

theorem Workflow.FollowsGraph.update {body : WorkflowUpdate} (hworkflow : workflow.FollowsGraph)
    (h : body.changes checkAllowedIps = .ok changes) : (changes.apply workflow).FollowsGraph := by
  obtain ⟨-, trigger, htrigger, hconnector, hevent⟩ := body.changes_spec h
  unfold FollowsGraph Changes.apply
  cases hnodes : changes.nodes with
  | none =>
      rw [hnodes] at htrigger
      cases Except.ok.inj htrigger
      simp only [hconnector, hevent, Option.map_none, Option.getD_none]
      exact hworkflow
  | some nodes =>
      rw [hnodes, assignedTrigger] at htrigger
      cases hcolumns : triggerColumns checkAllowedIps nodes with
      | error reply =>
          rw [hcolumns] at htrigger
          cases htrigger
      | ok columns =>
          rw [hcolumns] at htrigger
          cases Except.ok.inj htrigger
          simp only [hconnector, hevent, Option.map_some, Option.getD_some]
          exact ofColumn_triggerColumns hcolumns

end Columns

end Gateway

end IntegrationPlatform
