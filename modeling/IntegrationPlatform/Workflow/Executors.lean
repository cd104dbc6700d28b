import IntegrationPlatform.Workflow.Monad

/-!
# Node executors

The executors of the node types that do not start other nodes. The pure expression helpers of
the engine are fields of `WorkflowEngine`, next to the connections that it was given: every
result about the executors holds whatever the helpers compute.
-/

namespace IntegrationPlatform

open Eng

/-- The engine: what it was connected to, the stored workflows, and its pure helpers. -/
structure WorkflowEngine where
  /-- `_action_executor` is set. -/
  hasActionExecutor : Bool := true
  /-- `_credential_resolver` is set. -/
  hasCredentialResolver : Bool := false
  /-- `_mock_output_schema_resolver`. -/
  mockOutputSchemaResolver : Option (String → Option String → String → Option (List Value)) := none
  /-- The rows of the workflow table. -/
  workflows : List Workflow := []
  /-- `_resolve_value`. -/
  resolveValue : String → Scope → Value
  /-- `_interpolate_string`. -/
  interpolateString : String → Scope → String
  /-- `_interpolate_dict`. -/
  interpolateDict : Value → Scope → Value
  /-- `_evaluate_condition`. -/
  evaluateCondition : Value → Scope → Except Exc Bool
  /-- `_apply_field_mapping`. -/
  applyFieldMapping : List Value → Scope → Except Exc Dict
  /-- `_exec_aggregate`: the output, and the source variable with the annotations it writes. -/
  aggregate : NodeConfig → Value → Except Exc Dict × Value
  /-- `_build_mock_output`. -/
  buildMockOutput : List Value → Except Exc Dict
  /-- `_collect_field_paths`. -/
  collectFieldPaths : Value → List String
  /-- `_redact_by_paths`. -/
  redactByPaths : Value → List String → Value
  /-- `_PII_CLASSIFY_PROMPT`, filled in. -/
  classifyPrompt : List String → String
  /-- `_safe_truncate`. -/
  safeTruncate : Value → Value
  /-- `str`. -/
  toStr : Value → String
  /-- `json.loads`: `none` where it raises. -/
  jsonLoads : String → Option Value
  /-- `str.strip`. -/
  strip : String → String
  /-- `str.lower`. -/
  lower : String → String
  /-- `str.upper`. -/
  upper : String → String

namespace WorkflowEngine

variable (engine : WorkflowEngine)

/-! ## Texts -/

/-- The path in a text of the form `{{ path }}`. -/
def placeholder? (text : String) : Option String :=
  match text.toList with
  | '\x7b' :: '\x7b' :: rest =>
      match rest.reverse with
      | '\x7d' :: '\x7d' :: inner => some (engine.strip (String.ofList inner.reverse))
      | _ => none
  | _ => none

/-- `open in text`, for the opening braces of a placeholder. -/
def hasPlaceholder : List Char → Bool
  | '\x7b' :: '\x7b' :: _ => true
  | _ :: rest => hasPlaceholder rest
  | [] => false

/-- `text.lstrip("/")`. -/
def lstripSlash (text : String) : String :=
  String.ofList (text.toList.dropWhile (· = '/'))

/-- `text.rstrip("/")`. -/
def rstripSlash (text : String) : String :=
  String.ofList (text.toList.reverse.dropWhile (· = '/')).reverse

/-! ## Calls of connectors -/

/-- Await the action executor. -/
def actionExecutor (call : ActionCall) : Eng Value := do
  let reply ← ask (.action call)
  ofExcept reply

def execAction (config : NodeConfig) (workflow : Workflow) : Eng Value := do
  let connectorName := config.connectorName.getD ""
  let action := config.action.getD ""
  if connectorName = "" ∨ action = "" then
    raise ⟨"Action node missing connector_name or action", none⟩
  else
    let ctx ← getContext
    let payload ← ofExcept (engine.applyFieldMapping (config.fieldMapping.getD []) ctx.toScope)
    if ctx.dryRun then
      let schemaFields :=
        match engine.mockOutputSchemaResolver with
        | some resolve => (resolve connectorName config.connectorVersion action).getD []
        | none => []
      let mock ← ofExcept (engine.buildMockOutput schemaFields)
      return .dict (Assoc.merge [("dry_run", .bool true), ("connector", .str connectorName),
        ("action", .str action), ("would_send", .dict payload)] mock)
    else if engine.hasActionExecutor then
      actionExecutor
        { connectorName := connectorName
          action := action
          payload := .dict payload
          tenantId := workflow.tenantId
          credentialName := config.credentialName.getD "default"
          connectorVersion := config.connectorVersion }
    else
      return .dict [("dispatched", .bool true), ("connector", .str connectorName),
        ("action", .str action), ("payload", .dict payload)]

/-- The elements that iterating over a value yields: `none` where Python raises. -/
def iterate : Value → Option (List Value)
  | .list items => some items
  | .dict fields => some (fields.map fun field => .str field.1)
  | .str text => some (text.toList.map fun char => .str (String.ofList [char]))
  | _ => none

/-- The paths in the answer of the classifier, if reading it does not raise. -/
def classifiedPaths (fieldPaths : List String) (result : Value) : Option (List String) := do
  let output :=
    match result with
    | .dict fields => (Assoc.find fields "result").getD result
    | _ => result
  let piiList ←
    match output with
    | .dict fields => iterate ((Assoc.find fields "pii_fields").getD (.list []))
    | .list items => some items
    | .str text => (engine.jsonLoads text).bind iterate
    | _ => some []
  return piiList.filterMap fun
    | .str path => if path ∈ fieldPaths then some path else none
    | _ => none

/-- `_classify_pii_fields`: no path where the call or reading its answer raises. -/
def classifyPiiFields (fieldPaths : List String) (tenantId credentialName : String) :
    Eng (List String) := do
  if fieldPaths = [] then
    return []
  else
    let result ← attempt (actionExecutor
      { connectorName := "ai-agent"
        action := "agent.analyze"
        payload := .dict [("prompt", .str (engine.classifyPrompt fieldPaths)),
          ("data", .dict [("_task", .str "field_classification"),
            ("field_count", .int fieldPaths.length)]),
          ("temperature", .float 0),
          ("output_schema", .dict [("pii_fields", .str "string[]")])]
        tenantId := tenantId
        credentialName := credentialName })
    match result with
    | .ok answer => return (engine.classifiedPaths fieldPaths answer).getD []
    | .error _ => return []

def redactPii (data : Value) (tenantId credentialName : String) : Eng Value := do
  let fieldPaths := engine.collectFieldPaths data
  if engine.hasActionExecutor ∧ fieldPaths ≠ [] then
    let piiPaths ← engine.classifyPiiFields fieldPaths tenantId credentialName
    return engine.redactByPaths data piiPaths
  else
    return engine.redactByPaths data []

/-- The output of a think node for the answer of the AI agent. -/
def thinkOutput (result : Value) : Value :=
  match result with
  | .dict fields =>
      let field (key : String) : Value := (Assoc.find fields key).getD .null
      match Assoc.find fields "result" with
      | some (.dict output) =>
          .dict (Assoc.merge output [("_confidence", field "confidence"),
            ("_analysis_id", field "analysis_id"), ("_model_used", field "model_used")])
      | _ => result
  | _ => result

/-- The data that a think node sends: redacted, unless its configuration says otherwise. -/
def thinkData (config : NodeConfig) (data : Dict) (workflow : Workflow) : Eng Value :=
  if config.redactPii.getD true then
    engine.redactPii (.dict data) workflow.tenantId (config.credentialName.getD "default")
  else
    return .dict data

def execThink (config : NodeConfig) (workflow : Workflow) : Eng Value := do
  let action := config.action.getD "agent.analyze"
  let template := config.prompt.getD ""
  let schemaText := config.outputSchemaJson.getD ""
  let outputSchema := if schemaText = "" then .null else (engine.jsonLoads schemaText).getD .null
  if template = "" then
    raise ⟨"Think node requires a prompt", none⟩
  else
    let ctx ← getContext
    let prompt := engine.interpolateString template ctx.toScope
    if ctx.dryRun then
      return .dict [("dry_run", .bool true), ("connector", .str "ai-agent"),
        ("action", .str action), ("prompt", .str prompt)]
    else
      let sendData ← engine.thinkData config ctx.data workflow
      let payload : Dict := [("prompt", .str prompt), ("data", sendData),
        ("temperature", config.temperature.getD (.float (1 / 10)))]
      if engine.hasActionExecutor then
        let result ← actionExecutor
          { connectorName := "ai-agent"
            action := action
            payload := .dict
              (if outputSchema.truthy then payload.put "output_schema" outputSchema else payload)
            tenantId := workflow.tenantId
            credentialName := config.credentialName.getD "default" }
        return thinkOutput result
      else
        return .dict [("dispatched", .bool true), ("connector", .str "ai-agent"),
          ("action", .str action), ("prompt", .str prompt)]

/-- The answer of the credential resolver and the base URL of the connector. -/
def resolveCredentials (connectorName credentialName tenantId : String) :
    Eng (Option (Assoc String) × String) := do
  if engine.hasCredentialResolver then
    let reply ← ask (.credentials connectorName credentialName tenantId)
    ofExcept reply
  else
    return (none, "http://connector-" ++ connectorName ++ ":8000")

/-- The query parameters of a request: those of the node, and the account of the credentials. -/
def queryParams (config : NodeConfig) (creds : Option (Assoc String)) (scope : Scope) :
    Assoc String :=
  let params := (config.queryParams.getD []).foldl (fun params (param : QueryParam) =>
    let key := param.key.getD ""
    if key = "" then params
    else Assoc.put params key (engine.interpolateString (param.value.getD "") scope)) []
  match creds.bind fun creds => creds.find "account_name" with
  | some account => if Assoc.has params "account_name" then params
      else Assoc.put params "account_name" account
  | none => params

/-- The headers of a response that are not passed on. -/
def sensitiveHeaders : List String :=
  ["authorization", "cookie", "set-cookie", "x-api-key", "x-admin-secret", "x-internal-secret",
    "proxy-authorization"]

/-- The output of an HTTP request node for a response. -/
def responseOutput (response : HttpResponse) : Value :=
  .dict [("status_code", .int response.statusCode),
    ("body", response.json.getD
      (.dict [("text", .str (String.ofList (response.text.toList.take 2000)))])),
    ("headers", .dict (response.headers.map fun header =>
      (header.1, .str (if engine.lower header.1 ∈ sensitiveHeaders then "***" else header.2))))]

def execHttpRequest (config : NodeConfig) (workflow : Workflow) : Eng Value := do
  let connectorName := config.connectorName.getD ""
  if connectorName = "" then
    raise ⟨"HTTP Request node requires connector_name", none⟩
  else
    let ctx ← getContext
    let path := engine.interpolateString (config.url.getD "") ctx.toScope
    if ctx.dryRun then
      return .dict [("dry_run", .bool true), ("connector", .str connectorName),
        ("method", .str (config.method.getD "GET")), ("url", .str path),
        ("status_code", .int 200), ("body", .dict [])]
    else
      let (creds, baseUrl) ← engine.resolveCredentials connectorName
        (config.credentialName.getD "default") workflow.tenantId
      let template := config.body.getD .null
      let reply ← ask (.http
        { method := engine.upper (config.method.getD "GET")
          url := rstripSlash baseUrl ++ "/" ++ lstripSlash path
          headers := (config.headers.getD []).map fun header =>
            (header.1, engine.interpolateString header.2 ctx.toScope)
          params := engine.queryParams config creds ctx.toScope
          json := if template.truthy then some (engine.interpolateDict template ctx.toScope)
            else none
          timeout := min (config.timeoutSeconds.getD 30) 60 })
      let response ← ofExcept reply
      return engine.responseOutput response

/-! ## Data and control nodes -/

/-- The results of all conditions, in order. The first one that raises ends the list. -/
def evaluateConditions (conditions : List Value) (scope : Scope) : Except Exc (List Bool) :=
  match conditions with
  | [] => .ok []
  | condition :: rest =>
      match engine.evaluateCondition condition scope with
      | .error exc => .error exc
      | .ok result => (evaluateConditions rest scope).map (result :: ·)

/-- `_exec_condition`: the output and the handle. -/
def execCondition (config : NodeConfig) : Eng (Value × Value) := do
  let ctx ← getContext
  let results ← ofExcept (engine.evaluateConditions (config.conditions.getD []) ctx.toScope)
  let passed := if config.logic.getD "and" = "or" then results.any id else results.all id
  let handle : Value := .str (if passed then "true" else "false")
  return (.dict [("condition_result", .bool passed), ("handle", handle)], handle)

/-- The handle of the first case whose value has the same text as the value switched on. -/
def matchedCase (value : Value) : List SwitchCase → Option Value
  | [] => none
  | case :: rest =>
      let text := engine.toStr (case.value.getD (.str ""))
      if engine.toStr value = text then some (case.handle.getD (.str text))
      else matchedCase value rest

/-- `_exec_switch`: the output and the handle. -/
def execSwitch (config : NodeConfig) : Eng (Value × Value) := do
  let ctx ← getContext
  let value := engine.resolveValue (config.field.getD "") ctx.toScope
  let handle := (engine.matchedCase value (config.cases.getD [])).getD
    (config.defaultHandle.getD (.str "default"))
  return (.dict [("switch_value", value), ("matched_case", handle)], handle)

def execTransform (config : NodeConfig) : Eng Value := do
  let ctx ← getContext
  let result ← ofExcept (engine.applyFieldMapping (config.mappings.getD []) ctx.toScope)
  return .dict ((config.expressions.getD []).foldl (fun result expression =>
    Assoc.put result expression.1
      (match expression.2 with
      | .str text => .str (engine.interpolateString text ctx.toScope)
      | value => value)) result)

def execFilter (config : NodeConfig) : Eng Bool := do
  let ctx ← getContext
  let results ← ofExcept (engine.evaluateConditions (config.conditions.getD []) ctx.toScope)
  return if config.logic.getD "and" = "and" then results.all id else results.any id

/-- The value of a `set_variable` node. -/
def variableValue (value : Value) (scope : Scope) : Value :=
  match value with
  | .str text =>
      match engine.placeholder? text with
      | some path => engine.resolveValue path scope
      | none => value
  | .dict _ => engine.interpolateDict value scope
  | .list _ => engine.interpolateDict value scope
  | _ => value

def execSetVariable (config : NodeConfig) : Eng Value := do
  let ctx ← getContext
  let variableName := config.variableName.getD ""
  let resolved := engine.variableValue (config.value.getD (.str "")) ctx.toScope
  modifyScope fun scope => scope.setVar variableName resolved
  return .dict [("variable", .str variableName), ("value", resolved)]

def execAggregate (config : NodeConfig) : Eng Value := do
  let ctx ← getContext
  let source := config.sourceVariable.getD "parallel_results"
  match ctx.vars.find source with
  | some parallelResults =>
      let (result, annotated) := engine.aggregate config parallelResults
      modifyScope fun scope => scope.setVar source annotated
      let output ← ofExcept result
      return .dict output
  | none => return .dict [("aggregated", .list []), ("winner", .null)]

def execResponse (config : NodeConfig) : Eng Value := do
  let ctx ← getContext
  let template := config.body.getD (.dict [])
  return if template.truthy then engine.interpolateDict template ctx.toScope else .dict ctx.data

/-- `if condition: await asyncio.sleep(seconds)`. -/
def sleepIf (condition : Prop) [Decidable condition] (seconds : Rat) : Eng Unit :=
  if condition then ask (.sleep seconds) else return ()

/-- The `delay` branch of `_execute_single_node`. -/
def execDelay (config : NodeConfig) : Eng Value := do
  let seconds := config.seconds.getD 0
  sleepIf (0 < seconds ∧ seconds ≤ 60) seconds
  let ctx ← getContext
  return .dict ctx.data

/-! ## Error handlers -/

/-- What a notification sends: the connector, its action, the channel, the text and the payload. -/
structure Notification where
  connectorName : String
  action : String
  channel : String
  message : String
  payload : Value

/-- `error_info.get(key, "")`. -/
def errorField (errorInfo : Value) (key : String) : Except Exc Value :=
  (errorInfo.get key (.str "")).mapError fun message => ⟨message, none⟩

/-- The payload of a `notify` action. -/
def notifyPayload (config : NotifyConfig) (errorInfo : Value) (scope : Scope)
    (connectorName channel message : String) : Except Exc Value :=
  match config.payload with
  | some (.dict fields) => .ok (engine.interpolateDict (.dict fields) scope)
  | _ =>
      if connectorName = "email-client" then
        -- The default subject is computed even where the action has a subject of its own.
        (errorField errorInfo "failed_node_id").map fun failedNodeId =>
          .dict [("subject", config.subject.getD
              (.str ("Workflow error: " ++ engine.toStr failedNodeId))),
            ("body_text", .str message)]
      else if connectorName = "slack" then .ok (.dict [("text", .str message)])
      else .ok (.dict [("message", .str message), ("channel", .str channel)])

/-- The notification of a `notify` action. -/
def notification (config : NotifyConfig) (errorInfo : Value) (scope : Scope) :
    Except Exc Notification :=
  let message := engine.interpolateString (engine.toStr (config.message.getD (.str ""))) scope
  let name := engine.lower (engine.strip (engine.toStr (config.channel.getD (.str "slack"))))
  let channel := if name = "" then "slack" else name
  let connectorName := config.connectorName.getD
    (if channel = "email" ∨ channel = "email-client" then "email-client" else channel)
  let action := config.action.getD
    (if connectorName = "slack" ∨ connectorName = "email-client" then "message.send"
      else "notify.send")
  (engine.notifyPayload config errorInfo scope connectorName channel message).map fun payload =>
    ⟨connectorName, action, channel, message, payload⟩

/-- The result of a `notify` action, sent or simulated. -/
def Notification.result (notification : Notification) (status : String)
    (last : String × Value) : Value :=
  .dict [("type", .str "notify"), ("channel", .str notification.channel),
    ("connector_name", .str notification.connectorName), ("action", .str notification.action),
    ("status", .str status), last]

/-- One mapping of a `transform` action. -/
def applyMapping (scope : Scope) (mapping : String × Value) : Scope :=
  let value : Value :=
    match mapping.2 with
    | .str text => .str (engine.interpolateString text scope)
    | value => value
  { scope with data := scope.data.put mapping.1 value }

/-- One action of an error handler: the result that it appends, if any. `errorInfo` is the value
of `vars._error` when the handler started. -/
def execHandlerAction (errorInfo : Value) (workflow : Workflow) (action : HandlerAction) :
    Eng (List Value) :=
  match action with
  | .setVariable name value => do
      let name := name.getD ""
      if name = "" then
        return []
      else
        modifyScope fun scope => scope.setVar name (value.getD .null)
        return [.dict [("type", .str "set_variable"), ("name", .str name)]]
  | .transform mappings => do
      modifyScope fun scope => (mappings.getD []).foldl engine.applyMapping scope
      return [.dict [("type", .str "transform")]]
  | .notify config => do
      let ctx ← getContext
      let notification ← ofExcept (engine.notification config errorInfo ctx.toScope)
      if ctx.dryRun ∨ ¬ engine.hasActionExecutor then
        return [notification.result "simulated" ("message", .str notification.message)]
      else
        let result ← actionExecutor
          { connectorName := notification.connectorName
            action := notification.action
            payload := notification.payload
            tenantId := workflow.tenantId
            credentialName := config.credentialName.getD "default" }
        return [notification.result "sent" ("result", engine.safeTruncate result)]
  | .other _ => return []

/-- The actions of an error handler, in order. -/
def execHandlerActions (errorInfo : Value) (workflow : Workflow) (actions : List HandlerAction) :
    Eng (List Value) :=
  match actions with
  | [] => return []
  | action :: rest => do
      let first ← engine.execHandlerAction errorInfo workflow action
      let others ← execHandlerActions errorInfo workflow rest
      return first ++ others

def execErrorHandler (config : NodeConfig) (workflow : Workflow) : Eng Value := do
  let ctx ← getContext
  let errorInfo := (ctx.vars.find "_error").getD (.dict [])
  let results ← engine.execHandlerActions errorInfo workflow (config.actions.getD [])
  let error ← ofExcept (errorField errorInfo "error")
  let failedNodeId ← ofExcept (errorField errorInfo "failed_node_id")
  return .dict [("error_handled", .bool true), ("error", error), ("failed_node_id", failedNodeId),
    ("handler_actions", .list results)]

end WorkflowEngine

end IntegrationPlatform
