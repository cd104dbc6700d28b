import IntegrationPlatform.Json.Operators

/-!
# The flow engine

`execute_flow` sends the mapped data of an event to the action of a flow, through a callback that
it is given. The callback is called with keyword arguments, as a Python function with a list of
parameters is: `bindArguments` is the part of the call that can go wrong before the body runs.
-/

namespace IntegrationPlatform

namespace Flows

/-- A flow rule: source connector event to destination connector action. -/
structure Flow where
  id : String
  tenantId : String
  isEnabled : Bool
  sourceConnector : String
  sourceEvent : String
  sourceFilter : Option Dict
  destinationConnector : String
  destinationConnectorVersion : Option String
  destinationAction : String
  fieldMapping : List Value
  transform : Option String
  onError : String
  maxRetries : Int

/-- The `status` of an execution. -/
inductive FlowStatus where
  | running
  | skipped
  | success
  | failed
deriving DecidableEq, Repr

/-- A row of `flow_executions`, without its times. -/
structure FlowExecution where
  flowId : String
  tenantId : String
  status : FlowStatus := .running
  sourceEventData : Dict
  destinationActionData : Dict := []
  result : Option Dict := none
  error : Option String := none
  retryCount : Nat := 0

/-- A call of `dispatch_action`. -/
structure DispatchCall where
  connectorName : String
  action : String
  payload : Dict
  tenantId : String
  credentials : Option (Assoc String)
  connectorVersion : Option String

/-- What the flow engine and its callbacks use. -/
structure FlowWorld where
  texts : TextFunctions
  /-- `mapping_resolver.resolve`, of a tenant and a connector. -/
  resolveMapping : String → String → Dict → List Value → Except String Dict
  /-- `_apply_transform`. -/
  applyTransform : Dict → String → Dict
  /-- `vault.retrieve_all`, of a tenant, a connector and a credential name. -/
  retrieveAll : String → String → String → Except String (Assoc String)
  /-- `_enrich_credentials_with_oauth2`. -/
  enrich : Assoc String → String → String → String → Except String (Assoc String)
  /-- `_resolve_connector_version`, of a tenant and a connector. -/
  resolveConnectorVersion : String → String → Except String (Option String)
  /-- `dispatch_action`, at the n-th attempt: its reply, and what it has made of the payload. -/
  dispatch : DispatchCall → Nat → Except String Value × Dict

/-! ## Keyword arguments -/

/-- An argument of a callback. -/
inductive Arg where
  | none
  | text (text : String)
  | data (payload : Dict)

/-- The text of an argument, or nothing. -/
def Arg.text? : Arg → Option String
  | .text content => some content
  | _ => Option.none

/-- The payload of an argument. -/
def Arg.payload : Arg → Dict
  | .data content => content
  | _ => []

/-- Parameters, with their defaults. -/
abbrev Parameters := Assoc (Option Arg)

/-- A call with keyword arguments: the value of each parameter, or the text of the `TypeError`. -/
def bindArguments (function : String) (parameters : Parameters) (kwargs : Assoc Arg) :
    Except String (Assoc Arg) :=
  match kwargs.find? fun kwarg => !parameters.has kwarg.1 with
  | some kwarg =>
      .error (function ++ "() got an unexpected keyword argument '" ++ kwarg.1 ++ "'")
  | none =>
      match parameters.find? fun parameter => parameter.2.isNone && !kwargs.has parameter.1 with
      | some parameter =>
          .error (function ++ "() missing 1 required positional argument: '" ++ parameter.1 ++ "'")
      | none => .ok (parameters.map fun parameter =>
          (parameter.1, (kwargs.find parameter.1).getD (parameter.2.getD .none)))

/-- The argument with this name. -/
def argument (arguments : Assoc Arg) (name : String) : Arg :=
  (arguments.find name).getD .none

/-- What a call of a callback does: the actions that it dispatches, its result, and what becomes of
the payload. -/
structure Reply where
  dispatched : List DispatchCall
  result : Except String Value
  payload : Dict

/-- An action callback. -/
structure Callback where
  name : String
  parameters : Parameters
  body : Assoc Arg → Nat → Reply

/-- The callback accepts these keyword arguments. -/
def Callback.Accepts (callback : Callback) (kwargs : Assoc Arg) : Prop :=
  ∃ arguments, bindArguments callback.name callback.parameters kwargs = .ok arguments

/-- The n-th call of a callback. -/
def Callback.call (callback : Callback) (kwargs : Assoc Arg) (attempt : Nat) : Reply :=
  match bindArguments callback.name callback.parameters kwargs with
  | .ok arguments => callback.body arguments attempt
  | .error message => ⟨[], .error message, (argument kwargs "payload").payload⟩

/-! ## `execute_flow` -/

variable (world : FlowWorld)

def matchesFilter (data : Dict) (sourceFilter : Option Dict) : Bool :=
  (sourceFilter.getD []).all fun field =>
    (Value.getDotted world.texts (Value.splitDots field.1.toList) (.dict data)).pyEq field.2

/-- The number of attempts: `range(max_attempts)`. -/
def Flow.attempts (flow : Flow) : Nat :=
  if flow.onError = "retry" then (flow.maxRetries + 1).toNat else 1

/-- The keyword arguments of the callback. -/
def callArguments (flow : Flow) (payload : Dict) : Assoc Arg :=
  [("connector_name", .text flow.destinationConnector),
    ("action", .text flow.destinationAction),
    ("payload", .data payload),
    ("tenant_id", .text flow.tenantId),
    ("connector_version", (flow.destinationConnectorVersion.map Arg.text).getD .none)]

/-- The attempts of a flow: the calls of the callback, what they dispatch, and the last attempt,
with its result. -/
structure Attempts where
  payload : Dict
  calls : List (Assoc Arg) := []
  dispatched : List DispatchCall := []
  last : Option (Nat × Except String Value) := none

/-- The loop over the attempts. The delays between them are left out. -/
def runAttempts (flow : Flow) (callback : Callback) : Nat → Nat → Dict → Attempts
  | 0, _, payload => { payload }
  | remaining + 1, attempt, payload =>
      let kwargs := callArguments flow payload
      let reply := callback.call kwargs attempt
      match reply.result with
      | .ok value =>
          { payload := reply.payload
            calls := [kwargs]
            dispatched := reply.dispatched
            last := some (attempt, .ok value) }
      | .error message =>
          let rest := runAttempts flow callback remaining (attempt + 1) reply.payload
          { payload := rest.payload
            calls := kwargs :: rest.calls
            dispatched := reply.dispatched ++ rest.dispatched
            last := some (rest.last.getD (attempt, .error message)) }

/-- What an execution of a flow does. -/
structure FlowRun where
  execution : FlowExecution
  calls : List (Assoc Arg) := []
  dispatched : List DispatchCall := []

/-- The execution after its attempts. -/
def ended (execution : FlowExecution) (attempts : Attempts) : FlowExecution :=
  let execution := { execution with destinationActionData := attempts.payload }
  match attempts.last with
  | none => execution
  | some (attempt, .ok value) =>
      { execution with
        status := .success
        retryCount := attempt
        result := some (match value with
          | .dict fields => fields
          | value => [("result", .str (world.texts.str value))]) }
  | some (attempt, .error message) =>
      { execution with status := .failed, retryCount := attempt, error := some message }

/-- The data that is sent: mapped, and transformed. -/
def mappedData (flow : Flow) (data : Dict) : Except String Dict :=
  (world.resolveMapping flow.tenantId flow.destinationConnector data flow.fieldMapping).map
    fun mapped =>
      match flow.transform with
      | some transform => if transform = "" then mapped else world.applyTransform mapped transform
      | none => mapped

def executeFlow (callback : Callback) (flow : Flow) (data : Dict) : FlowRun :=
  let execution : FlowExecution :=
    { flowId := flow.id, tenantId := flow.tenantId, sourceEventData := data }
  if matchesFilter world data flow.sourceFilter then
    match mappedData world flow data with
    | .ok mapped =>
        let attempts := runAttempts flow callback flow.attempts 0 mapped
        { execution := ended world execution attempts
          calls := attempts.calls
          dispatched := attempts.dispatched }
    | .error message =>
        { execution := { execution with status := .failed, error := some message } }
  else { execution := { execution with status := .skipped } }

def getFlowsForEvent (flows : List Flow) (tenantId connectorName event : String) : List Flow :=
  flows.filter fun flow => flow.tenantId == tenantId && flow.sourceConnector == connectorName &&
    flow.sourceEvent == event && flow.isEnabled

def processEvent (callback : Callback) (flows : List Flow) (tenantId connectorName event : String)
    (data : Dict) : List FlowRun :=
  (getFlowsForEvent flows tenantId connectorName event).map fun flow =>
    executeFlow world callback flow data

/-- The flow gets as far as its action: the event passes its filter, its data can be mapped, and
it is attempted at all. -/
def ReachesAction (flow : Flow) (data : Dict) : Prop :=
  matchesFilter world data flow.sourceFilter = true ∧
    (∃ mapped, mappedData world flow data = .ok mapped) ∧ flow.attempts ≠ 0

variable {world} {callback : Callback} {flow : Flow}

theorem calls_ne_nil {data : Dict} :
    (executeFlow world callback flow data).calls ≠ [] ↔ ReachesAction world flow data := by
  unfold ReachesAction executeFlow
  by_cases hfilter : matchesFilter world data flow.sourceFilter = true
  · rw [if_pos hfilter]
    cases hmapped : mappedData world flow data with
    | error message => simp
    | ok mapped =>
        cases hattempts : flow.attempts with
        | zero => simp [runAttempts]
        | succ remaining =>
            refine iff_of_true ?_ ⟨hfilter, ⟨mapped, rfl⟩, Nat.succ_ne_zero _⟩
            show (runAttempts flow callback (remaining + 1) 0 mapped).calls ≠ []
            rw [runAttempts]
            cases (callback.call (callArguments flow mapped) 0).result <;> simp
  · rw [if_neg hfilter]
    exact iff_of_false (fun h => h rfl) fun h => hfilter h.1

theorem mem_runAttempts_calls {kwargs : Assoc Arg} (remaining attempt : Nat) (payload : Dict)
    (h : kwargs ∈ (runAttempts flow callback remaining attempt payload).calls) :
    ∃ payload', kwargs = callArguments flow payload' := by
  induction remaining generalizing attempt payload with
  | zero => simp [runAttempts] at h
  | succ remaining ih =>
      rw [runAttempts] at h
      cases hresult : (callback.call (callArguments flow payload) attempt).result with
      | ok value =>
          simp only [hresult, List.mem_singleton] at h
          exact ⟨payload, h⟩
      | error message =>
          simp only [hresult, List.mem_cons] at h
          rcases h with hfirst | hrest
          · exact ⟨payload, hfirst⟩
          · exact ih _ _ hrest

theorem mem_calls {data : Dict} {kwargs : Assoc Arg}
    (h : kwargs ∈ (executeFlow world callback flow data).calls) :
    ∃ payload, kwargs = callArguments flow payload := by
  unfold executeFlow at h
  by_cases hfilter : matchesFilter world data flow.sourceFilter = true
  · rw [if_pos hfilter] at h
    cases hmapped : mappedData world flow data with
    | error message => simp [hmapped] at h
    | ok mapped =>
        rw [hmapped] at h
        exact mem_runAttempts_calls _ _ _ h
  · simp [hfilter] at h

theorem dispatched_of_calls {data : Dict} (h : (executeFlow world callback flow data).calls = []) :
    (executeFlow world callback flow data).dispatched = [] := by
  unfold executeFlow at h ⊢
  by_cases hfilter : matchesFilter world data flow.sourceFilter = true
  · rw [if_pos hfilter] at h ⊢
    cases hmapped : mappedData world flow data with
    | error message => rfl
    | ok mapped =>
        simp only [hmapped] at h ⊢
        cases hattempts : flow.attempts with
        | zero => rfl
        | succ remaining =>
            rw [hattempts, runAttempts] at h
            cases hresult : (callback.call (callArguments flow mapped) 0).result with
            | ok value => simp [hresult] at h
            | error message => simp [hresult] at h
  · rw [if_neg hfilter]

theorem runAttempts_rejected
    (hrejects : ∀ payload, ¬ callback.Accepts (callArguments flow payload)) (remaining attempt : Nat)
    (payload : Dict) : (runAttempts flow callback remaining attempt payload).dispatched = [] := by
  induction remaining generalizing attempt payload with
  | zero => rfl
  | succ remaining ih =>
      have hcall : ∃ message,
          callback.call (callArguments flow payload) attempt = ⟨[], .error message, payload⟩ := by
        unfold Callback.call
        cases hbind : bindArguments callback.name callback.parameters
            (callArguments flow payload) with
        | ok arguments => exact absurd ⟨arguments, hbind⟩ (hrejects payload)
        | error message => exact ⟨message, rfl⟩
      obtain ⟨message, hcall⟩ := hcall
      rw [runAttempts]
      simp only [hcall, List.nil_append]
      exact ih _ _

theorem executeFlow_rejected (data : Dict)
    (hrejects : ∀ payload, ¬ callback.Accepts (callArguments flow payload)) :
    (executeFlow world callback flow data).dispatched = [] := by
  unfold executeFlow
  by_cases hfilter : matchesFilter world data flow.sourceFilter = true
  · rw [if_pos hfilter]
    cases mappedData world flow data with
    | error message => rfl
    | ok mapped => exact runAttempts_rejected hrejects _ _ _
  · rw [if_neg hfilter]

end Flows

end IntegrationPlatform
