import IntegrationPlatform.Flows.FlowEngine

/-!
# Entry points of events

The four places that feed `process_event` of the flow engine, each with its own copy of the action
callback. Two of the copies name their parameters differently from the arguments that
`execute_flow` passes, and one lacks a parameter: only `POST /api/v1/events` dispatches anything.
-/

namespace IntegrationPlatform

namespace Flows

/-- The places that events come from. -/
inductive EntryPoint where
  /-- `POST /api/v1/events`. -/
  | events
  /-- The background processing of an inbound webhook. -/
  | webhook
  /-- The replay of a webhook. -/
  | replay
  /-- The Kafka event bridge. -/
  | kafka
deriving DecidableEq, Repr

/-! ## The callbacks -/

section Callbacks

variable (world : FlowWorld)

/-- The credentials and the version with which the callbacks of the gateway dispatch. -/
def resolveCredentials (tenantId connectorName credentialName : String) (version : Option String) :
    Except String (Assoc String × Option String) :=
  match world.retrieveAll tenantId connectorName credentialName with
  | .error message => .error message
  | .ok credentials =>
      let enriched :=
        if credentials.isEmpty then .ok credentials
        else world.enrich credentials tenantId connectorName credentialName
      match enriched with
      | .error message => .error message
      | .ok credentials =>
          match version.filter (· ≠ "") with
          | some version => .ok (credentials, some version)
          | none => (world.resolveConnectorVersion tenantId connectorName).map (credentials, ·)

/-- A callback of the gateway, whose parameters for the connector and the tenant have these
names. -/
def gatewayCallback (name connectorParameter tenantParameter : String) : Callback where
  name := name
  parameters :=
    [(connectorParameter, none), ("action", none), ("payload", none), (tenantParameter, none),
      ("credential_name", some (.text "default")), ("connector_version", some .none)]
  body arguments attempt :=
    let text (name : String) := ((argument arguments name).text?).getD ""
    let payload := (argument arguments "payload").payload
    match resolveCredentials world (text tenantParameter) (text connectorParameter)
        (text "credential_name") (argument arguments "connector_version").text? with
    | .error message => ⟨[], .error message, payload⟩
    | .ok (credentials, version) =>
        let call : DispatchCall :=
          { connectorName := text connectorParameter
            action := text "action"
            payload
            tenantId := text tenantParameter
            credentials := some credentials
            connectorVersion := version }
        ⟨[call], (world.dispatch call attempt).1, (world.dispatch call attempt).2⟩

/-- `execute_action_for_flow` of `trigger_event`. -/
def triggerEventCallback : Callback :=
  gatewayCallback world "trigger_event.<locals>.execute_action_for_flow" "connector_name" "tenant_id"

/-- `_action_fn` of `_bg_process_event`. -/
def webhookCallback : Callback :=
  gatewayCallback world "_bg_process_event.<locals>._action_fn" "cn" "tid"

/-- `_replay_action_fn`. -/
def replayCallback : Callback :=
  gatewayCallback world "replay_webhook.<locals>._replay_action_fn" "cn" "tid"

/-- `execute_action_for_flow` of the Kafka bridge, which goes on without credentials where they
cannot be retrieved, and knows no version. -/
def kafkaCallback : Callback where
  name := "_process_for_tenant.<locals>.execute_action_for_flow"
  parameters :=
    [("connector_name", none), ("action", none), ("payload", none), ("tenant_id", none),
      ("credential_name", some (.text "default"))]
  body arguments attempt :=
    let text (name : String) := ((argument arguments name).text?).getD ""
    let call : DispatchCall :=
      { connectorName := text "connector_name"
        action := text "action"
        payload := (argument arguments "payload").payload
        tenantId := text "tenant_id"
        credentials := (world.retrieveAll (text "tenant_id") (text "connector_name")
          (text "credential_name")).toOption
        connectorVersion := none }
    ⟨[call], (world.dispatch call attempt).1, (world.dispatch call attempt).2⟩

/-- The callback of an entry point. -/
def EntryPoint.callback : EntryPoint → Callback
  | .events => triggerEventCallback world
  | .webhook => webhookCallback world
  | .replay => replayCallback world
  | .kafka => kafkaCallback world

end Callbacks

/-- An event of a connector, for a tenant. -/
structure Event where
  tenantId : String
  connectorName : String
  event : String
  data : Dict

section Agreement

variable (world : FlowWorld) (flows : List Flow) (event : Event)

/-- What the flow engine does with an event that comes in at an entry point. -/
def EntryPoint.process (entry : EntryPoint) : List FlowRun :=
  processEvent world (entry.callback world) flows event.tenantId event.connectorName event.event
    event.data

/-- What is dispatched for the event. -/
def EntryPoint.dispatched (entry : EntryPoint) : List DispatchCall :=
  (entry.process world flows event).flatMap FlowRun.dispatched

/-- All entry points dispatch the same for the event, and their callbacks accept the arguments with
which they are called. -/
structure EntryPointsAgree : Prop where
  dispatched : ∀ entry entry' : EntryPoint,
    entry.dispatched world flows event = entry'.dispatched world flows event
  accepted : ∀ entry : EntryPoint, ∀ run ∈ entry.process world flows event, ∀ kwargs ∈ run.calls,
    (entry.callback world).Accepts kwargs

end Agreement

variable {world : FlowWorld} {flows : List Flow} {event : Event} {flow : Flow} {payload : Dict}

theorem not_accepts {callback : Callback} {kwargs : Assoc Arg} {name : String}
    (hname : ∃ arg, (name, arg) ∈ kwargs) (hparameters : callback.parameters.has name = false) :
    ¬ callback.Accepts kwargs := by
  rintro ⟨arguments, hbind⟩
  obtain ⟨arg, hmem⟩ := hname
  unfold bindArguments at hbind
  cases hfind : kwargs.find? fun kwarg => !callback.parameters.has kwarg.1 with
  | some kwarg => simp [hfind] at hbind
  | none =>
      have hall := List.find?_eq_none.mp hfind (name, arg) hmem
      simp [hparameters] at hall

theorem others_reject {entry : EntryPoint} (hentry : entry ≠ .events) (flow : Flow) (payload : Dict) :
    ¬ (entry.callback world).Accepts (callArguments flow payload) := by
  have hconnector : ∃ arg, ("connector_name", arg) ∈ callArguments flow payload :=
    ⟨_, List.mem_cons_self⟩
  have hversion : ∃ arg, ("connector_version", arg) ∈ callArguments flow payload :=
    ⟨_, List.mem_of_getElem? (show _[4]? = _ from rfl)⟩
  cases entry with
  | events => exact absurd rfl hentry
  | webhook => exact not_accepts hconnector rfl
  | replay => exact not_accepts hconnector rfl
  | kafka => exact not_accepts hversion rfl

theorem EntryPointsAgree.not_reaches (h : EntryPointsAgree world flows event)
    (hflow : flow ∈ getFlowsForEvent flows event.tenantId event.connectorName event.event) :
    ¬ ReachesAction world flow event.data := by
  intro hreaches
  have hcalls : (executeFlow world (EntryPoint.webhook.callback world) flow event.data).calls ≠ [] :=
    calls_ne_nil.mpr hreaches
  obtain ⟨kwargs, hkwargs⟩ := List.exists_mem_of_ne_nil _ hcalls
  obtain ⟨payload, rfl⟩ := mem_calls hkwargs
  have haccepts := h.accepted .webhook _ (List.mem_map_of_mem hflow) _ hkwargs
  exact others_reject (by decide) flow payload haccepts

end Flows

namespace Sample

open Flows

/-- A world in which data is sent as it is and every action succeeds. -/
def flowWorld : FlowWorld where
  texts := ⟨fun _ => "", fun _ => none, fun _ => none, fun _ => .pattern, fun _ _ => false⟩
  resolveMapping _ _ data _ := .ok data
  applyTransform data _ := data
  retrieveAll _ _ _ := .ok [("api_key", "secret")]
  enrich credentials _ _ _ := .ok credentials
  resolveConnectorVersion _ _ := .ok (some "1.0.0")
  dispatch call _ := (.ok (.dict []), call.payload)

def shipping : Flow where
  id := "flow"
  tenantId := "tenant"
  isEnabled := true
  sourceConnector := "shop"
  sourceEvent := "order.created"
  sourceFilter := none
  destinationConnector := "courier"
  destinationConnectorVersion := none
  destinationAction := "shipment.create"
  fieldMapping := []
  transform := none
  onError := "stop"
  maxRetries := 3

end Sample

end IntegrationPlatform
