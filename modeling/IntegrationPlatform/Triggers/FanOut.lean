import IntegrationPlatform.Triggers.Filters
import IntegrationPlatform.Workflow.Sample

/-!
# Event fan-out

`process_event` of the workflow engine: from the enabled workflows that an event matches, those
that the event passes by account and filters are selected first and executed then, one after
another. The selection ends at the first workflow whose filters raise, and with it the whole
fan-out.
-/

namespace IntegrationPlatform

open Value Filters

namespace FanOut

variable (texts : TextFunctions) (data : Dict)

def getTriggerCredential (nodes : List Node) : Option String :=
  nodes.findSome? fun node =>
    if node.type = .trigger then
      node.config.credentialName.filter fun name => name ≠ "" ∧ name ≠ "default"
    else none

/-- `left or right`, where an absent key reads as `None`. -/
def pyOr (left right : Option Value) : Value :=
  if (left.getD .null).truthy then left.getD .null else right.getD .null

/-- `_get_trigger_filters`, of the first trigger node. -/
def getTriggerFilters (nodes : List Node) : Value :=
  match nodes.find? fun node => node.type = .trigger with
  | some trigger => pyOr trigger.config.filters trigger.config.filter
  | none => .null

/-- The event is of another account than the one that the trigger asks for. -/
def otherAccount (workflow : Workflow) : Bool :=
  let account := (Assoc.find data "account_name").getD .null
  match getTriggerCredential workflow.nodes with
  | some credential => account.truthy && !account.pyEq (.str credential)
  | none => false

/-- Whether the event starts the workflow: it is of the right account and passes the filters. -/
def passes (workflow : Workflow) : Except String Bool :=
  if otherAccount data workflow then .ok false
  else if (getTriggerFilters workflow.nodes).truthy then
    passesTriggerFilters texts (getTriggerFilters workflow.nodes) data
  else .ok true

/-- The first loop of `process_event`: the workflows to execute. -/
def matched : List Workflow → Except String (List Workflow)
  | [] => .ok []
  | workflow :: rest =>
      match passes texts data workflow with
      | .ok true => (matched rest).map (workflow :: ·)
      | .ok false => matched rest
      | .error message => .error message

section Execution

variable (engine : WorkflowEngine) (visit : Visit)

/-- The second loop of `process_event`, for workflows without a sync ledger. -/
def executeAll : List Workflow → Eng (List Execution)
  | [] => return []
  | workflow :: rest => do
      let execution ← engine.executeWorkflow visit workflow data false []
      let executions ← executeAll rest
      return execution :: executions

/-- `process_event`, for the enabled workflows that match the event. -/
def processEvent (workflows : List Workflow) : Eng (List Execution) :=
  match matched texts data workflows with
  | .ok toExecute => executeAll data engine visit toExecute
  | .error message => Eng.raise ⟨message, none⟩

end Execution

/-- `process_event` comes to execute the workflow, when the event matches these workflows. -/
def Executed (workflows : List Workflow) (workflow : Workflow) : Prop :=
  ∃ toExecute, matched texts data workflows = .ok toExecute ∧ workflow ∈ toExecute

/-- The trigger of the workflow is for the account of the event and has faulty filters. -/
def Faulty (workflow : Workflow) : Prop :=
  otherAccount data workflow = false ∧ (getTriggerFilters workflow.nodes).truthy = true ∧
    FaultyFilters texts data (getTriggerFilters workflow.nodes)

variable {texts data} {workflow : Workflow} {workflows : List Workflow}

theorem passes_raises :
    (∃ message, passes texts data workflow = .error message) ↔ Faulty texts data workflow := by
  unfold passes Faulty
  by_cases haccount : otherAccount data workflow = true
  · simp [haccount]
  · by_cases hfilters : (getTriggerFilters workflow.nodes).truthy = true
    · simpa [haccount, hfilters] using
        passesTriggerFilters_raises (getTriggerFilters workflow.nodes) data
    · simp [haccount, hfilters]

theorem matched_raises :
    (∃ message, matched texts data workflows = .error message) ↔
      ∃ workflow ∈ workflows, Faulty texts data workflow := by
  induction workflows with
  | nil => simp [matched]
  | cons workflow rest ih =>
      have hhead : (∃ message, passes texts data workflow = .error message) ↔
          Faulty texts data workflow := passes_raises
      cases hpasses : passes texts data workflow with
      | ok passed =>
          have hnot : ¬ Faulty texts data workflow := by simp [← hhead, hpasses]
          cases passed with
          | true => simpa [matched, hpasses, map_raises, hnot] using ih
          | false => simpa [matched, hpasses, hnot] using ih
      | error message =>
          have hfaulty : Faulty texts data workflow := hhead.mp ⟨message, hpasses⟩
          simp [matched, hpasses, hfaulty]

theorem mem_matched {toExecute : List Workflow} (h : matched texts data workflows = .ok toExecute) :
    workflow ∈ toExecute ↔ workflow ∈ workflows ∧ passes texts data workflow = .ok true := by
  induction workflows generalizing toExecute with
  | nil =>
      obtain rfl := Except.ok.inj h
      simp
  | cons other rest ih =>
      cases hpasses : passes texts data other with
      | ok passed =>
          cases hrest : matched texts data rest with
          | ok selected =>
              have hmem := ih hrest
              cases passed with
              | true =>
                  simp only [matched, hpasses, hrest, Except.map, Except.ok.injEq] at h
                  subst h
                  rw [List.mem_cons, hmem, List.mem_cons]
                  constructor
                  · rintro (rfl | hselected)
                    · exact ⟨.inl rfl, hpasses⟩
                    · exact ⟨.inr hselected.1, hselected.2⟩
                  · rintro ⟨rfl | hworkflow, hok⟩
                    · exact .inl rfl
                    · exact .inr ⟨hworkflow, hok⟩
              | false =>
                  simp only [matched, hpasses, hrest, Except.ok.injEq] at h
                  subst h
                  rw [hmem, List.mem_cons]
                  constructor
                  · exact fun hselected => ⟨.inr hselected.1, hselected.2⟩
                  · rintro ⟨rfl | hworkflow, hok⟩
                    · simp [hpasses] at hok
                    · exact ⟨hworkflow, hok⟩
          | error message => cases passed <;> simp [matched, hpasses, hrest, Except.map] at h
      | error message => simp [matched, hpasses] at h

theorem executed_alone : Executed texts data [workflow] workflow ↔
    passes texts data workflow = .ok true := by
  unfold Executed
  cases hpasses : passes texts data workflow with
  | ok passed => cases passed <;> simp [matched, hpasses, Except.map]
  | error message => simp [matched, hpasses]

/-- In a list of workflows, one is executed if and only if it would be alone and none of the
list has faulty filters. -/
theorem executed_iff (texts : TextFunctions) (data : Dict) (workflows : List Workflow)
    (workflow : Workflow) (hmem : workflow ∈ workflows) :
    Executed texts data workflows workflow ↔
      Executed texts data [workflow] workflow ∧
        ∀ other ∈ workflows, ¬ Faulty texts data other := by
  rw [executed_alone]
  constructor
  · rintro ⟨toExecute, hmatched, hexecuted⟩
    refine ⟨((mem_matched hmatched).mp hexecuted).2, fun other hother hfaulty => ?_⟩
    obtain ⟨message, hraises⟩ := matched_raises.mpr ⟨other, hother, hfaulty⟩
    rw [hmatched] at hraises
    cases hraises
  · rintro ⟨hpasses, hnone⟩
    cases hmatched : matched texts data workflows with
    | ok toExecute => exact ⟨toExecute, hmatched, (mem_matched hmatched).mpr ⟨hmem, hpasses⟩⟩
    | error message =>
        obtain ⟨other, hother, hfaulty⟩ := matched_raises.mp ⟨message, hmatched⟩
        exact absurd hfaulty (hnone other hother)

/-! ## What is executed -/

section Execution

open Eng

variable (engine : WorkflowEngine) (visit : Visit)

theorem finished_workflowId {id : String} {ended : Thread × Outcome Unit} {execution : Execution}
    (h : WorkflowEngine.finished id workflow data ended = .ok execution) :
    execution.workflowId = workflow.id := by
  obtain ⟨thread, outcome⟩ := ended
  cases outcome with
  | ok value =>
      obtain rfl := Except.ok.inj h
      rfl
  | error stop =>
      cases stop with
      | raised exc =>
          obtain rfl := Except.ok.inj h
          rfl
      | blocked => cases h
      | outOfFuel => cases h

variable {replies : (request : Request) → Reply request → Prop}

theorem sat_executeAll (fuel : Nat) (toExecute : List Workflow) (thread : Thread) :
    Sat ⟨fun _ => True, fun request => false = true → request.Harmless, replies⟩
      (executeAll data engine (engine.executeSingleNode fuel) toExecute) thread
      fun _ outcome => ∀ executions, outcome = .ok executions →
        executions.map Execution.workflowId = toExecute.map Workflow.id := by
  induction toExecute generalizing thread with
  | nil =>
      refine sat_pure fun executions h => ?_
      obtain rfl := Except.ok.inj h
      rfl
  | cons workflow rest ih =>
      have hbehaves := WorkflowEngine.behaves engine replies false fuel
      refine (sat_executeWorkflow hbehaves engine workflow data []).bind ?_ ?_
      · rintro thread' execution ⟨id, ended, -, -, hfinished⟩
        have hid : execution.workflowId = workflow.id :=
          finished_workflowId hfinished.symm
        refine (ih thread').bind ?_ fun _ _ _ _ h => by cases h
        intro thread'' executions hrest
        refine sat_pure fun all h => ?_
        obtain rfl := Except.ok.inj h
        rw [List.map_cons, List.map_cons, hid, hrest executions rfl]
      · intro _ _ _ _ h
        cases h

theorem sat_processEvent (fuel : Nat)
    {toExecute : List Workflow} (h : matched texts data workflows = .ok toExecute)
    (thread : Thread) :
    Sat ⟨fun _ => True, fun request => false = true → request.Harmless, replies⟩
      (processEvent texts data engine (engine.executeSingleNode fuel) workflows) thread
      fun _ outcome => ∀ executions, outcome = .ok executions →
        executions.map Execution.workflowId = toExecute.map Workflow.id := by
  unfold processEvent
  rw [h]
  exact sat_executeAll engine fuel toExecute thread

end Execution

end FanOut

namespace Sample

/-- Text functions for concrete filters: texts are themselves, and nothing is a number. -/
def texts : TextFunctions where
  str value :=
    match value with
    | .str text => text
    | _ => ""
  int _ := none
  float _ := none
  compile _ := .pattern
  search pattern text := isPart pattern.toList text.toList

def filtered (id : String) (conditions : List Value) : Workflow where
  id := id
  nodes := [{ trigger with config := { filters := some (.dict [("conditions", .list conditions)]) } }]
  edges := []

def fieldCondition (field operator : String) (value : Value) : Value :=
  .dict [("field", .str field), ("operator", .str operator), ("value", value)]

def newOrders : Workflow :=
  filtered "new" [fieldCondition "order.status" "eq" (.str "new")]

def containsFive : Workflow :=
  filtered "five" [fieldCondition "order.total" "contains" (.str "5")]

def withTotal : Workflow :=
  filtered "total" [fieldCondition "order.total" "exists" .null]

def order : Dict :=
  [("order", .dict [("status", .str "new"), ("total", .int 150)])]

end Sample

/-- A workflow is executed beside one with an ordinary filter. -/
theorem executed_beside : FanOut.Executed Sample.texts Sample.order
      [Sample.withTotal, Sample.newOrders] Sample.newOrders := by
  have hmem : Sample.newOrders ∈ [Sample.withTotal, Sample.newOrders] := by simp
  refine (FanOut.executed_iff Sample.texts Sample.order _ Sample.newOrders hmem).mpr ⟨?_, ?_⟩
  · rw [FanOut.executed_alone]
    decide +kernel
  · intro other hother hfaulty
    have hpasses : FanOut.passes Sample.texts Sample.order other = .ok true := by
      rcases List.mem_pair.mp hother with rfl | rfl <;> decide +kernel
    obtain ⟨message, hraises⟩ := FanOut.passes_raises.mpr hfaulty
    rw [hpasses] at hraises
    cases hraises

/-- A workflow that would be executed alone is not, beside one whose filter searches for a text
in a number. -/
theorem starved :
    FanOut.Executed Sample.texts Sample.order [Sample.newOrders] Sample.newOrders ∧
      ¬ FanOut.Executed Sample.texts Sample.order [Sample.containsFive, Sample.newOrders]
        Sample.newOrders := by
  constructor
  · rw [FanOut.executed_alone]
    decide +kernel
  · rintro ⟨toExecute, hmatched, -⟩
    simp [FanOut.matched, show FanOut.passes Sample.texts Sample.order Sample.containsFive =
      .error "argument of type 'int' is not iterable" by decide +kernel] at hmatched

end IntegrationPlatform
