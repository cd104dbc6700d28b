import IntegrationPlatform.Workflow.Activation

/-!
# Runs

`Behaviour` is what `_execute_single_node` can do when at most `fuel` activations are nested,
and `Runs` and `Reruns` are the complete runs of the two entry points. The results connect the
three: a run is an execution from the trigger node, or an activation of the node to run again
from, in which every activation behaves so.
-/

namespace IntegrationPlatform

open Resumption Eng

/-- Every reply is possible. -/
def anyReply (request : Request) (_ : Reply request) : Prop := True

/-- Only the replies of a family are possible. -/
def onlyReply (answer : (request : Request) → Reply request) (request : Request)
    (reply : Reply request) : Prop :=
  reply = answer request

/-- The caller of an entry point, before the call. -/
def Thread.idle : Thread := ⟨{ data := [], triggerData := [] }, []⟩

namespace WorkflowEngine

variable (engine : WorkflowEngine) (replies : (request : Request) → Reply request → Prop)
  (fuel : Nat)

/-- What `_execute_single_node` can do. -/
def Behaviour : VisitRel := fun workflow node depth thread thread' outcome =>
  Ends (engineContract replies thread.ctx.dryRun workflow)
    (engine.executeSingleNode fuel workflow node depth) thread thread' outcome

/-- A run of `execute_workflow`, with any admitted replies and under any schedule: what it did
and how it ended. -/
def Runs (workflow : Workflow) (triggerData : Dict) (dryRun : Bool) (parentChain : List String)
    (trace : List Event) (outcome : Outcome Execution) : Prop :=
  ∃ thread joins, Step.Run replies
    (engine.executeWorkflow (engine.executeSingleNode fuel) workflow triggerData dryRun parentChain
      .idle {}) joins (thread, outcome) ∧ thread.trace = trace

/-- A run of `rerun_from_node`. -/
def Reruns (workflow : Workflow) (original : Execution) (fromNodeId : String)
    (overrideData : Dict) (trace : List Event) (outcome : Outcome Execution) : Prop :=
  ∃ thread joins, Step.Run replies
    (rerunFromNode (engine.executeSingleNode fuel) workflow original fromNodeId overrideData
      .idle {}) joins (thread, outcome) ∧ thread.trace = trace

/-- The run of `execute_workflow` under a fixed family of replies and scheduler choices. -/
def played (answer : (request : Request) → Reply request) (pick : (width : Nat) → Fin (width + 1))
    (fuel : Nat) (workflow : Workflow) (triggerData : Dict) (dryRun : Bool) : Thread × Outcome Execution :=
  ((engine.executeWorkflow (engine.executeSingleNode fuel) workflow triggerData dryRun []
    .idle {}).play answer pick).2

/-- A run from a node: without the node there is nothing to run. -/
inductive FromNode (V : VisitRel) (workflow : Workflow) (fromNodeId : String) :
    Thread → Thread → Outcome Unit → Prop where
  | missing (thread message) : workflow.graph.getNode fromNodeId = none →
      FromNode V workflow fromNodeId thread thread (.error (.raised ⟨message, none⟩))
  | visit {node thread thread' outcome} : workflow.graph.getNode fromNodeId = some node →
      V workflow node 0 thread thread' outcome →
      FromNode V workflow fromNodeId thread thread' outcome

variable {engine replies fuel} {workflow : Workflow} {node : Node} {depth : Nat}
  {thread thread' : Thread} {outcome : Outcome Unit}

theorem runs_played {answer : (request : Request) → Reply request}
    (hanswer : ∀ request, replies request (answer request))
    (pick : (width : Nat) → Fin (width + 1)) (triggerData : Dict) (dryRun : Bool) :
    engine.Runs replies fuel workflow triggerData dryRun []
      (engine.played answer pick fuel workflow triggerData dryRun).1.trace
      (engine.played answer pick fuel workflow triggerData dryRun).2 :=
  ⟨_, _, Step.play_run answer pick hanswer _, rfl⟩

theorem played_eq (answer : (request : Request) → Reply request)
    (pick : (width : Nat) → Fin (width + 1)) (triggerData : Dict) (dryRun : Bool) :
    engine.played answer pick fuel workflow triggerData dryRun =
      let ended := (play answer pick
        (engine.executeFromTrigger (engine.executeSingleNode fuel) workflow triggerData)
        ⟨initialContext workflow triggerData dryRun [], []⟩ {}).2
      (Thread.idle.log ended.1.trace,
        finished (answer (.newExecution workflow.id)) workflow triggerData ended) := by
  change (play answer pick (engine.executeWorkflow (engine.executeSingleNode fuel) workflow
    triggerData dryRun []) .idle {}).2 = _
  unfold executeWorkflow finishExecution
  rw [play_ask_bind]
  simp only [play_bind, play_fork, play_isolated, play_emitAll, play_halt]

theorem behaviour_zero
    (h : engine.Behaviour replies 0 workflow node depth thread thread' outcome) :
    thread' = thread ∧ outcome = .error .outOfFuel :=
  Sat.of_ends (P := fun thread' outcome => thread' = thread ∧ outcome = .error .outOfFuel)
    (sat_halt ⟨rfl, rfl⟩) h

theorem behaves (engine : WorkflowEngine) (replies : (request : Request) → Reply request → Prop)
    (dryRun : Bool) (fuel : Nat) :
    Behaves replies dryRun (engine.executeSingleNode fuel) (engine.Behaviour replies fuel) := by
  induction fuel generalizing dryRun with
  | zero =>
      refine ⟨fun hV => ?_, fun workflow node depth thread hdry => ?_⟩
      · obtain ⟨rfl, -⟩ := behaviour_zero hV
        exact .refl _
      · subst hdry
        exact Sat.ends (P := fun _ _ => True) (sat_halt trivial)
  | succ fuel ih =>
      refine ⟨fun {w n d t t' o} hV => ?_, fun workflow node depth thread hdry => ?_⟩
      · exact (Sat.of_ends (sat_visitNode (ih t.ctx.dryRun) rfl) hV).frame (ih true).1
      · subst hdry
        exact (sat_visitNode (ih thread.ctx.dryRun) rfl).ends

theorem behaviour_frame
    (h : engine.Behaviour replies fuel workflow node depth thread thread' outcome) :
    Frame thread thread' :=
  (behaves engine replies true fuel).1 h

theorem behaviour_succ
    (h : engine.Behaviour replies (fuel + 1) workflow node depth thread thread' outcome) :
    Activates (engine.Behaviour replies fuel) engine workflow node depth thread thread' outcome :=
  Sat.of_ends (sat_visitNode (behaves engine replies thread.ctx.dryRun fuel) rfl) h

theorem Runs.fromTrigger {triggerData : Dict} {dryRun : Bool} {parentChain : List String}
    {trace : List Event} {outcome : Outcome Execution}
    (h : engine.Runs replies fuel workflow triggerData dryRun parentChain trace outcome) :
    ∃ id ended, FromTrigger (engine.Behaviour replies fuel) workflow
        ⟨initialContext workflow triggerData dryRun parentChain, []⟩ ended.1 ended.2 ∧
      trace = ended.1.trace ∧ outcome = finished id workflow triggerData ended := by
  obtain ⟨thread, joins, hrun, rfl⟩ := h
  have hsat : Sat ⟨fun _ => True, _, replies⟩ _ Thread.idle _ :=
    sat_executeWorkflow (behaves engine replies dryRun fuel) engine workflow triggerData parentChain
  obtain ⟨id, ended, hended, hthread, houtcome⟩ := ((hsat {} trivial).run hrun).2
  have htrace : thread = Thread.idle.log ended.1.trace := hthread
  exact ⟨id, ended, hended, by rw [htrace]; rfl, houtcome⟩

/-- A run of `rerun_from_node` is an activation of the node in the restored context. -/
theorem Reruns.fromNode {original : Execution} {fromNodeId : String} {overrideData : Dict}
    {trace : List Event} {outcome : Outcome Execution}
    (h : engine.Reruns replies fuel workflow original fromNodeId overrideData trace outcome) :
    ∃ id ended, FromNode (engine.Behaviour replies fuel) workflow fromNodeId
        ⟨restoredContext workflow original fromNodeId overrideData, []⟩ ended.1 ended.2 ∧
      trace = ended.1.trace ∧ outcome = finished id workflow original.triggerData ended := by
  obtain ⟨thread, joins, hrun, rfl⟩ := h
  have hvisit := behaves engine replies false fuel
  have hbody : Sat (engineContract replies false workflow)
      (executeFromNode (engine.executeSingleNode fuel) workflow fromNodeId)
      ⟨restoredContext workflow original fromNodeId overrideData, []⟩
      (FromNode (engine.Behaviour replies fuel) workflow fromNodeId
        ⟨restoredContext workflow original fromNodeId overrideData, []⟩) := by
    unfold executeFromNode
    split
    · next hnone => exact sat_raise (.missing _ _ hnone)
    · next node hnode => exact (hvisit.2 workflow node 0 _ rfl).mono fun _ _ h => .visit hnode h
  have hsat : Sat ⟨fun _ => True, fun request => false = true → request.Harmless, replies⟩
      (rerunFromNode (engine.executeSingleNode fuel) workflow original fromNodeId overrideData)
      .idle fun thread' outcome => ∃ id ended,
        FromNode (engine.Behaviour replies fuel) workflow fromNodeId
          ⟨restoredContext workflow original fromNodeId overrideData, []⟩ ended.1 ended.2 ∧
        thread' = Thread.idle.log ended.1.trace ∧
        outcome = finished id workflow original.triggerData ended := by
    refine sat_ask_bind (fun _ => trivial) fun id _ => ?_
    refine sat_fork_bind (sat_isolated (I := MergeJoins.Sound workflow.graph)
      (fun _ _ => MergeJoins.sound_empty _) hbody) fun ended hended => ?_
    exact sat_emitAll_bind.mpr (sat_halt ⟨id, ended, hended, rfl, rfl⟩)
  obtain ⟨id, ended, hended, hthread, houtcome⟩ := ((hsat {} trivial).run hrun).2
  have htrace : thread = Thread.idle.log ended.1.trace := hthread
  exact ⟨id, ended, hended, by rw [htrace]; rfl, houtcome⟩

end WorkflowEngine

end IntegrationPlatform
