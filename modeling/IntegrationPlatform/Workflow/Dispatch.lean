import IntegrationPlatform.Workflow.Region
import IntegrationPlatform.Workflow.Sample

/-!
# What is dispatched

Which calls of executors and which requests a run makes. A dry run makes no request that reaches
the world outside. An executor that has returned is only called again where a descendant raised
into an activation with retries left. A merge node into which an edge leads never gets as far as
its executor.
-/

namespace IntegrationPlatform

open Resumption

/-! ## Dry runs -/

/-- A dry run, from any state and under any interference, asks for nothing but sleep and
execution ids: not for the action executor, the credential resolver or an HTTP request. -/
theorem dryRun_harmless (engine : WorkflowEngine) (fuel : Nat) (workflow : Workflow)
    (triggerData : Dict) (parentChain : List String) (thread : Thread) (joins : MergeJoins) :
    (engine.executeWorkflow (engine.executeSingleNode fuel) workflow triggerData true parentChain
      thread joins).Meets ⟨fun _ => True, Request.Harmless, fun _ _ => True⟩ fun _ => True := by
  have hsat : Eng.Sat ⟨fun _ => True, _, anyReply⟩ _ thread _ := sat_executeWorkflow
    (WorkflowEngine.behaves engine anyReply true fuel) engine workflow triggerData parentChain
  exact ((hsat joins trivial).weaken (fun _ h => h rfl) fun _ _ _ => trivial).mono
    fun _ _ => trivial

/-! ## Calls of executors -/

/-- No constraint on what happens where. -/
def everywhere (engine : WorkflowEngine) : Region engine where
  place _ _ := True
  here _ := True
  rank _ := ⊤
  placed _ := trivial
  enters _ _ := trivial
  starts _ _ := ⟨trivial, le_top⟩
  nests _ _ := ⟨trivial, fun _ => le_top⟩

section Calls

variable {engine : WorkflowEngine} {replies : (request : Request) → Reply request → Prop}

/-- The event is not that of a descendant that raises into an activation with retries left. -/
def Event.KeepsCalls (event : Event) : Prop :=
  ∀ site calls exc, event = .descendantRaised site calls exc →
    ¬ Retries site.workflow site.node calls.length

theorem Retries.of_le {workflow : Workflow} {node : Node} {calls calls' : Nat}
    (h : Retries workflow node calls) (hle : calls' ≤ calls) : Retries workflow node calls' :=
  ⟨h.1, by have := h.2.1; omega, h.2.2⟩

theorem Tries.not_retries {site : Site} {first activation : Activation} (hfirst : first.calls = [])
    (h : Tries Event.KeepsCalls site first activation) (hreturned : .returned ∈ activation.calls) :
    ¬ Retries site.workflow site.node activation.calls.length := by
  induction h with
  | first => simp [hfirst] at hreturned
  | raised _ ih =>
      simp only [Activation.call, List.mem_append, List.mem_singleton, reduceCtorEq, or_false]
        at hreturned
      exact fun hretries => ih hreturned (hretries.of_le (by simp [Activation.call]))
  | descendant thread exc _ _ hkeeps _ => exact hkeeps _ _ _ rfl

theorem EventLaw.calls (engine : WorkflowEngine) :
    EventLaw (everywhere engine) Event.KeepsCalls fun event =>
      ∀ site earlier, event = .called site earlier → .returned ∉ earlier where
  started _ _ _ h := nomatch h
  depthExceeded _ _ _ h := nomatch h
  nestingRefused _ _ _ h := nomatch h
  arrived _ _ _ _ h := nomatch h
  mergeRaised _ _ _ _ h := nomatch h
  mergeSkipped _ _ _ _ _ h := nomatch h
  called _ _ htries hretries site earlier heq hreturned := by
    obtain ⟨rfl, rfl⟩ := Event.called.inj heq
    exact htries.not_retries rfl hreturned (hretries (List.ne_nil_of_mem hreturned))
  executorRaised _ _ _ h := nomatch h
  descendantRaised _ _ _ _ h := nomatch h
  handled _ _ _ _ _ _ h := nomatch h
  left _ _ _ _ _ h := nomatch h

/-- In every run in which no descendant raises into an activation with retries left, an executor
is not called again in an activation in which it has returned. -/
theorem called_once (fuel : Nat) (workflow : Workflow) (triggerData : Dict) (dryRun : Bool)
    (parentChain : List String) (trace : List Event) (outcome : Outcome Execution)
    (hrun : engine.Runs replies fuel workflow triggerData dryRun parentChain trace outcome)
    (hkeeps : ∀ site calls exc, .descendantRaised site calls exc ∈ trace →
      ¬ Retries site.workflow site.node calls.length) :
    ∀ site earlier, .called site earlier ∈ trace → .returned ∉ earlier := by
  have hall := (hrun.account (EventLaw.calls engine) trivial fun event hevent site calls exc heq =>
    hkeeps site calls exc (heq ▸ hevent)).1
  exact fun site earlier hcalled => hall _ hcalled site earlier rfl

end Calls

namespace Sample

/-- An action that returns and may be retried, followed by one that fails and stops the run. -/
def retried : Workflow where
  id := "retried"
  nodes := [trigger, action "write" "get" (some .retry) (some 2), action "check" "fail" none none]
  edges := [⟨"start", "write", none⟩, ⟨"write", "check", none⟩]

/-- The event is a call of an executor that has returned before. -/
def calledAgain : Event → Bool
  | .called _ earlier => earlier.contains .returned
  | _ => false

end Sample

/-- The action that has returned is called again, since the failure of the action after it is
raised into its activation. -/
theorem called_again : ∃ site earlier,
    .called site earlier ∈ ((Sample.engine []).played Sample.answer Sample.first 5 Sample.retried []
      false).1.trace ∧ .returned ∈ earlier := by
  have hagain : ((Sample.engine []).played Sample.answer Sample.first 5 Sample.retried []
      false).1.trace.any Sample.calledAgain = true := by decide +kernel
  obtain ⟨event, hevent, hcalled⟩ := List.any_eq_true.mp hagain
  cases event with
  | called site earlier => exact ⟨site, earlier, hevent, List.contains_iff_mem.mp hcalled⟩
  | _ => simp [Sample.calledAgain] at hcalled

namespace Sample

def failing : Workflow where
  id := "failing"
  nodes := [trigger, action "check" "fail" (some .retry) (some 2)]
  edges := [⟨"start", "check", none⟩]

def earlierCalls : Event → Option Nat
  | .called _ earlier => some earlier.length
  | _ => none

def descendant : Event → Bool
  | .descendantRaised .. => true
  | _ => false

end Sample

/-- The calls of an action that fails are repeated, and none of them has returned before. -/
theorem called_once_failing :
    ((Sample.engine []).played Sample.answer Sample.first 5 Sample.failing [] false).1.trace.filterMap
        Sample.earlierCalls = [0, 1, 2] ∧
      ∀ site earlier, .called site earlier ∈ ((Sample.engine []).played Sample.answer Sample.first 5
        Sample.failing [] false).1.trace → .returned ∉ earlier := by
  refine ⟨by decide +kernel, ?_⟩
  exact called_once 5 Sample.failing [] false [] _ _
    (WorkflowEngine.runs_played Sample.answer_any Sample.first [] false)
    fun _ _ _ hraised => absurd hraised (Sample.absent Sample.descendant (by decide +kernel) rfl)

/-! ## Merge nodes -/

section Merge

variable {engine : WorkflowEngine} {replies : (request : Request) → Reply request → Prop}

theorem EventLaw.merges (engine : WorkflowEngine) (site : Site) (hnot : ¬ site.Admitted) :
    EventLaw (everywhere engine) (fun event => ∀ exc, event ≠ .mergeRaised site exc)
      fun event => event ≠ .arrived site where
  started _ h := nomatch h
  depthExceeded _ h := nomatch h
  nestingRefused _ h := nomatch h
  arrived _ hgate heq := by
    obtain rfl := Event.arrived.inj heq
    rcases hgate with hadmitted | ⟨exc, hraised⟩
    · exact hnot hadmitted
    · exact hraised exc rfl
  mergeRaised _ _ h := nomatch h
  mergeSkipped _ _ _ h := nomatch h
  called _ _ _ _ h := nomatch h
  executorRaised _ h := nomatch h
  descendantRaised _ _ h := nomatch h
  handled _ _ _ _ h := nomatch h
  left _ _ _ h := nomatch h

/-- The event is a call or the end of an activation that was let through to the executor. -/
def Event.Executes (site : Site) : Event → Prop
  | .called site' _ => site' = site
  | .left site' _ _ _ _ => site' = site
  | _ => False

theorem EventLaw.executes (engine : WorkflowEngine) :
    EventLaw (everywhere engine) (fun _ => True) fun event =>
      ∀ site, event.Executes site → site.Admitted where
  started _ _ h := h.elim
  depthExceeded _ _ h := h.elim
  nestingRefused _ _ h := h.elim
  arrived _ _ _ h := h.elim
  mergeRaised _ _ _ h := h.elim
  mergeSkipped _ _ _ _ h := h.elim
  called _ hadmitted _ _ _ h := h ▸ hadmitted
  executorRaised _ _ h := h.elim
  descendantRaised _ _ _ h := h.elim
  handled _ _ _ _ _ h := h.elim
  left _ hadmitted _ _ h := h ▸ hadmitted

/-- In every run, the bookkeeping raises where a branch arrives at a merge node into which an edge
leads. The node is never executed, and so are none of its successors on its behalf. -/
theorem merge_raises (fuel : Nat) (workflow : Workflow) (triggerData : Dict) (dryRun : Bool)
    (parentChain : List String) (trace : List Event) (outcome : Outcome Execution)
    (hrun : engine.Runs replies fuel workflow triggerData dryRun parentChain trace outcome)
    (site : Site) (harrived : .arrived site ∈ trace) (htype : site.node.type = .merge)
    (hreached : site.workflow.graph.incoming site.node.id ≠ []) :
    (∃ exc, .mergeRaised site exc ∈ trace) ∧ ∀ event ∈ trace, ¬ event.Executes site := by
  have hnot : ¬ site.Admitted := fun h => hreached (h htype)
  refine ⟨by_contra fun hnone => ?_, fun event hevent hexecutes => ?_⟩
  · have hall := (hrun.account (EventLaw.merges engine site hnot) trivial
      fun event hevent exc heq => hnone ⟨exc, heq ▸ hevent⟩).1
    exact hall _ harrived rfl
  · have hall := (hrun.account (EventLaw.executes engine) trivial fun _ _ => trivial).1
    exact hnot (hall event hevent site hexecutes)

end Merge

namespace Sample

def diamond : Workflow where
  id := "diamond"
  nodes := [trigger, action "left" "get" none none, action "right" "get" none none,
    { id := "join", type := .merge }, action "after" "get" none none]
  edges := [⟨"start", "left", none⟩, ⟨"start", "right", none⟩, ⟨"left", "join", none⟩,
    ⟨"right", "join", none⟩, ⟨"join", "after", none⟩]

def joined : Event → Option Site
  | .arrived site => if site.node.type = .merge then some site else none
  | _ => none

def calledNode : Event → Option String
  | .called site _ => some site.node.id
  | _ => none

end Sample

/-- In the run of two branches that join, the bookkeeping raises. -/
theorem merge_raises_diamond : ∃ site exc,
    .mergeRaised site exc ∈ ((Sample.engine []).played Sample.answer Sample.first 5 Sample.diamond []
      false).1.trace := by
  have hjoined : (((Sample.engine []).played Sample.answer Sample.first 5 Sample.diamond []
      false).1.trace.findSome? fun event => (Sample.joined event).bind fun site =>
        if site.workflow.graph.incoming site.node.id ≠ [] then some site else none).isSome = true := by
    decide +kernel
  obtain ⟨site, hsite⟩ := Option.isSome_iff_exists.mp hjoined
  obtain ⟨event, hevent, hfound⟩ := List.exists_of_findSome?_eq_some hsite
  cases event with
  | arrived site' =>
      simp only [Sample.joined] at hfound
      split at hfound
      · next htype =>
        simp only [Option.bind_some, ne_eq, ite_not] at hfound
        split at hfound
        · simp at hfound
        · next hreached =>
          obtain ⟨exc, hraised⟩ := (merge_raises 5 Sample.diamond [] false [] _ _
            (WorkflowEngine.runs_played Sample.answer_any Sample.first [] false) site' hevent htype
            hreached).1
          exact ⟨site', exc, hraised⟩
      · simp at hfound
  | _ => simp [Sample.joined] at hfound

/-- The run of two branches that join fails, and the action after the merge node is not executed. -/
theorem merge_never_joins :
    let run := (Sample.engine []).played Sample.answer Sample.first 5 Sample.diamond [] false
    run.1.trace.filterMap Sample.calledNode = ["left"] ∧
      run.2.toOption.map Execution.status = some .failed ∧
      run.2.toOption.bind Execution.error = some "Node 'left' failed: unhashable type: 'dict'" := by
  decide +kernel

end IntegrationPlatform
