import IntegrationPlatform.Workflow.Failures

/-!
# Failures that stop an execution

A failure of a node without an error handler and without the strategies that go on fails the
whole execution, as long as every activation into which an exception of a descendant is raised
raises in its turn: `Reraises` is that condition.
-/

namespace IntegrationPlatform

open Resumption Eng WorkflowEngine

/-- A failure of the node is neither given to an error handler nor passed over. -/
structure Firm (workflow : Workflow) (node : Node) : Prop where
  handler : workflow.graph.findErrorHandler node.id = none
  carryOn : node.config.onError.getD workflow.onError ≠ .carryOn
  ignore : node.config.onError.getD workflow.onError ≠ .ignore

/-- An exception that is raised on this chain into an activation from outside its executor is
raised further: the node is firm and has no retries left. -/
def Event.Reraises (chain : List String) : Event → Prop
  | .descendantRaised site calls _ => site.chain = chain →
      Firm site.workflow site.node ∧ ¬ Retries site.workflow site.node calls.length
  | _ => True

/-- On this chain, only nodes other than parallel and batch nodes are visited. -/
def Event.Sequential (chain : List String) : Event → Prop
  | .arrived site => site.chain = chain → site.node.type ≠ .parallel ∧ site.node.type ≠ .batch
  | _ => True

/-- The event is a failure on this chain that is to stop the execution: the calls of a firm node
only raised, or the bookkeeping of a merge node raised. -/
def Event.MustStop (chain : List String) : Event → Prop
  | .left site _ _ activation _ =>
      site.chain = chain ∧ OnlyRaised activation.calls ∧ Firm site.workflow site.node
  | .mergeRaised site _ => site.chain = chain
  | _ => False

/-- No failure of a history was to stop the execution. -/
def GoesOn (chain : List String) (thread : Thread) : Prop :=
  ∀ event ∈ thread.trace, ¬ event.MustStop chain

/-- The conditions under which a failure that is to stop the execution stops it. -/
def Steady (chain : List String) (thread : Thread) : Prop :=
  ∀ event ∈ thread.trace, event.Reraises chain ∧ event.Sequential chain

/-! ## Histories -/

section Histories

variable {chain : List String} {thread thread' : Thread} {events : List Event}

theorem GoesOn.of_trace (h : GoesOn chain thread) (htrace : thread'.trace = thread.trace) :
    GoesOn chain thread' := by
  unfold GoesOn at *
  rwa [htrace]

theorem GoesOn.log (h : GoesOn chain thread) (hevents : ∀ event ∈ events, ¬ event.MustStop chain) :
    GoesOn chain (thread.log events) :=
  fun event hevent => (List.mem_append.mp hevent).elim (h event) (hevents event)

theorem GoesOn.event {event : Event} (h : GoesOn chain thread) (hevent : ¬ event.MustStop chain) :
    GoesOn chain (thread.log [event]) :=
  h.log fun _ hmem => List.mem_singleton.mp hmem ▸ hevent

theorem Event.MustStop.chain_eq {event : Event} (h : event.MustStop chain) : event.chain = chain := by
  cases event with
  | left site before after activation ended => exact h.1
  | mergeRaised site exc => exact h
  | _ => exact h.elim

end Histories

/-! ## Activations -/

/-- What the nested activations have to satisfy: if they return, no failure was to stop the
execution. -/
structure Stopping (V : VisitRel) (chain : List String) : Prop where
  frame : ∀ {w n d t t' o}, V w n d t t' o → Frame t t'
  visits : ∀ {w n d t t'}, V w n d t t' (.ok ()) → t.ctx.workflowChain = chain → Steady chain t' →
    GoesOn chain t → GoesOn chain t'
  children : ∀ {child ctx t' o}, FromTrigger V child ⟨ctx, []⟩ t' o →
    ∀ event ∈ t'.trace, ctx.workflowChain <+: event.chain

section Activation

variable {V : VisitRel} {engine : WorkflowEngine} {chain : List String} {workflow : Workflow}
  {node : Node} {depth : Nat} {nodes : List Node} {thread thread' : Thread}
  {activation first : Activation} (hV : Stopping V chain)
include hV

theorem Each.goesOn (h : Each V workflow depth nodes thread thread' (.ok ()))
    (hchain : thread.ctx.workflowChain = chain) (hsteady : Steady chain thread')
    (hgoes : GoesOn chain thread) : GoesOn chain thread' := by
  generalize houtcome : (.ok () : Outcome Unit) = outcome at h
  induction h with
  | nil thread => exact hgoes
  | cons hvisit hrest ih =>
      have hmid := hV.visits hvisit hchain ((hrest.frame hV.frame).before hsteady) hgoes
      exact ih ((hV.frame hvisit).workflowChain.trans hchain) hsteady hmid houtcome
  | stop _ => exact nomatch houtcome

theorem Traversal.goesOn (h : Traversal V workflow depth nodes thread thread' (.ok ()))
    (hchain : thread.ctx.workflowChain = chain) (hsteady : Steady chain thread')
    (hgoes : GoesOn chain thread) : GoesOn chain thread' := by
  cases h with
  | each _ heach => exact heach.goesOn hV hchain hsteady hgoes

/-- An executor that returns passes over no failure, and one that raises does so only in a firm
node without retries. -/
theorem Inside.goesOn {outcome : Outcome Unit}
    (h : Inside V engine workflow node depth thread thread' outcome)
    (hchain : thread.ctx.workflowChain = chain) (hparallel : node.type ≠ .parallel)
    (hbatch : node.type ≠ .batch) (hends : endless? outcome = none) (hsteady : Steady chain thread')
    (hgoes : GoesOn chain thread) :
    GoesOn chain thread' ∨
      outcome ≠ .ok () ∧ Firm workflow node ∧ ¬ Retries workflow node 0 := by
  induction h with
  | edit hedits => exact .inl (hgoes.of_trace hedits.trace)
  | raises exc hedits => exact .inl (hgoes.of_trace hedits.trace)
  | blocks htype _ => exact absurd htype hbatch
  | @body _ _ ended _ hbody =>
      rcases ended with stop | exc | value
      · have hstop : endless? (.error stop) = some stop := endless?_eq_some.mpr ⟨rfl, hbody.1⟩
        exact absurd (hstop.symm.trans hends) (by simp)
      · obtain ⟨mid, hmid, rfl⟩ := hbody
        have hraised := (hsteady _ (List.mem_append_right _ (List.mem_singleton_self _))).1
        obtain ⟨hfirm, hretries⟩ := hraised ((hmid.frame hV.frame).workflowChain.trans hchain)
        exact .inr ⟨by simp [rethrown], hfirm, hretries⟩
      · exact .inl (Traversal.goesOn hV hbody hchain hsteady hgoes)
  | join htype _ _ => exact (htype.elim hparallel hbatch).elim
  | joinStops htype _ _ _ => exact (htype.elim hparallel hbatch).elim
  | refused thread workflowId message _ => exact .inl (hgoes.event id)
  | @child thread child _ ended _ _ _ _ _ hrun =>
      refine .inl (hgoes.log fun event hevent hstop => ?_)
      have hlength := (hV.children hrun event hevent).length_le
      rw [Event.MustStop.chain_eq hstop] at hlength
      simp [initialContext, hchain] at hlength
  | trans hfirst hrest ih ih' =>
      rcases ih hchain rfl ((hrest.frame hV.frame).before hsteady) hgoes with hmid | ⟨hne, _⟩
      · exact ih' ((hfirst.frame hV.frame).workflowChain.trans hchain) hends hsteady hmid
      · exact absurd rfl hne

/-- After the failed attempts, either no failure was passed over and no call returned, or the
node is firm and has no retries left. -/
theorem Attempts.goesOn (h : Attempts V engine workflow node depth first thread activation thread')
    (hchain : thread.ctx.workflowChain = chain) (hparallel : node.type ≠ .parallel)
    (hbatch : node.type ≠ .batch) (hfirst : first.calls = []) (hsteady : Steady chain thread')
    (hgoes : GoesOn chain thread) :
    (GoesOn chain thread' ∧ .returned ∉ activation.calls) ∨
      (activation.calls ≠ [] ∧ Firm workflow node ∧
        ¬ Retries workflow node activation.calls.length) := by
  induction h with
  | none => exact .inl ⟨hgoes, by simp [hfirst]⟩
  | @raised before mid last exc hattempts hcalls ih =>
      have hmid := (hattempts.frame hV.frame).workflowChain.trans hchain
      have hlast : Steady chain last := (Frame.log _ _).before hsteady
      rcases ih ((hcalls.frame hV.frame).before hlast) with ⟨hbefore, hreturned⟩ | ⟨hne, _, hretries⟩
      · have hcalled : GoesOn chain (mid.log [.called (mid.site workflow node depth) before.calls]) :=
          hbefore.event id
        rcases hcalls.executes.1.goesOn hV hmid hparallel hbatch rfl hlast hcalled with
          hdone | ⟨_, hfirm, hretries⟩
        · exact .inl ⟨hdone.event id, by simp [Activation.call, hreturned]⟩
        · exact .inr ⟨by simp [Activation.call], hfirm, fun h => hretries (h.of_le (Nat.zero_le _))⟩
      · exact absurd (hcalls.retries hne) hretries
  | @descendant before mid after last exc hattempts hproceeds _ =>
      have hmid := (hattempts.frame hV.frame).workflowChain.trans hchain
      obtain ⟨called, start, _, _, hcalls, hedits, _, _, rfl, raised, hraised, rfl⟩ := hproceeds
      have hstart := hedits.workflowChain.trans ((hcalls.frame hV.frame).workflowChain.trans hmid)
      obtain ⟨hfirm, hretries⟩ :=
        (hsteady _ (List.mem_append_right _ (List.mem_singleton_self _))).1
          ((hraised.frame hV.frame).workflowChain.trans hstart)
      exact .inr ⟨by simp [Activation.append, Activation.call], hfirm, hretries⟩

theorem Calls.goesOn {mid : Thread} {told : NodeOutcome}
    (hattempts : Attempts V engine workflow node depth first thread activation mid)
    (h : Calls V engine workflow node depth activation mid thread' (.ok told))
    (hchain : thread.ctx.workflowChain = chain) (hparallel : node.type ≠ .parallel)
    (hbatch : node.type ≠ .batch) (hfirst : first.calls = []) (hsteady : Steady chain thread')
    (hgoes : GoesOn chain thread) : GoesOn chain thread' := by
  have hmid := (hattempts.frame hV.frame).workflowChain.trans hchain
  rcases hattempts.goesOn hV hchain hparallel hbatch hfirst ((h.frame hV.frame).before hsteady)
    hgoes with ⟨hbefore, _⟩ | ⟨hne, _, hretries⟩
  · have hcalled : GoesOn chain (mid.log [.called (mid.site workflow node depth) activation.calls]) :=
      hbefore.event id
    rcases h.executes.1.goesOn hV hmid hparallel hbatch rfl hsteady hcalled with hdone | ⟨hne, _⟩
    · exact hdone
    · exact absurd rfl hne
  · exact absurd (h.retries hne) hretries

/-- The end of an `except` clause that does not raise passes over no failure, and the node is not
firm. -/
theorem GivesUp.goesOn {activation' : Activation}
    (h : GivesUp V workflow node depth activation thread thread' (.ok (activation', .ok ())))
    (hchain : thread.ctx.workflowChain = chain) (hsteady : Steady chain thread') :
    (GoesOn chain thread → GoesOn chain thread') ∧ ¬ Firm workflow node := by
  have hsettled : ∀ {entry : Entry} {outcome : Outcome Unit},
      .ok (activation', .ok ()) = settled (activation.append thread entry) outcome →
        outcome = .ok () := by
    intro entry outcome hresult
    rcases outcome with (exc | _ | _) | _
    · exact absurd (Prod.mk.inj (Except.ok.inj hresult)).2 (by simp)
    · exact nomatch hresult
    · exact nomatch hresult
    · rfl
  generalize hresult : (.ok (activation', .ok ()) : Outcome (Activation × Except Exc Unit)) =
    result at h
  cases h with
  | handler _ hhandler hvisit =>
      obtain rfl := hsettled hresult
      refine ⟨fun hgoes => ?_, fun hfirm => absurd (hhandler.symm.trans hfirm.handler) (by simp)⟩
      exact hV.visits hvisit hchain hsteady (GoesOn.event (hgoes.of_trace rfl) id)
  | carryOn _ _ hcarry htraversal =>
      obtain rfl := hsettled hresult
      refine ⟨fun hgoes => ?_, fun hfirm => hfirm.carryOn hcarry⟩
      exact htraversal.goesOn hV hchain hsteady (hgoes.of_trace rfl)
  | ignore _ _ hignore => exact ⟨fun hgoes => hgoes.of_trace rfl, fun hfirm => hfirm.ignore hignore⟩
  | raises message _ _ _ _ => exact absurd (Prod.mk.inj (Except.ok.inj hresult)).2 (by simp)

/-- The body of an activation that returns passes over no failure, and is no such failure. -/
theorem Body.goesOn
    (h : Body V engine workflow node depth first thread thread' (.ok (activation, .ok ())))
    (hchain : thread.ctx.workflowChain = chain) (hparallel : node.type ≠ .parallel)
    (hbatch : node.type ≠ .batch) (hfirst : first.calls = []) (hsteady : Steady chain thread')
    (hgoes : GoesOn chain thread) :
    GoesOn chain thread' ∧ ¬ (OnlyRaised activation.calls ∧ Firm workflow node) := by
  generalize hresult : (.ok (activation, .ok ()) : Outcome (Activation × Except Exc Unit)) =
    result at h
  cases h with
  | stops _ _ _ => exact nomatch hresult
  | @ends before mid last start told entry hattempts hcalls _ hedits _ =>
      obtain ⟨rfl, -⟩ := Prod.mk.inj (Except.ok.inj hresult)
      have hlast : Steady chain last := (hedits.frame.trans (.append _ _ _)).before hsteady
      have hdone := hcalls.goesOn hV hattempts hchain hparallel hbatch hfirst hlast hgoes
      refine ⟨(hdone.of_trace hedits.trace).of_trace rfl, fun honly => honly.1.1 ?_⟩
      simp [Activation.append, Activation.call]
  | @proceeds before mid after _ ended hattempts hproceeds _ =>
      obtain ⟨rfl, rfl⟩ : ended = .ok (.ok ()) ∧ activation = after := by
        rcases ended with (exc | _ | _) | (exc | _) <;> simp_all [settled, rethrown]
      obtain ⟨called, start, _, entry, hcalls, hedits, _, _, rfl, htraverses⟩ := hproceeds
      have hafter := Traversal.frame hV.frame htraverses
      have hlast : Steady chain called := ((hedits.frame.trans (.append _ _ _)).trans hafter).before hsteady
      have hdone := hcalls.goesOn hV hattempts hchain hparallel hbatch hfirst hlast hgoes
      have hcalled := (hattempts.frame hV.frame).trans (hcalls.frame hV.frame)
      have hstart := hedits.workflowChain.trans (hcalled.workflowChain.trans hchain)
      refine ⟨Traversal.goesOn hV htraverses hstart hsteady (hdone.of_trace hedits.trace),
        fun honly => honly.1.1 ?_⟩
      simp [Activation.append, Activation.call]
  | givesUp hattempts hne hgives =>
      subst hresult
      have hmid := (hattempts.frame hV.frame).workflowChain.trans hchain
      obtain ⟨hpasses, hfirm⟩ := hgives.goesOn hV hmid hsteady
      rcases hattempts.goesOn hV hchain hparallel hbatch hfirst
        ((hgives.frame hV.frame).before hsteady) hgoes with ⟨hbefore, _⟩ | ⟨_, hfirm', _⟩
      · exact ⟨hpasses hbefore, fun honly => hfirm honly.2⟩
      · exact absurd hfirm' hfirm

theorem Activates.goesOn
    (h : Activates V engine workflow node depth thread thread' (.ok ()))
    (hchain : thread.ctx.workflowChain = chain) (hsteady : Steady chain thread')
    (hgoes : GoesOn chain thread) : GoesOn chain thread' := by
  have harrived : ∀ {last : Thread}, Frame (thread.log [.arrived (thread.site workflow node depth)])
      last → Steady chain last → node.type ≠ .parallel ∧ node.type ≠ .batch := fun hframe hlast =>
    (hframe.before hlast _ (List.mem_append_right _ (List.mem_singleton_self _))).2 hchain
  generalize houtcome : (.ok () : Outcome Unit) = outcome at h
  cases h with
  | mergeRaised message _ => exact nomatch houtcome
  | mergeSkipped _ _ => exact (hgoes.event id).event id
  | stops _ _ => exact nomatch houtcome
  | @left last activation ended _ hbody =>
      obtain rfl : ended = .ok () := by
        rcases ended with exc | value <;> simp_all [exitOf]
      have hlast : Steady chain last := (Frame.log _ _).before hsteady
      obtain ⟨hparallel, hbatch⟩ := harrived (hbody.frame hV.frame) hlast
      obtain ⟨hdone, hnot⟩ := hbody.goesOn hV hchain hparallel hbatch rfl hlast (hgoes.event id)
      exact hdone.event fun hstop => hnot hstop.2

end Activation

/-! ## Runs -/

section Runs

variable {engine : WorkflowEngine} {replies : (request : Request) → Reply request → Prop}

theorem behaviour_stopping (engine : WorkflowEngine)
    (replies : (request : Request) → Reply request → Prop) (chain : List String) (fuel : Nat) :
    Stopping (engine.Behaviour replies fuel) chain := by
  refine ⟨behaviour_frame, ?_, FromTrigger.chain⟩
  induction fuel with
  | zero =>
      intro w n d t t' h
      exact nomatch (behaviour_zero h).2
  | succ fuel ih =>
      intro w n d t t' h hchain hsteady hgoes
      have hV : Stopping (engine.Behaviour replies fuel) chain :=
        ⟨behaviour_frame, ih, FromTrigger.chain⟩
      exact (behaviour_succ h).goesOn hV hchain hsteady hgoes

/-- The sites of an execution are nodes of its workflow. -/
def executing (engine : WorkflowEngine) (chain : List String) (workflow : Workflow) :
    Region engine where
  place chain' workflow' := chain <+: chain' ∧ (chain' = chain → workflow' = workflow)
  here site := (chain <+: site.chain ∧ (site.chain = chain → site.workflow = workflow)) ∧
    site.node ∈ site.workflow.graph.nodes
  rank _ := ⊤
  placed h := h.1
  enters h henters := by
    cases henters with
    | intro _ hmem => exact ⟨h, (WorkflowGraph.mem_getSuccessors hmem).1⟩
  starts h hstarts := ⟨⟨h.1, hstarts.mem⟩, le_top⟩
  nests h _ := by
    refine ⟨⟨h.1.1.trans (List.prefix_append _ _), fun heq => ?_⟩, fun _ => le_top⟩
    have hlength := h.1.1.length_le
    have heq' := congrArg List.length heq
    simp only [List.length_append, List.length_singleton] at heq'
    omega

/-- In every execution of a workflow without parallel and batch nodes in which every activation
into which an exception of a descendant is raised is one of a firm node without retries left: if
the execution succeeds, then no firm node had a visit in which its calls only raised, and the
bookkeeping of no merge node raised. -/
theorem stop_means_stop (fuel : Nat) (workflow : Workflow)
    (hsequential : ∀ node ∈ workflow.graph.nodes, node.type ≠ .parallel ∧ node.type ≠ .batch)
    (triggerData : Dict) (dryRun : Bool) (parentChain : List String) (trace : List Event)
    (execution : Execution)
    (hrun : engine.Runs replies fuel workflow triggerData dryRun parentChain trace (.ok execution))
    (hreraises : ∀ event ∈ trace, event.Reraises (parentChain ++ [workflow.id]))
    (hsuccess : execution.status = .success) :
    ∀ event ∈ trace, ¬ event.MustStop (parentChain ++ [workflow.id]) := by
  have harrival := (hrun.account (EventLaw.arrival (executing engine (parentChain ++ [workflow.id])
    workflow) fun _ => True) ⟨List.prefix_refl _, fun _ => rfl⟩ fun _ _ => trivial).1
  have hsteady : ∀ event ∈ trace, event.Reraises (parentChain ++ [workflow.id]) ∧
      event.Sequential (parentChain ++ [workflow.id]) := by
    intro event hevent
    refine ⟨hreraises event hevent, ?_⟩
    cases event with
    | arrived site =>
        intro hchain
        obtain ⟨⟨_, hworkflow⟩, hmem⟩ := harrival _ hevent site rfl
        exact hsequential _ (hworkflow hchain ▸ hmem)
    | _ => trivial
  obtain ⟨id, ⟨thread', outcome⟩, hended, rfl, hfinished⟩ := hrun.fromTrigger
  obtain rfl : outcome = .ok () := by
    rcases outcome with (exc | _ | _) | _ <;> simp_all [finished]
  have hV := behaviour_stopping engine replies (parentChain ++ [workflow.id]) fuel
  cases hended with
  | run _ hedits _ _ htraversal =>
      refine htraversal.goesOn hV hedits.workflowChain hsteady fun event hevent hstop => ?_
      have htrace := hedits.trace
      simp only [Thread.mapResults_trace, htrace, Thread.log_trace, List.nil_append,
        List.mem_singleton] at hevent
      subst hevent
      exact hstop

end Runs

namespace Sample

/-- An action that returns and whose errors are ignored, followed by one that fails and is to stop
the run. -/
def covered : Workflow where
  id := "covered"
  nodes := [trigger, action "fetch" "get" (some .ignore) none, action "check" "fail" none none]
  edges := [⟨"start", "fetch", none⟩, ⟨"fetch", "check", none⟩]

def ignored : Workflow where
  id := "ignored"
  nodes := [trigger, action "check" "fail" (some .ignore) none]
  edges := [⟨"start", "check", none⟩]

/-- The event is the end of an activation whose one call raised, in a node that is to stop the
execution of this workflow. -/
def stopped (workflowId : String) : Event → Bool
  | .left site _ _ activation _ =>
      decide (site.chain = [workflowId]) && decide (activation.calls = [.raised]) &&
        (site.workflow.graph.findErrorHandler site.node.id).isNone && decide (site.onError = .stop)
  | _ => false

theorem mustStop {workflowId : String} {event : Event} (h : stopped workflowId event = true) :
    event.MustStop [workflowId] := by
  cases event with
  | left site before after activation ended =>
      simp only [stopped, Bool.and_eq_true, decide_eq_true_eq, Option.isNone_iff_eq_none] at h
      obtain ⟨⟨⟨hchain, hcalls⟩, hhandler⟩, hstop⟩ := h
      refine ⟨hchain, by simp [OnlyRaised, hcalls], hhandler, ?_, ?_⟩
      · simp [Site.onError] at hstop
        simp [hstop]
      · simp [Site.onError] at hstop
        simp [hstop]
  | _ => simp [stopped] at h

end Sample

/-- The failure of the second action, which is to stop the execution, is covered by the first
action, whose own errors are ignored: the execution succeeds. -/
theorem stop_covered :
    (Sample.ended Sample.covered).map Execution.status = some .success ∧
      ∃ event ∈ ((Sample.engine []).played Sample.answer Sample.first 5 Sample.covered []
        false).1.trace, event.MustStop ["covered"] := by
  refine ⟨by decide +kernel, ?_⟩
  have hstopped : ((Sample.engine []).played Sample.answer Sample.first 5 Sample.covered []
      false).1.trace.any (Sample.stopped "covered") = true := by decide +kernel
  obtain ⟨event, hevent, hstop⟩ := List.any_eq_true.mp hstopped
  exact ⟨event, hevent, Sample.mustStop hstop⟩

/-- The failure of an action that is ignored was not to stop the execution. -/
theorem stop_means_stop_ignored :
    (Sample.ended Sample.ignored).map Execution.status = some .success ∧
      ∀ event ∈ ((Sample.engine []).played Sample.answer Sample.first 5 Sample.ignored []
        false).1.trace, ¬ event.MustStop ["ignored"] := by
  have hended : (Sample.ended Sample.ignored).map Execution.status = some .success := by
    decide +kernel
  refine ⟨hended, ?_⟩
  have hrun : (Sample.engine []).Runs anyReply 5 Sample.ignored [] false [] _ _ :=
    WorkflowEngine.runs_played Sample.answer_any Sample.first [] false
  cases houtcome : ((Sample.engine []).played Sample.answer Sample.first 5 Sample.ignored []
      false).2 with
  | error stop => simp [Sample.ended, houtcome, Except.toOption] at hended
  | ok execution =>
      rw [houtcome] at hrun
      refine stop_means_stop 5 Sample.ignored (by decide +kernel) [] false [] _ execution hrun
        (fun event hevent => ?_) (by simpa [Sample.ended, houtcome, Except.toOption] using hended)
      cases event with
      | descendantRaised site calls exc =>
          exact absurd hevent (Sample.absent Sample.descendant (by decide +kernel) rfl)
      | _ => trivial

end IntegrationPlatform
