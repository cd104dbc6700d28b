import IntegrationPlatform.Graphs.Reachability
import IntegrationPlatform.Workflow.Nesting

/-!
# Where activations come from

A run stays among the stored workflows of the tenant (`tenant_confined`), and each activation is at the end of
a path of links from a successor of the trigger, with as many links as the activation is deep
(`activations_linked`). In workflows whose links have no cycle a run therefore ends on its own (`acyclic_ends`).
-/

namespace IntegrationPlatform

open Resumption WorkflowEngine Relation

/-! ## Links -/

/-- A node can start another one: along an edge, as the body of a batch, or as its error handler. -/
inductive Workflow.Links (workflow : Workflow) (node : Node) : Node → Prop where
  | successor {node'} (handle : Value) : node' ∈ workflow.graph.getSuccessors node.id handle →
      Links workflow node node'
  | item {node'} : node.type = .batch → node' ∈ batchBody workflow node → Links workflow node node'
  | handler {node'} : workflow.graph.findErrorHandler node.id = some node' → Links workflow node node'

/-- The node is a successor of the trigger node. -/
def Workflow.Entry (workflow : Workflow) (node : Node) : Prop :=
  ∃ trigger, workflow.graph.findTrigger = some trigger ∧
    node ∈ workflow.graph.getSuccessors trigger.id .null

/-- A path of so many links leads from a successor of the trigger node to this one. -/
def Workflow.Linked (workflow : Workflow) (length : Nat) (node : Node) : Prop :=
  Walk workflow.Links workflow.Entry length node

/-- No node can start itself, on whatever way. -/
def Workflow.Acyclic (workflow : Workflow) : Prop :=
  ∀ node, ¬ TransGen workflow.Links node node

/-- The event is the start of an activation, or a call of its executor. -/
inductive Event.IsAt : Event → Site → Prop where
  | arrived (site) : IsAt (.arrived site) site
  | called (site calls) : IsAt (.called site calls) site

variable {engine : WorkflowEngine} {replies : (request : Request) → Reply request → Prop}
  {workflow : Workflow} {site : Site} {node : Node} {length fuel : Nat} {tenantId : String}

theorem Site.Starts.links (h : site.Starts node) : site.workflow.Links site.node node := by
  cases h with
  | successor handle hmem _ => exact .successor handle hmem
  | item htype hmem _ => exact .item htype hmem
  | branch _ hmem => exact .successor _ hmem
  | handler hhandler => exact .handler hhandler

theorem Enters.linked {chain : List String} (h : Enters chain workflow site) :
    site.workflow.Linked site.depth site.node := by
  cases h with
  | intro htrigger hmem => exact .start ⟨_, htrigger, hmem⟩

theorem Workflow.Links.mem_nodes {node' : Node} (h : workflow.Links node node') :
    node' ∈ workflow.graph.nodes := by
  cases h with
  | successor handle hmem => exact (WorkflowGraph.mem_getSuccessors hmem).1
  | item _ hmem => exact mem_batchBody hmem
  | handler hhandler => exact (WorkflowGraph.findErrorHandler_spec hhandler).1

theorem Workflow.Linked.mem_nodes (h : workflow.Linked length node) : node ∈ workflow.graph.nodes := by
  cases h with
  | start hentry =>
      obtain ⟨trigger, -, hmem⟩ := hentry
      exact (WorkflowGraph.mem_getSuccessors hmem).1
  | step _ hlink => exact hlink.mem_nodes

theorem Workflow.Acyclic.linked_lt (hacyclic : workflow.Acyclic) (h : workflow.Linked length node) :
    length < workflow.graph.nodes.length :=
  Walk.lt_length hacyclic (fun _ _ hleads => Workflow.Linked.mem_nodes hleads) h

theorem EventLaw.isAt (region : Region engine) (cond : Event → Prop) :
    EventLaw region cond fun event => ∀ site, event.IsAt site → region.here site where
  started _ _ h := nomatch h
  depthExceeded _ _ h := nomatch h
  nestingRefused _ _ h := nomatch h
  arrived hhere _ _ h := by cases h; exact hhere
  mergeRaised _ _ _ h := nomatch h
  mergeSkipped _ _ _ _ h := nomatch h
  called hhere _ _ _ _ h := by cases h; exact hhere
  executorRaised _ _ h := nomatch h
  descendantRaised _ _ _ h := nomatch h
  handled _ _ _ _ _ h := nomatch h
  left _ _ _ _ h := nomatch h

/-! ## The tenant of a run -/

/-- The stored workflows of a tenant, and everything in them. -/
def tenantRegion (engine : WorkflowEngine) (tenantId : String) : Region engine where
  place _ workflow := workflow ∈ engine.workflows ∧ workflow.tenantId = tenantId
  here site := site.workflow ∈ engine.workflows ∧ site.workflow.tenantId = tenantId
  rank _ := ⊤
  placed h := h
  enters h henters := by cases henters; exact h
  starts h _ := ⟨h, le_top⟩
  nests h hnests := ⟨⟨hnests.stored, hnests.tenant.trans h.2⟩, fun _ => le_top⟩

/-- Whatever happens in a run of a stored workflow, or in a re-run, happens in a stored workflow of the same
tenant, whichever sub-workflows it starts. -/
theorem tenant_confined (hstored : workflow ∈ engine.workflows) (fuel : Nat) (triggerData : Dict)
    (dryRun : Bool) (original : Execution) (fromNodeId : String) (overrideData : Dict) (trace : List Event)
    (outcome : Outcome Execution)
    (hrun : engine.Runs replies fuel workflow triggerData dryRun [] trace outcome ∨
      engine.Reruns replies fuel workflow original fromNodeId overrideData trace outcome) :
    ∀ event ∈ trace, event.workflow ∈ engine.workflows ∧ event.workflow.tenantId = workflow.tenantId := by
  have hlaw := EventLaw.place (tenantRegion engine workflow.tenantId) fun _ => True
  rcases hrun with hrun | hrun
  · exact (hrun.account hlaw ⟨hstored, rfl⟩ fun _ _ => trivial).1
  · exact hrun.account hlaw (fun _ _ => ⟨hstored, rfl⟩) fun _ _ => trivial

theorem tenant_confined_circular :
    (Sample.circular.played Sample.answer Sample.first 5
        (Sample.single "order" (Sample.subWorkflow "ship" "shipment")) [] false).1.trace ≠ [] ∧
      ∀ event ∈ (Sample.circular.played Sample.answer Sample.first 5
          (Sample.single "order" (Sample.subWorkflow "ship" "shipment")) [] false).1.trace,
        event.workflow ∈ Sample.circular.workflows ∧ event.workflow.tenantId = "" :=
  ⟨by decide +kernel,
    tenant_confined List.mem_cons_self 5 [] false ⟨"", "", [], .success, none, none, [], none⟩ "" [] _ _
      (.inl (WorkflowEngine.runs_played Sample.answer_any Sample.first [] false))⟩

/-! ## The path to an activation -/

/-- Everything that links from the successors of the trigger of a workflow lead to. -/
def linkedRegion (engine : WorkflowEngine) : Region engine where
  place _ _ := True
  here site := site.workflow.Linked site.depth site.node
  rank _ := ⊤
  placed _ := trivial
  enters _ henters := henters.linked
  starts h hstarts := ⟨h.step hstarts.links, le_top⟩
  nests _ _ := ⟨trivial, fun _ => le_top⟩

/-- In every run, each activation, and each call of an executor, is of a node at the end of a path of links
from a successor of the trigger of its workflow, and the path has as many links as the activation is deep. -/
theorem activations_linked (engine : WorkflowEngine)
    (replies : (request : Request) → Reply request → Prop) (fuel : Nat) (workflow : Workflow)
    (triggerData : Dict) (dryRun : Bool) (trace : List Event) (outcome : Outcome Execution)
    (hrun : engine.Runs replies fuel workflow triggerData dryRun [] trace outcome) :
    ∀ event ∈ trace, ∀ site, event.IsAt site → site.workflow.Linked site.depth site.node :=
  (hrun.account (EventLaw.isAt (linkedRegion engine) fun _ => True) trivial fun _ _ => trivial).1

theorem activations_linked_circular :
    (Sample.circular.played Sample.answer Sample.first 5
        (Sample.single "order" (Sample.subWorkflow "ship" "shipment")) [] false).1.trace ≠ [] ∧
      ∀ event ∈ (Sample.circular.played Sample.answer Sample.first 5
          (Sample.single "order" (Sample.subWorkflow "ship" "shipment")) [] false).1.trace,
        ∀ site, event.IsAt site → site.workflow.Linked site.depth site.node :=
  ⟨by decide +kernel,
    activations_linked Sample.circular anyReply 5 _ [] false _ _
      (WorkflowEngine.runs_played Sample.answer_any Sample.first [] false)⟩

/-! ## Runs without cycles -/

/-- A workflow without cycles that has so many nodes at most. -/
structure Workflow.Small (size : Nat) (workflow : Workflow) : Prop where
  acyclic : workflow.Acyclic
  length_le : workflow.graph.nodes.length ≤ size

/-- How many activations can still be nested in one at this site, if every workflow of the tenant is small. -/
def linkRank (engine : WorkflowEngine) (tenantId : String) (size : Nat) (site : Site) : Nat :=
  ((engine.tenantIds tenantId).length - site.chain.length) * (size + 1) + (size - site.depth)

theorem linkRank_below {size : Nat} {site : Site} {node : Node} (hsmall : site.workflow.Small size)
    (hlinked : site.workflow.Linked (site.depth + 1) node) :
    linkRank engine tenantId size (site.below node) + 1 ≤ linkRank engine tenantId size site := by
  have hdepth := (hsmall.acyclic.linked_lt hlinked).trans_le hsmall.length_le
  simp only [linkRank, Site.below]
  omega

theorem linkRank_enters {size : Nat} {site site' : Site} {child : Workflow}
    (hchild : Nesting engine tenantId (site.chain ++ [child.id]) child)
    (henters : Enters (site.chain ++ [child.id]) child site') :
    linkRank engine tenantId size site' + 1 ≤ linkRank engine tenantId size site := by
  have hlength := hchild.length_le
  rw [List.length_append, List.length_singleton] at hlength
  cases henters
  obtain ⟨rest, hrest⟩ := Nat.exists_eq_add_of_le hlength
  have hleft : (engine.tenantIds tenantId).length - site.chain.length = rest + 1 := by omega
  have hthen : (engine.tenantIds tenantId).length - (site.chain.length + 1) = rest := by omega
  simp only [linkRank, List.length_append, List.length_singleton, hleft, hthen, Nat.succ_mul rest]
  omega

/-- The small workflows of a tenant, and what links from the successors of their triggers lead to. -/
def smallRegion (engine : WorkflowEngine) (tenantId : String) (size : Nat)
    (hsmall : ∀ workflow ∈ engine.workflows, workflow.tenantId = tenantId → workflow.Small size) :
    Region engine where
  place chain workflow := Nesting engine tenantId chain workflow ∧ workflow.Small size
  here site := (Nesting engine tenantId site.chain site.workflow ∧ site.workflow.Small size) ∧
    site.workflow.Linked site.depth site.node
  rank site := linkRank engine tenantId size site
  placed h := h.1
  enters h henters := by
    have hlinked := henters.linked
    cases henters
    exact ⟨h, hlinked⟩
  starts {site node} h hstarts := by
    have hbelow : site.workflow.Linked (site.depth + 1) node := h.2.step hstarts.links
    refine ⟨⟨h.1, hbelow⟩, ?_⟩
    rw [← Nat.cast_one, ← Nat.cast_add, Nat.cast_le]
    exact linkRank_below h.1.2 hbelow
  nests {site child} h hnests := by
    have hchild := h.1.1.child hnests
    refine ⟨⟨hchild, hsmall child hnests.stored hchild.tenant⟩, fun henters => ?_⟩
    rw [← Nat.cast_one, ← Nat.cast_add, Nat.cast_le]
    exact linkRank_enters hchild henters

/-- If the links of the tenant's workflows have no cycle, then in every run activations are nested less deep
than a workflow has nodes, and enough fuel for that in each workflow is never used up: the run ends, whatever
it is answered. -/
theorem acyclic_ends (hstored : workflow ∈ engine.workflows) (size : Nat)
    (hsmall : ∀ other ∈ engine.workflows, other.tenantId = workflow.tenantId → other.Small size)
    (fuel : Nat) (triggerData : Dict) (dryRun : Bool) (trace : List Event) (outcome : Outcome Execution)
    (hrun : engine.Runs replies fuel workflow triggerData dryRun [] trace outcome) :
    (∀ event ∈ trace, ∀ site, event.IsAt site → site.depth < site.workflow.graph.nodes.length) ∧
      ((engine.tenantIds workflow.tenantId).length * (size + 1) ≤ fuel → outcome ≠ .error .outOfFuel) := by
  have hplace := Nesting.single hstored
  have hlaw := EventLaw.isAt (smallRegion engine workflow.tenantId size hsmall) fun _ => True
  obtain ⟨hall, hfuel⟩ := hrun.account hlaw ⟨hplace, hsmall workflow hstored rfl⟩ fun _ _ => trivial
  refine ⟨fun event hevent site hsite => ?_, fun henough houtcome => ?_⟩
  · obtain ⟨⟨-, hsmall⟩, hlinked⟩ := hall event hevent site hsite
    exact hsmall.acyclic.linked_lt hlinked
  · obtain ⟨site, henters, hrank⟩ := hfuel houtcome
    have hle : fuel ≤ linkRank engine workflow.tenantId size site := Nat.cast_le.mp hrank
    have hlength := hplace.length_le
    cases henters
    obtain ⟨rest, hrest⟩ := Nat.exists_eq_add_of_le hlength
    simp only [linkRank, List.nil_append, List.length_singleton, hrest] at hle henough
    rw [Nat.add_comm 1 rest, Nat.succ_mul] at henough
    rw [Nat.add_sub_cancel_left] at hle
    omega

namespace Sample

def oneCall : Workflow := single "oneCall" (action "call" "get" none none)

theorem oneCall_nodes : oneCall.graph.nodes = oneCall.nodes := by
  simp [Workflow.graph, WorkflowGraph.ofLists, oneCall, single, putNode, trigger, action]

theorem oneCall_links {node node' : Node} (hmem : node ∈ oneCall.graph.nodes)
    (h : oneCall.Links node node') : node.id = "start" ∧ node'.id = "call" := by
  have hsuccessor : ∀ handle, node' ∈ oneCall.graph.getSuccessors node.id handle →
      node.id = "start" ∧ node'.id = "call" := by
    intro handle hnode
    obtain ⟨edge, hedge, htarget⟩ := List.mem_filterMap.mp hnode
    obtain ⟨hedges, hleaves⟩ := List.mem_filter.mp hedge
    obtain rfl : edge = ⟨"start", "call", none⟩ := List.mem_singleton.mp hedges
    exact ⟨(beq_iff_eq.mp (Bool.and_eq_true_iff.mp hleaves).1).symm, WorkflowGraph.getNode_id htarget⟩
  have hnode : node = trigger ∨ node = action "call" "get" none none := by
    rw [oneCall_nodes] at hmem
    simpa [oneCall, single] using hmem
  cases h with
  | successor handle hnode => exact hsuccessor handle hnode
  | item htype _ => rcases hnode with rfl | rfl <;> cases htype
  | handler hhandler =>
      obtain ⟨hmem', htype, -⟩ := WorkflowGraph.findErrorHandler_spec hhandler
      rw [oneCall_nodes] at hmem'
      rcases List.mem_cons.mp hmem' with rfl | hmem'
      · cases htype
      · obtain rfl := List.mem_singleton.mp hmem'
        cases htype

theorem oneCall_path {node node' : Node} (hmem : node ∈ oneCall.graph.nodes)
    (h : TransGen oneCall.Links node node') :
    node.id = "start" ∧ node'.id = "call" ∧ node' ∈ oneCall.graph.nodes := by
  induction h with
  | single hlink =>
      obtain ⟨hstart, hcall⟩ := oneCall_links hmem hlink
      exact ⟨hstart, hcall, hlink.mem_nodes⟩
  | tail _ hlink ih =>
      obtain ⟨-, hcall, hmid⟩ := ih
      have hfrom := (oneCall_links hmid hlink).1
      exact absurd (hcall.symm.trans hfrom) (by decide)

theorem oneCall_small : oneCall.Small 2 where
  acyclic node hcycle := by
    obtain ⟨_, -, hlink⟩ := TransGen.tail'_iff.mp hcycle
    obtain ⟨hstart, hcall, -⟩ := oneCall_path hlink.mem_nodes hcycle
    exact absurd (hstart.symm.trans hcall) (by decide)
  length_le := by
    rw [oneCall_nodes]
    exact le_rfl

end Sample

/-- The run of a workflow with one action ends. -/
theorem acyclic_ends_oneCall :
    ((Sample.engine [Sample.oneCall]).played Sample.answer Sample.first 3 Sample.oneCall [] false).2 ≠
      .error .outOfFuel := by
  have hstored : Sample.oneCall ∈ (Sample.engine [Sample.oneCall]).workflows := List.mem_singleton_self _
  have hsmall : ∀ other ∈ (Sample.engine [Sample.oneCall]).workflows,
      other.tenantId = Sample.oneCall.tenantId → other.Small 2 := by
    intro other hother _
    obtain rfl := List.mem_singleton.mp hother
    exact Sample.oneCall_small
  exact (acyclic_ends hstored 2 hsmall 3 [] false _ _
    (WorkflowEngine.runs_played Sample.answer_any Sample.first [] false)).2 (by decide +kernel)

end IntegrationPlatform
