import IntegrationPlatform.Workflow.Region
import IntegrationPlatform.Workflow.Sample

/-!
# How deep a run goes

Two bounds on what is nested in a run. The chain of workflow ids never has duplicates, so that
sub-workflows are nested at most as deep as the tenant has workflows. The depth of activations
within one execution passes the limit of `_execute_nodes` only by steps that do not check it:
into a branch of a parallel node, or into an error handler.
-/

namespace IntegrationPlatform

open Resumption

section Chain

open WorkflowEngine

variable {engine : WorkflowEngine} {replies : (request : Request) → Reply request → Prop}

/-! ## The chain of workflows -/

/-- The ids of the workflows of a tenant. -/
def WorkflowEngine.tenantIds (engine : WorkflowEngine) (tenantId : String) : List String :=
  (engine.workflows.filter fun workflow => workflow.tenantId = tenantId).map Workflow.id

/-- A chain of workflows of one tenant, without duplicates, that ends with the workflow being
executed. -/
structure Nesting (engine : WorkflowEngine) (tenantId : String) (chain : List String)
    (workflow : Workflow) : Prop where
  nodup : chain.Nodup
  last : chain.getLast? = some workflow.id
  tenant : workflow.tenantId = tenantId
  stored : ∀ id ∈ chain, id ∈ engine.tenantIds tenantId

variable {workflow : Workflow}

theorem mem_tenantIds (hstored : workflow ∈ engine.workflows) :
    workflow.id ∈ engine.tenantIds workflow.tenantId :=
  List.mem_map_of_mem (List.mem_filter.mpr ⟨hstored, by simp⟩)

theorem Nesting.length_le {tenantId : String} {chain : List String}
    (h : Nesting engine tenantId chain workflow) : chain.length ≤ (engine.tenantIds tenantId).length :=
  (h.nodup.subperm h.stored).length_le

theorem Nesting.single (hstored : workflow ∈ engine.workflows) :
    Nesting engine workflow.tenantId [workflow.id] workflow :=
  ⟨List.nodup_singleton _, rfl, rfl, fun id hid => by
    obtain rfl := List.mem_singleton.mp hid
    exact mem_tenantIds hstored⟩

theorem Nesting.child {tenantId : String} {site : Site} {child : Workflow}
    (h : Nesting engine tenantId site.chain site.workflow) (hnests : site.Nests engine child) :
    Nesting engine tenantId (site.chain ++ [child.id]) child := by
  have htenant : child.tenantId = tenantId := hnests.tenant.trans h.tenant
  refine ⟨?_, by simp, htenant, fun id hid => ?_⟩
  · rw [← List.concat_eq_append]
    exact h.nodup.concat hnests.fresh
  · rcases List.mem_append.mp hid with hold | hnew
    · exact h.stored id hold
    · obtain rfl := List.mem_singleton.mp hnew
      exact htenant ▸ mem_tenantIds hnests.stored

/-- The places of a tenant. -/
def nestingRegion (engine : WorkflowEngine) (tenantId : String) : Region engine where
  place := Nesting engine tenantId
  here site := Nesting engine tenantId site.chain site.workflow
  rank _ := ⊤
  placed h := h
  enters h henters := by cases henters; exact h
  starts h _ := ⟨h, le_top⟩
  nests h hnests := ⟨h.child hnests, fun _ => le_top⟩

/-- In every run of a stored workflow, and in every re-run, the chain that the context carries
has no duplicates, ends with the workflow being executed, and is no longer than the list of the
tenant's workflows. -/
theorem chain_nodup {workflow : Workflow} (hstored : workflow ∈ engine.workflows) (fuel : Nat)
    (triggerData : Dict) (dryRun : Bool) (original : Execution) (fromNodeId : String)
    (overrideData : Dict) (trace : List Event) (outcome : Outcome Execution)
    (hrun : engine.Runs replies fuel workflow triggerData dryRun [] trace outcome ∨
      engine.Reruns replies fuel workflow original fromNodeId overrideData trace outcome) :
    ∀ event ∈ trace, event.chain.Nodup ∧ event.chain.getLast? = some event.workflow.id ∧
      event.chain.length ≤ (engine.tenantIds workflow.tenantId).length := by
  have hplace := Nesting.single hstored
  have hlaw := EventLaw.place (nestingRegion engine workflow.tenantId) fun _ => True
  have hall : ∀ event ∈ trace, Nesting engine workflow.tenantId event.chain event.workflow := by
    rcases hrun with hrun | hrun
    · exact (hrun.account hlaw hplace fun _ _ => trivial).1
    · exact hrun.account hlaw (fun _ _ => hplace) fun _ _ => trivial
  exact fun event hevent =>
    ⟨(hall event hevent).nodup, (hall event hevent).last, (hall event hevent).length_le⟩

end Chain

namespace Sample

def subWorkflow (id workflowId : String) : Node where
  id := id
  type := .subWorkflow
  config := { workflowId := some workflowId }

def single (id : String) (node : Node) : Workflow where
  id := id
  nodes := [trigger, node]
  edges := [⟨"start", node.id, none⟩]

def circular : WorkflowEngine :=
  engine [single "order" (subWorkflow "ship" "shipment"),
    single "shipment" (subWorkflow "reorder" "order")]

end Sample

/-- In a run of two workflows that start each other, the second start of the first is refused. -/
theorem chain_nodup_circular :
    ((Sample.circular.played Sample.answer Sample.first 5
        (Sample.single "order" (Sample.subWorkflow "ship" "shipment")) [] false).1.trace.map
          fun event => event.chain.length).max? = some 2 ∧
      ∀ event ∈ (Sample.circular.played Sample.answer Sample.first 5
          (Sample.single "order" (Sample.subWorkflow "ship" "shipment")) [] false).1.trace,
        event.chain.Nodup ∧ event.chain.getLast? = some event.workflow.id ∧
          event.chain.length ≤ (Sample.circular.tenantIds "").length := by
  have hstored : Sample.single "order" (Sample.subWorkflow "ship" "shipment") ∈
      Sample.circular.workflows := List.mem_cons_self ..
  refine ⟨by decide +kernel, ?_⟩
  exact chain_nodup hstored 5 [] false ⟨"", "", [], .success, none, none, [], none⟩ "" [] _ _
    (.inl (WorkflowEngine.runs_played Sample.answer_any Sample.first [] false))

/-! ## The depth of activations -/

section Depth

open WorkflowEngine

variable {engine : WorkflowEngine} {replies : (request : Request) → Reply request → Prop}

/-- A step into another activation that does not check the depth: into an error handler, or into
a branch of a parallel node. -/
def Workflow.Unchecked (workflow : Workflow) (node node' : Node) : Prop :=
  workflow.graph.findErrorHandler node.id = some node' ∨
    node.type = .parallel ∧ node' ∈ workflow.graph.getSuccessors node.id (.str "branch")

/-- A path of so many steps that do not check the depth leads to a node. -/
inductive UncheckedPath (workflow : Workflow) : Nat → Node → Prop where
  | nil {node} : node ∈ workflow.graph.nodes → UncheckedPath workflow 0 node
  | step {length node node'} : UncheckedPath workflow length node →
      workflow.Unchecked node node' → UncheckedPath workflow (length + 1) node'

/-- No path of steps that do not check the depth is longer than a multiple of the limit. -/
def Workflow.UncheckedAtMost (factor : Nat) (workflow : Workflow) : Prop :=
  ∀ length node, UncheckedPath workflow length node → length ≤ factor * maxNodeDepth

/-- The depth of an activation is at most the limit plus the steps since it was last checked. -/
def Site.Within (site : Site) : Prop :=
  ∃ length, UncheckedPath site.workflow length site.node ∧ site.depth ≤ maxNodeDepth + length

theorem Site.Within.below {site : Site} {node : Node} (h : site.Within)
    (hstarts : site.Starts node) : (site.below node).Within := by
  obtain ⟨length, hpath, hdepth⟩ := h
  cases hstarts with
  | successor handle hmem hchecked =>
      exact ⟨0, .nil (WorkflowGraph.mem_getSuccessors hmem).1, hchecked⟩
  | item _ hmem hchecked => exact ⟨0, .nil (mem_batchBody hmem), hchecked⟩
  | branch htype hmem =>
      exact ⟨length + 1, hpath.step (.inr ⟨htype, hmem⟩), Nat.succ_le_succ hdepth⟩
  | handler hhandler => exact ⟨length + 1, hpath.step (.inl hhandler), Nat.succ_le_succ hdepth⟩

theorem Site.Within.depth_le {site : Site} {factor : Nat} (h : site.Within)
    (hbounded : site.workflow.UncheckedAtMost factor) :
    site.depth ≤ (factor + 1) * maxNodeDepth := by
  obtain ⟨length, hpath, hdepth⟩ := h
  have hlength := hbounded length _ hpath
  rw [Nat.succ_mul]
  omega

/-- How many activations can still be nested in one at this site: what is left of the depth, and
the full depth for each workflow that the chain can still be extended by. -/
def depthRank (engine : WorkflowEngine) (tenantId : String) (factor : Nat) (site : Site) : Nat :=
  ((engine.tenantIds tenantId).length - site.chain.length) * ((factor + 1) * maxNodeDepth + 1) +
    ((factor + 1) * maxNodeDepth - site.depth)

/-- The places of a tenant whose workflows bound their unchecked paths, and the sites within that
bound. -/
def depthRegion (engine : WorkflowEngine) (tenantId : String) (factor : Nat)
    (hbounded : ∀ workflow ∈ engine.workflows, workflow.tenantId = tenantId →
      workflow.UncheckedAtMost factor) :
    Region engine where
  place chain workflow := Nesting engine tenantId chain workflow ∧ workflow.UncheckedAtMost factor
  here site := (Nesting engine tenantId site.chain site.workflow ∧
    site.workflow.UncheckedAtMost factor) ∧ site.Within
  rank site := depthRank engine tenantId factor site
  placed h := h.1
  enters h henters := by
    cases henters with
    | intro _ hmem => exact ⟨h, 0, .nil (WorkflowGraph.mem_getSuccessors hmem).1, Nat.zero_le _⟩
  starts h hstarts := by
    have hbelow := h.2.below hstarts
    refine ⟨⟨h.1, hbelow⟩, ?_⟩
    have hdepth := hbelow.depth_le h.1.2
    simp only [Site.below] at hdepth
    rw [← Nat.cast_one, ← Nat.cast_add, Nat.cast_le]
    simp only [depthRank, Site.below]
    omega
  nests {site child} h hnests := by
    have hchild := h.1.1.child hnests
    refine ⟨⟨hchild, hbounded _ hnests.stored hchild.tenant⟩, fun henters => ?_⟩
    have hlength := hchild.length_le
    rw [List.length_append, List.length_singleton] at hlength
    rw [← Nat.cast_one, ← Nat.cast_add, Nat.cast_le]
    cases henters
    simp only [depthRank, List.length_append, List.length_singleton]
    obtain ⟨rest, hrest⟩ := Nat.exists_eq_add_of_le hlength
    have hleft : (engine.tenantIds tenantId).length - site.chain.length = rest + 1 := by omega
    have hthen : (engine.tenantIds tenantId).length - (site.chain.length + 1) = rest := by omega
    rw [hleft, hthen, Nat.succ_mul rest]
    omega

/-- In a run of a stored workflow, if no path of unchecked steps in the tenant's workflows is longer than a
multiple of the limit, no activation is deeper than the next multiple, and enough fuel for that depth in
every workflow of the tenant is never used up. -/
theorem depth_bounded (factor : Nat) {workflow : Workflow} (hstored : workflow ∈ engine.workflows)
    (hbounded : ∀ other ∈ engine.workflows, other.tenantId = workflow.tenantId →
      other.UncheckedAtMost factor)
    (fuel : Nat) (triggerData : Dict) (dryRun : Bool) (trace : List Event) (outcome : Outcome Execution)
    (hrun : engine.Runs replies fuel workflow triggerData dryRun [] trace outcome) :
    (∀ site, .arrived site ∈ trace → site.depth ≤ (factor + 1) * maxNodeDepth) ∧
      ((engine.tenantIds workflow.tenantId).length * ((factor + 1) * maxNodeDepth + 1) ≤ fuel →
        outcome ≠ .error .outOfFuel) := by
  have hplace := Nesting.single hstored
  have hlaw := EventLaw.arrival (depthRegion engine workflow.tenantId factor hbounded) fun _ => True
  obtain ⟨hall, hfuel⟩ := hrun.account hlaw ⟨hplace, hbounded _ hstored rfl⟩ fun _ _ => trivial
  refine ⟨fun site hsite => ?_, fun henough houtcome => ?_⟩
  · obtain ⟨⟨_, hpaths⟩, hwithin⟩ := hall _ hsite site rfl
    exact hwithin.depth_le hpaths
  · obtain ⟨site, henters, hrank⟩ := hfuel houtcome
    have hle : fuel ≤ depthRank engine workflow.tenantId factor site := Nat.cast_le.mp hrank
    have hlength := hplace.length_le
    cases henters
    obtain ⟨rest, hrest⟩ := Nat.exists_eq_add_of_le hlength
    simp only [depthRank, List.nil_append, List.length_singleton, hrest] at hle henough
    rw [Nat.add_comm 1 rest, Nat.succ_mul] at henough
    rw [Nat.add_sub_cancel_left] at hle
    omega

end Depth

namespace Sample

/-- A failing action under a handler that does not catch itself. -/
def handled : Workflow where
  id := "handled"
  nodes := [trigger, action "call" "fail" none none,
    { id := "handler", type := .errorHandler, config := { catchFrom := some ["call"] } }]
  edges := [⟨"start", "call", none⟩]

theorem handled_uncheckedAtMost : handled.UncheckedAtMost 1 := by
  have hnodes : handled.graph.nodes = handled.nodes := by
    simp [Workflow.graph, WorkflowGraph.ofLists, handled, putNode, trigger, action]
  have hhandler : ∀ nodeId node, handled.graph.findErrorHandler nodeId = some node →
      nodeId = "call" ∧ node.id = "handler" ∧ node.type = .errorHandler := by
    intro nodeId node h
    obtain ⟨hmem, htype, hcatch⟩ := WorkflowGraph.findErrorHandler_spec h
    rw [hnodes] at hmem
    simp only [handled, List.mem_cons, List.not_mem_nil, or_false] at hmem
    rcases hmem with rfl | rfl | rfl <;> simp_all [trigger, action]
  have hpath : ∀ length node, UncheckedPath handled length node →
      node.type ≠ .parallel ∧ (length = 0 ∨ length = 1 ∧ node.id = "handler") := by
    intro length node h
    induction h with
    | nil hmem =>
        rw [hnodes] at hmem
        simp only [handled, List.mem_cons, List.not_mem_nil, or_false] at hmem
        rcases hmem with rfl | rfl | rfl <;> simp [trigger, action]
    | step _ hstep ih =>
        rcases hstep with hhandled | ⟨hparallel, _⟩
        · obtain ⟨hcall, hid, htype⟩ := hhandler _ _ hhandled
          rcases ih.2 with hzero | ⟨_, hfrom⟩
          · simp [htype, hid, hzero]
          · simp [hcall] at hfrom
        · exact absurd hparallel ih.1
  intro length node h
  have := (hpath length node h).2
  simp only [WorkflowEngine.maxNodeDepth]
  omega

/-- A workflow of another tenant with a handler that catches itself. -/
def otherTenants : Workflow where
  id := "other"
  tenantId := "other"
  nodes := [trigger, { id := "handler", type := .errorHandler, config := { catchFrom := some ["handler"] } }]
  edges := [⟨"start", "handler", none⟩]

end Sample

/-- In a run with one error handler, no activation is deeper than twice the limit, and it ends,
although the handler of another tenant catches itself. -/
theorem depth_bounded_handled :
    let run := (Sample.engine [Sample.handled, Sample.otherTenants]).played Sample.answer Sample.first 401
      Sample.handled [] false
    (∀ site, .arrived site ∈ run.1.trace → site.depth ≤ 400) ∧ run.2 ≠ .error .outOfFuel := by
  have hstored : Sample.handled ∈ (Sample.engine [Sample.handled, Sample.otherTenants]).workflows :=
    List.mem_cons_self
  have hbounded : ∀ other ∈ (Sample.engine [Sample.handled, Sample.otherTenants]).workflows,
      other.tenantId = Sample.handled.tenantId → other.UncheckedAtMost 1 := by
    intro other hother htenant
    rcases List.mem_cons.mp hother with rfl | hother
    · exact Sample.handled_uncheckedAtMost
    · obtain rfl := List.mem_singleton.mp hother
      exact absurd htenant (by decide)
  have h := depth_bounded 1 hstored hbounded 401 [] false _ _
    (WorkflowEngine.runs_played Sample.answer_any Sample.first [] false)
  exact ⟨h.1, h.2 (by decide +kernel)⟩

/-! ### A handler that catches itself -/

namespace Sample

open WorkflowEngine Eng

/-- An error handler that catches a failing action and itself, and whose notification fails. -/
def selfHandler : Node where
  id := "handler"
  type := .errorHandler
  config := { catchFrom := some ["call", "handler"], actions := some [.notify {}] }

def selfHandled : Workflow where
  id := "loop"
  nodes := [trigger, action "call" "fail" none none, selfHandler]
  edges := [⟨"start", "call", none⟩]

theorem play_fails {call : ActionCall} (hcall : call.action ≠ "get") (thread : Thread)
    (joins : MergeJoins) :
    play answer first (actionExecutor call) thread joins =
      (joins, thread, .error (.raised ⟨"connector error", none⟩)) := by
  unfold actionExecutor
  rw [play_bind, play_ask]
  simp only [answer, hcall, if_false, play_ofExcept_error]

theorem play_selfHandler (thread : Thread) (joins : MergeJoins) (hdry : thread.ctx.dryRun = false) :
    play answer first ((engine []).execErrorHandler selfHandler.config selfHandled) thread joins =
      (joins, thread, .error (.raised ⟨"connector error", none⟩)) := by
  simp [execErrorHandler, execHandlerActions, execHandlerAction, notification, selfHandler,
    notifyPayload, hdry, engine, Except.map, play_fails]

theorem play_call (thread : Thread) (joins : MergeJoins) (hdry : thread.ctx.dryRun = false) :
    play answer first ((engine []).execAction (action "call" "fail" none none).config selfHandled)
      thread joins = (joins, thread, .error (.raised ⟨"connector error", none⟩)) := by
  simp [execAction, action, hdry, engine, play_fails]

theorem findErrorHandler_selfHandled {nodeId : String} (h : nodeId = "call" ∨ nodeId = "handler") :
    selfHandled.graph.findErrorHandler nodeId = some selfHandler := by
  rcases h with rfl | rfl <;>
    simp [WorkflowGraph.findErrorHandler, Workflow.graph, WorkflowGraph.ofLists, selfHandled, putNode,
      trigger, action, selfHandler]

def handed (node : Node) (depth : Nat) (thread : Thread) : Thread :=
  let site := thread.site selfHandled node depth
  let exc : Exc := ⟨"connector error", none⟩
  let activation := (Activation.start (engine []) node thread.ctx).call .raised
  let entry := failedEntry activation.entry exc
  let failed := ((thread.log [.arrived site]).log [.called site []]).log [.executorRaised site exc]
  let error := errorInfo node exc thread.ctx.toScope
  ((failed.append activation entry).mapScope fun scope => scope.setVar "_error" error).log
    [.handled site (activation.append failed entry).calls selfHandler error]

/-- An activation of a node that fails and is caught by the handler starts the handler one level
deeper, and runs out of fuel if that does. -/
theorem play_visitNode_selfHandled {visit : Visit} {node : Node} {depth : Nat} {thread : Thread}
    {joins : MergeJoins} (hdry : thread.ctx.dryRun = false)
    (htype : node.type = .action ∨ node.type = .errorHandler) (honError : node.config.onError = none)
    (hid : node.id = "call" ∨ node.id = "handler")
    (hexec : ∀ thread joins, thread.ctx.dryRun = false →
      play answer first ((engine []).execNode visit selfHandled node depth) thread joins =
        (joins, thread, .error (.raised ⟨"connector error", none⟩)))
    {joins' : MergeJoins} {thread' : Thread}
    (hvisit : play answer first (visit selfHandled selfHandler (depth + 1))
      (handed node depth thread) joins = (joins', thread', .error .outOfFuel)) :
    play answer first ((engine []).visitNode visit selfHandled node depth) thread joins =
      (joins', thread', .error .outOfFuel) := by
  have hgate : mergeGate selfHandled node = Pure.pure (.ok true) := by
    rcases htype with htype | htype <;> simp [mergeGate, htype]
  have hexcept : ∀ activation exc, (engine []).exceptClause visit selfHandled node depth activation
      exc = giveUp visit selfHandled node depth activation exc := by
    intro activation exc
    simp [exceptClause, honError, selfHandled]
  simp only [visitNode, hgate, tryNode, callExecutor, play_bind, play_pure, play_emitAt,
    play_getContext, play_attempt, hexec, hexcept, giveUp, findErrorHandler_selfHandled hid,
    play_appendEntry, play_modifyScope, Thread.log_ctx, hdry]
  erw [hvisit]

theorem play_selfHandler_nests (fuel depth : Nat) (thread : Thread) (joins : MergeJoins)
    (hdry : thread.ctx.dryRun = false) :
    ∃ joins' thread', play answer first
        ((engine []).executeSingleNode fuel selfHandled selfHandler depth) thread joins =
          (joins', thread', .error .outOfFuel) ∧ thread.trace ⊆ thread'.trace ∧
      ∀ level < fuel, ∃ site, .arrived site ∈ thread'.trace ∧ site.depth = depth + level := by
  induction fuel generalizing depth thread joins with
  | zero => exact ⟨joins, thread, rfl, fun _ h => h, by simp⟩
  | succ fuel ih =>
      obtain ⟨joins', thread', hvisit, hgrows, hlevels⟩ :=
        ih (depth + 1) (handed selfHandler depth thread) joins hdry
      have hexec : ∀ (thread : Thread) (joins : MergeJoins), thread.ctx.dryRun = false →
          play answer first ((engine []).execNode ((engine []).executeSingleNode fuel) selfHandled
            selfHandler depth) thread joins =
              (joins, thread, .error (.raised ⟨"connector error", none⟩)) := by
        intro thread joins hdry
        have hexec : (engine []).execNode ((engine []).executeSingleNode fuel) selfHandled selfHandler
            depth = proceed <$> (engine []).execErrorHandler selfHandler.config selfHandled := rfl
        simp only [hexec, play_map, play_bind, play_selfHandler thread joins hdry]
      refine ⟨joins', thread', play_visitNode_selfHandled hdry (.inr rfl) rfl (.inr rfl) hexec hvisit,
        fun event hevent => hgrows ?_, fun level hlevel => ?_⟩
      · simp [handed, Thread.append, hevent]
      · cases level with
        | zero =>
            refine ⟨thread.site selfHandled selfHandler depth, hgrows ?_, rfl⟩
            simp [handed, Thread.append]
        | succ level =>
            obtain ⟨site, hsite, hdepth⟩ := hlevels level (by omega)
            exact ⟨site, hsite, by omega⟩

theorem played_selfHandled (fuel : Nat) :
    let run := (engine []).played answer first (fuel + 1) selfHandled [] false
    run.2 = .error .outOfFuel ∧
      ∀ level < fuel, ∃ site, .arrived site ∈ run.1.trace ∧ site.depth = level + 1 := by
  have htrigger : selfHandled.graph.findTrigger = some trigger := by
    simp [WorkflowGraph.findTrigger, Workflow.graph, WorkflowGraph.ofLists, selfHandled, putNode,
      trigger, action, selfHandler]
  have hsuccessors : selfHandled.graph.getSuccessors trigger.id .null =
      [action "call" "fail" none none] := by
    simp [WorkflowGraph.getSuccessors, WorkflowGraph.outgoing, WorkflowGraph.getNode, Workflow.graph,
      WorkflowGraph.ofLists, selfHandled, putNode, trigger, action, selfHandler, Edge.leavesBy]
  have hexec : ∀ (thread : Thread) (joins : MergeJoins), thread.ctx.dryRun = false →
      play answer first ((engine []).execNode ((engine []).executeSingleNode fuel) selfHandled
        (action "call" "fail" none none) 0) thread joins =
          (joins, thread, .error (.raised ⟨"connector error", none⟩)) := by
    intro thread joins hdry
    have hexec : (engine []).execNode ((engine []).executeSingleNode fuel) selfHandled
        (action "call" "fail" none none) 0 =
          proceed <$> (engine []).execAction (action "call" "fail" none none).config selfHandled := rfl
    simp only [hexec, play_map, play_bind, play_call thread joins hdry]
  intro run
  obtain ⟨start, hdry, hstart⟩ : ∃ start : Thread, start.ctx.dryRun = false ∧
      play answer first ((engine []).executeFromTrigger ((engine []).executeSingleNode (fuel + 1))
        selfHandled []) ⟨initialContext selfHandled [] false [], []⟩ {} =
      play answer first (executeNodes ((engine []).executeSingleNode (fuel + 1)) selfHandled
        [action "call" "fail" none none] 0) start {} := by
    unfold executeFromTrigger
    simp only [htrigger, hsuccessors, play_bind, play_getContext, play_emit, play_modifyScope,
      play_modifyResults]
    exact ⟨_, rfl, rfl⟩
  obtain ⟨joins', thread', hvisit, -, hlevels⟩ :=
    play_selfHandler_nests fuel 1 (handed (action "call" "fail" none none) 0 start) {} hdry
  have hcall := play_visitNode_selfHandled hdry (.inl rfl) rfl (.inl rfl) hexec hvisit
  have hnodes : play answer first (executeNodes ((engine []).executeSingleNode (fuel + 1)) selfHandled
      [action "call" "fail" none none] 0) start {} = (joins', thread', .error .outOfFuel) := by
    simp only [executeNodes, executeEach, gt_iff_lt, Nat.not_lt_zero, if_false, play_bind,
      executeSingleNode, hcall]
  have hrun : run = (Thread.idle.log thread'.trace, .error .outOfFuel) := by
    rw [show run = _ from played_eq answer first [] false, hstart, hnodes]
    rfl
  refine ⟨by rw [hrun], fun level hlevel => ?_⟩
  obtain ⟨site, hsite, hdepth⟩ := hlevels level hlevel
  exact ⟨site, by rw [hrun]; exact hsite, by omega⟩

end Sample

/-- With a handler that catches itself and fails, no multiple of the depth limit bounds the depth
of all activations, and no fuel is enough for the run to end. -/
theorem depth_unbounded :
    (¬ ∃ factor, ∀ fuel trace outcome,
      (Sample.engine []).Runs anyReply fuel Sample.selfHandled [] false [] trace outcome →
        ∀ site, .arrived site ∈ trace → site.depth ≤ factor * WorkflowEngine.maxNodeDepth) ∧
      ∀ fuel, ∃ trace, (Sample.engine []).Runs anyReply (fuel + 1) Sample.selfHandled [] false []
        trace (.error .outOfFuel) := by
  have hrun : ∀ fuel, (Sample.engine []).Runs anyReply (fuel + 1) Sample.selfHandled [] false [] _ _ :=
    fun fuel => WorkflowEngine.runs_played Sample.answer_any Sample.first [] false
  refine ⟨fun ⟨factor, hbound⟩ => ?_, fun fuel => ?_⟩
  · obtain ⟨_, hlevels⟩ := Sample.played_selfHandled (factor * WorkflowEngine.maxNodeDepth + 1)
    obtain ⟨site, hsite, hdepth⟩ := hlevels (factor * WorkflowEngine.maxNodeDepth) (by omega)
    have hle := hbound _ _ _ (hrun _) site hsite
    omega
  · have hstop := (Sample.played_selfHandled fuel).1
    exact ⟨_, hstop ▸ hrun fuel⟩

end IntegrationPlatform
