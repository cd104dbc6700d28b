import IntegrationPlatform.Trees.Forest
import IntegrationPlatform.Workflow.Sample

/-!
# The order of traversal

On graphs whose nodes start no other nodes inside their executors, a run in which nothing raises
visits the taken paths depth first: `Explores` relates the nodes where paths start to the forest
of the visits, in which the trees below a visit start with the targets of the edges that it takes,
and the entries of the run are the preorder of that forest.
-/

namespace IntegrationPlatform

open Resumption Eng WorkflowEngine Trees

/-! ## Taken paths -/

/-- The node types that are executed on their own: no loops, branches, batches or sub-workflows,
no joins, and no error handlers. -/
def NodeType.Plain (type : NodeType) : Prop :=
  type ≠ .loop ∧ type ≠ .parallel ∧ type ≠ .batch ∧ type ≠ .merge ∧ type ≠ .subWorkflow ∧
    type ≠ .errorHandler
deriving Decidable

/-- A visit of a node: what its executor told the traversal, and the entry that it left in
`node_results`. -/
structure Visited where
  node : Node
  told : NodeOutcome
  entry : Entry

/-- `edge.get("sourceHandle", "default") == handle`. -/
def Edge.startsAt (edge : Edge) (handle : Value) : Bool :=
  handle.pyEq (.str (edge.sourceHandle.getD "default"))

/-- The outgoing edges that a visit takes, where the handle that a condition or a switch returned
`selects` among them. -/
def Visited.taken (selects : Edge → Value → Bool) (graph : WorkflowGraph) (visited : Visited) :
    List Edge :=
  let outgoing := graph.edges.filter fun edge => edge.source = visited.node.id
  match visited.node.type, visited.told with
  | .response, _ => []
  | .filter, .filtered => []
  | .condition, .proceeds _ handle => outgoing.filter (selects · handle)
  | .switch, .proceeds _ handle => outgoing.filter (selects · handle)
  | _, _ => outgoing

/-- The targets of the edges that a visit takes, in edge order. -/
def Visited.targets (selects : Edge → Value → Bool) (graph : WorkflowGraph) (visited : Visited) :
    List Node :=
  (visited.taken selects graph).filterMap fun edge => graph.getNode edge.target

/-- The scope in which a visit started. -/
def Visited.scope (visited : Visited) (triggerData : Dict) : Scope where
  data := visited.entry.replayState.data
  triggerData := triggerData
  vars := visited.entry.replayState.vars
  nodeOutputs := visited.entry.replayState.nodeOutputs

/-- The entry of a visit records the node and what its executor told, and the executor of a node
that chooses the path told what it returns on the scope of the visit. -/
structure Visited.Recorded (engine : WorkflowEngine) (triggerData : Dict) (visited : Visited) :
    Prop where
  nodeId : visited.entry.nodeId = visited.node.id
  status : visited.entry.status = visited.told.status
  output : ∀ output handle, visited.told = .proceeds output handle →
    visited.entry.rawOutput = some output
  tells : visited.told.Tells engine visited.node (visited.scope triggerData)

/-- The forest of the taken paths that start with these nodes: a tree for each of them, and below
each visit the forest of the targets of the edges that it takes. -/
inductive Explores (selects : Edge → Value → Bool) (engine : WorkflowEngine) (graph : WorkflowGraph)
    (triggerData : Dict) : List Node → Forest Visited → Prop where
  | none : Explores selects engine graph triggerData [] .empty
  | visit {visited rest below beside} : visited.Recorded engine triggerData →
      Explores selects engine graph triggerData (visited.targets selects graph) below →
      Explores selects engine graph triggerData rest beside →
      Explores selects engine graph triggerData (visited.node :: rest) (.tree visited below beside)

theorem Explores.recorded {selects : Edge → Value → Bool} {engine : WorkflowEngine}
    {graph : WorkflowGraph} {triggerData : Dict} {nodes : List Node} {forest : Forest Visited}
    (h : Explores selects engine graph triggerData nodes forest) :
    ∀ visited ∈ forest.preorder, visited.Recorded engine triggerData := by
  induction h with
  | none => exact fun _ hmem => nomatch hmem
  | visit hrecorded _ _ ihbelow ihbeside =>
      exact List.forall_mem_cons.mpr ⟨hrecorded, List.forall_mem_append.mpr ⟨ihbelow, ihbeside⟩⟩

/-- No executor raised, and the depth limit was not exceeded. -/
def Event.smooth : Event → Bool
  | .executorRaised _ _ => false
  | .depthExceeded _ _ _ => false
  | _ => true

/-! ## The edges that the engine follows -/

section Targets

variable {engine : WorkflowEngine} {graph : WorkflowGraph} {scope : Scope} {visited : Visited}

theorem Visited.targets_proceeds {output handle : Value} (hplain : visited.node.type.Plain)
    (htold : visited.told = .proceeds output handle)
    (hfits : visited.told.Fits visited.node.type) :
    visited.targets Edge.leavesBy graph = graph.getSuccessors visited.node.id handle := by
  rw [htold] at hfits
  obtain ⟨hresponse, hhandle⟩ := hfits
  have hall : ∀ edge : Edge, edge.leavesBy .null = true := fun _ => rfl
  have htaken : visited.taken Edge.leavesBy graph =
      (graph.edges.filter fun edge => edge.source = visited.node.id).filter (·.leavesBy handle) := by
    unfold Visited.taken
    rw [htold]
    cases htype : visited.node.type <;> simp_all [NodeType.Plain, NodeType.handleOf]
  have houtgoing : graph.outgoing visited.node.id handle = visited.taken Edge.leavesBy graph := by
    rw [htaken, List.filter_filter]
    refine List.filter_congr fun edge _ => ?_
    rw [Bool.and_comm]
    rfl
  rw [Visited.targets, WorkflowGraph.getSuccessors, houtgoing]

theorem Visited.targets_ends (htold : ∀ output handle, visited.told ≠ .proceeds output handle)
    (hfits : visited.told.Fits visited.node.type) (selects : Edge → Value → Bool) :
    visited.targets selects graph = [] := by
  have htaken : visited.taken selects graph = [] := by
    unfold Visited.taken
    cases hcase : visited.told with
    | filtered =>
        rw [hcase] at hfits
        rw [show visited.node.type = .filter from hfits]
    | responded output =>
        rw [hcase] at hfits
        rw [show visited.node.type = .response from hfits]
    | proceeds output handle => exact absurd hcase (htold output handle)
  rw [Visited.targets, htaken, List.filterMap_nil]

end Targets

/-! ## Visits -/

section Visits

variable (engine : WorkflowEngine) (workflow : Workflow)

/-- The entries that were appended are the preorder of a forest of taken paths that starts with
these nodes. -/
def VisitsAll (nodes : List Node) (thread thread' : Thread) : Prop :=
  ∃ forest, Explores Edge.leavesBy engine workflow.graph thread.ctx.triggerData nodes forest ∧
    thread'.ctx.nodeResults = thread.ctx.nodeResults ++ forest.preorder.map Visited.entry

/-- What nested activations have to satisfy: on the nodes of the graph, unless something raised,
they return and visit the taken paths. -/
structure Visits (V : VisitRel) (depth : Nat) : Prop where
  frame : ∀ {w n d t t' o}, V w n d t t' o → Frame t t'
  visits : ∀ {node thread thread' outcome}, node ∈ workflow.graph.nodes →
    V workflow node depth thread thread' outcome → (∀ event ∈ thread'.trace, event.smooth = true) →
    outcome = .ok () ∧ VisitsAll engine workflow [node] thread thread'

variable {engine workflow} {V : VisitRel} {node : Node} {depth : Nat} {nodes : List Node}
  {thread thread' : Thread} {outcome : Outcome Unit}

theorem visitsAll_nil (thread : Thread) : VisitsAll engine workflow [] thread thread :=
  ⟨.empty, .none, by simp [Forest.preorder]⟩

theorem VisitsAll.cons {mid : Thread} (h : VisitsAll engine workflow [node] thread mid)
    (hrest : VisitsAll engine workflow nodes mid thread')
    (htrigger : mid.ctx.triggerData = thread.ctx.triggerData) :
    VisitsAll engine workflow (node :: nodes) thread thread' := by
  obtain ⟨first, hfirst, hmid⟩ := h
  obtain ⟨beside, hbeside, hlast⟩ := hrest
  cases hfirst with
  | @visit visited _ below _ hrecorded hbelow hnone =>
      cases hnone
      refine ⟨.tree visited below beside, .visit hrecorded hbelow ?_, ?_⟩
      · rwa [← htrigger]
      · rw [hlast, hmid]
        simp [Forest.preorder]

theorem VisitsAll.below {visited : Visited} {mid : Thread}
    (hrecorded : visited.Recorded engine thread.ctx.triggerData)
    (hentry : mid.ctx.nodeResults = thread.ctx.nodeResults ++ [visited.entry])
    (htrigger : mid.ctx.triggerData = thread.ctx.triggerData)
    (hbelow : VisitsAll engine workflow (visited.targets Edge.leavesBy workflow.graph) mid thread') :
    VisitsAll engine workflow [visited.node] thread thread' := by
  obtain ⟨below, hexplores, hlast⟩ := hbelow
  refine ⟨.tree visited below .empty, .visit hrecorded ?_ .none, ?_⟩
  · rwa [← htrigger]
  · rw [hlast, hentry]
    simp [Forest.preorder]

theorem Each.visits (hV : Visits engine workflow V depth)
    (h : Each V workflow depth nodes thread thread' outcome)
    (hnodes : ∀ node ∈ nodes, node ∈ workflow.graph.nodes)
    (hsmooth : ∀ event ∈ thread'.trace, event.smooth = true) :
    outcome = .ok () ∧ VisitsAll engine workflow nodes thread thread' := by
  induction h with
  | nil thread => exact ⟨rfl, visitsAll_nil thread⟩
  | cons hvisit hrest ih =>
      obtain ⟨hnode, hothers⟩ := List.forall_mem_cons.mp hnodes
      obtain ⟨hreturns, hbeside⟩ := ih hothers hsmooth
      have hfirst := hV.visits hnode hvisit ((hrest.frame hV.frame).before hsmooth)
      exact ⟨hreturns, hfirst.2.cons hbeside (hV.frame hvisit).triggerData⟩
  | stop hvisit =>
      have hreturns := (hV.visits (hnodes _ List.mem_cons_self) hvisit hsmooth).1
      exact nomatch hreturns

theorem Traversal.visits (hV : depth ≤ maxNodeDepth → Visits engine workflow V depth)
    (h : Traversal V workflow depth nodes thread thread' outcome)
    (hnodes : ∀ node ∈ nodes, node ∈ workflow.graph.nodes)
    (hsmooth : ∀ event ∈ thread'.trace, event.smooth = true) :
    outcome = .ok () ∧ VisitsAll engine workflow nodes thread thread' := by
  cases h with
  | exceeded message _ _ =>
      exact nomatch hsmooth _ (List.mem_append_right _ (List.mem_singleton_self _))
  | each hdepth heach =>
      by_cases hempty : nodes = []
      · subst hempty
        cases heach
        exact ⟨rfl, visitsAll_nil thread⟩
      · exact heach.visits (hV (hdepth hempty)) hnodes hsmooth

theorem Traverses.visits {calls : List CallOutcome} {ended : Outcome (Except Exc Unit)}
    (hV : depth + 1 ≤ maxNodeDepth → Visits engine workflow V (depth + 1))
    (h : Traverses V workflow node depth calls nodes thread thread' ended)
    (hnodes : ∀ node ∈ nodes, node ∈ workflow.graph.nodes)
    (hsmooth : ∀ event ∈ thread'.trace, event.smooth = true) :
    ended = .ok (.ok ()) ∧ VisitsAll engine workflow nodes thread thread' := by
  rcases ended with stop | exc | value
  · have hreturns := (h.2.visits hV hnodes hsmooth).1
    exact nomatch hreturns
  · obtain ⟨mid, hmid, rfl⟩ := h
    have hreturns := (hmid.visits hV hnodes ((Frame.log _ _).before hsmooth)).1
    exact nomatch hreturns
  · exact ⟨rfl, (Traversal.visits hV h hnodes hsmooth).2⟩

section Activation

variable {activation first : Activation}
  (hV : depth + 1 ≤ maxNodeDepth → Visits engine workflow V (depth + 1))
include hV

theorem Attempts.smooth
    (h : Attempts V engine workflow node depth first thread activation thread')
    (hsmooth : ∀ event ∈ thread'.trace, event.smooth = true) : activation = first ∧ thread' = thread := by
  cases h with
  | none => exact ⟨rfl, rfl⟩
  | raised _ _ => exact nomatch hsmooth _ (List.mem_append_right _ (List.mem_singleton_self _))
  | descendant _ hproceeds =>
      obtain ⟨_, _, _, _, _, _, _, _, _, htraverses⟩ := hproceeds
      have hreturns := (htraverses.visits hV
        (fun _ hmem => (WorkflowGraph.mem_getSuccessors hmem).1) hsmooth).1
      exact nomatch hreturns

omit hV in
theorem Calls.quiet {outcome : Outcome NodeOutcome} (hplain : node.type.Plain)
    (h : Calls V engine workflow node depth activation thread thread' outcome) :
    Quiet (thread.log [.called (thread.site workflow node depth) activation.calls]) thread'
      outcome.void := by
  refine Inside.quiet h.executes.1 ?_ ?_ ?_ ?_ <;> intro htype <;> simp [htype, NodeType.Plain] at hplain

omit hV in
theorem Entry.Updates.recorded {scope : Scope} {told : NodeOutcome} {entry : Entry}
    (h : (engine.newEntry node scope).Updates entry told.status)
    (houtput : ∀ output handle, told = .proceeds output handle → entry.rawOutput = some output)
    (htells : told.Tells engine node scope) :
    (⟨node, told, entry⟩ : Visited).Recorded engine scope.triggerData := by
  have hscope : (⟨node, told, entry⟩ : Visited).scope scope.triggerData = scope := by
    unfold Visited.scope
    rw [h.replayState]
    rfl
  exact ⟨h.nodeId, h.status, houtput, hscope.symm ▸ htells⟩

omit hV in
theorem Edits.appended {start : Thread} (h : Edits thread start) (entry entry' : Entry) :
    (start.append (({ entry := entry } : Activation).call .returned) entry').ctx.nodeResults =
      thread.ctx.nodeResults ++ [entry'] :=
  congrArg (· ++ [entry']) h.nodeResults

variable (hframe : ∀ {w n d t t' o}, V w n d t t' o → Frame t t')
include hframe

theorem Body.visits {result : Outcome (Activation × Except Exc Unit)} (hplain : node.type.Plain)
    (h : Body V engine workflow node depth { entry := engine.newEntry node thread.ctx.toScope }
      thread thread' result)
    (hsmooth : ∀ event ∈ thread'.trace, event.smooth = true) :
    (∃ activation, result = .ok (activation, .ok ())) ∧
      VisitsAll engine workflow [node] thread thread' := by
  cases h with
  | stops hattempts hne hcalls =>
      obtain ⟨exc, hexc⟩ := (hcalls.quiet hplain).2 _ rfl
      exact absurd hexc (hne exc)
  | @ends before mid last start told entry hattempts hcalls hends hedits hentry =>
      obtain ⟨rfl, rfl⟩ := hattempts.smooth hV
        (((hcalls.frame hframe).trans (hedits.frame.trans (.append _ _ _))).before hsmooth)
      have hquiet := (hcalls.quiet hplain).1.trans hedits
      have htells := hcalls.executes.2 told rfl
      have hrecorded := hentry.recorded (fun output handle htold => absurd htold (hends _ _)) htells
      have hentries := hquiet.appended (engine.newEntry node mid.ctx.toScope) entry
      refine ⟨⟨_, rfl⟩, VisitsAll.below hrecorded hentries hquiet.triggerData ?_⟩
      rw [Visited.targets_ends hends htells.fits]
      exact visitsAll_nil _
  | @proceeds before mid after last ended hattempts hproceeds _ =>
      obtain ⟨rfl, rfl⟩ := hattempts.smooth hV ((hproceeds.frame hframe).before hsmooth)
      obtain ⟨called, start, output, entry, hcalls, hedits, hentry, houtput, rfl, htraverses⟩ :=
        hproceeds
      obtain ⟨rfl, hbelow⟩ := htraverses.visits hV
        (fun _ hmem => (WorkflowGraph.mem_getSuccessors hmem).1) hsmooth
      have hquiet := (hcalls.quiet hplain).1.trans hedits
      have htells := hcalls.executes.2 _ rfl
      have hrecorded := Entry.Updates.recorded hentry (fun _ _ htold => by cases htold; exact houtput)
        htells
      have hentries := hquiet.appended (engine.newEntry node mid.ctx.toScope) entry
      refine ⟨⟨_, rfl⟩, VisitsAll.below hrecorded hentries hquiet.triggerData ?_⟩
      rwa [Visited.targets_proceeds hplain rfl htells.fits]
  | givesUp hattempts hcalls hgives =>
      obtain ⟨rfl, -⟩ := hattempts.smooth hV ((hgives.frame hframe).before hsmooth)
      exact absurd rfl hcalls

theorem Activates.visits (hplain : node.type.Plain)
    (h : Activates V engine workflow node depth thread thread' outcome)
    (hsmooth : ∀ event ∈ thread'.trace, event.smooth = true) :
    outcome = .ok () ∧ VisitsAll engine workflow [node] thread thread' := by
  have hbodyVisits : ∀ {last result}, Body V engine workflow node depth
      { entry := engine.newEntry node thread.ctx.toScope }
      (thread.log [.arrived (thread.site workflow node depth)]) last result →
      (∀ event ∈ last.trace, event.smooth = true) → (∃ activation, result = .ok (activation, .ok ())) ∧
        VisitsAll engine workflow [node] (thread.log [.arrived (thread.site workflow node depth)]) last :=
    fun hbody hlast => Body.visits hV hframe hplain hbody hlast
  cases h with
  | mergeRaised message htype => simp [htype, NodeType.Plain] at hplain
  | mergeSkipped hincoming htype => simp [htype, NodeType.Plain] at hplain
  | stops _ hbody =>
      obtain ⟨⟨_, hresult⟩, _⟩ := hbodyVisits hbody hsmooth
      exact nomatch hresult
  | left _ hbody =>
      obtain ⟨⟨_, hresult⟩, hvisits⟩ := hbodyVisits hbody ((Frame.log _ _).before hsmooth)
      obtain rfl := (Prod.mk.inj (Except.ok.inj hresult)).2
      exact ⟨rfl, hvisits⟩

end Activation

end Visits

/-! ## Runs -/

section Runs

variable {engine : WorkflowEngine} {workflow : Workflow}
  {replies : (request : Request) → Reply request → Prop}

theorem behaviour_visits (hplain : ∀ node ∈ workflow.graph.nodes, node.type.Plain) (fuel : Nat) :
    ∀ depth ≤ maxNodeDepth, maxNodeDepth < fuel + depth →
      Visits engine workflow (engine.Behaviour replies fuel) depth := by
  induction fuel with
  | zero => exact fun depth hdepth hfuel => by omega
  | succ fuel ih =>
      refine fun depth _ hfuel => ⟨behaviour_frame, fun hnode hvisit hsmooth => ?_⟩
      exact (behaviour_succ hvisit).visits (fun hdeeper => ih (depth + 1) hdeeper (by omega))
        behaviour_frame (hplain _ hnode) hsmooth

/-- In a run of a graph of plain nodes in which no executor raises and no path exceeds the depth
limit, the entries after that of the trigger are the depth-first preorder of the taken paths, and
a node has an entry for each taken path to it. -/
theorem traversal_preorder {fuel : Nat} (hfuel : maxNodeDepth < fuel) {triggerData : Dict}
    {dryRun : Bool} {parentChain : List String} {trace : List Event} {outcome : Outcome Execution}
    {trigger : Node} (htrigger : workflow.graph.findTrigger = some trigger)
    (hplain : ∀ node ∈ workflow.graph.nodes, node.type.Plain)
    (hrun : engine.Runs anyReply fuel workflow triggerData dryRun parentChain trace outcome)
    (hsmooth : ∀ event ∈ trace, event.smooth = true) :
    ∃ execution first forest, outcome = .ok execution ∧ execution.status = .success ∧
      Explores Edge.leavesBy engine workflow.graph triggerData
        (workflow.graph.getSuccessors trigger.id .null) forest ∧
      execution.nodeResults = first :: forest.preorder.map Visited.entry ∧
      execution.nodeResults.map Entry.nodeId =
        trigger.id :: forest.preorder.map (·.node.id) ∧
      forest.paths.Nodup ∧
      ∀ nodeId, (execution.nodeResults.map Entry.nodeId).tail.count nodeId =
        forest.paths.countP fun path => (forest.find path).any (·.node.id = nodeId) := by
  obtain ⟨id, ⟨ended, exit⟩, hended, rfl, rfl⟩ := hrun.fromTrigger
  cases hended with
  | noTrigger _ message hnone => exact nomatch htrigger.symm.trans hnone
  | @run trigger' entry _ start _ _ hfound hedits hentry hstatus htraversal =>
      obtain rfl : trigger' = trigger := Option.some.inj (hfound.symm.trans htrigger)
      have hempty : start.ctx.nodeResults = [] := hedits.nodeResults
      have hstart : (start.mapResults (· ++ [entry])).ctx.triggerData = triggerData :=
        hedits.triggerData
      obtain ⟨rfl, forest, hexplores, hresults⟩ := htraversal.visits
        (fun _ => behaviour_visits hplain fuel 0 (Nat.zero_le _) hfuel)
        (fun _ hmem => (WorkflowGraph.mem_getSuccessors hmem).1) hsmooth
      have hentries : ended.ctx.nodeResults = entry :: forest.preorder.map Visited.entry := by
        rw [hresults]
        simp [hempty]
      have hids : ended.ctx.nodeResults.map Entry.nodeId =
          trigger'.id :: forest.preorder.map (·.node.id) := by
        rw [hentries, List.map_cons, hentry, List.map_map]
        exact congrArg _ (List.map_congr_left fun visited hvisited =>
          (hexplores.recorded visited hvisited).nodeId)
      rw [hstart] at hexplores
      refine ⟨_, entry, forest, rfl, rfl, hexplores, hentries, hids, forest.nodup_paths,
        fun nodeId => ?_⟩
      rw [hids, List.tail_cons, List.count_eq_countP, List.countP_map, forest.countP_preorder]
      rfl

end Runs

namespace Sample

def switch : Node where
  id := "pick"
  type := .switch
  config := { field := some "kind", cases := some [⟨some (.str "rush"), some .null⟩] }

def nullHandle : Workflow where
  id := "null-handle"
  nodes := [trigger, switch, { id := "air", type := .transform }, { id := "sea", type := .transform }]
  edges := [⟨"start", "pick", none⟩, ⟨"pick", "air", some "a"⟩, ⟨"pick", "sea", some "b"⟩]

def rush : Dict := [("kind", .str "rush")]

def recordsNull (entry : Entry) : Bool :=
  match entry.rawOutput.map NodeType.switch.handleOf with
  | some .null => true
  | _ => false

def picked : Thread × Outcome Execution :=
  (engine []).played answer first (maxNodeDepth + 1) nullHandle rush false

end Sample

/-- The run of the switch visits the taken paths. -/
theorem traversal_preorder_picked : ∃ execution entry forest,
    Sample.picked.2 = .ok execution ∧ execution.status = .success ∧
      Explores Edge.leavesBy (Sample.engine []) Sample.nullHandle.graph Sample.rush
        (Sample.nullHandle.graph.getSuccessors Sample.trigger.id .null) forest ∧
      execution.nodeResults = entry :: forest.preorder.map Visited.entry ∧
      execution.nodeResults.map Entry.nodeId =
        Sample.trigger.id :: forest.preorder.map (·.node.id) ∧
      forest.paths.Nodup ∧
      ∀ nodeId, (execution.nodeResults.map Entry.nodeId).tail.count nodeId =
        forest.paths.countP fun path => (forest.find path).any (·.node.id = nodeId) :=
  traversal_preorder (Nat.lt_succ_self _) rfl (by decide +kernel)
    (runs_played Sample.answer_any Sample.first Sample.rush false) (by decide +kernel)

/-- A switch that returned a null handle takes no edge that has just this handle. -/
theorem Visited.targets_startsAt_null {visited : Visited} {output : Value}
    (htype : visited.node.type = .switch) (htold : visited.told = .proceeds output .null)
    (graph : WorkflowGraph) : visited.targets Edge.startsAt graph = [] := by
  have htaken : visited.taken Edge.startsAt graph = [] := by
    unfold Visited.taken
    rw [htype, htold]
    have hedge : ∀ edge : Edge, edge.startsAt .null = false := fun _ => rfl
    exact List.filter_eq_nil_iff.mpr fun edge _ => by simp [hedge]
  rw [Visited.targets, htaken, List.filterMap_nil]

/-- Both nodes are visited, although neither edge has the handle that the switch returned. -/
theorem null_handle_followed :
    (∀ node ∈ Sample.nullHandle.graph.nodes, node.type.Plain) ∧
      (∀ event ∈ Sample.picked.1.trace, event.smooth = true) ∧
      ∃ execution, Sample.picked.2 = .ok execution ∧
        execution.nodeResults.map Entry.nodeId = ["start", "pick", "air", "sea"] ∧
        ¬ ∃ entry forest, Explores Edge.startsAt (Sample.engine []) Sample.nullHandle.graph Sample.rush
            (Sample.nullHandle.graph.getSuccessors Sample.trigger.id .null) forest ∧
          execution.nodeResults = entry :: forest.preorder.map Visited.entry := by
  have hpicked : Sample.picked.2.toOption.any (fun execution =>
      execution.nodeResults.map Entry.nodeId = ["start", "pick", "air", "sea"] ∧
        (execution.nodeResults.tail.head?.any Sample.recordsNull) = true) = true := by
    decide +kernel
  have hsuccessors : Sample.nullHandle.graph.getSuccessors Sample.trigger.id .null =
    [Sample.switch] := rfl
  refine ⟨by decide +kernel, by decide +kernel, ?_⟩
  cases hrun : Sample.picked.2 with
  | error stop => simp [hrun, Except.toOption] at hpicked
  | ok execution =>
      simp only [hrun, Except.toOption, Option.any_some, decide_eq_true_eq] at hpicked
      obtain ⟨hids, hnull⟩ := hpicked
      refine ⟨execution, rfl, hids, ?_⟩
      rintro ⟨entry, forest, hexplores, hentries⟩
      rw [hsuccessors] at hexplores
      generalize hstart : [Sample.switch] = starts at hexplores
      cases hexplores with
      | none => exact absurd hstart (List.cons_ne_nil _ _)
      | @visit visited rest below beside hrecorded hbelow hbeside =>
          obtain ⟨hnode, rfl⟩ := List.cons.inj hstart
          cases hbeside
          have htype : visited.node.type = .switch := hnode ▸ rfl
          -- The visit of the switch proceeds by the handle in its entry, which is null.
          have hfits := hrecorded.tells.fits
          cases htold : visited.told with
          | filtered =>
              rw [htold, htype] at hfits
              cases hfits
          | responded output =>
              rw [htold, htype] at hfits
              cases hfits
          | proceeds output handle =>
              rw [htold, htype] at hfits
              have houtput := hrecorded.output output handle htold
              rw [hentries] at hnull hids
              obtain rfl : handle = .null := by
                rw [hfits.2]
                simp only [Forest.preorder, List.map_cons, List.tail_cons, List.head?_cons,
                  Option.any_some, Sample.recordsNull, houtput, Option.map_some] at hnull
                split at hnull
                · next heq => exact Option.some.inj heq
                · cases hnull
              rw [Visited.targets_startsAt_null htype htold] at hbelow
              cases hbelow
              simp [Forest.preorder] at hids

end IntegrationPlatform
