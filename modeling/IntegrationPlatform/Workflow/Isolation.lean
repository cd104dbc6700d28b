import IntegrationPlatform.Workflow.Determinism
import IntegrationPlatform.Workflow.Objects
import IntegrationPlatform.Workflow.Region
import IntegrationPlatform.Workflow.Sample

/-!
# Isolation of parallel branches

Below a node from which only orderly nodes are reached (no merge nodes, and batches that process
one item at a time) every activation is settled. The branches of a parallel node then end as they
do alone, each in its copy of the context, and the node joins them in the order of its successors,
whatever the scheduler picks. The copies have the objects of node configurations in common: `BranchesApart`
leaves out the branches that change these in place.
-/

namespace IntegrationPlatform

open Resumption Eng WorkflowEngine

/-! ## What a node leads to -/

/-- A node of a workflow. -/
abbrev Place := Workflow × Node

/-- The nodes that an activation of a node can start: the targets of its edges, the handler of its
errors, the nodes that it processes items with, and where its sub-workflow starts. -/
inductive Leads (engine : WorkflowEngine) : Place → Place → Prop where
  | successor {workflow node target} : target ∈ workflow.graph.getSuccessors node.id .null →
      Leads engine (workflow, node) (workflow, target)
  | handler {workflow node handler} : workflow.graph.findErrorHandler node.id = some handler →
      Leads engine (workflow, node) (workflow, handler)
  | item {workflow node target} : node.type = .batch → target ∈ batchBody workflow node →
      Leads engine (workflow, node) (workflow, target)
  | child {workflow node child trigger target} : node.type = .subWorkflow →
      child ∈ engine.workflows → child.id = node.config.workflowId.getD "" →
      child.tenantId = workflow.tenantId → child.graph.findTrigger = some trigger →
      target ∈ child.graph.getSuccessors trigger.id .null →
      Leads engine (workflow, node) (child, target)

/-- A batch that processes one item at a time. -/
def NodeConfig.OneAtATime (config : NodeConfig) : Prop :=
  config.onItemError.getD "continue" = "stop" ∨ config.concurrency.getD 5 ≤ 1

/-- The node joins no paths, and a batch processes one item at a time. -/
structure Node.Orderly (node : Node) : Prop where
  merge : node.type ≠ .merge
  batch : node.type = .batch → node.config.OneAtATime

/-- Only orderly nodes are reached from a node. -/
def LeadsInOrder (engine : WorkflowEngine) (place : Place) : Prop :=
  ∀ reached, Relation.ReflTransGen (Leads engine) place reached → reached.2.Orderly

/-- The branches of a parallel node reach orderly nodes only, and have no object in common that they change:
no node of them puts an object of its configuration into a context, or all of them keep objects. -/
structure BranchesApart (engine : WorkflowEngine) (workflow : Workflow) (node : Node) : Prop where
  orderly : ∀ branch ∈ workflow.graph.getSuccessors node.id (.str "branch"),
    LeadsInOrder engine (workflow, branch)
  objects : (∀ branch ∈ workflow.graph.getSuccessors node.id (.str "branch"), ∀ reached : Place,
      Relation.ReflTransGen (Leads engine) (workflow, branch) reached →
        ∀ value ∈ reached.2.handsOut, value.mutable = false) ∨
    ∀ branch ∈ workflow.graph.getSuccessors node.id (.str "branch"), ∀ reached : Place,
      Relation.ReflTransGen (Leads engine) (workflow, branch) reached → reached.2.KeepsObjects reached.1

section Settling

variable {engine : WorkflowEngine} {answer : (request : Request) → Reply request} {visit : Visit}
  {workflow : Workflow} {node : Node} {depth : Nat} {nodes : List Node}

theorem WorkflowGraph.getSuccessors_subset (graph : WorkflowGraph) (nodeId : String)
    (handle : Value) : graph.getSuccessors nodeId handle ⊆ graph.getSuccessors nodeId .null := by
  intro target htarget
  obtain ⟨edge, hedge, htarget⟩ := List.mem_filterMap.mp htarget
  refine List.mem_filterMap.mpr ⟨edge, ?_, htarget⟩
  simp only [outgoing, List.mem_filter, Bool.and_eq_true] at hedge ⊢
  exact ⟨hedge.1, hedge.2.1, rfl⟩

/-! ## Traversals -/

theorem settled_executeEach (h : ∀ node ∈ nodes, Settled answer (visit workflow node depth)) :
    Settled answer (executeEach visit workflow depth nodes) := by
  induction nodes with
  | nil => exact settled_pure ()
  | cons node rest ih =>
      obtain ⟨hnode, hrest⟩ := List.forall_mem_cons.mp h
      exact hnode.bind fun _ => ih hrest

theorem settled_executeNodes (h : ∀ node ∈ nodes, Settled answer (visit workflow node depth)) :
    Settled answer (executeNodes visit workflow nodes depth) := by
  unfold executeNodes
  split
  · exact settled_getContext.bind fun ctx => (settled_emitAll _).bind fun _ => settled_raise _
  · exact settled_executeEach h

theorem settled_executeIfAny (h : ∀ node ∈ nodes, Settled answer (visit workflow node depth)) :
    Settled answer (executeIfAny visit workflow nodes depth) := by
  cases nodes with
  | nil => exact settled_pure ()
  | cons node rest => exact settled_executeNodes h

theorem settled_traverse {calls : List CallOutcome}
    (h : ∀ target ∈ nodes, Settled answer (visit workflow target (depth + 1))) :
    Settled answer (traverse visit workflow node depth calls nodes) := by
  refine (settled_executeIfAny h).attempt.bind fun ended => ?_
  cases ended with
  | ok value => exact settled_pure _
  | error exc => exact (settled_emitAt _ _ _ _).bind fun _ => settled_pure _

/-! ## Loops -/

theorem settled_execLoop
    (h : ∀ target ∈ workflow.graph.getSuccessors node.id (.str "default"),
      Settled answer (visit workflow target (depth + 1))) :
    Settled answer (engine.execLoop visit workflow node depth) := by
  have hitems : ∀ itemVar indexVar index items, Settled answer
      (loopItems visit workflow node depth itemVar indexVar
        (workflow.graph.getSuccessors node.id (.str "default")) index items) := by
    intro itemVar indexVar index items
    induction items generalizing index with
    | nil => exact settled_pure _
    | cons item rest ih =>
        refine (settled_modifyScope _).bind fun _ => settled_getContext.bind fun before => ?_
        refine ((settled_traverse h).bind fun ended => settled_ofExcept ended).bind fun _ => ?_
        exact settled_getContext.bind fun after => (ih _).bind fun results => settled_pure _
  refine settled_getContext.bind fun ctx => ?_
  split
  · exact (hitems _ _ _ _).bind fun results => (settled_modifyScope _).bind fun _ => settled_pure _
  · exact settled_pure _

/-! ## Parallel branches -/

theorem settled_absorb (ended : List (Thread × Outcome Unit)) :
    Settled answer (absorb ended) := by
  refine (settled_emitAll _).bind fun _ => ?_
  split
  · exact settled_halt _
  · exact settled_modifyResults _

/-- What a parallel node does with branches that have ended. -/
def joinBranches (successors : List Node) (branches : List (Node × Thread × Outcome Unit)) :
    Eng Value := do
  absorb (branches.map fun branch => branch.2)
  let results : Dict := branches.foldl (fun results branch =>
    Assoc.put results branch.1.id (branchOutput branch.1 branch.2)) []
  modifyScope fun scope => branches.foldl (fun scope branch =>
    scope.setNodeOutput branch.1.id (branchOutput branch.1 branch.2)) scope
  modifyScope fun scope => scope.setVar "parallel_results" (.dict results)
  return .dict [("parallel_branches", .int successors.length), ("results", .dict results)]

theorem settled_joinBranches (successors : List Node)
    (branches : List (Node × Thread × Outcome Unit)) :
    Settled answer (joinBranches successors branches) :=
  (settled_absorb _).bind fun _ => (settled_modifyScope _).bind fun _ =>
    (settled_modifyScope _).bind fun _ => settled_pure _

theorem exists_lookup {β : Type} {entries : List (Nat × β)} {key : Nat}
    (h : key ∈ entries.map Prod.fst) :
    ∃ value, List.lookup key entries = some value ∧ (key, value) ∈ entries := by
  cases hfound : List.lookup key entries with
  | none =>
      obtain ⟨entry, hentry, hkey⟩ := List.mem_map.mp h
      have hne := List.lookup_eq_none_iff.mp hfound entry hentry
      simp [hkey] at hne
  | some value =>
      obtain ⟨before, after, heq, _⟩ := List.lookup_eq_some_iff.mp hfound
      exact ⟨value, rfl, by simp [heq]⟩

variable {alone : Node → Thread × Outcome Unit}

theorem branchesInOrder_eq {successors : List Node} {ended : List (Nat × Thread × Outcome Unit)}
    (hended : ∀ piece ∈ ended, ∀ branch, successors[piece.1]? = some branch →
      piece.2 = alone branch)
    (hkeys : (ended.map Prod.fst).Perm (List.range successors.length)) :
    branchesInOrder successors ended = successors.map fun branch => (branch, alone branch) := by
  have hlookup : ∀ entry ∈ successors.zipIdx,
      (List.lookup entry.2 ended).map (fun piece => (entry.1, piece)) =
        some (entry.1, alone entry.1) := by
    intro entry hentry
    have hbranch : successors[entry.2]? = some entry.1 := List.mk_mem_zipIdx_iff_getElem?.mp hentry
    have hmem : entry.2 ∈ ended.map Prod.fst := by
      rw [hkeys.mem_iff, List.mem_range]
      exact (List.getElem?_eq_some_iff.mp hbranch).1
    obtain ⟨piece, hfound, hpiece⟩ := exists_lookup hmem
    rw [hfound, Option.map_some, show piece = alone entry.1 from hended _ hpiece entry.1 hbranch]
  calc branchesInOrder successors ended
      = successors.zipIdx.filterMap fun entry => some (entry.1, alone entry.1) :=
        List.filterMap_congr hlookup
    _ = successors.zipIdx.map fun entry => (entry.1, alone entry.1) :=
        congrFun List.filterMap_eq_map' _
    _ = (successors.zipIdx.map Prod.fst).map fun branch => (branch, alone branch) := by
        rw [List.map_map]
        rfl
    _ = successors.map fun branch => (branch, alone branch) := by rw [List.zipIdx_map_fst]

/-- A parallel node joins its branches as each of them ends alone. -/
theorem sat_execParallel_alone {thread : Thread} {P : Thread → Outcome Value → Prop}
    (halone : ∀ branch ∈ workflow.graph.getSuccessors node.id (.str "branch"),
      Sat (freely answer) (visit workflow branch (depth + 1)) ⟨branchContext thread.ctx, []⟩
        fun thread' outcome => (thread', outcome) = alone branch)
    (hnone : workflow.graph.getSuccessors node.id (.str "branch") = [] →
      P thread (.ok (.dict [("parallel_branches", .int 0), ("results", .dict [])])))
    (hjoin : workflow.graph.getSuccessors node.id (.str "branch") ≠ [] →
      Sat (freely answer) (joinBranches (workflow.graph.getSuccessors node.id (.str "branch"))
        ((workflow.graph.getSuccessors node.id (.str "branch")).map fun branch =>
          (branch, alone branch))) thread P) :
    Sat (freely answer) (execParallel visit workflow node depth) thread P := by
  unfold execParallel
  split
  · next hsuccessors => exact sat_pure (hnone hsuccessors)
  · next first others hsuccessors =>
    rw [hsuccessors] at halone hjoin
    rw [sat_getContext_bind]
    refine sat_gather_bind (M := fun index thread' outcome => ∀ branch,
      (first :: others)[index]? = some branch → (thread', outcome) = alone branch) ?_ ?_
    · intro task htask
      obtain ⟨⟨branch, index⟩, hbranch, rfl⟩ := List.mem_map.mp htask
      have hindex := List.mk_mem_zipIdx_iff_getElem?.mp hbranch
      refine (halone branch (List.mem_of_getElem? hindex)).mono fun _ _ h branch' hbranch' => ?_
      rw [h, Option.some.inj (hindex.symm.trans hbranch')]
    · intro ended hended hkeys
      have hrange : (ended.map Prod.fst).Perm (List.range (first :: others).length) := by
        refine hkeys.trans (.of_eq ?_)
        rw [List.map_map, List.range_eq_range', ← List.zipIdx_map_snd 0 (first :: others)]
        rfl
      have hbranches : branchesInOrder (first :: others) ended = _ :=
        branchesInOrder_eq (fun piece hpiece => hended piece hpiece) hrange
      show Sat _ (joinBranches (first :: others) (branchesInOrder (first :: others) ended)) thread P
      rw [hbranches]
      exact hjoin (by simp)

theorem exists_alone
    (h : ∀ branch ∈ workflow.graph.getSuccessors node.id (.str "branch"),
      Settled answer (visit workflow branch (depth + 1))) (thread : Thread) :
    ∃ alone : Node → Thread × Outcome Unit,
      ∀ branch ∈ workflow.graph.getSuccessors node.id (.str "branch"),
        Sat (freely answer) (visit workflow branch (depth + 1)) ⟨branchContext thread.ctx, []⟩
          fun thread' outcome => (thread', outcome) = alone branch := by
  have : Nonempty (Thread × Outcome Unit) := ⟨(thread, .ok ())⟩
  choose! alone halone using fun branch hbranch => h branch hbranch ⟨branchContext thread.ctx, []⟩
  exact ⟨alone, halone⟩

theorem settled_execParallel
    (h : ∀ branch ∈ workflow.graph.getSuccessors node.id (.str "branch"),
      Settled answer (visit workflow branch (depth + 1))) :
    Settled answer (execParallel visit workflow node depth) := by
  intro thread
  obtain ⟨alone, halone⟩ := exists_alone h thread
  have hjoin : Settled answer (joinBranches (workflow.graph.getSuccessors node.id (.str "branch"))
      ((workflow.graph.getSuccessors node.id (.str "branch")).map fun branch =>
        (branch, alone branch))) := settled_joinBranches _ _
  obtain ⟨result, hresult⟩ := hjoin thread
  by_cases hempty : workflow.graph.getSuccessors node.id (.str "branch") = []
  · exact ⟨_, sat_execParallel_alone halone (fun _ => rfl) fun hne => absurd hempty hne⟩
  · exact ⟨result, sat_execParallel_alone halone (fun hnone => absurd hnone hempty) fun _ => hresult⟩

/-! ## Batches -/

theorem settled_itemBody (index : Nat)
    (h : ∀ target ∈ nodes, Settled answer (visit workflow target (depth + 1))) :
    Settled answer (itemBody visit workflow node depth nodes index) :=
  (settled_sleepIf _ _).bind fun _ => (settled_executeIfAny h).isolated _

theorem settled_stopItems (ctx : WorkflowContext) (index : Nat) (items : List Value)
    (h : ∀ target ∈ nodes, Settled answer (visit workflow target (depth + 1))) :
    Settled answer (stopItems visit workflow node depth nodes ctx index items) := by
  induction items generalizing index with
  | nil => exact settled_pure _
  | cons item rest ih =>
      refine ((settled_itemBody index h).fork _).bind fun ended => ?_
      refine (settled_absorb _).bind fun _ => ?_
      split
      · exact (ih _).bind fun results => settled_pure _
      · exact settled_pure _

theorem settled_gatherItems (ctx : WorkflowContext) {concurrency : Nat} (hone : concurrency ≤ 1)
    (items : List Value) (h : ∀ target ∈ nodes, Settled answer (visit workflow target (depth + 1))) :
    Settled answer (gatherItems visit workflow node depth nodes ctx concurrency items) := by
  unfold gatherItems
  rw [show concurrency - 1 = 0 by omega]
  refine (settled_gather_zero ?_ ?_).bind fun ended => (settled_absorb _).bind fun _ =>
    settled_pure _
  · rw [List.map_map]
    exact List.zipIdx_map_snd 0 items ▸ List.nodup_range'
  · intro task htask
    obtain ⟨⟨item, index⟩, _, rfl⟩ := List.mem_map.mp htask
    exact settled_itemBody index h

theorem settled_execBatch (hone : node.config.OneAtATime)
    (h : ∀ target ∈ batchBody workflow node, Settled answer (visit workflow target (depth + 1))) :
    Settled answer (engine.execBatch visit workflow node depth) := by
  refine settled_getContext.bind fun ctx => ?_
  dsimp only
  split
  · split
    · exact settled_raise _
    · split
      · exact settled_halt _
      · refine Settled.bind ?_ fun results => (settled_modifyScope _).bind fun _ => settled_pure _
        unfold processItems
        split
        · exact settled_stopItems _ _ _ h
        · next hstop =>
          refine settled_gatherItems _ ?_ _ h
          have hconcurrency := hone.resolve_left hstop
          omega
  · exact settled_pure _

/-! ## Sub-workflows -/

theorem settled_executeWorkflow (child : Workflow) (triggerData : Dict) (dryRun : Bool)
    (parentChain : List String)
    (h : ∀ trigger target, child.graph.findTrigger = some trigger →
      target ∈ child.graph.getSuccessors trigger.id .null → ∀ depth,
      Settled answer (visit child target depth)) :
    Settled answer (engine.executeWorkflow visit child triggerData dryRun parentChain) := by
  have hbody : Settled answer (engine.executeFromTrigger visit child triggerData) := by
    refine settled_getContext.bind fun ctx => (settled_emitAll _).bind fun _ => ?_
    split
    · exact settled_raise _
    · next trigger htrigger =>
      refine (settled_modifyScope _).bind fun _ => settled_getContext.bind fun ctx => ?_
      refine (settled_modifyResults _).bind fun _ => settled_executeNodes fun target htarget => ?_
      exact h trigger target htrigger htarget 0
  refine (settled_ask _).bind fun id => ((hbody.isolated _).fork _).bind fun ended => ?_
  exact (settled_emitAll _).bind fun _ => settled_halt _

theorem settled_execSubWorkflow {config : NodeConfig}
    (h : ∀ child ∈ engine.workflows, child.id = config.workflowId.getD "" →
      child.tenantId = workflow.tenantId → ∀ trigger target,
      child.graph.findTrigger = some trigger →
      target ∈ child.graph.getSuccessors trigger.id .null → ∀ depth,
      Settled answer (visit child target depth)) :
    Settled answer (engine.execSubWorkflow visit config workflow) := by
  unfold execSubWorkflow
  dsimp only
  split
  · exact settled_raise _
  · refine settled_getContext.bind fun ctx => ?_
    split
    · exact settled_raise _
    · next child hchild =>
      have hprop : child.id = config.workflowId.getD "" ∧ child.tenantId = workflow.tenantId := by
        simpa using List.find?_some hchild
      split
      · exact (settled_emitAll _).bind fun _ => settled_raise _
      · split
        · exact (settled_emitAll _).bind fun _ => settled_raise _
        · refine (settled_executeWorkflow child _ _ _
            (h child (List.mem_of_find?_eq_some hchild) hprop.1 hprop.2)).bind fun execution => ?_
          split
          · exact settled_raise _
          · exact settled_pure _

/-! ## Activations -/

section Activation

/-- What an activation of a node can start is settled. -/
def StartsSettled (answer : (request : Request) → Reply request) (engine : WorkflowEngine)
    (visit : Visit) (workflow : Workflow) (node : Node) : Prop :=
  ∀ place, Leads engine (workflow, node) place → ∀ depth,
    Settled answer (visit place.1 place.2 depth)

variable (h : StartsSettled answer engine visit workflow node)
include h

theorem StartsSettled.successors (handle : Value) (depth : Nat) :
    ∀ target ∈ workflow.graph.getSuccessors node.id handle,
      Settled answer (visit workflow target depth) :=
  fun target htarget => h (workflow, target)
    (.successor (workflow.graph.getSuccessors_subset node.id handle htarget)) depth

theorem settled_execNode (horderly : node.Orderly) :
    Settled answer (engine.execNode visit workflow node depth) := by
  unfold execNode
  split
  all_goals rename_i htype
  · exact (settled_execAction _ _).map _
  · exact (settled_execThink _ _).map _
  · exact (settled_execCondition _).bind fun result => settled_pure _
  · exact (settled_execSwitch _).bind fun result => settled_pure _
  · exact (settled_execTransform _).map _
  · refine (settled_execFilter _).bind fun passed => ?_
    split
    · exact settled_getContext.bind fun ctx => settled_pure _
    · exact settled_pure _
  · exact (settled_execDelay _).map _
  · exact (settled_execLoop (h.successors _ _)).bind fun output => settled_pure _
  · exact (settled_execHttpRequest _ _).map _
  · exact (settled_execSetVariable _).map _
  · exact absurd htype horderly.merge
  · exact (settled_execParallel (h.successors _ _)).bind fun output => settled_pure _
  · exact (settled_execAggregate _).map _
  · refine (settled_execSubWorkflow fun child hchild hid htenant trigger target htrigger htarget => ?_).map _
    exact h (child, target) (.child htype hchild hid htenant htrigger htarget)
  · exact (settled_execErrorHandler _ _).map _
  · refine (settled_execBatch (horderly.batch htype) fun target htarget => ?_).bind fun output =>
      settled_pure _
    exact h (workflow, target) (.item htype htarget) _
  · exact (settled_execResponse _).map _
  · exact settled_pure _
  · exact settled_pure _

omit h in
theorem settled_callExecutor {α : Type} {executor : Eng α} (activation : Activation)
    (hexecutor : Settled answer executor) :
    Settled answer (callExecutor workflow node depth activation executor) := by
  refine (settled_emitAt _ _ _ _).bind fun _ => hexecutor.attempt.bind fun result => ?_
  cases result with
  | ok value => exact settled_pure _
  | error exc => exact (settled_emitAt _ _ _ _).bind fun _ => settled_pure _

theorem settled_giveUp (activation : Activation) (exc : Exc) :
    Settled answer (giveUp visit workflow node depth activation exc) := by
  refine (settled_appendEntry _ _).bind fun activation => ?_
  split
  · next handler hhandler =>
    have hvisit := h (workflow, handler) (.handler hhandler) (depth + 1)
    refine settled_getContext.bind fun ctx => (settled_modifyScope _).bind fun _ => ?_
    exact (settled_emitAt _ _ _ _).bind fun _ => hvisit.attempt.bind fun ended => settled_pure _
  · split
    · exact (settled_executeIfAny (h.successors _ _)).attempt.bind fun ended => settled_pure _
    · exact settled_pure _
    · exact settled_pure _

theorem settled_retryNode (remaining attempt : Nat) (activation : Activation) :
    Settled answer (engine.retryNode visit workflow node depth remaining attempt activation) := by
  have hretry : Settled answer (engine.execRetry workflow node) := by
    unfold execRetry
    split
    · exact settled_execAction _ _
    · exact settled_execHttpRequest _ _
    · exact settled_execThink _ _
  induction remaining generalizing attempt activation with
  | zero => exact settled_pure _
  | succ remaining ih =>
      refine (settled_ask _).bind fun _ => (settled_callExecutor activation hretry).bind fun called => ?_
      obtain ⟨activation', result⟩ := called
      cases result with
      | error exc => exact ih _ _
      | ok output =>
          refine (settled_modifyScope _).bind fun _ => (settled_appendEntry _ _).bind fun _ => ?_
          refine (settled_traverse (h.successors _ _)).bind fun ended => ?_
          cases ended with
          | ok value => exact settled_pure _
          | error exc => exact ih _ _

theorem settled_exceptClause (activation : Activation) (exc : Exc) :
    Settled answer (engine.exceptClause visit workflow node depth activation exc) := by
  unfold exceptClause
  dsimp only
  split
  · refine (settled_retryNode h _ _ _).bind fun result => ?_
    obtain ⟨activation', ended⟩ := result
    cases ended with
    | true => exact settled_pure _
    | false => exact settled_giveUp h _ _
  · exact settled_giveUp h _ _

theorem settled_tryNode (horderly : node.Orderly) (entry : Entry) :
    Settled answer (engine.tryNode visit workflow node depth entry) := by
  refine (settled_callExecutor _ (settled_execNode h horderly)).bind fun called => ?_
  obtain ⟨activation, result⟩ := called
  rcases result with exc | _ | output | ⟨output, handle⟩
  · exact settled_exceptClause h _ _
  · exact (settled_appendEntry _ _).bind fun _ => settled_pure _
  · refine (settled_modifyScope _).bind fun _ => (settled_complete _).bind fun _ => ?_
    exact (settled_appendEntry _ _).bind fun _ => settled_pure _
  · refine (settled_modifyScope _).bind fun _ => (settled_complete _).bind fun _ => ?_
    refine (settled_modifyScope _).bind fun _ => (settled_appendEntry _ _).bind fun _ => ?_
    refine (settled_traverse (h.successors _ _)).bind fun ended => ?_
    cases ended with
    | ok value => exact settled_pure _
    | error exc => exact settled_exceptClause h _ _

theorem settled_visitNode (horderly : node.Orderly) :
    Settled answer (engine.visitNode visit workflow node depth) := by
  have hgate : Settled answer (mergeGate workflow node) := by
    unfold mergeGate
    rw [if_neg horderly.merge]
    exact settled_pure _
  refine (settled_emitAt _ _ _ _).bind fun _ => hgate.bind fun gate => ?_
  split
  · exact (settled_emitAt _ _ _ _).bind fun _ => settled_raise _
  · exact settled_emitAt _ _ _ _
  · refine settled_getContext.bind fun before => (settled_tryNode h horderly _).bind fun result => ?_
    obtain ⟨activation, ended⟩ := result
    refine settled_getContext.bind fun after => (settled_emitAt _ _ _ _).bind fun _ => ?_
    exact settled_ofExcept _

end Activation

theorem settled_executeSingleNode (fuel : Nat) {place : Place} (h : LeadsInOrder engine place)
    (depth : Nat) : Settled answer (engine.executeSingleNode fuel place.1 place.2 depth) := by
  induction fuel generalizing place depth with
  | zero => exact settled_halt _
  | succ fuel ih =>
      refine settled_visitNode (fun place' hleads depth' => ih (fun reached hreached => ?_) depth')
        (h place .refl)
      exact h reached (.head hleads hreached)

/-! ## Parallel nodes -/

/-- The thread and the outcome of a parallel node whose branches ended so. -/
def joined (thread : Thread) (branches : List (Node × Thread × Outcome Unit)) :
    Thread × Outcome Value :=
  let results : Dict := branches.foldl (fun results branch =>
    Assoc.put results branch.1.id (branchOutput branch.1 branch.2)) []
  let output : Value :=
    .dict [("parallel_branches", .int branches.length), ("results", .dict results)]
  let pieces := branches.map fun branch => branch.2
  match branches with
  | [] => (thread, .ok output)
  | _ =>
      match pieces.findSome? fun piece => endless? piece.2 with
      | some stop => (thread.log (pieces.flatMap fun piece => piece.1.trace), .error stop)
      | none =>
          (((thread.join pieces).mapScope fun scope => branches.foldl (fun scope branch =>
              scope.setNodeOutput branch.1.id (branchOutput branch.1 branch.2)) scope).mapScope
                fun scope => scope.setVar "parallel_results" (.dict results), .ok output)

variable {c : Contract Request Reply MergeJoins}

theorem sat_absorb_bind {α : Type} {thread : Thread}
    {pieces : List (Thread × Outcome Unit)} {next : Unit → Eng α} {P : Thread → Outcome α → Prop}
    (hstop : ∀ stop, (pieces.findSome? fun piece => endless? piece.2) = some stop →
      P (thread.log (pieces.flatMap fun piece => piece.1.trace)) (.error stop))
    (hnone : (pieces.findSome? fun piece => endless? piece.2) = none →
      Sat c (next ()) (thread.join pieces) P) :
    Sat c (absorb pieces >>= next) thread P := by
  intro joins hjoins
  unfold absorb
  cases hfind : pieces.findSome? fun piece => endless? piece.2 with
  | some stop => exact ⟨hjoins, hstop stop hfind⟩
  | none => exact hnone hfind joins hjoins

theorem sat_joinBranches (thread : Thread)
    {branches : List (Node × Thread × Outcome Unit)} (hne : branches ≠ [])
    {successors : List Node} (hlength : successors.length = branches.length) :
    Sat c (joinBranches successors branches) thread fun thread' outcome =>
      (thread', outcome) = joined thread branches := by
  obtain ⟨first, rest, rfl⟩ := List.exists_cons_of_ne_nil hne
  unfold joinBranches joined
  rw [hlength]
  refine sat_absorb_bind (fun stop hstop => ?_) fun hnone => ?_
  · simp only [hstop]
  · rw [sat_modifyScope_bind, sat_modifyScope_bind]
    refine sat_pure ?_
    simp only [hnone]

theorem reached_mem (hnone : engine.workflows = []) {place reached : Place}
    (hmem : place.2 ∈ place.1.graph.nodes)
    (h : Relation.ReflTransGen (Leads engine) place reached) :
    reached.1 = place.1 ∧ reached.2 ∈ place.1.graph.nodes := by
  induction h with
  | refl => exact ⟨rfl, hmem⟩
  | tail _ hleads ih =>
      obtain ⟨hworkflow, -⟩ := ih
      cases hleads with
      | successor htarget => exact ⟨hworkflow, hworkflow ▸ (WorkflowGraph.mem_getSuccessors htarget).1⟩
      | handler hhandler => exact ⟨hworkflow, hworkflow ▸ (WorkflowGraph.findErrorHandler_spec hhandler).1⟩
      | item _ htarget => exact ⟨hworkflow, hworkflow ▸ mem_batchBody htarget⟩
      | child _ hstored _ _ _ _ => simp [hnone] at hstored

theorem ends_play {α : Type} (pick : (width : Nat) → Fin (width + 1)) (body : Eng α)
    (thread : Thread) (joins : MergeJoins) :
    Ends (freely answer) body thread (play answer pick body thread joins).2.1
      (play answer pick body thread joins).2.2 := by
  have hanswer : ∀ request, onlyReply answer request (answer request) := fun _ => rfl
  exact ⟨joins, trivial,
    (Step.meets_replies _ _).ends_of_run (Step.play_run answer pick hanswer (body thread joins))⟩

end Settling

/-! ## Samples -/

namespace Sample

def split : Node where
  id := "split"
  type := .parallel

def twoActions : Workflow where
  id := "two-actions"
  nodes := [trigger, split, action "left" "get" none none, action "right" "fail" none none]
  edges := [⟨"start", "split", none⟩, ⟨"split", "left", some "branch"⟩,
    ⟨"split", "right", some "branch"⟩]

def each : Node where
  id := "each"
  type := .batch
  config := { source := some "items" }

def batchBranch : Workflow where
  id := "batch-branch"
  nodes := [trigger, split, each, action "send" "get" none none]
  edges := [⟨"start", "split", none⟩, ⟨"split", "each", some "branch"⟩, ⟨"each", "send", some "body"⟩]

def twoItems : Thread where
  ctx := { data := [("items", .list [.int 1, .int 2])], triggerData := [] }

def itemOf (entry : Entry) : Option Int :=
  match Assoc.find entry.replayState.vars "batch_item" with
  | some (.int item) => some item
  | _ => none

def splitBatch (pick : (width : Nat) → Fin (width + 1)) : Thread × Outcome Value :=
  (play answer pick (execParallel ((engine []).executeSingleNode 3) batchBranch split 0) twoItems {}).2

def batchEnded (ended : List (Nat × Thread × Outcome Unit)) : Eng Value := do
  let results ← absorb (ended.map fun piece => piece.2) >>= fun _ =>
    Pure.pure (splitResults (resultsInOrder (branchContext twoItems.ctx) [.int 1, .int 2] ended))
  modifyScope fun scope => scope.setVar "batch_results" (.list results.1)
  return batchOutput 2 results.1 results.2

theorem play_each (visit : Visit) (depth : Nat) (pick : (width : Nat) → Fin (width + 1))
    (joins : MergeJoins) (before after : List Event) :
    play answer pick ((engine []).execBatch visit batchBranch each depth)
        (((Thread.mk (branchContext twoItems.ctx) []).log before).log after) joins =
      let ended := Step.playPool answer pick 4 20 joins
        ([(Value.int 1, 0), (.int 2, 1)].map fun (item, index) => (index, Step.launch joins
          (itemBody visit batchBranch each depth [action "send" "get" none none] index
            ⟨itemContext (branchContext twoItems.ctx) item index, []⟩))) []
      play answer pick (batchEnded ended.2)
        (((Thread.mk (branchContext twoItems.ctx) []).log before).log after) ended.1 := by
  have hsource : each.config.source.getD "" = "items" := rfl
  have hvalue : (engine []).resolveValue (((engine []).placeholder? "items").getD "items")
      (branchContext twoItems.ctx).toScope = .list [.int 1, .int 2] := rfl
  have hitems : slice [Value.int 1, Value.int 2] (min (each.config.maxItems.getD 1000) 10000) =
      [.int 1, .int 2] := rfl
  have hbody : batchBody batchBranch each = [action "send" "get" none none] := by
    simp [batchBody, WorkflowGraph.getSuccessors, WorkflowGraph.outgoing, WorkflowGraph.getNode,
      Workflow.graph, WorkflowGraph.ofLists, batchBranch, each, putNode, trigger, split, action,
      Edge.leavesBy, Value.pyEq]
  have hconcurrency : min (each.config.concurrency.getD 5) 50 = 5 := rfl
  have hmode : ¬ each.config.onItemError.getD "continue" = "stop" := by decide
  have hblocked : ¬ ((5 : Int) = 0 ∧ ¬ [Value.int 1, Value.int 2].isEmpty = true) := by decide
  simp only [execBatch, play_bind, play_getContext, Thread.log_ctx, hsource, hvalue, hitems, hbody,
    hconcurrency, if_neg (show ¬ (5 : Int) < 0 by decide), if_neg hblocked, processItems,
    if_neg hmode, gatherItems, play_gather answer pick _ 20, batchEnded]
  rfl

theorem splitBatch_first_ne_last :
    (splitBatch first).1.ctx.nodeResults.filterMap itemOf ≠
      (splitBatch last).1.ctx.nodeResults.filterMap itemOf := by
  have hsuccessors : batchBranch.graph.getSuccessors split.id (.str "branch") = [each] := by
    simp [WorkflowGraph.getSuccessors, WorkflowGraph.outgoing, WorkflowGraph.getNode, Workflow.graph,
      WorkflowGraph.ofLists, batchBranch, each, putNode, trigger, split, action, Edge.leavesBy,
      Value.pyEq]
  have hgate : mergeGate batchBranch each = Pure.pure (.ok true) := rfl
  have hexec : ∀ visit depth, (engine []).execNode visit batchBranch each depth = (do
      let output ← (engine []).execBatch visit batchBranch each depth
      return .proceeds output (.str "done")) := fun _ _ => rfl
  unfold splitBatch execParallel
  simp only [hsuccessors, play_bind, play_getContext, List.zipIdx_cons, List.zipIdx_nil,
    List.map_cons, List.map_nil, play_gather_single, executeSingleNode, visitNode, hgate, play_pure,
    play_emitAt, tryNode, callExecutor, play_attempt, hexec, play_each, Thread.log_ctx]
  -- No pool is left to the scheduler, so that the kernel computes both executions.
  decide +kernel

end Sample

end IntegrationPlatform
