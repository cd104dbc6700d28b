import IntegrationPlatform.Workflow.Behaviour

/-!
# What nested activations do

A `VisitRel` says what an activation of a node may do to the thread that runs it. The relations
of this module say what the engine does with activations that behave so: one after the other
(`Each`), below the depth limit (`Traversal`), from the trigger of a workflow (`FromTrigger`),
and anywhere inside the executor of a node (`Inside`). The main result is `sat_execNode`: an
executor does nothing else, provided that the activations it starts behave as they should.
-/

namespace IntegrationPlatform

open Resumption Eng WorkflowEngine

/-- A behaviour of activations: from a thread to a thread and an outcome. -/
abbrev VisitRel := Workflow → Node → Nat → Thread → Thread → Outcome Unit → Prop

/-- The outcome without the value. -/
def Outcome.void {α : Type} (outcome : Outcome α) : Outcome Unit :=
  outcome.map fun _ => ()

section Relations

variable (V : VisitRel)

/-- The nodes are visited one after the other, up to the first that does not return. -/
inductive Each (workflow : Workflow) (depth : Nat) :
    List Node → Thread → Thread → Outcome Unit → Prop where
  | nil (thread) : Each workflow depth [] thread thread (.ok ())
  | cons {node rest thread mid thread' outcome} :
      V workflow node depth thread mid (.ok ()) →
      Each workflow depth rest mid thread' outcome →
      Each workflow depth (node :: rest) thread thread' outcome
  | stop {node rest thread thread' stop} :
      V workflow node depth thread thread' (.error stop) →
      Each workflow depth (node :: rest) thread thread' (.error stop)

/-- The nodes are visited, unless the depth limit has been passed. -/
inductive Traversal (workflow : Workflow) (depth : Nat) (nodes : List Node) :
    Thread → Thread → Outcome Unit → Prop where
  | exceeded (thread message) : nodes ≠ [] → maxNodeDepth < depth →
      Traversal workflow depth nodes thread
        (thread.log [.depthExceeded thread.ctx.workflowChain workflow depth])
        (.error (.raised ⟨message, none⟩))
  | each {thread thread' outcome} : (nodes ≠ [] → depth ≤ maxNodeDepth) →
      Each V workflow depth nodes thread thread' outcome →
      Traversal workflow depth nodes thread thread' outcome

/-- A traversal on behalf of a node: what it raises is noted and becomes a value. -/
def Traverses (workflow : Workflow) (node : Node) (depth : Nat) (calls : List CallOutcome)
    (nodes : List Node) (thread thread' : Thread) : Outcome (Except Exc Unit) → Prop
  | .ok (.ok ()) => Traversal V workflow (depth + 1) nodes thread thread' (.ok ())
  | .ok (.error exc) => ∃ mid,
      Traversal V workflow (depth + 1) nodes thread mid (.error (.raised exc)) ∧
      thread' = mid.log [.descendantRaised (mid.site workflow node depth) calls exc]
  | .error stop => (∀ exc, stop ≠ .raised exc) ∧
      Traversal V workflow (depth + 1) nodes thread thread' (.error stop)

/-- The outcome of a traversal whose exception is raised again. -/
def rethrown : Outcome (Except Exc Unit) → Outcome Unit
  | .ok (.ok ()) => .ok ()
  | .ok (.error exc) => .error (.raised exc)
  | .error stop => .error stop

/-- The outcome of awaiting something whose exception is collected as a value. -/
def collected (outcome : Outcome Unit) : Outcome Unit :=
  match endless? outcome with
  | some stop => .error stop
  | none => .ok ()

theorem endless?_eq_some {outcome : Outcome Unit} {stop : Stop} :
    endless? outcome = some stop ↔ outcome = .error stop ∧ ∀ exc, stop ≠ .raised exc := by
  rcases outcome with (exc | _ | _) | _ <;> cases stop <;> simp [endless?]

theorem collected_outOfFuel {outcome : Outcome Unit} :
    collected outcome = .error .outOfFuel ↔ outcome = .error .outOfFuel := by
  rcases outcome with (exc | _ | _) | _ <;> simp [collected, endless?]

theorem void_finished (id : String) (workflow : Workflow) (triggerData : Dict)
    (ended : Thread × Outcome Unit) :
    (finished id workflow triggerData ended).void = collected ended.2 := by
  rcases ended with ⟨thread, ⟨⟨⟩⟩ | ⟨⟩⟩ <;> rfl

/-- An execution, from its trigger node. -/
inductive FromTrigger (workflow : Workflow) : Thread → Thread → Outcome Unit → Prop where
  | noTrigger (thread message) : workflow.graph.findTrigger = none →
      FromTrigger workflow thread (thread.log [.started thread.ctx.workflowChain workflow])
        (.error (.raised ⟨message, none⟩))
  | run {trigger entry thread start thread' outcome} :
      workflow.graph.findTrigger = some trigger →
      Edits (thread.log [.started thread.ctx.workflowChain workflow]) start →
      entry.nodeId = trigger.id → entry.status = .success →
      Traversal V workflow 0 (workflow.graph.getSuccessors trigger.id .null)
        (start.mapResults (· ++ [entry])) thread' outcome →
      FromTrigger workflow thread thread' outcome

/-- A thread for a branch or an item: a fresh one with the mode and the chain of its parent. -/
structure Forks (thread start : Thread) : Prop where
  trace : start.trace = []
  nodeResults : start.ctx.nodeResults = []
  dryRun : start.ctx.dryRun = thread.ctx.dryRun
  workflowChain : start.ctx.workflowChain = thread.ctx.workflowChain

/-- A branch of a parallel node, or an item of a batch. -/
inductive Piece (workflow : Workflow) (node : Node) (depth : Nat) (thread : Thread) :
    Thread → Outcome Unit → Prop where
  | branch {branch start thread' outcome} : node.type = .parallel →
      branch ∈ workflow.graph.getSuccessors node.id (.str "branch") → Forks thread start →
      V workflow branch (depth + 1) start thread' outcome →
      Piece workflow node depth thread thread' outcome
  | item {start thread' outcome} : node.type = .batch → Forks thread start →
      Traversal V workflow (depth + 1) (batchBody workflow node) start thread' outcome →
      Piece workflow node depth thread thread' outcome

/-- The thread in which pieces have been joined. -/
def Thread.join (thread : Thread) (pieces : List (Thread × Outcome Unit)) : Thread :=
  (thread.log (pieces.flatMap fun piece => piece.1.trace)).mapResults
    (· ++ pieces.flatMap fun piece => piece.1.ctx.nodeResults)

/-- What the executor of a node does: edits, loop bodies, branches and items, sub-workflows. -/
inductive Inside (engine : WorkflowEngine) (workflow : Workflow) (node : Node) (depth : Nat) :
    Thread → Thread → Outcome Unit → Prop where
  | edit {thread thread'} : Edits thread thread' →
      Inside engine workflow node depth thread thread' (.ok ())
  | raises {thread thread'} (exc) : Edits thread thread' →
      Inside engine workflow node depth thread thread' (.error (.raised exc))
  | blocks {thread thread'} : node.type = .batch → Edits thread thread' →
      Inside engine workflow node depth thread thread' (.error .blocked)
  | body {thread thread' ended} : node.type = .loop →
      Traverses V workflow node depth [] (workflow.graph.getSuccessors node.id (.str "default"))
        thread thread' ended →
      Inside engine workflow node depth thread thread' (rethrown ended)
  | join {thread pieces} : node.type = .parallel ∨ node.type = .batch →
      (∀ piece ∈ pieces, Piece V workflow node depth thread piece.1 piece.2) →
      (∀ piece ∈ pieces, endless? piece.2 = none) →
      Inside engine workflow node depth thread (thread.join pieces) (.ok ())
  | joinStops {thread stop} {pieces : List (Thread × Outcome Unit)}
      {piece : Thread × Outcome Unit} : node.type = .parallel ∨ node.type = .batch →
      (∀ piece ∈ pieces, Piece V workflow node depth thread piece.1 piece.2) →
      piece ∈ pieces → endless? piece.2 = some stop →
      Inside engine workflow node depth thread
        (thread.log (pieces.flatMap fun piece => piece.1.trace)) (.error stop)
  | refused (thread workflowId message) : node.type = .subWorkflow →
      Inside engine workflow node depth thread
        (thread.log [.nestingRefused thread.ctx.workflowChain workflow workflowId])
        (.error (.raised ⟨message, none⟩))
  | child {thread child data ended outcome} : node.type = .subWorkflow →
      child ∈ engine.workflows → child.tenantId = workflow.tenantId →
      child.id ∉ thread.ctx.workflowChain →
      FromTrigger V child
        ⟨initialContext child data thread.ctx.dryRun thread.ctx.workflowChain, []⟩ ended outcome →
      Inside engine workflow node depth thread (thread.log ended.trace) (collected outcome)
  | trans {thread mid thread' outcome} : Inside engine workflow node depth thread mid (.ok ()) →
      Inside engine workflow node depth mid thread' outcome →
      Inside engine workflow node depth thread thread' outcome

end Relations

/-! ## Frames -/

section Frames

variable {V : VisitRel} {engine : WorkflowEngine} {workflow : Workflow} {node : Node}
  {depth : Nat} {nodes : List Node} {thread thread' : Thread} {outcome : Outcome Unit}

theorem Each.frame (hV : ∀ {w n d t t' o}, V w n d t t' o → Frame t t')
    (h : Each V workflow depth nodes thread thread' outcome) : Frame thread thread' := by
  induction h with
  | nil thread => exact .refl thread
  | cons hvisit _ ih => exact (hV hvisit).trans ih
  | stop hvisit => exact hV hvisit

theorem Traversal.frame (hV : ∀ {w n d t t' o}, V w n d t t' o → Frame t t')
    (h : Traversal V workflow depth nodes thread thread' outcome) : Frame thread thread' := by
  cases h with
  | exceeded message _ _ => exact .log _ _
  | each _ heach => exact heach.frame hV

theorem Traverses.frame (hV : ∀ {w n d t t' o}, V w n d t t' o → Frame t t')
    {calls : List CallOutcome} {ended : Outcome (Except Exc Unit)}
    (h : Traverses V workflow node depth calls nodes thread thread' ended) :
    Frame thread thread' := by
  rcases ended with stop | exc | value
  · exact h.2.frame hV
  · obtain ⟨mid, hmid, rfl⟩ := h
    exact (hmid.frame hV).trans (.log _ _)
  · exact Traversal.frame hV h

theorem Frame.join (thread : Thread) (pieces : List (Thread × Outcome Unit)) :
    Frame thread (thread.join pieces) :=
  (Frame.log _ _).trans (.mapResults _ (by simp))

theorem Inside.frame (hV : ∀ {w n d t t' o}, V w n d t t' o → Frame t t')
    (h : Inside V engine workflow node depth thread thread' outcome) : Frame thread thread' := by
  induction h with
  | edit hedits => exact hedits.frame
  | raises exc hedits => exact hedits.frame
  | blocks _ hedits => exact hedits.frame
  | body _ hbody => exact hbody.frame hV
  | join _ _ _ => exact .join _ _
  | joinStops _ _ _ _ => exact .log _ _
  | refused thread workflowId message _ => exact .log _ _
  | child _ _ _ _ _ => exact .log _ _
  | trans _ _ ih ih' => exact ih.trans ih'

theorem Inside.quiet (h : Inside V engine workflow node depth thread thread' outcome)
    (hloop : node.type ≠ .loop) (hparallel : node.type ≠ .parallel) (hbatch : node.type ≠ .batch)
    (hsub : node.type ≠ .subWorkflow) : Quiet thread thread' outcome := by
  induction h with
  | edit hedits => exact ⟨hedits, fun _ h => nomatch h⟩
  | raises exc hedits => exact ⟨hedits, fun _ h => by cases h; exact ⟨exc, rfl⟩⟩
  | blocks htype _ => exact absurd htype hbatch
  | body htype _ => exact absurd htype hloop
  | join htype _ _ => exact (htype.elim hparallel hbatch).elim
  | joinStops htype _ _ _ => exact (htype.elim hparallel hbatch).elim
  | refused thread workflowId message htype => exact absurd htype hsub
  | child htype _ _ _ _ => exact absurd htype hsub
  | trans _ _ ih ih' => exact ⟨ih.1.trans ih'.1, ih'.2⟩

end Frames

/-! ## The engine behaves so -/

section Adequacy

variable {V : VisitRel} {engine : WorkflowEngine} {visit : Visit} {dryRun : Bool}
  {replies : (request : Request) → Reply request → Prop}

/-- The activations that `visit` stands for behave as `V` says, in a run of this mode. -/
def Behaves (replies : (request : Request) → Reply request → Prop) (dryRun : Bool) (visit : Visit)
    (V : VisitRel) : Prop :=
  (∀ {w n d t t' o}, V w n d t t' o → Frame t t') ∧
  ∀ workflow node depth thread, thread.ctx.dryRun = dryRun →
    Sat (engineContract replies dryRun workflow) (visit workflow node depth) thread
      (V workflow node depth thread)

variable (hvisit : Behaves replies dryRun visit V) {workflow : Workflow} {node : Node}
  {depth : Nat} {thread : Thread}
include hvisit

theorem sat_executeEach (nodes : List Node) (hdry : thread.ctx.dryRun = dryRun) :
    Sat (engineContract replies dryRun workflow) (executeEach visit workflow depth nodes) thread
      (Each V workflow depth nodes thread) := by
  induction nodes generalizing thread with
  | nil => exact sat_pure (.nil thread)
  | cons node rest ih =>
      refine (hvisit.2 workflow node depth thread hdry).bind (fun mid value hmid => ?_)
        fun _ _ hstop => .stop hstop
      exact (ih ((hvisit.1 hmid).dryRun.trans hdry)).mono fun _ _ h => .cons hmid h

theorem sat_executeNodes (nodes : List Node) (hne : nodes ≠ [] ∨ depth ≤ maxNodeDepth)
    (hdry : thread.ctx.dryRun = dryRun) :
    Sat (engineContract replies dryRun workflow) (executeNodes visit workflow nodes depth) thread
      (Traversal V workflow depth nodes thread) := by
  unfold executeNodes
  split
  · next hdeep =>
    refine sat_getContext_bind.mpr (sat_emit_bind.mpr (sat_raise ?_))
    exact .exceeded _ _ (hne.resolve_right (Nat.not_le.mpr hdeep)) hdeep
  · next hdeep =>
    exact (sat_executeEach hvisit nodes hdry).mono fun _ _ h =>
      .each (fun _ => Nat.not_lt.mp hdeep) h

theorem sat_executeIfAny (nodes : List Node) (hdry : thread.ctx.dryRun = dryRun) :
    Sat (engineContract replies dryRun workflow) (executeIfAny visit workflow nodes depth) thread
      (Traversal V workflow depth nodes thread) := by
  cases nodes with
  | nil => exact sat_pure (.each (by simp) (.nil thread))
  | cons node rest => exact sat_executeNodes hvisit _ (.inl (by simp)) hdry

theorem sat_executeFromTrigger (triggerData : Dict) (hdry : thread.ctx.dryRun = dryRun) :
    Sat (engineContract replies dryRun workflow)
      (engine.executeFromTrigger visit workflow triggerData) thread
      (FromTrigger V workflow thread) := by
  unfold executeFromTrigger
  rw [sat_getContext_bind, sat_emit_bind]
  split
  · next hnone => exact sat_raise (.noTrigger _ _ hnone)
  · next trigger htrigger =>
    rw [sat_modifyScope_bind, sat_getContext_bind, sat_modifyResults_bind]
    refine Sat.mono (sat_executeNodes hvisit _ (.inr (Nat.zero_le _)) ?_) fun _ _ h => ?_
    · exact hdry
    · exact .run htrigger (.setNodeOutput _ _ _) rfl rfl h

/-- `execute_workflow`: the execution of a workflow, and its history. -/
theorem sat_executeWorkflow (engine : WorkflowEngine) (workflow : Workflow) (triggerData : Dict)
    (chain : List String) {I : MergeJoins → Prop} :
    Sat ⟨I, fun request => dryRun = true → request.Harmless, replies⟩
      (engine.executeWorkflow visit workflow triggerData dryRun chain) thread
      fun thread' outcome => ∃ id ended,
        FromTrigger V workflow ⟨initialContext workflow triggerData dryRun chain, []⟩
          ended.1 ended.2 ∧
        thread' = thread.log ended.1.trace ∧
        outcome = finished id workflow triggerData ended := by
  have hbody : Sat (engineContract replies dryRun workflow)
      (engine.executeFromTrigger visit workflow triggerData)
      ⟨initialContext workflow triggerData dryRun chain, []⟩
      (FromTrigger V workflow ⟨initialContext workflow triggerData dryRun chain, []⟩) :=
    sat_executeFromTrigger hvisit triggerData rfl
  have hisolated : Sat ⟨I, fun request => dryRun = true → request.Harmless, replies⟩
      (isolated (fun _ => {}) (engine.executeFromTrigger visit workflow triggerData))
      ⟨initialContext workflow triggerData dryRun chain, []⟩
      (FromTrigger V workflow ⟨initialContext workflow triggerData dryRun chain, []⟩) :=
    sat_isolated (I := MergeJoins.Sound workflow.graph) (fun _ _ => MergeJoins.sound_empty _) hbody
  refine sat_ask_bind (fun _ => trivial) fun id _ => ?_
  refine sat_fork_bind hisolated fun ended hended => ?_
  exact sat_emitAll_bind.mpr (sat_halt ⟨id, ended, hended, rfl, rfl⟩)

theorem sat_traverse (calls : List CallOutcome) (nodes : List Node)
    (hdry : thread.ctx.dryRun = dryRun) :
    Sat (engineContract replies dryRun workflow) (traverse visit workflow node depth calls nodes)
      thread (Traverses V workflow node depth calls nodes thread) := by
  refine (sat_executeIfAny hvisit nodes hdry).attempt_bind (fun mid value hmid => ?_)
    (fun mid exc hmid => ?_) fun mid stop hne hmid => ⟨hne, hmid⟩
  · exact sat_pure hmid
  · exact sat_emitAt_bind.mpr (sat_pure ⟨mid, hmid, rfl⟩)

end Adequacy

/-! ## Inside an executor -/

/-- The piece did what an executor may do. -/
def Does {α : Type} (V : VisitRel) (engine : WorkflowEngine) (workflow : Workflow) (node : Node)
    (depth : Nat) (thread thread' : Thread) (outcome : Outcome α) : Prop :=
  Inside V engine workflow node depth thread thread' outcome.void

section Executors

variable {V : VisitRel} {engine : WorkflowEngine} {visit : Visit} {dryRun : Bool}
  {replies : (request : Request) → Reply request → Prop} {workflow : Workflow} {node : Node}
  {depth : Nat} {thread : Thread} {c : Contract Request Reply MergeJoins} {α β : Type}

variable {outcome : Outcome α}

theorem Quiet.does {thread' : Thread} (h : Quiet thread thread' outcome) :
    Does V engine workflow node depth thread thread' outcome := by
  cases outcome with
  | ok value => exact .edit h.1
  | error stop =>
      obtain ⟨exc, rfl⟩ := h.2 stop rfl
      exact .raises exc h.1

theorem Edits.does {mid thread' : Thread} (hedits : Edits thread mid)
    (h : Does V engine workflow node depth mid thread' outcome) :
    Does V engine workflow node depth thread thread' outcome :=
  .trans (.edit hedits) h

theorem sat_quiet_does {body : Eng α} (h : Sat c body thread (Quiet thread)) :
    Sat c body thread (Does V engine workflow node depth thread) :=
  h.mono fun _ _ hquiet => hquiet.does

theorem sat_does_bind {first : Eng α} {next : α → Eng β}
    (h : Sat c first thread (Does V engine workflow node depth thread))
    (hnext : ∀ thread' value, Does V engine workflow node depth thread thread' (.ok value) →
      Sat c (next value) thread' (Does V engine workflow node depth thread')) :
    Sat c (first >>= next) thread (Does V engine workflow node depth thread) :=
  h.bind (fun thread' value hmid => (hnext thread' value hmid).mono fun _ _ h' => .trans hmid h')
    fun _ _ hstop => hstop

variable (hvisit : Behaves replies dryRun visit V)
include hvisit

theorem Does.dryRun_eq {thread' : Thread} (h : Does V engine workflow node depth thread thread' outcome)
    (hdry : thread.ctx.dryRun = dryRun) : thread'.ctx.dryRun = dryRun :=
  ((Inside.frame hvisit.1 h).dryRun).trans hdry

theorem sat_executeBody (htype : node.type = .loop) (hdry : thread.ctx.dryRun = dryRun) :
    Sat (engineContract replies dryRun workflow)
      (executeBody visit workflow node depth
        (workflow.graph.getSuccessors node.id (.str "default"))) thread
      (Does V engine workflow node depth thread) := by
  refine Sat.bind (sat_traverse hvisit [] _ hdry) (fun mid ended hmid => ?_) fun mid stop hmid => ?_
  · have hbody : Inside V engine workflow node depth thread mid (rethrown (.ok ended)) :=
      .body htype hmid
    cases ended with
    | ok value => exact sat_pure hbody
    | error exc => exact sat_raise hbody
  · exact .body htype hmid

theorem sat_loopItems (htype : node.type = .loop) (itemVar indexVar : String) (index : Nat)
    (items : List Value) (hdry : thread.ctx.dryRun = dryRun) :
    Sat (engineContract replies dryRun workflow)
      (loopItems visit workflow node depth itemVar indexVar
        (workflow.graph.getSuccessors node.id (.str "default")) index items) thread
      (Does V engine workflow node depth thread) := by
  induction items generalizing thread index with
  | nil => exact sat_pure (.edit (.refl thread))
  | cons item rest ih =>
      unfold loopItems
      rw [sat_modifyScope_bind, sat_getContext_bind]
      have hedits : Edits thread (thread.mapScope fun scope =>
          (scope.setVar itemVar item).setVar indexVar (.int index)) :=
        (Edits.setVar thread itemVar item).trans (Edits.setVar _ indexVar (.int index))
      refine Sat.mono (sat_does_bind (sat_executeBody hvisit htype hdry) fun mid _ hmid => ?_)
        fun _ _ h => hedits.does h
      rw [sat_getContext_bind]
      refine sat_does_bind (ih (index + 1) (hmid.dryRun_eq hvisit hdry)) fun mid' results _ => ?_
      exact sat_quiet_does (quiet_pure _)

theorem sat_execLoop (htype : node.type = .loop) (hdry : thread.ctx.dryRun = dryRun) :
    Sat (engineContract replies dryRun workflow) (engine.execLoop visit workflow node depth) thread
      (Does V engine workflow node depth thread) := by
  unfold execLoop
  dsimp only
  rw [sat_getContext_bind]
  split
  · refine sat_does_bind (sat_loopItems hvisit htype _ _ _ _ hdry) fun thread' results _ => ?_
    exact sat_quiet_does (quiet_modifyScope (.setVar _ _ _) (quiet_pure _))
  · exact sat_quiet_does (quiet_pure _)

omit hvisit in
theorem sat_absorb (htype : node.type = .parallel ∨ node.type = .batch)
    {pieces : List (Thread × Outcome Unit)}
    (hpieces : ∀ piece ∈ pieces, Piece V workflow node depth thread piece.1 piece.2) :
    Sat c (absorb pieces) thread (Does V engine workflow node depth thread) := by
  unfold absorb
  rw [sat_emitAll_bind]
  split
  · next stop hstop =>
    obtain ⟨piece, hpiece, hendless⟩ := List.exists_of_findSome?_eq_some hstop
    exact sat_halt (.joinStops htype hpieces hpiece hendless)
  · next hnone =>
    exact fun _ hjoins => ⟨hjoins, .join htype hpieces (List.findSome?_eq_none_iff.mp hnone)⟩

omit hvisit in
theorem mem_branchesInOrder {successors : List Node} {ended : List (Nat × Thread × Outcome Unit)}
    {branch : Node × Thread × Outcome Unit} (h : branch ∈ branchesInOrder successors ended) :
    ∃ index, successors[index]? = some branch.1 ∧ (index, branch.2) ∈ ended := by
  obtain ⟨⟨node, index⟩, hnode, hlookup⟩ := List.mem_filterMap.mp h
  obtain ⟨piece, hfound, rfl⟩ := Option.map_eq_some_iff.mp hlookup
  obtain ⟨before, after, rfl, _⟩ := List.lookup_eq_some_iff.mp hfound
  exact ⟨index, List.mk_mem_zipIdx_iff_getElem?.mp hnode, by simp⟩

theorem sat_execParallel (htype : node.type = .parallel) (hdry : thread.ctx.dryRun = dryRun) :
    Sat (engineContract replies dryRun workflow) (execParallel visit workflow node depth) thread
      (Does V engine workflow node depth thread) := by
  unfold execParallel
  split
  · exact sat_quiet_does (quiet_pure _)
  · next first others hsuccessors =>
    rw [sat_getContext_bind]
    refine sat_gather_bind (M := fun _ => Piece V workflow node depth thread) ?_ ?_
    · intro task htask
      obtain ⟨⟨branch, index⟩, hbranch, rfl⟩ := List.mem_map.mp htask
      have hmem : branch ∈ workflow.graph.getSuccessors node.id (.str "branch") := by
        rw [hsuccessors]
        exact List.mem_of_getElem? (List.mk_mem_zipIdx_iff_getElem?.mp hbranch)
      have hforks : Forks thread ⟨branchContext thread.ctx, []⟩ := ⟨rfl, rfl, rfl, rfl⟩
      exact Sat.mono (hvisit.2 workflow branch (depth + 1) _ hdry) fun _ _ h =>
        .branch htype hmem hforks h
    · intro ended hended _
      refine sat_does_bind (sat_absorb (.inl htype) ?_) fun _ _ _ => ?_
      · intro piece hpiece
        obtain ⟨branch, hbranch, rfl⟩ := List.mem_map.mp hpiece
        obtain ⟨index, _, hmem⟩ := mem_branchesInOrder hbranch
        exact hended _ hmem
      · refine sat_quiet_does (quiet_modifyScope ?_ (quiet_modifyScope (.setVar _ _ _)
          (quiet_pure _)))
        exact .setNodeOutputs _ _ _ _

theorem sat_itemBody (htype : node.type = .batch) {start : Thread} (hforks : Forks thread start)
    (index : Nat) (hdry : thread.ctx.dryRun = dryRun) :
    Sat (engineContract replies dryRun workflow)
      (itemBody visit workflow node depth (batchBody workflow node) index) start
      (Piece V workflow node depth thread) := by
  refine sat_sleepIf_bind (sat_isolated (I := MergeJoins.Sound workflow.graph)
    (fun _ hjoins => hjoins) ?_)
  exact Sat.mono (sat_executeIfAny hvisit _ (hforks.dryRun.trans hdry)) fun _ _ h =>
    .item htype hforks h

theorem sat_stopItems (htype : node.type = .batch) (ctx : WorkflowContext)
    (hctx : ctx.dryRun = thread.ctx.dryRun ∧ ctx.workflowChain = thread.ctx.workflowChain)
    (index : Nat) (items : List Value) (hdry : thread.ctx.dryRun = dryRun) :
    Sat (engineContract replies dryRun workflow)
      (stopItems visit workflow node depth (batchBody workflow node) ctx index items) thread
      (Does V engine workflow node depth thread) := by
  induction items generalizing thread index with
  | nil => exact sat_pure (.edit (.refl thread))
  | cons item rest ih =>
      have hforks : Forks thread ⟨itemContext ctx item index, []⟩ := ⟨rfl, rfl, hctx.1, hctx.2⟩
      refine sat_fork_bind (sat_itemBody hvisit htype hforks index hdry) fun ended hended => ?_
      refine sat_does_bind (sat_absorb (.inr htype) (by simpa using hended)) fun mid _ hmid => ?_
      have hframe := Inside.frame hvisit.1 hmid
      split
      · refine sat_does_bind (ih ⟨hctx.1.trans hframe.dryRun.symm,
          hctx.2.trans hframe.workflowChain.symm⟩ (index + 1) (hframe.dryRun.trans hdry))
          fun _ results _ => ?_
        exact sat_quiet_does (quiet_pure _)
      · exact sat_quiet_does (quiet_pure _)

theorem sat_gatherItems (htype : node.type = .batch) (ctx : WorkflowContext)
    (hctx : ctx.dryRun = thread.ctx.dryRun ∧ ctx.workflowChain = thread.ctx.workflowChain)
    (concurrency : Nat) (items : List Value) (hdry : thread.ctx.dryRun = dryRun) :
    Sat (engineContract replies dryRun workflow)
      (gatherItems visit workflow node depth (batchBody workflow node) ctx concurrency items) thread
      (Does V engine workflow node depth thread) := by
  refine sat_gather_bind (M := fun _ => Piece V workflow node depth thread) ?_ ?_
  · intro task htask
    obtain ⟨⟨item, index⟩, _, rfl⟩ := List.mem_map.mp htask
    exact sat_itemBody hvisit htype ⟨rfl, rfl, hctx.1, hctx.2⟩ index hdry
  · intro ended hended _
    refine sat_does_bind (sat_absorb (.inr htype) ?_) fun _ _ _ => sat_quiet_does (quiet_pure _)
    intro piece hpiece
    obtain ⟨entry, hentry, rfl⟩ := List.mem_map.mp hpiece
    exact hended entry hentry

theorem sat_execBatch (htype : node.type = .batch) (hdry : thread.ctx.dryRun = dryRun) :
    Sat (engineContract replies dryRun workflow) (engine.execBatch visit workflow node depth) thread
      (Does V engine workflow node depth thread) := by
  unfold execBatch
  dsimp only
  rw [sat_getContext_bind]
  split
  · split
    · exact sat_quiet_does (quiet_raise _)
    · split
      · exact sat_halt (.blocks htype (.refl thread))
      · refine sat_does_bind ?_ fun _ results _ => ?_
        · unfold processItems
          split
          · exact sat_stopItems hvisit htype _ ⟨rfl, rfl⟩ _ _ hdry
          · exact sat_gatherItems hvisit htype _ ⟨rfl, rfl⟩ _ _ hdry
        · exact sat_quiet_does (quiet_modifyScope (.setVar _ _ _) (quiet_pure _))
  · exact sat_quiet_does (quiet_pure _)

/-- `_exec_sub_workflow`. -/
theorem sat_execSubWorkflow (htype : node.type = .subWorkflow)
    (hdry : thread.ctx.dryRun = dryRun) :
    Sat (engineContract replies dryRun workflow)
      (engine.execSubWorkflow visit node.config workflow) thread
      (Does V engine workflow node depth thread) := by
  unfold execSubWorkflow
  dsimp only
  split
  · exact sat_quiet_does (quiet_raise _)
  · rw [sat_getContext_bind]
    split
    · exact sat_quiet_does (quiet_raise _)
    · next child hchild =>
      have hmem := List.mem_of_find?_eq_some hchild
      have hprop : child.id = node.config.workflowId.getD "" ∧
          child.tenantId = workflow.tenantId := by simpa using List.find?_some hchild
      split
      · rw [sat_emit_bind]
        exact sat_raise (.refused _ _ _ htype)
      · next hchain =>
        split
        · rw [sat_emit_bind]
          exact sat_raise (.refused _ _ _ htype)
        · have hrun : Sat (engineContract replies dryRun workflow)
              (engine.executeWorkflow visit child (engine.subTriggerData node.config
                thread.ctx.toScope) thread.ctx.dryRun thread.ctx.workflowChain) thread
              (Does V engine workflow node depth thread) := by
            subst hdry
            refine Sat.mono (sat_executeWorkflow hvisit engine child _ _) fun thread' outcome h => ?_
            obtain ⟨id, ended, hended, rfl, rfl⟩ := h
            unfold Does
            rw [void_finished]
            exact .child htype hmem hprop.2 hchain hended
          refine sat_does_bind hrun fun _ execution _ => ?_
          split
          · exact sat_quiet_does (quiet_raise _)
          · exact sat_quiet_does (quiet_pure _)

omit hvisit

/-- The executor of a node did what it may do, and tells the traversal what it should. -/
def Executes (V : VisitRel) (engine : WorkflowEngine) (workflow : Workflow) (node : Node)
    (depth : Nat) (thread thread' : Thread) (outcome : Outcome NodeOutcome) : Prop :=
  Does V engine workflow node depth thread thread' outcome ∧
    ∀ told, outcome = .ok told → told.Tells engine node thread.ctx.toScope

theorem sat_executes_bind {body : Eng α} {tell : α → NodeOutcome} {P : α → Prop}
    (h : Sat c body thread fun thread' outcome =>
      Does V engine workflow node depth thread thread' outcome ∧
        ∀ value, outcome = .ok value → P value)
    (htells : ∀ value, P value → (tell value).Tells engine node thread.ctx.toScope) :
    Sat c (body >>= fun value => Pure.pure (tell value)) thread
      (Executes V engine workflow node depth thread) := by
  refine h.bind (fun thread' value hmid => sat_pure ⟨hmid.1, fun told htold => ?_⟩)
    fun _ _ hmid => ⟨hmid.1, fun _ htold => nomatch htold⟩
  obtain rfl := Except.ok.inj htold
  exact htells value (hmid.2 value rfl)

theorem sat_executes_map {body : Eng Value} {tell : Value → NodeOutcome}
    (h : Sat c body thread (Does V engine workflow node depth thread))
    (htells : ∀ value, (tell value).Tells engine node thread.ctx.toScope) :
    Sat c (body >>= fun value => Pure.pure (tell value)) thread
      (Executes V engine workflow node depth thread) :=
  sat_executes_bind (P := fun _ => True) (h.mono fun _ _ h => ⟨h, fun _ _ => trivial⟩)
    fun value _ => htells value

variable {scope : Scope}

theorem NodeOutcome.Fits.tells {told : NodeOutcome} (h : told.Fits node.type)
    (hchooses : node.type ≠ .condition ∧ node.type ≠ .switch ∧ node.type ≠ .filter) :
    told.Tells engine node scope := by
  refine ⟨h, ?_⟩
  unfold NodeOutcome.Decided
  split
  · exact absurd ‹_› hchooses.1
  · exact absurd ‹_› hchooses.2.1
  · exact absurd ‹_› hchooses.2.2
  · trivial

theorem tells_condition {result : Value × Value} (htype : node.type = .condition)
    (hhandle : result.2 = NodeType.condition.handleOf result.1)
    (hreturns : Returns (engine.execCondition node.config) scope result) :
    (NodeOutcome.proceeds result.1 result.2).Tells engine node scope := by
  refine ⟨?_, ?_⟩
  · rw [htype]
    exact ⟨by simp, hhandle⟩
  · unfold NodeOutcome.Decided
    rw [htype]
    exact ⟨result.1, result.2, rfl, hreturns⟩

theorem tells_switch {result : Value × Value} (htype : node.type = .switch)
    (hhandle : result.2 = NodeType.switch.handleOf result.1)
    (hreturns : Returns (engine.execSwitch node.config) scope result) :
    (NodeOutcome.proceeds result.1 result.2).Tells engine node scope := by
  refine ⟨?_, ?_⟩
  · rw [htype]
    exact ⟨by simp, hhandle⟩
  · unfold NodeOutcome.Decided
    rw [htype]
    exact ⟨result.1, result.2, rfl, hreturns⟩

theorem tells_filter {told : NodeOutcome} {passed : Bool}
    (htype : node.type = .filter) (hfits : told.Fits .filter)
    (hreturns : Returns (engine.execFilter node.config) scope passed)
    (htold : told = .filtered ↔ passed = false) : told.Tells engine node scope := by
  refine ⟨by rwa [htype], ?_⟩
  unfold NodeOutcome.Decided
  rw [htype]
  exact ⟨passed, hreturns, htold⟩

include hvisit

/-- The executor of a node, by its type. Only a merge node whose bookkeeping has let it through
is executed. -/
theorem sat_execNode (hdry : thread.ctx.dryRun = dryRun)
    (hmerge : node.type = .merge → workflow.graph.incoming node.id = []) :
    Sat (engineContract replies dryRun workflow) (engine.execNode visit workflow node depth) thread
      (Executes V engine workflow node depth thread) := by
  have hquiet {body : Eng Value} (hbody : Sat (engineContract replies dryRun workflow) body thread
      (Quiet thread)) (hfits : ∀ output, (proceed output).Fits node.type)
      (hchooses : node.type ≠ .condition ∧ node.type ≠ .switch ∧ node.type ≠ .filter) :
      Sat (engineContract replies dryRun workflow) (proceed <$> body) thread
        (Executes V engine workflow node depth thread) :=
    sat_executes_map (sat_quiet_does hbody) fun output => (hfits output).tells hchooses
  unfold execNode
  split
  all_goals rename_i htype
  · exact hquiet (quiet_execAction _ _ hdry) (by rw [htype]; exact fun _ => ⟨by simp, rfl⟩)
      (by simp [htype])
  · exact hquiet (quiet_execThink _ _ hdry) (by rw [htype]; exact fun _ => ⟨by simp, rfl⟩)
      (by simp [htype])
  · exact sat_executes_bind ((quiet_execCondition _).mono fun _ _ h => ⟨h.1.does, h.2⟩)
      fun _ hresult => tells_condition htype hresult.1 hresult.2
  · exact sat_executes_bind ((quiet_execSwitch _).mono fun _ _ h => ⟨h.1.does, h.2⟩)
      fun _ hresult => tells_switch htype hresult.1 hresult.2
  · exact hquiet (quiet_execTransform _) (by rw [htype]; exact fun _ => ⟨by simp, rfl⟩)
      (by simp [htype])
  · refine (quiet_execFilter _).bind (fun thread' passed hmid => ?_) fun thread' stop hmid => ?_
    · have hreturns := hmid.2 passed rfl
      split
      · next hpassed =>
        refine sat_getContext_bind.mpr (sat_pure ⟨.edit hmid.1.1, fun told htold => ?_⟩)
        obtain rfl := Except.ok.inj htold
        exact tells_filter htype ⟨by simp, rfl⟩ hreturns (by simp [hpassed, proceed])
      · next hpassed =>
        refine sat_pure ⟨.edit hmid.1.1, fun told htold => ?_⟩
        obtain rfl := Except.ok.inj htold
        exact tells_filter htype rfl hreturns (by simp [hpassed])
    · have hstop : Inside V engine workflow node depth thread thread' (.error stop) := hmid.1.does
      exact ⟨hstop, fun _ h => nomatch h⟩
  · exact hquiet (quiet_execDelay _) (by rw [htype]; exact fun _ => ⟨by simp, rfl⟩)
      (by simp [htype])
  · exact sat_executes_map (sat_execLoop hvisit htype hdry) fun _ =>
      NodeOutcome.Fits.tells (by rw [htype]; exact ⟨by simp, rfl⟩) (by simp [htype])
  · exact hquiet (quiet_execHttpRequest _ _ hdry) (by rw [htype]; exact fun _ => ⟨by simp, rfl⟩)
      (by simp [htype])
  · exact hquiet (quiet_execSetVariable _) (by rw [htype]; exact fun _ => ⟨by simp, rfl⟩)
      (by simp [htype])
  · refine sat_atomically_bind fun joins hjoins => ⟨?_, ?_⟩
    · intro nodeId hvisited
      rcases List.mem_insert_iff.mp hvisited with rfl | hold
      · exact hmerge htype
      · exact hjoins nodeId hold
    · refine sat_getContext_bind.mpr (sat_pure ⟨.edit (.refl _), fun told htold => ?_⟩)
      obtain rfl := Except.ok.inj htold
      exact NodeOutcome.Fits.tells (by rw [htype]; exact ⟨by simp, rfl⟩) (by simp [htype])
  · exact sat_executes_map (sat_execParallel hvisit htype hdry) fun _ =>
      NodeOutcome.Fits.tells (by rw [htype]; exact ⟨by simp, rfl⟩) (by simp [htype])
  · exact hquiet (quiet_execAggregate _) (by rw [htype]; exact fun _ => ⟨by simp, rfl⟩)
      (by simp [htype])
  · exact sat_executes_map (sat_execSubWorkflow hvisit htype hdry) fun _ =>
      NodeOutcome.Fits.tells (by rw [htype]; exact ⟨by simp, rfl⟩) (by simp [htype])
  · exact hquiet (quiet_execErrorHandler _ _ hdry) (by rw [htype]; exact fun _ => ⟨by simp, rfl⟩)
      (by simp [htype])
  · exact sat_executes_map (sat_execBatch hvisit htype hdry) fun _ =>
      NodeOutcome.Fits.tells (by rw [htype]; exact ⟨by simp, rfl⟩) (by simp [htype])
  · exact sat_executes_map (sat_quiet_does (quiet_execResponse _)) fun _ =>
      NodeOutcome.Fits.tells htype (by simp [htype])
  · exact hquiet (quiet_pure _) (by rw [htype]; exact fun _ => ⟨by simp, rfl⟩) (by simp [htype])
  · exact hquiet (quiet_pure _) (by rw [htype]; exact fun _ => ⟨by simp, rfl⟩) (by simp [htype])

end Executors

end IntegrationPlatform
