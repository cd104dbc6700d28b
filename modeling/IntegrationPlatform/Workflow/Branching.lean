import IntegrationPlatform.Workflow.Arrivals
import IntegrationPlatform.Workflow.Isolation

/-!
# Branches

The successors that an activation visits after its own executor has ended. `followUp` is the rest
of the `try` statement, and the arrivals in its history tell the successors that it visited. A
node that routes goes on by one handle where its executor returned; the `except` clause, however,
selects among all successors. The main result says when the visited successors still hang on
edges with one handle.
-/

namespace IntegrationPlatform

open Resumption Eng WorkflowEngine

/-! ## After the executor -/

namespace WorkflowEngine

/-- `_execute_single_node` after the executor of the node has returned or raised. -/
def followUp (engine : WorkflowEngine) (visit : Visit) (workflow : Workflow) (node : Node)
    (depth : Nat) (entry : Entry) :
    Activation × Except Exc NodeOutcome → Eng (Activation × Except Exc Unit)
  | (activation, .error exc) => engine.exceptClause visit workflow node depth activation exc
  | (activation, .ok .filtered) => do
      let activation ← appendEntry activation { entry with status := .filtered }
      return (activation, .ok ())
  | (activation, .ok (.responded output)) => do
      modifyScope fun scope => scope.setNodeOutput node.id output
      complete node.id
      let activation ← appendEntry activation (engine.successEntry entry output none)
      return (activation, .ok ())
  | (activation, .ok (.proceeds output handle)) => do
      modifyScope fun scope => scope.setNodeOutput node.id output
      complete node.id
      modifyScope fun scope => scope.mergeData output
      let activation ← appendEntry activation (engine.successEntry entry output none)
      match ← traverse visit workflow node depth activation.calls
          (workflow.graph.getSuccessors node.id handle) with
      | .ok () => return (activation, .ok ())
      | .error exc => engine.exceptClause visit workflow node depth activation exc

end WorkflowEngine

/-! ## The successors that are visited -/

/-- The activations that started at a depth between two threads are of these nodes. -/
def VisitedAmong (nodes : List Node) (depth : Nat) (thread thread' : Thread) : Prop :=
  ∃ events, thread'.trace = thread.trace ++ events ∧
    arrivals thread.ctx.workflowChain depth events ⊆ nodes

/-- The nodes that a traversal from an activation at this depth can visit. -/
def reachable (depth : Nat) (nodes : List Node) : List Node :=
  if depth < maxNodeDepth then nodes else []

/-- The successors that the executor chose, if it returned. -/
def chosenSuccessors (workflow : Workflow) (node : Node) : Except Exc NodeOutcome → List Node
  | .ok (.proceeds _ handle) => workflow.graph.getSuccessors node.id handle
  | _ => []

theorem reachable_subset (depth : Nat) (nodes : List Node) : reachable depth nodes ⊆ nodes := by
  unfold reachable
  split
  · exact List.Subset.refl _
  · exact List.nil_subset _

theorem reachable_mono {nodes nodes' : List Node} (depth : Nat) (h : nodes ⊆ nodes') :
    reachable depth nodes ⊆ reachable depth nodes' := by
  unfold reachable
  split
  · exact h
  · exact List.nil_subset _

section Successors

variable {nodes nodes' : List Node} {depth : Nat} {thread mid thread' : Thread}

theorem VisitedAmong.silent (h : thread'.trace = thread.trace) :
    VisitedAmong [] depth thread thread' :=
  ⟨[], by rw [h, List.append_nil], List.nil_subset _⟩

theorem VisitedAmong.event {event : Event}
    (h : event.arrivalAt thread.ctx.workflowChain depth = none) :
    VisitedAmong [] depth thread (thread.log [event]) := by
  refine ⟨[event], rfl, ?_⟩
  rw [arrivals, List.filterMap_cons_none h]
  exact List.nil_subset _

theorem VisitedAmong.mono (h : VisitedAmong nodes depth thread thread') (hsub : nodes ⊆ nodes') :
    VisitedAmong nodes' depth thread thread' := by
  obtain ⟨events, htrace, harrivals⟩ := h
  exact ⟨events, htrace, List.Subset.trans harrivals hsub⟩

theorem VisitedAmong.trans (h : VisitedAmong nodes depth thread mid)
    (hchain : mid.ctx.workflowChain = thread.ctx.workflowChain)
    (h' : VisitedAmong nodes' depth mid thread') :
    VisitedAmong (nodes ++ nodes') depth thread thread' := by
  obtain ⟨events, htrace, harrivals⟩ := h
  obtain ⟨events', htrace', harrivals'⟩ := h'
  refine ⟨events ++ events', by rw [htrace', htrace, List.append_assoc], ?_⟩
  rw [hchain] at harrivals'
  rw [arrivals_append]
  exact List.append_subset.mpr ⟨List.subset_append_of_subset_left _ harrivals,
    List.subset_append_of_subset_right _ harrivals'⟩

variable {V : VisitRel} {workflow : Workflow} {node : Node} {outcome : Outcome Unit}
  {calls : List CallOutcome}

theorem Announces.visited (h : Announces V) (hvisit : V workflow node depth thread thread' outcome) :
    VisitedAmong [node] depth thread thread' := by
  obtain ⟨events, htrace, harrivals⟩ := h hvisit
  refine ⟨events, htrace, ?_⟩
  rcases harrivals with hone | ⟨hnone, _⟩
  · rw [hone]
    exact List.Subset.refl _
  · rw [hnone]
    exact List.nil_subset _

variable (hframe : ∀ {w n d t t' o}, V w n d t t' o → Frame t t') (hannounces : Announces V)
include hframe hannounces

theorem Each.visited (h : Each V workflow depth nodes thread thread' outcome) :
    VisitedAmong nodes depth thread thread' := by
  induction h with
  | nil thread => exact .silent rfl
  | cons hvisit _ ih =>
      exact (hannounces.visited hvisit).trans (hframe hvisit).workflowChain ih
  | stop hvisit =>
      exact (hannounces.visited hvisit).mono (List.cons_subset_cons _ (List.nil_subset _))

theorem Traversal.visited (h : Traversal V workflow (depth + 1) nodes thread thread' outcome) :
    VisitedAmong (reachable depth nodes) (depth + 1) thread thread' := by
  cases h with
  | exceeded message _ _ =>
      exact (VisitedAmong.event rfl).mono (List.nil_subset _)
  | each hdepth heach =>
      cases nodes with
      | nil => exact (heach.visited hframe hannounces).mono (List.nil_subset _)
      | cons node rest =>
          have hwithin : depth < maxNodeDepth := hdepth (List.cons_ne_nil _ _)
          refine (heach.visited hframe hannounces).mono ?_
          rw [reachable, if_pos hwithin]
          exact List.Subset.refl _

theorem Traverses.visited {ended : Outcome (Except Exc Unit)}
    (h : Traverses V workflow node depth calls nodes thread thread' ended) :
    VisitedAmong (reachable depth nodes) (depth + 1) thread thread' := by
  rcases ended with stop | exc | value
  · exact h.2.visited hframe hannounces
  · obtain ⟨mid, hmid, rfl⟩ := h
    refine ((hmid.visited hframe hannounces).trans (hmid.frame hframe).workflowChain
      (VisitedAmong.event rfl)).mono ?_
    rw [List.append_nil]
    exact List.Subset.refl _
  · exact Traversal.visited hframe hannounces h

theorem GivesUp.visited {activation : Activation} {result : Outcome (Activation × Except Exc Unit)}
    (hhandler : workflow.graph.findErrorHandler node.id = none)
    (h : GivesUp V workflow node depth activation thread thread' result) :
    VisitedAmong [] (depth + 1) thread thread' ∨
      (node.config.onError.getD workflow.onError = .carryOn ∧
        VisitedAmong (reachable depth (workflow.graph.getSuccessors node.id .null)) (depth + 1)
          thread thread') := by
  cases h with
  | handler _ hfound _ => exact nomatch hhandler.symm.trans hfound
  | @carryOn entry _ _ _ _ honError htraversal =>
      have happend : VisitedAmong [] (depth + 1) thread (thread.append activation entry) :=
        .silent rfl
      exact .inr ⟨honError, happend.trans rfl (htraversal.visited hframe hannounces)⟩
  | ignore _ _ _ => exact .inl (.silent rfl)
  | raises _ _ _ _ _ => exact .inl (.silent rfl)

omit hframe hannounces in
theorem Traversal.raised {exc : Exc}
    (h : Traversal V workflow (depth + 1) nodes thread thread' (.error (.raised exc))) :
    maxNodeDepth ≤ depth ∨ (reachable depth nodes ≠ [] ∧
      ∃ node mid last, V workflow node (depth + 1) mid last (.error (.raised exc))) := by
  have hraised : ∀ {nodes : List Node} {t t' : Thread} {o : Outcome Unit},
      Each V workflow (depth + 1) nodes t t' o → o = .error (.raised exc) →
      nodes ≠ [] ∧ ∃ node mid last, V workflow node (depth + 1) mid last (.error (.raised exc)) := by
    intro nodes t t' o heach
    induction heach with
    | nil thread => exact fun heq => nomatch heq
    | cons _ _ ih => exact fun heq => ⟨List.cons_ne_nil _ _, (ih heq).2⟩
    | stop hvisit =>
        intro heq
        rw [heq] at hvisit
        exact ⟨List.cons_ne_nil _ _, _, _, _, hvisit⟩
  cases h with
  | exceeded message _ hdeep => exact .inl (Nat.le_of_lt_succ hdeep)
  | each hdepth heach =>
      obtain ⟨hne, hvisit⟩ := hraised heach rfl
      have hwithin : depth < maxNodeDepth := hdepth hne
      refine .inr ⟨?_, hvisit⟩
      rw [reachable, if_pos hwithin]
      exact hne

end Successors

/-! ## Nodes that route -/

/-- The node types whose executors choose a handle by which the path goes on. -/
def NodeType.Routes (type : NodeType) : Prop :=
  type = .condition ∨ type = .switch ∨ type = .loop ∨ type = .parallel ∨ type = .batch
deriving Decidable

/-- The visited nodes hang on outgoing edges of the node with one and the same `sourceHandle`. -/
def Exclusive (workflow : Workflow) (node : Node) (visited : List Node) : Prop :=
  ∃ handle : String, ∀ successor ∈ visited,
    successor ∈ workflow.graph.getSuccessors node.id (.str handle)

theorem Exclusive.mono {workflow : Workflow} {node : Node} {visited visited' : List Node}
    (h : Exclusive workflow node visited) (hsub : visited' ⊆ visited) :
    Exclusive workflow node visited' := by
  obtain ⟨handle, hhandle⟩ := h
  exact ⟨handle, fun successor hmem => hhandle successor (hsub hmem)⟩

theorem Value.pyEq_str {value : Value} {text : String} (h : value.pyEq (.str text) = true) :
    value = .str text := by
  cases value <;> simp_all [Value.pyEq, Value.number?]

theorem exclusive_getSuccessors (workflow : Workflow) (node : Node) {handle : Value}
    (hhandle : handle ≠ .null) :
    Exclusive workflow node (workflow.graph.getSuccessors node.id handle) := by
  have htext : ∀ {edge : Edge}, edge.leavesBy handle = true →
      handle = .str (edge.sourceHandle.getD "default") := by
    intro edge hleaves
    cases handle with
    | null => exact absurd rfl hhandle
    | _ => exact Value.pyEq_str hleaves
  cases hsuccessors : workflow.graph.getSuccessors node.id handle with
  | nil => exact ⟨"default", fun _ hmem => nomatch hmem⟩
  | cons first rest =>
      have hfirst : first ∈ workflow.graph.getSuccessors node.id handle :=
        hsuccessors ▸ List.mem_cons_self ..
      obtain ⟨edge, hedge, -⟩ := List.mem_filterMap.mp hfirst
      have hleaves := (List.mem_filter.mp hedge).2
      rw [Bool.and_eq_true] at hleaves
      refine ⟨edge.sourceHandle.getD "default", fun successor hmem => ?_⟩
      rw [← htext hleaves.2, hsuccessors]
      exact hmem

theorem chosenSuccessors_subset (workflow : Workflow) (node : Node)
    (told : Except Exc NodeOutcome) :
    chosenSuccessors workflow node told ⊆ workflow.graph.getSuccessors node.id .null := by
  unfold chosenSuccessors
  split
  · exact WorkflowGraph.getSuccessors_subset _ _ _
  · exact List.nil_subset _

namespace WorkflowEngine

variable {engine : WorkflowEngine} {visit : Visit} {V : VisitRel} {dryRun : Bool} {calm : Prop}
  {replies : (request : Request) → Reply request → Prop} {workflow : Workflow} {node : Node}
  {depth : Nat} {thread : Thread} {activation : Activation}

theorem exceptClause_routes (hroutes : node.type.Routes) (exc : Exc) :
    engine.exceptClause visit workflow node depth activation exc =
      giveUp visit workflow node depth activation exc := by
  have hnot : ¬ (node.type = .action ∨ node.type = .httpRequest ∨ node.type = .think) := by
    rcases hroutes with htype | htype | htype | htype | htype <;> simp [htype]
  unfold exceptClause
  exact if_neg fun h => hnot h.2.2

/-- After the executor the chosen successors are visited. All successors are, in the mode that
carries on, when the executor or a chosen successor has raised. -/
def FollowsUp (calm : Prop) (workflow : Workflow) (node : Node) (depth : Nat)
    (told : Except Exc NodeOutcome) (thread thread' : Thread) : Prop :=
  VisitedAmong (reachable depth (chosenSuccessors workflow node told)) (depth + 1) thread thread' ∨
    (node.config.onError.getD workflow.onError = .carryOn ∧
      ((∃ exc, told = .error exc) ∨
        (¬ calm ∧ reachable depth (chosenSuccessors workflow node told) ≠ [])) ∧
      VisitedAmong (reachable depth (workflow.graph.getSuccessors node.id .null)) (depth + 1)
        thread thread')

/-- What is visited after the executor has ended. -/
theorem sat_followUp (hvisit : Visiting replies dryRun calm visit V) (hroutes : node.type.Routes)
    (hhandler : workflow.graph.findErrorHandler node.id = none) (entry : Entry)
    (told : Except Exc NodeOutcome) (hdry : thread.ctx.dryRun = dryRun) :
    Sat (engineContract replies dryRun workflow)
      (engine.followUp visit workflow node depth entry (activation, told)) thread
      fun thread' _ => FollowsUp calm workflow node depth told thread thread' := by
  have hframe : ∀ {w n d t t' o}, V w n d t t' o → Frame t t' := hvisit.behaves.1
  have hannounces : Announces V := @hvisit.announces
  rcases told with exc | output | output | ⟨output, handle⟩
  · -- The executor raised.
    dsimp only [followUp]
    rw [exceptClause_routes hroutes]
    refine (sat_giveUp hvisit.behaves exc hdry).mono fun thread' _ hgives => ?_
    rcases hgives.visited hframe hannounces hhandler with hnone | ⟨honError, hall⟩
    · exact .inl (hnone.mono (List.nil_subset _))
    · exact .inr ⟨honError, .inl ⟨exc, rfl⟩, hall⟩
  · dsimp only [followUp]
    rw [sat_appendEntry_bind]
    exact sat_pure (.inl ((VisitedAmong.silent rfl).mono (List.nil_subset _)))
  · dsimp only [followUp]
    rw [sat_modifyScope_bind]
    refine sat_atomically_bind fun joins hjoins => ⟨hjoins, ?_⟩
    rw [sat_appendEntry_bind]
    exact sat_pure (.inl ((VisitedAmong.silent rfl).mono (List.nil_subset _)))
  · dsimp only [followUp]
    rw [sat_modifyScope_bind]
    refine sat_atomically_bind fun joins hjoins => ⟨hjoins, ?_⟩
    rw [sat_modifyScope_bind, sat_appendEntry_bind]
    refine Sat.bind (sat_traverse hvisit.behaves _ _ ?_) (fun mid ended hended => ?_)
      fun mid stop hended => ?_
    · exact hdry
    · have htraversed := hended.visited hframe hannounces
      have hchosen : VisitedAmong (reachable depth (workflow.graph.getSuccessors node.id handle))
          (depth + 1) thread mid := htraversed
      cases ended with
      | ok value => exact sat_pure (.inl hchosen)
      | error exc =>
          dsimp only
          rw [exceptClause_routes hroutes]
          -- A chosen successor raised, and the `except` clause of the node catches it.
          have hchain : mid.ctx.workflowChain = thread.ctx.workflowChain :=
            (Traverses.frame hframe hended).workflowChain
          have hmid : mid.ctx.dryRun = dryRun := (Traverses.frame hframe hended).dryRun.trans hdry
          refine (sat_giveUp hvisit.behaves exc hmid).mono fun thread' _ hgives => ?_
          rcases hgives.visited hframe hannounces hhandler with hnone | ⟨honError, hall⟩
          · have hvisited := hchosen.trans hchain hnone
            rw [List.append_nil] at hvisited
            exact .inl hvisited
          · have hsub := reachable_mono depth
              (chosenSuccessors_subset workflow node (.ok (.proceeds output handle)))
            have hvisited := (hchosen.trans hchain hall).mono
              (List.append_subset.mpr ⟨hsub, List.Subset.refl _⟩)
            obtain ⟨last, hraised, -⟩ := hended
            rcases hraised.raised with hdeep | ⟨hreach, _, _, _, hvisits⟩
            · -- It was the depth limit that raised: no successor was visited.
              refine .inl (hvisited.mono ?_)
              rw [reachable, if_neg (Nat.not_lt.mpr hdeep)]
              exact List.nil_subset _
            · -- It was a visit that raised, which calm visits do not.
              exact .inr ⟨honError,
                .inr ⟨fun hcalm => hvisit.returns hcalm hvisits exc rfl, hreach⟩, hvisited⟩
    · have htraversed := hended.2.visited hframe hannounces
      exact .inl htraversed

/-! ## Exclusive branches -/

/-- Whatever the visits of the successors do, the successors that are visited after the executor
ended so hang on edges with one `sourceHandle`. Where `calm`, visits that raise are left out. -/
def Branches (calm : Prop) (engine : WorkflowEngine) (workflow : Workflow) (node : Node)
    (depth : Nat) (told : Except Exc NodeOutcome) : Prop :=
  ∀ replies dryRun visit V, Visiting replies dryRun calm visit V →
    ∀ entry activation thread thread' outcome, thread.ctx.dryRun = dryRun →
      Ends (engineContract replies dryRun workflow)
        (engine.followUp visit workflow node depth entry (activation, told)) thread thread' outcome →
      Exclusive workflow node
        (arrivals thread.ctx.workflowChain (depth + 1) (thread.since thread'))

/-- The successors cannot be mixed: the depth limit keeps them away, they all hang on edges with
one `sourceHandle`, or the executor chose a handle and nothing makes the node carry on. -/
def Separates (calm : Prop) (workflow : Workflow) (node : Node) (depth : Nat)
    (told : Except Exc NodeOutcome) : Prop :=
  maxNodeDepth ≤ depth ∨
    Exclusive workflow node (workflow.graph.getSuccessors node.id .null) ∨
    match told with
    | .error _ => node.config.onError.getD workflow.onError ≠ .carryOn
    | .ok (.proceeds _ handle) => handle ≠ .null ∧
        (calm ∨ node.config.onError.getD workflow.onError ≠ .carryOn ∨
          workflow.graph.getSuccessors node.id handle = [])
    | .ok _ => True

theorem FollowsUp.exclusive {told : Except Exc NodeOutcome} {thread' : Thread}
    (hseparates : Separates calm workflow node depth told)
    (h : FollowsUp calm workflow node depth told thread thread') :
    Exclusive workflow node (arrivals thread.ctx.workflowChain (depth + 1) (thread.since thread')) := by
  have hall : ∃ events, thread'.trace = thread.trace ++ events ∧
      arrivals thread.ctx.workflowChain (depth + 1) events ⊆
        reachable depth (workflow.graph.getSuccessors node.id .null) := by
    rcases h with hchosen | ⟨_, _, hall⟩
    · exact hchosen.mono (reachable_mono _ (chosenSuccessors_subset _ _ _))
    · exact hall
  rcases hseparates with hdeep | hone | htold
  · obtain ⟨events, htrace, harrivals⟩ := hall
    rw [reachable, if_neg (Nat.not_lt.mpr hdeep)] at harrivals
    rw [Thread.since_eq htrace]
    exact ⟨"default", fun _ hmem => nomatch harrivals hmem⟩
  · obtain ⟨events, htrace, harrivals⟩ := hall
    rw [Thread.since_eq htrace]
    exact hone.mono (List.Subset.trans harrivals (reachable_subset _ _))
  · rcases h with ⟨events, htrace, harrivals⟩ | ⟨honError, hraised, -⟩
    · rw [Thread.since_eq htrace]
      refine Exclusive.mono ?_ (List.Subset.trans harrivals (reachable_subset _ _))
      rcases told with exc | output | output | ⟨output, handle⟩
      · exact ⟨"default", fun _ hmem => nomatch hmem⟩
      · exact ⟨"default", fun _ hmem => nomatch hmem⟩
      · exact ⟨"default", fun _ hmem => nomatch hmem⟩
      · exact exclusive_getSuccessors workflow node htold.1
    · -- Carrying on is what the condition leaves out.
      rcases hraised with ⟨exc, rfl⟩ | ⟨hcalm, hreach⟩
      · exact absurd honError htold
      · rcases told with exc | output | output | ⟨output, handle⟩
        · exact absurd honError htold
        · exact absurd (List.eq_nil_of_subset_nil (reachable_subset _ _)) hreach
        · exact absurd (List.eq_nil_of_subset_nil (reachable_subset _ _)) hreach
        · rcases htold.2 with h | h | h
          · exact absurd h hcalm
          · exact absurd honError h
          · exact absurd (List.eq_nil_of_subset_nil (h ▸ reachable_subset _ _)) hreach

end WorkflowEngine

/-! ## Visits that raise at most once -/

/-- What a visit does that raises, if at all, when it is the first in its context. -/
def stumbled (stumbles : Bool) (workflow : Workflow) (node : Node) (depth : Nat)
    (thread : Thread) : Thread × Outcome Unit :=
  let arrived := thread.log [.arrived (thread.site workflow node depth)]
  if stumbles = true ∧ thread.ctx.vars.has "stumbled" = false then
    (arrived.mapScope fun scope => scope.setVar "stumbled" (.bool true),
      .error (.raised ⟨"connector error", none⟩))
  else (arrived, .ok ())

/-- Visits that raise, if at all, when they are the first in their context. -/
def stumbling (stumbles : Bool) : Visit := fun workflow node depth thread joins =>
  .done joins (stumbled stumbles workflow node depth thread)

/-- In this context no visit raises. -/
def Unimpeded (stumbles : Bool) (thread : Thread) : Prop :=
  stumbles = false ∨ thread.ctx.vars.has "stumbled" = true

section Stumbling

variable {stumbles : Bool} {workflow : Workflow} {node : Node} {depth : Nat} {thread : Thread}

/-- A visit that does not raise. -/
theorem stumbled_unimpeded (h : Unimpeded stumbles thread) :
    stumbled stumbles workflow node depth thread =
      (thread.log [.arrived (thread.site workflow node depth)], .ok ()) := by
  refine if_neg fun hraises => ?_
  rcases h with hnever | hbefore
  · rw [hnever] at hraises
    exact absurd hraises.1 Bool.false_ne_true
  · rw [hbefore] at hraises
    exact absurd hraises.2.symm Bool.false_ne_true

theorem stumbling_visiting (replies : (request : Request) → Reply request → Prop) (dryRun : Bool)
    {calm : Prop} (hcalm : calm → stumbles = false) :
    Visiting replies dryRun calm (stumbling stumbles)
      fun w n d t t' o => (t', o) = stumbled stumbles w n d t where
  behaves := by
    refine ⟨fun {w n d t t' o} h => ?_, fun _ _ _ _ _ _ hjoins => ⟨hjoins, rfl⟩⟩
    unfold stumbled at h
    dsimp only at h
    split at h
    · obtain ⟨rfl, -⟩ := Prod.mk.inj h
      exact (Frame.log _ _).trans (Edits.setVar _ _ _).frame
    · obtain ⟨rfl, -⟩ := Prod.mk.inj h
      exact .log _ _
  announces := by
    intro w n d t t' o h
    have hself : arrivals t.ctx.workflowChain d [.arrived (t.site w n d)] = [n] := by
      rw [arrivals_arrived, arrivals_nil]
    unfold stumbled at h
    dsimp only at h
    split at h
    · obtain ⟨rfl, -⟩ := Prod.mk.inj h
      exact ⟨[.arrived (t.site w n d)], rfl, .inl hself⟩
    · obtain ⟨rfl, -⟩ := Prod.mk.inj h
      exact ⟨[.arrived (t.site w n d)], rfl, .inl hself⟩
  returns := by
    intro h w n d t t' o heq exc hraised
    rw [stumbled_unimpeded (.inl (hcalm h))] at heq
    exact nomatch (Prod.mk.inj heq).2.symm.trans hraised

variable (answer : (request : Request) → Reply request) (pick : (width : Nat) → Fin (width + 1))
  {joins : MergeJoins}

theorem play_executeEach_stumbling (nodes : List Node) (h : Unimpeded stumbles thread) :
    play answer pick (executeEach (stumbling stumbles) workflow depth nodes) thread joins =
      (joins, thread.log (nodes.map fun node => .arrived (thread.site workflow node depth)),
        .ok ()) := by
  induction nodes generalizing thread with
  | nil => simp [executeEach, Thread.log]
  | cons node rest ih =>
      have hvisit : play answer pick (stumbling stumbles workflow node depth) thread joins =
          (joins, thread.log [.arrived (thread.site workflow node depth)], .ok ()) := by
        rw [← stumbled_unimpeded h]
        rfl
      have hrest : play answer pick (executeEach (stumbling stumbles) workflow depth rest)
          (thread.log [.arrived (thread.site workflow node depth)]) joins =
          (joins, (thread.log [.arrived (thread.site workflow node depth)]).log
            (rest.map fun node => .arrived (thread.site workflow node depth)), .ok ()) := ih h
      simp only [executeEach, play_bind, hvisit, hrest, Thread.log_log, List.map_cons,
        List.singleton_append]

theorem play_executeIfAny_stumbling (nodes : List Node) (h : Unimpeded stumbles thread)
    (hdepth : depth < maxNodeDepth) :
    play answer pick (executeIfAny (stumbling stumbles) workflow nodes (depth + 1)) thread joins =
      (joins, thread.log (nodes.map fun node => .arrived (thread.site workflow node (depth + 1))),
        .ok ()) := by
  rw [← play_executeEach_stumbling answer pick nodes h]
  cases nodes with
  | nil => rfl
  | cons node rest =>
      have hwithin : ¬ depth + 1 > maxNodeDepth := Nat.not_lt.mpr hdepth
      simp only [executeIfAny, executeNodes, if_neg hwithin]

theorem arrivals_map (nodes : List Node) :
    arrivals thread.ctx.workflowChain depth
      (nodes.map fun node => .arrived (thread.site workflow node depth)) = nodes := by
  induction nodes with
  | nil => rfl
  | cons node rest ih =>
      rw [List.map_cons, arrivals_arrived, ih]

variable {engine : WorkflowEngine} {activation : Activation} {entry : Entry}

theorem play_giveUp_carryOn (exc : Exc) (h : Unimpeded stumbles thread)
    (hdepth : depth < maxNodeDepth) (hhandler : workflow.graph.findErrorHandler node.id = none)
    (honError : node.config.onError.getD workflow.onError = .carryOn) :
    (play answer pick (giveUp (stumbling stumbles) workflow node depth activation exc) thread
        joins).2.1.trace =
      thread.trace ++ (workflow.graph.getSuccessors node.id .null).map fun successor =>
        .arrived (thread.site workflow successor (depth + 1)) := by
  have happended : Unimpeded stumbles (thread.append activation (failedEntry activation.entry exc)) := h
  simp only [giveUp, play_bind, play_appendEntry, hhandler, honError, play_attempt,
    play_executeIfAny_stumbling answer pick _ happended hdepth, play_pure]
  rfl

theorem play_complete (nodeId : String) :
    play answer pick (complete nodeId) thread joins =
      ({ joins with completedNodes := joins.completedNodes.insert nodeId }, thread, .ok ()) :=
  rfl

theorem play_followUp_returned (output handle : Value) (h : Unimpeded stumbles thread)
    (hdepth : depth < maxNodeDepth) :
    (play answer pick (engine.followUp (stumbling stumbles) workflow node depth entry
        (activation, .ok (.proceeds output handle))) thread joins).2.1.trace =
      thread.trace ++ (workflow.graph.getSuccessors node.id handle).map fun successor =>
        .arrived (thread.site workflow successor (depth + 1)) := by
  have hstart : Unimpeded stumbles (((thread.mapScope fun scope => scope.setNodeOutput node.id
      output).mapScope fun scope => scope.mergeData output).append activation
      (engine.successEntry entry output none)) := by
    cases output <;> exact h
  simp only [followUp, play_bind, play_modifyScope, play_complete, play_appendEntry,
    WorkflowEngine.traverse, play_attempt, play_executeIfAny_stumbling answer pick _ hstart hdepth,
    play_pure]
  rfl

/-- After an executor that returned, the first of the chosen successors can raise and all
successors be visited after it. -/
theorem play_followUp_raised (output handle : Value) {first : Node} {rest : List Node}
    (hfirst : thread.ctx.vars.has "stumbled" = false) (hdepth : depth < maxNodeDepth)
    (hroutes : node.type.Routes) (hhandler : workflow.graph.findErrorHandler node.id = none)
    (honError : node.config.onError.getD workflow.onError = .carryOn)
    (hchosen : workflow.graph.getSuccessors node.id handle = first :: rest) :
    ∃ event, (play answer pick (engine.followUp (stumbling true) workflow node depth entry
        (activation, .ok (.proceeds output handle))) thread joins).2.1.trace =
      thread.trace ++ [.arrived (thread.site workflow first (depth + 1)), event] ++
        (workflow.graph.getSuccessors node.id .null).map fun successor =>
          .arrived (thread.site workflow successor (depth + 1)) := by
  obtain ⟨start, hstart⟩ : ∃ start, start = ((thread.mapScope fun scope =>
      scope.setNodeOutput node.id output).mapScope fun scope =>
      scope.mergeData output).append activation (engine.successEntry entry output none) := ⟨_, rfl⟩
  have hvars : start.ctx.vars.has "stumbled" = false := by
    rw [hstart]
    cases output <;> exact hfirst
  have htrace : start.trace = thread.trace := by
    rw [hstart]
    rfl
  have hsite : ∀ successor, start.site workflow successor (depth + 1) =
      thread.site workflow successor (depth + 1) := by
    intro successor
    rw [hstart]
    rfl
  let last := (start.log [.arrived (start.site workflow first (depth + 1))]).mapScope
    fun scope => scope.setVar "stumbled" (.bool true)
  have hraised : ∀ joins, play answer pick (executeIfAny (stumbling true) workflow (first :: rest)
      (depth + 1)) start joins = (joins, last, .error (.raised ⟨"connector error", none⟩)) := by
    intro joins
    have hvisit : play answer pick (stumbling true workflow first (depth + 1)) start joins =
        (joins, stumbled true workflow first (depth + 1) start) := rfl
    have hstumbled : stumbled true workflow first (depth + 1) start =
        (last, .error (.raised ⟨"connector error", none⟩)) := if_pos ⟨rfl, hvars⟩
    have hwithin : ¬ depth + 1 > maxNodeDepth := Nat.not_lt.mpr hdepth
    simp only [executeIfAny, executeNodes, if_neg hwithin, executeEach, play_bind, hvisit, hstumbled]
  have hsteady : ∀ event, Unimpeded true (last.log [event]) := by
    refine fun event => .inr ?_
    simp [last, Scope.setVar, Assoc.has_put]
  let event : Event := .descendantRaised (last.site workflow node depth) activation.calls
    ⟨"connector error", none⟩
  refine ⟨event, ?_⟩
  have hend : (play answer pick (engine.followUp (stumbling true) workflow node depth entry
      (activation, .ok (.proceeds output handle))) thread joins).2.1.trace =
      (last.log [event]).trace ++ (workflow.graph.getSuccessors node.id .null).map fun successor =>
        .arrived ((last.log [event]).site workflow successor (depth + 1)) := by
    simp only [followUp, play_bind, play_modifyScope, play_complete, play_appendEntry, ← hstart,
      WorkflowEngine.traverse, play_attempt, hchosen, hraised, play_emitAt, play_pure,
      exceptClause_routes hroutes]
    exact play_giveUp_carryOn answer pick _ (hsteady event) hdepth hhandler honError
  have hlater : (workflow.graph.getSuccessors node.id .null).map (fun successor =>
      Event.arrived ((last.log [event]).site workflow successor (depth + 1))) =
      (workflow.graph.getSuccessors node.id .null).map fun successor =>
        .arrived (thread.site workflow successor (depth + 1)) :=
    List.map_congr_left fun successor _ => congrArg Event.arrived (hsite successor)
  have hlast : (last.log [event]).trace =
      thread.trace ++ [.arrived (thread.site workflow first (depth + 1)), event] := by
    rw [← hsite first, ← htrace]
    exact List.append_assoc _ _ _
  rw [hend, hlater, hlast]

end Stumbling

/-! ## Branch exclusivity -/

namespace WorkflowEngine

variable {engine : WorkflowEngine} {calm : Prop} {workflow : Workflow} {node : Node} {depth : Nat}
  {told : Except Exc NodeOutcome}

section Mixing

variable (engine) (hroutes : node.type.Routes)
  (hhandler : workflow.graph.findErrorHandler node.id = none)
  (hmixed : ¬ Exclusive workflow node (workflow.graph.getSuccessors node.id .null))
include hroutes hhandler hmixed

theorem not_branches {stumbles : Bool} (hcalm : calm → stumbles = false) (entry : Entry)
    (hall : workflow.graph.getSuccessors node.id .null ⊆
      arrivals Thread.idle.ctx.workflowChain (depth + 1)
        (play Sample.answer Sample.first (engine.followUp (stumbling stumbles) workflow node depth
          entry ({ entry := entry }, told)) .idle {}).2.1.trace) :
    ¬ Branches calm engine workflow node depth told := by
  intro hbranches
  have hvisiting : Visiting anyReply false calm (stumbling stumbles) _ :=
    stumbling_visiting anyReply false hcalm
  have hends : Ends (engineContract anyReply false workflow)
      (engine.followUp (stumbling stumbles) workflow node depth entry ({ entry := entry }, told))
      .idle _ _ :=
    ⟨{}, MergeJoins.sound_empty _,
      (sat_followUp hvisiting hroutes hhandler entry told rfl {}
        (MergeJoins.sound_empty _)).ends_of_run
        (Step.play_run Sample.answer Sample.first Sample.answer_any _)⟩
  have hexclusive := hbranches anyReply false _ _ hvisiting entry _ _ _ _ rfl hends
  exact hmixed (hexclusive.mono hall)

variable (hdepth : depth < maxNodeDepth)
include hdepth

theorem not_branches_raised (exc : Exc)
    (honError : node.config.onError.getD workflow.onError = .carryOn) :
    ¬ Branches calm engine workflow node depth (.error exc) := by
  have hsteady : Unimpeded false Thread.idle := .inl rfl
  refine not_branches engine hroutes hhandler hmixed (fun _ => rfl)
    (engine.newEntry node Thread.idle.ctx.toScope) ?_
  dsimp only [followUp]
  rw [exceptClause_routes hroutes,
    play_giveUp_carryOn Sample.answer Sample.first exc hsteady hdepth hhandler honError,
    arrivals_append, arrivals_map]
  exact List.subset_append_right _ _

theorem not_branches_null (output : Value) :
    ¬ Branches calm engine workflow node depth (.ok (.proceeds output .null)) := by
  have hsteady : Unimpeded false Thread.idle := .inl rfl
  refine not_branches engine hroutes hhandler hmixed (fun _ => rfl)
    (engine.newEntry node Thread.idle.ctx.toScope) ?_
  rw [play_followUp_returned Sample.answer Sample.first output .null hsteady hdepth,
    arrivals_append, arrivals_map]
  exact List.subset_append_right _ _

theorem not_branches_chosen (hcalm : ¬ calm) (output handle : Value)
    (honError : node.config.onError.getD workflow.onError = .carryOn)
    (hchosen : workflow.graph.getSuccessors node.id handle ≠ []) :
    ¬ Branches calm engine workflow node depth (.ok (.proceeds output handle)) := by
  obtain ⟨first, rest, hsuccessors⟩ := List.exists_cons_of_ne_nil hchosen
  have hstumbles : calm → true = false := fun h => absurd h hcalm
  refine not_branches engine hroutes hhandler hmixed hstumbles
    (engine.newEntry node Thread.idle.ctx.toScope) ?_
  obtain ⟨event, htrace⟩ := play_followUp_raised Sample.answer Sample.first output handle
    (rfl : Thread.idle.ctx.vars.has "stumbled" = false) hdepth hroutes hhandler honError hsuccessors
  rw [htrace, arrivals_append, arrivals_map]
  exact List.subset_append_right _ _

end Mixing

/-- After the executor of a node that routes and has no error handler has ended, the successors
that are visited hang on edges with one `sourceHandle`, whatever their visits do, exactly if the
successors cannot be mixed. -/
theorem branches_iff (calm : Prop) (engine : WorkflowEngine) (workflow : Workflow) (node : Node)
    (depth : Nat) (told : Except Exc NodeOutcome) (hroutes : node.type.Routes)
    (hhandler : workflow.graph.findErrorHandler node.id = none) :
    Branches calm engine workflow node depth told ↔ Separates calm workflow node depth told := by
  refine ⟨fun hbranches => ?_, fun hseparates replies dryRun visit V hvisit entry activation thread
    thread' outcome hdry hends => ?_⟩
  · by_contra hnot
    obtain ⟨hdeep, hrest⟩ := not_or.mp hnot
    obtain ⟨hmixed, htold⟩ := not_or.mp hrest
    have hdepth : depth < maxNodeDepth := Nat.not_le.mp hdeep
    rcases told with exc | output | output | ⟨output, handle⟩
    · exact not_branches_raised engine hroutes hhandler hmixed hdepth exc (not_not.mp htold) hbranches
    · exact htold trivial
    · exact htold trivial
    · rcases not_and_or.mp htold with hnull | hcarries
      · obtain rfl := not_not.mp hnull
        exact not_branches_null engine hroutes hhandler hmixed hdepth output hbranches
      · obtain ⟨hcalm, hchosen⟩ := not_or.mp hcarries
        obtain ⟨honError, hsuccessors⟩ := not_or.mp hchosen
        exact not_branches_chosen engine hroutes hhandler hmixed hdepth hcalm output handle
          (not_not.mp honError) hsuccessors hbranches
  · exact FollowsUp.exclusive hseparates
      (Sat.of_ends (sat_followUp hvisit hroutes hhandler entry told hdry) hends)

end WorkflowEngine

/-! ## Samples -/

namespace Sample

def check (onError : OnError) : Node where
  id := "check"
  type := .condition
  config :=
    { onError := some onError
      conditions := some [.dict [("field", .str "total"), ("operator", .str "contains"),
        ("value", .str "1")]] }

def eitherOr (onError : OnError) : Workflow where
  id := "either-or"
  nodes := [trigger, check onError, action "yes" "get" none none, action "no" "get" none none]
  edges := [⟨"start", "check", none⟩, ⟨"check", "yes", some "true"⟩, ⟨"check", "no", some "false"⟩]

def notIterable : Exc := ⟨"argument of type 'int' is not iterable", none⟩

def comparing : WorkflowEngine :=
  { engine [] with evaluateCondition := fun _ _ => .error notIterable }

def total : Thread where
  ctx := { data := [("total", .int 10)], triggerData := [], workflowChain := ["either-or"] }

def checking : Entry :=
  comparing.newEntry (check .carryOn) total.ctx.toScope

def evaluated : Thread :=
  (total.log [.called (total.site (eitherOr .carryOn) (check .carryOn) 0) []]).log
    [.executorRaised (total.site (eitherOr .carryOn) (check .carryOn) 0) notIterable]

def carriedOn : Thread × Outcome (Activation × Except Exc Unit) :=
  (play answer first (comparing.followUp (comparing.executeSingleNode 1) (eitherOr .carryOn)
    (check .carryOn) 0 checking (({ entry := checking } : Activation).call .raised,
      .error notIterable)) evaluated {}).2

theorem both_visited :
    (arrivals evaluated.ctx.workflowChain 1 (evaluated.since carriedOn.1)).map Node.id =
      ["yes", "no"] := by
  decide +kernel

theorem not_exclusive_both {visited : List Node} (h : visited.map Node.id = ["yes", "no"]) :
    ¬ Exclusive (eitherOr .carryOn) (check .carryOn) visited := by
  rintro ⟨handle, hhandle⟩
  have hhung : ∀ successor ∈ visited, (successor.id = "yes" → handle = "true") ∧
      (successor.id = "no" → handle = "false") := by
    intro successor hmem
    obtain ⟨edge, hedge, hnode⟩ := List.mem_filterMap.mp (hhandle successor hmem)
    have hid : successor.id = edge.target := WorkflowGraph.getNode_id hnode
    obtain ⟨hedges, hleaves⟩ := List.mem_filter.mp hedge
    have hcases : edge = ⟨"start", "check", none⟩ ∨ edge = ⟨"check", "yes", some "true"⟩ ∨
        edge = ⟨"check", "no", some "false"⟩ := by
      simpa [Workflow.graph, WorkflowGraph.ofLists, eitherOr] using hedges
    rcases hcases with rfl | rfl | rfl
    · exact absurd hleaves (by simp [check])
    · have hhandle : handle = "true" := by simpa [check, Edge.leavesBy, Value.pyEq] using hleaves
      exact ⟨fun _ => hhandle, fun hno => absurd (hid.symm.trans hno) (by decide)⟩
    · have hhandle : handle = "false" := by simpa [check, Edge.leavesBy, Value.pyEq] using hleaves
      exact ⟨fun hyes => absurd (hid.symm.trans hyes) (by decide), fun _ => hhandle⟩
  have hyes : "yes" ∈ visited.map Node.id := by rw [h]; decide
  have hno : "no" ∈ visited.map Node.id := by rw [h]; decide
  obtain ⟨yes, hmem, hid⟩ := List.mem_map.mp hyes
  obtain ⟨no, hmem', hid'⟩ := List.mem_map.mp hno
  have htrue := (hhung yes hmem).1 hid
  have hfalse := (hhung no hmem').2 hid'
  exact absurd (htrue.symm.trans hfalse) (by decide)

end Sample

/-- A condition that stops on errors keeps its branches apart. -/
theorem WorkflowEngine.branches_stopping : Branches False Sample.comparing
    (Sample.eitherOr .stop) (Sample.check .stop) 0 (.error Sample.notIterable) :=
  (branches_iff False Sample.comparing (Sample.eitherOr .stop) (Sample.check .stop) 0
    (.error Sample.notIterable) (.inl rfl) (by decide +kernel)).mpr (.inr (.inr (by decide)))

/-- A condition that carries on visits both of its branches when its evaluation raises. -/
theorem WorkflowEngine.not_exclusive_branches :
    ¬ ∀ (engine : WorkflowEngine) (replies : (request : Request) → Reply request → Prop)
      (fuel : Nat) (workflow : Workflow) (node : Node) (depth : Nat) (entry : Entry)
      (thread mid thread' : Thread) (activation : Activation) (told : Except Exc NodeOutcome)
      (outcome : Outcome (Activation × Except Exc Unit)),
      node.type.Routes → workflow.graph.findErrorHandler node.id = none →
      Ends (engineContract replies thread.ctx.dryRun workflow)
        (callExecutor workflow node depth { entry := entry }
          (engine.execNode (engine.executeSingleNode fuel) workflow node depth))
        thread mid (.ok (activation, told)) →
      Ends (engineContract replies thread.ctx.dryRun workflow)
        (engine.followUp (engine.executeSingleNode fuel) workflow node depth entry
          (activation, told)) mid thread' outcome →
      Exclusive workflow node (arrivals mid.ctx.workflowChain (depth + 1) (mid.since thread')) := by
  intro h
  have hroutes : (Sample.check .carryOn).type.Routes := .inl rfl
  have hhandler : (Sample.eitherOr .carryOn).graph.findErrorHandler "check" = none := by
    decide +kernel
  have hcalls : Ends (engineContract anyReply false (Sample.eitherOr .carryOn))
      (callExecutor (Sample.eitherOr .carryOn) (Sample.check .carryOn) 0 { entry := Sample.checking }
        (Sample.comparing.execNode (Sample.comparing.executeSingleNode 1) (Sample.eitherOr .carryOn)
          (Sample.check .carryOn) 0))
      Sample.total Sample.evaluated (.ok (({ entry := Sample.checking } : Activation).call .raised,
        .error Sample.notIterable)) :=
    ⟨{}, MergeJoins.sound_empty _, .done _ _⟩
  have hfollows : Ends (engineContract anyReply false (Sample.eitherOr .carryOn)) _
      Sample.evaluated Sample.carriedOn.1 Sample.carriedOn.2 :=
    ⟨{}, MergeJoins.sound_empty _,
      (sat_followUp (Sample.comparing.executeSingleNode_visiting anyReply false 1) hroutes hhandler
        Sample.checking _ rfl {} (MergeJoins.sound_empty _)).ends_of_run
        (Step.play_run Sample.answer Sample.first Sample.answer_any _)⟩
  exact Sample.not_exclusive_both Sample.both_visited
    (h Sample.comparing anyReply 1 _ _ 0 Sample.checking Sample.total _ _ _ _ _ hroutes hhandler
      hcalls hfollows)

end IntegrationPlatform
