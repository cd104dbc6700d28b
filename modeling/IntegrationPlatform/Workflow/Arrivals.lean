import IntegrationPlatform.Workflow.Runs

/-!
# Arrivals

The activations that start at one depth of an execution, read off its history. Everything that an
activation records after its own arrival lies deeper or in a sub-workflow (`behaviour_deepens`), so
that the arrivals at a depth are the nodes visited from the activation above
(`behaviour_announces`).
-/

namespace IntegrationPlatform

open Resumption Eng WorkflowEngine

/-! ## Arrivals -/

/-- The node whose activation starts at this depth of an execution, if the event says so. -/
def Event.arrivalAt (chain : List String) (depth : Nat) : Event → Option Node
  | .arrived site => if site.chain = chain ∧ site.depth = depth then some site.node else none
  | _ => none

/-- The nodes whose activations start at this depth of an execution. -/
def arrivals (chain : List String) (depth : Nat) (trace : List Event) : List Node :=
  trace.filterMap (Event.arrivalAt chain depth)

/-- What was recorded since an earlier moment. -/
def Thread.since (thread thread' : Thread) : List Event :=
  thread'.trace.drop thread.trace.length

@[simp] theorem arrivals_nil (chain : List String) (depth : Nat) : arrivals chain depth [] = [] :=
  rfl

@[simp] theorem arrivals_append (chain : List String) (depth : Nat) (trace trace' : List Event) :
    arrivals chain depth (trace ++ trace') = arrivals chain depth trace ++ arrivals chain depth trace' :=
  List.filterMap_append

@[simp] theorem arrivals_arrived (thread : Thread) (workflow : Workflow) (node : Node) (depth : Nat)
    (events : List Event) :
    arrivals thread.ctx.workflowChain depth (.arrived (thread.site workflow node depth) :: events) =
      node :: arrivals thread.ctx.workflowChain depth events := by
  have hself : Event.arrivalAt thread.ctx.workflowChain depth
      (.arrived (thread.site workflow node depth)) = some node := if_pos ⟨rfl, rfl⟩
  exact List.filterMap_cons_some hself

variable {events : List Event}

theorem Thread.since_eq {thread thread' : Thread}
    (h : thread'.trace = thread.trace ++ events) : thread.since thread' = events := by
  simp [Thread.since, h]

/-- A depth of a chain that is reached from inside an activation at this depth of this chain. -/
def Beyond (chain : List String) (depth : Nat) (chain' : List String) (depth' : Nat) : Prop :=
  chain.length < chain'.length ∨ (chain' = chain ∧ depth < depth')

theorem Beyond.child {chain chain' : List String} {depth depth' : Nat}
    (h : Beyond chain depth chain' depth') (id : String) (depth'' : Nat) :
    Beyond chain depth (chain' ++ [id]) depth'' := by
  refine .inl ?_
  rw [List.length_append, List.length_singleton]
  rcases h with hlonger | ⟨rfl, _⟩ <;> omega

theorem Beyond.succ {chain chain' : List String} {depth depth' : Nat}
    (h : Beyond chain depth chain' depth') : Beyond chain depth chain' (depth' + 1) := by
  rcases h with hlonger | ⟨rfl, hdeeper⟩
  · exact .inl hlonger
  · exact .inr ⟨rfl, by omega⟩

/-- An activation that starts, if it does, does so beyond this depth. -/
def Event.Deep (chain : List String) (depth : Nat) (event : Event) : Prop :=
  ∀ site, event = .arrived site → Beyond chain depth site.chain site.depth

theorem arrivals_deep {chain : List String} {depth : Nat}
    (h : ∀ event ∈ events, event.Deep chain depth) : arrivals chain depth events = [] := by
  refine List.filterMap_eq_nil_iff.mpr fun event hevent => ?_
  cases event with
  | arrived site =>
      refine if_neg fun hsite => ?_
      rcases h _ hevent site rfl with hlonger | ⟨_, hdeeper⟩
      · rw [hsite.1] at hlonger
        exact Nat.lt_irrefl _ hlonger
      · rw [hsite.2] at hdeeper
        exact Nat.lt_irrefl _ hdeeper
  | _ => rfl

/-- Between two threads, activations only started beyond this depth. -/
def Deepens (chain : List String) (depth : Nat) (thread thread' : Thread) : Prop :=
  ∃ events, thread'.trace = thread.trace ++ events ∧ ∀ event ∈ events, event.Deep chain depth

section Deepening

variable {chain : List String} {depth : Nat} {thread mid thread' : Thread}

theorem Deepens.silent (h : thread'.trace = thread.trace) : Deepens chain depth thread thread' :=
  ⟨[], by rw [h, List.append_nil], fun _ hmem => nomatch hmem⟩

theorem Deepens.log (h : ∀ event ∈ events, event.Deep chain depth) :
    Deepens chain depth thread (thread.log events) :=
  ⟨events, rfl, h⟩

theorem Deepens.event {event : Event} (h : ∀ site, event ≠ .arrived site) :
    Deepens chain depth thread (thread.log [event]) := by
  refine .log fun event' hmem site heq => ?_
  rw [List.mem_singleton.mp hmem] at heq
  exact absurd heq (h site)

theorem Deepens.append (thread : Thread) (activation : Activation) (entry : Entry) :
    Deepens chain depth thread (thread.append activation entry) :=
  .silent rfl

theorem Deepens.trans (h : Deepens chain depth thread mid) (h' : Deepens chain depth mid thread') :
    Deepens chain depth thread thread' := by
  obtain ⟨events, htrace, hevents⟩ := h
  obtain ⟨events', htrace', hevents'⟩ := h'
  refine ⟨events ++ events', by rw [htrace', htrace, List.append_assoc], fun event hmem => ?_⟩
  exact (List.mem_append.mp hmem).elim (hevents event) (hevents' event)

theorem Deepens.all (h : Deepens chain depth thread thread') (hnil : thread.trace = []) :
    ∀ event ∈ thread'.trace, event.Deep chain depth := by
  obtain ⟨events, htrace, hevents⟩ := h
  rw [htrace, hnil]
  exact hevents

theorem Deepens.pieces {pieces : List (Thread × Outcome Unit)}
    (h : ∀ piece ∈ pieces, ∀ event ∈ piece.1.trace, event.Deep chain depth) :
    Deepens chain depth thread (thread.log (pieces.flatMap fun piece => piece.1.trace)) := by
  refine .log fun event hmem => ?_
  obtain ⟨piece, hpiece, hevent⟩ := List.mem_flatMap.mp hmem
  exact h piece hpiece event hevent

end Deepening

/-! ## What an activation records of the nodes below it -/

/-- Activations that stay within the frame and, where they start beyond a depth, beyond it. -/
structure DeepVisits (V : VisitRel) (chain : List String) (depth : Nat) : Prop where
  frame : ∀ {w n d t t' o}, V w n d t t' o → Frame t t'
  deepens : ∀ {w n d t t' o}, Beyond chain depth t.ctx.workflowChain d → V w n d t t' o →
    Deepens chain depth t t'

section Visits

variable {V : VisitRel} {engine : WorkflowEngine} {chain : List String} {depth depth' : Nat}
  {workflow : Workflow} {node : Node} {nodes : List Node} {thread thread' : Thread}
  {outcome : Outcome Unit} {first activation : Activation}
  (hV : DeepVisits V chain depth)
include hV

theorem Each.deepens (h : Each V workflow depth' nodes thread thread' outcome)
    (hbeyond : Beyond chain depth thread.ctx.workflowChain depth') :
    Deepens chain depth thread thread' := by
  induction h with
  | nil thread => exact .silent rfl
  | cons hvisit _ ih =>
      refine (hV.deepens hbeyond hvisit).trans (ih ?_)
      rwa [(hV.frame hvisit).workflowChain]
  | stop hvisit => exact hV.deepens hbeyond hvisit

theorem Traversal.deepens (h : Traversal V workflow depth' nodes thread thread' outcome)
    (hbeyond : Beyond chain depth thread.ctx.workflowChain depth') :
    Deepens chain depth thread thread' := by
  cases h with
  | exceeded message _ _ => exact .event fun _ heq => nomatch heq
  | each _ heach => exact heach.deepens hV hbeyond

variable {ended : Outcome (Except Exc Unit)}

theorem Traverses.deepens {calls : List CallOutcome}
    (h : Traverses V workflow node depth' calls nodes thread thread' ended)
    (hbeyond : Beyond chain depth thread.ctx.workflowChain (depth' + 1)) :
    Deepens chain depth thread thread' := by
  rcases ended with stop | exc | value
  · exact h.2.deepens hV hbeyond
  · obtain ⟨mid, hmid, rfl⟩ := h
    exact (hmid.deepens hV hbeyond).trans (.event fun _ heq => nomatch heq)
  · exact Traversal.deepens hV h hbeyond

theorem FromTrigger.deepens (h : FromTrigger V workflow thread thread' outcome)
    (hbeyond : Beyond chain depth thread.ctx.workflowChain 0) :
    Deepens chain depth thread thread' := by
  have hstarted : Deepens chain depth thread
      (thread.log [.started thread.ctx.workflowChain workflow]) := .event fun _ heq => nomatch heq
  cases h with
  | noTrigger message _ => exact hstarted
  | @run trigger entry _ start _ _ _ hedits _ _ htraversal =>
      have hedited : Deepens chain depth _ (start.mapResults (· ++ [entry])) :=
        .silent hedits.trace
      refine (hstarted.trans hedited).trans (htraversal.deepens hV ?_)
      rw [Thread.mapResults_workflowChain, hedits.workflowChain]
      exact hbeyond

theorem Piece.deepens (h : Piece V workflow node depth' thread thread' outcome)
    (hbeyond : Beyond chain depth thread.ctx.workflowChain (depth' + 1)) :
    ∀ event ∈ thread'.trace, event.Deep chain depth := by
  cases h with
  | branch _ _ hforks hvisit =>
      rw [← hforks.workflowChain] at hbeyond
      exact (hV.deepens hbeyond hvisit).all hforks.trace
  | item _ hforks htraversal =>
      rw [← hforks.workflowChain] at hbeyond
      exact (htraversal.deepens hV hbeyond).all hforks.trace

theorem Inside.deepens (h : Inside V engine workflow node depth' thread thread' outcome)
    (hbeyond : Beyond chain depth thread.ctx.workflowChain (depth' + 1)) :
    Deepens chain depth thread thread' := by
  induction h with
  | edit hedits => exact .silent hedits.trace
  | raises exc hedits => exact .silent hedits.trace
  | blocks _ hedits => exact .silent hedits.trace
  | body _ hbody => exact hbody.deepens hV hbeyond
  | join _ hpieces _ =>
      refine (Deepens.pieces fun piece hpiece => ?_).trans (.silent rfl)
      exact (hpieces piece hpiece).deepens hV hbeyond
  | joinStops _ hpieces _ _ =>
      exact .pieces fun piece hpiece => (hpieces piece hpiece).deepens hV hbeyond
  | refused thread workflowId message _ => exact .event fun _ heq => nomatch heq
  | child _ _ _ _ hrun => exact .log ((hrun.deepens hV (hbeyond.child _ 0)).all rfl)
  | trans hfirst _ ih ih' =>
      refine (ih hbeyond).trans (ih' ?_)
      rwa [(hfirst.frame hV.frame).workflowChain]

theorem Calls.deepens {outcome : Outcome NodeOutcome}
    (h : Calls V engine workflow node depth' activation thread thread' outcome)
    (hbeyond : Beyond chain depth thread.ctx.workflowChain (depth' + 1)) :
    Deepens chain depth thread thread' := by
  have hcalled : Deepens chain depth thread
      (thread.log [.called (thread.site workflow node depth') activation.calls]) :=
    .event fun _ heq => nomatch heq
  exact hcalled.trans (Inside.deepens hV h.executes.1 hbeyond)

theorem Proceeds.deepens {activation' : Activation}
    (h : Proceeds V engine workflow node depth' activation thread activation' thread' ended)
    (hbeyond : Beyond chain depth thread.ctx.workflowChain (depth' + 1)) :
    Deepens chain depth thread thread' := by
  obtain ⟨mid, start, output, entry, hcalls, hedits, _, _, _, htraverses⟩ := h
  refine (hcalls.deepens hV hbeyond).trans ((Deepens.silent hedits.trace).trans
    ((Deepens.append _ _ _).trans (htraverses.deepens hV ?_)))
  rw [(Frame.append _ _ _).workflowChain, hedits.workflowChain, (hcalls.frame hV.frame).workflowChain]
  exact hbeyond

theorem Attempts.deepens (h : Attempts V engine workflow node depth' first thread activation thread')
    (hbeyond : Beyond chain depth thread.ctx.workflowChain (depth' + 1)) :
    Deepens chain depth thread thread' := by
  induction h with
  | none => exact .silent rfl
  | raised hattempts hcalls ih =>
      rw [← (hattempts.frame hV.frame).workflowChain] at hbeyond
      exact ih.trans ((hcalls.deepens hV hbeyond).trans (.event fun _ heq => nomatch heq))
  | descendant hattempts hproceeds ih =>
      rw [← (hattempts.frame hV.frame).workflowChain] at hbeyond
      exact ih.trans (hproceeds.deepens hV hbeyond)

variable {result : Outcome (Activation × Except Exc Unit)}

theorem GivesUp.deepens (h : GivesUp V workflow node depth' activation thread thread' result)
    (hbeyond : Beyond chain depth thread.ctx.workflowChain (depth' + 1)) :
    Deepens chain depth thread thread' := by
  cases h with
  | @handler exc entry handler _ _ _ _ hhandler =>
      have hset : Deepens chain depth (thread.append activation entry)
          ((thread.append activation entry).mapScope fun scope =>
            scope.setVar "_error" (errorInfo node exc thread.ctx.toScope)) := .silent rfl
      have hhandled : ∀ thread : Thread, Deepens chain depth thread (thread.log
          [.handled (thread.site workflow node depth') activation.calls handler
            (errorInfo node exc thread.ctx.toScope)]) := fun _ => .event fun _ heq => nomatch heq
      exact (Deepens.append _ _ _).trans (hset.trans ((hhandled _).trans
        (hV.deepens hbeyond hhandler)))
  | carryOn _ _ _ htraversal =>
      exact (Deepens.append _ _ _).trans (htraversal.deepens hV hbeyond)
  | ignore _ _ _ => exact .silent rfl
  | raises _ _ _ _ _ => exact .silent rfl

theorem Body.deepens (h : Body V engine workflow node depth' first thread thread' result)
    (hbeyond : Beyond chain depth thread.ctx.workflowChain (depth' + 1)) :
    Deepens chain depth thread thread' := by
  have hlater : ∀ {before mid}, Attempts V engine workflow node depth' first thread before mid →
      Beyond chain depth mid.ctx.workflowChain (depth' + 1) := by
    intro before mid hattempts
    rwa [(hattempts.frame hV.frame).workflowChain]
  cases h with
  | stops hattempts _ hcalls =>
      exact (hattempts.deepens hV hbeyond).trans (hcalls.deepens hV (hlater hattempts))
  | ends hattempts hcalls _ hedits _ =>
      exact (hattempts.deepens hV hbeyond).trans ((hcalls.deepens hV (hlater hattempts)).trans
        ((Deepens.silent hedits.trace).trans (.silent rfl)))
  | proceeds hattempts hproceeds _ =>
      exact (hattempts.deepens hV hbeyond).trans (hproceeds.deepens hV (hlater hattempts))
  | givesUp hattempts _ hgives =>
      exact (hattempts.deepens hV hbeyond).trans (hgives.deepens hV (hlater hattempts))

theorem Activates.deepens (h : Activates V engine workflow node depth' thread thread' outcome)
    (hbeyond : Beyond chain depth thread.ctx.workflowChain (depth' + 1)) :
    Deepens chain depth (thread.log [.arrived (thread.site workflow node depth')]) thread' := by
  cases h with
  | mergeRaised message _ => exact .event fun _ heq => nomatch heq
  | mergeSkipped _ _ => exact .event fun _ heq => nomatch heq
  | stops _ hbody => exact hbody.deepens hV hbeyond
  | left _ hbody => exact (hbody.deepens hV hbeyond).trans (.event fun _ heq => nomatch heq)

end Visits

theorem WorkflowEngine.behaviour_deepens (engine : WorkflowEngine)
    (replies : (request : Request) → Reply request → Prop) (fuel : Nat) (chain : List String)
    (depth : Nat) : DeepVisits (engine.Behaviour replies fuel) chain depth := by
  induction fuel with
  | zero => exact ⟨behaviour_frame, fun _ h => .silent (by rw [(behaviour_zero h).1])⟩
  | succ fuel ih =>
      refine ⟨behaviour_frame, fun {w n d t t' o} hbeyond h => ?_⟩
      have harrival : Deepens chain depth t (t.log [.arrived (t.site w n d)]) := by
        refine .log fun event hmem site heq => ?_
        obtain rfl := Event.arrived.inj ((List.mem_singleton.mp hmem).symm.trans heq)
        exact hbeyond
      exact harrival.trans ((behaviour_succ h).deepens ih hbeyond.succ)

/-! ## Visits that announce themselves -/

/-- The history of an activation shows one arrival at its depth, its own, unless the bound on
nested activations ends it before it starts. -/
def Announces (V : VisitRel) : Prop :=
  ∀ {w n d t t' o}, V w n d t t' o → ∃ events, t'.trace = t.trace ++ events ∧
    (arrivals t.ctx.workflowChain d events = [n] ∨
      (arrivals t.ctx.workflowChain d events = [] ∧ o = .error .outOfFuel))

theorem WorkflowEngine.behaviour_announces (engine : WorkflowEngine)
    (replies : (request : Request) → Reply request → Prop) (fuel : Nat) :
    Announces (engine.Behaviour replies fuel) := by
  intro w n d t t' o h
  cases fuel with
  | zero =>
      obtain ⟨rfl, rfl⟩ := behaviour_zero h
      exact ⟨[], (List.append_nil _).symm, .inr ⟨rfl, rfl⟩⟩
  | succ fuel =>
      have hV := engine.behaviour_deepens replies fuel t.ctx.workflowChain d
      obtain ⟨events, htrace, hevents⟩ :=
        (behaviour_succ h).deepens hV (.inr ⟨rfl, Nat.lt_succ_self d⟩)
      refine ⟨.arrived (t.site w n d) :: events, ?_, .inl ?_⟩
      · rw [htrace, Thread.log_trace, List.append_assoc]
        rfl
      · rw [arrivals_arrived, arrivals_deep hevents]

/-- Whatever activations do: they behave as `V` says, announce themselves and, where `calm`, never
raise. -/
structure Visiting (replies : (request : Request) → Reply request → Prop) (dryRun : Bool)
    (calm : Prop) (visit : Visit) (V : VisitRel) : Prop where
  behaves : Behaves replies dryRun visit V
  announces : Announces V
  returns : calm → ∀ {w n d t t' o}, V w n d t t' o → ∀ exc, o ≠ .error (.raised exc)

theorem WorkflowEngine.executeSingleNode_visiting (engine : WorkflowEngine)
    (replies : (request : Request) → Reply request → Prop) (dryRun : Bool) (fuel : Nat) :
    Visiting replies dryRun False (engine.executeSingleNode fuel) (engine.Behaviour replies fuel) where
  behaves := behaves engine replies dryRun fuel
  announces := engine.behaviour_announces replies fuel
  returns h := h.elim

end IntegrationPlatform
