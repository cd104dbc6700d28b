import IntegrationPlatform.Workflow.Engine

/-!
# What the executors do

`engineContract` is what every piece of the engine respects: the merge bookkeeping stays sound,
and a dry run asks for nothing but sleep and execution ids. An executor that does not start
other nodes is `Quiet`: it changes what expressions read, records nothing, and returns or raises.
-/

namespace IntegrationPlatform

open Resumption Eng

variable {α β : Type}

/-! ## The contract of the engine -/

/-- The requests that leave the world outside alone. -/
def Request.Harmless : Request → Prop
  | .sleep _ => True
  | .newExecution _ => True
  | _ => False

/-- Only merge nodes without incoming edges are ever marked as visited. -/
def MergeJoins.Sound (graph : WorkflowGraph) (joins : MergeJoins) : Prop :=
  ∀ nodeId ∈ joins.visitedMerges, graph.incoming nodeId = []

/-- The contract of the pieces of an execution of `workflow`. -/
def engineContract (replies : (request : Request) → Reply request → Prop) (dryRun : Bool)
    (workflow : Workflow) : Contract Request Reply MergeJoins where
  inv joins := joins.Sound workflow.graph
  asks request := dryRun = true → request.Harmless
  replies := replies

theorem MergeJoins.sound_empty (graph : WorkflowGraph) : MergeJoins.Sound graph {} := by
  intro nodeId hvisited
  simp at hvisited

/-! ## Frames -/

/-- `thread'` is `thread` after the expressions have been given other data to read. -/
structure Edits (thread thread' : Thread) : Prop where
  trace : thread'.trace = thread.trace
  nodeResults : thread'.ctx.nodeResults = thread.ctx.nodeResults
  dryRun : thread'.ctx.dryRun = thread.ctx.dryRun
  workflowChain : thread'.ctx.workflowChain = thread.ctx.workflowChain
  triggerData : thread'.ctx.triggerData = thread.ctx.triggerData
  vars : ∀ name, thread.ctx.vars.has name = true → thread'.ctx.vars.has name = true

/-- What no piece of the engine changes: the mode, the chain, the trigger data, the history so
far, and the variables that are set. -/
structure Frame (thread thread' : Thread) : Prop where
  trace : thread.trace <+: thread'.trace
  nodeResults : thread.ctx.nodeResults.length ≤ thread'.ctx.nodeResults.length
  dryRun : thread'.ctx.dryRun = thread.ctx.dryRun
  workflowChain : thread'.ctx.workflowChain = thread.ctx.workflowChain
  triggerData : thread'.ctx.triggerData = thread.ctx.triggerData
  vars : ∀ name, thread.ctx.vars.has name = true → thread'.ctx.vars.has name = true

variable {thread thread' thread'' : Thread}

theorem Edits.refl (thread : Thread) : Edits thread thread :=
  ⟨rfl, rfl, rfl, rfl, rfl, fun _ h => h⟩

theorem Edits.trans (h : Edits thread thread') (h' : Edits thread' thread'') :
    Edits thread thread'' :=
  ⟨h'.trace.trans h.trace, h'.nodeResults.trans h.nodeResults, h'.dryRun.trans h.dryRun,
    h'.workflowChain.trans h.workflowChain, h'.triggerData.trans h.triggerData,
    fun name hname => h'.vars name (h.vars name hname)⟩

theorem Edits.mapScope {change : Scope → Scope} (thread : Thread)
    (htrigger : (change thread.ctx.toScope).triggerData = thread.ctx.triggerData)
    (hvars : ∀ name, thread.ctx.vars.has name = true →
      (change thread.ctx.toScope).vars.has name = true) :
    Edits thread (thread.mapScope change) :=
  ⟨rfl, rfl, rfl, rfl, htrigger, hvars⟩

theorem Edits.setVar (thread : Thread) (name : String) (value : Value) :
    Edits thread (thread.mapScope fun scope => scope.setVar name value) :=
  .mapScope thread rfl fun name' h => by simp [Scope.setVar, Assoc.has_put, h]

theorem Edits.setNodeOutput (thread : Thread) (nodeId : String) (output : Value) :
    Edits thread (thread.mapScope fun scope => scope.setNodeOutput nodeId output) :=
  .mapScope thread rfl fun _ h => h

theorem Edits.setNodeOutputs {α : Type} (thread : Thread) (items : List α) (nodeId : α → String)
    (output : α → Value) :
    Edits thread (thread.mapScope fun scope => items.foldl (fun scope item =>
      scope.setNodeOutput (nodeId item) (output item)) scope) := by
  have hfold : ∀ scope : Scope,
      (items.foldl (fun scope item => scope.setNodeOutput (nodeId item) (output item))
        scope).triggerData = scope.triggerData ∧
      (items.foldl (fun scope item => scope.setNodeOutput (nodeId item) (output item))
        scope).vars = scope.vars := by
    induction items with
    | nil => exact fun _ => ⟨rfl, rfl⟩
    | cons item rest ih => exact fun scope => ih _
  exact .mapScope _ (hfold _).1 fun name h => by rw [(hfold _).2]; exact h

theorem Edits.mergeData (thread : Thread) (output : Value) :
    Edits thread (thread.mapScope fun scope => scope.mergeData output) := by
  apply Edits.mapScope
  · cases output <;> rfl
  · intro name h
    cases output <;> exact h

theorem Edits.frame (h : Edits thread thread') : Frame thread thread' :=
  ⟨h.trace ▸ List.prefix_refl _, h.nodeResults ▸ Nat.le_refl _, h.dryRun, h.workflowChain,
    h.triggerData, h.vars⟩

theorem Frame.refl (thread : Thread) : Frame thread thread :=
  (Edits.refl thread).frame

theorem Frame.trans (h : Frame thread thread') (h' : Frame thread' thread'') :
    Frame thread thread'' :=
  ⟨h.trace.trans h'.trace, h.nodeResults.trans h'.nodeResults, h'.dryRun.trans h.dryRun,
    h'.workflowChain.trans h.workflowChain, h'.triggerData.trans h.triggerData,
    fun name hname => h'.vars name (h.vars name hname)⟩

theorem Frame.log (thread : Thread) (events : List Event) : Frame thread (thread.log events) :=
  ⟨List.prefix_append _ _, Nat.le_refl _, rfl, rfl, rfl, fun _ h => h⟩

theorem Frame.mapResults (thread : Thread) {change : List Entry → List Entry}
    (h : thread.ctx.nodeResults.length ≤ (change thread.ctx.nodeResults).length) :
    Frame thread (thread.mapResults change) :=
  ⟨List.prefix_refl _, h, rfl, rfl, rfl, fun _ h => h⟩

theorem Frame.before {P : Event → Prop} (h : Frame thread thread')
    (hP : ∀ event ∈ thread'.trace, P event) : ∀ event ∈ thread.trace, P event :=
  fun event hevent => hP event (h.trace.subset hevent)

/-! ## Quiet executors -/

/-- The piece changed what expressions read, and returned or raised. -/
def Quiet (thread thread' : Thread) (outcome : Outcome α) : Prop :=
  Edits thread thread' ∧ ∀ stop, outcome = .error stop → ∃ exc, stop = .raised exc

variable {c : Contract Request Reply MergeJoins}

theorem sat_quiet_bind {first : Eng α} {next : α → Eng β} (h : Sat c first thread (Quiet thread))
    (hnext : ∀ thread' value, Edits thread thread' → Sat c (next value) thread' (Quiet thread')) :
    Sat c (first >>= next) thread (Quiet thread) := by
  refine h.bind (fun thread' value hmid => ?_) fun thread' stop hmid =>
    ⟨hmid.1, fun stop' hstop => hmid.2 stop' (by cases hstop; rfl)⟩
  exact (hnext thread' value hmid.1).mono fun _ _ h' => ⟨hmid.1.trans h'.1, h'.2⟩

theorem quiet_pure (value : α) : Sat c (Pure.pure value) thread (Quiet thread) :=
  sat_pure ⟨.refl thread, fun _ h => nomatch h⟩

theorem quiet_raise (exc : Exc) : Sat c (raise exc : Eng α) thread (Quiet thread) :=
  sat_raise ⟨.refl thread, fun _ h => by cases h; exact ⟨exc, rfl⟩⟩

theorem quiet_ofExcept (result : Except Exc α) : Sat c (ofExcept result) thread (Quiet thread) := by
  cases result with
  | ok value => exact quiet_pure value
  | error exc => exact quiet_raise exc

theorem quiet_ask {request : Request} (hasks : c.asks request) :
    Sat c (ask request) thread (Quiet thread) :=
  sat_ask hasks fun _ _ => ⟨.refl thread, fun _ h => nomatch h⟩

theorem quiet_modifyScope {change : Scope → Scope} {next : Unit → Eng α}
    (hedits : Edits thread (thread.mapScope change))
    (h : Sat c (next ()) (thread.mapScope change) (Quiet (thread.mapScope change))) :
    Sat c (modifyScope change >>= next) thread (Quiet thread) :=
  sat_modifyScope_bind.mpr (h.mono fun _ _ h' => ⟨hedits.trans h'.1, h'.2⟩)

theorem quiet_attempt {body : Eng α} (h : Sat c body thread (Quiet thread)) :
    Sat c (attempt body) thread (Quiet thread) := by
  refine h.attempt (fun _ _ hmid => ⟨hmid.1, fun _ h => nomatch h⟩)
    (fun _ _ hmid => ⟨hmid.1, fun _ h => nomatch h⟩) fun _ stop hne hmid => ?_
  obtain ⟨exc, hexc⟩ := hmid.2 stop rfl
  exact absurd hexc (hne exc)

section Executors

variable {engine : WorkflowEngine} {replies : (request : Request) → Reply request → Prop}
  {dryRun : Bool} {workflow : Workflow}

theorem quiet_actionExecutor (call : ActionCall) (hdry : dryRun ≠ true) :
    Sat (engineContract replies dryRun workflow) (WorkflowEngine.actionExecutor call) thread
      (Quiet thread) :=
  sat_quiet_bind (quiet_ask fun h => absurd h hdry) fun _ reply _ => quiet_ofExcept reply

theorem quiet_execAction (config : NodeConfig) (workflow' : Workflow)
    (hdry : thread.ctx.dryRun = dryRun) :
    Sat (engineContract replies dryRun workflow) (engine.execAction config workflow') thread
      (Quiet thread) := by
  unfold WorkflowEngine.execAction
  dsimp only
  split
  · exact quiet_raise _
  · rw [sat_getContext_bind]
    refine sat_quiet_bind (quiet_ofExcept _) fun thread' payload hedits => ?_
    split
    · exact sat_quiet_bind (quiet_ofExcept _) fun _ _ _ => quiet_pure _
    · next hreal =>
      split
      · exact quiet_actionExecutor _ (hdry ▸ hreal)
      · exact quiet_pure _

theorem quiet_classifyPiiFields (fieldPaths : List String) (tenantId credentialName : String)
    (hdry : dryRun ≠ true) :
    Sat (engineContract replies dryRun workflow)
      (engine.classifyPiiFields fieldPaths tenantId credentialName) thread (Quiet thread) := by
  unfold WorkflowEngine.classifyPiiFields
  split
  · exact quiet_pure _
  · refine sat_quiet_bind (quiet_attempt (quiet_actionExecutor _ hdry)) fun _ result _ => ?_
    cases result <;> exact quiet_pure _

theorem quiet_redactPii (data : Value) (tenantId credentialName : String) (hdry : dryRun ≠ true) :
    Sat (engineContract replies dryRun workflow) (engine.redactPii data tenantId credentialName)
      thread (Quiet thread) := by
  unfold WorkflowEngine.redactPii
  dsimp only
  split
  · exact sat_quiet_bind (quiet_classifyPiiFields _ _ _ hdry) fun _ _ _ => quiet_pure _
  · exact quiet_pure _

theorem quiet_thinkData (config : NodeConfig) (data : Dict) (workflow' : Workflow)
    (hdry : dryRun ≠ true) :
    Sat (engineContract replies dryRun workflow) (engine.thinkData config data workflow') thread
      (Quiet thread) := by
  unfold WorkflowEngine.thinkData
  split
  · exact quiet_redactPii _ _ _ hdry
  · exact quiet_pure _

theorem quiet_execThink (config : NodeConfig) (workflow' : Workflow)
    (hdry : thread.ctx.dryRun = dryRun) :
    Sat (engineContract replies dryRun workflow) (engine.execThink config workflow') thread
      (Quiet thread) := by
  unfold WorkflowEngine.execThink
  dsimp only
  split
  · exact quiet_raise _
  · rw [sat_getContext_bind]
    split
    · exact quiet_pure _
    · next hreal =>
      have hcall : dryRun ≠ true := hdry ▸ hreal
      refine sat_quiet_bind (quiet_thinkData _ _ _ hcall) fun _ sendData _ => ?_
      split
      · exact sat_quiet_bind (quiet_actionExecutor _ hcall) fun _ _ _ => quiet_pure _
      · exact quiet_pure _

theorem quiet_resolveCredentials (connectorName credentialName tenantId : String)
    (hdry : dryRun ≠ true) :
    Sat (engineContract replies dryRun workflow)
      (engine.resolveCredentials connectorName credentialName tenantId) thread (Quiet thread) := by
  unfold WorkflowEngine.resolveCredentials
  split
  · exact sat_quiet_bind (quiet_ask fun h => absurd h hdry) fun _ reply _ => quiet_ofExcept reply
  · exact quiet_pure _

theorem quiet_execHttpRequest (config : NodeConfig) (workflow' : Workflow)
    (hdry : thread.ctx.dryRun = dryRun) :
    Sat (engineContract replies dryRun workflow) (engine.execHttpRequest config workflow') thread
      (Quiet thread) := by
  unfold WorkflowEngine.execHttpRequest
  dsimp only
  split
  · exact quiet_raise _
  · rw [sat_getContext_bind]
    split
    · exact quiet_pure _
    · next hreal =>
      have hcall : dryRun ≠ true := hdry ▸ hreal
      refine sat_quiet_bind (quiet_resolveCredentials _ _ _ hcall) fun _ connection _ => ?_
      refine sat_quiet_bind (quiet_ask fun h => absurd h hcall) fun _ reply _ => ?_
      exact sat_quiet_bind (quiet_ofExcept reply) fun _ _ _ => quiet_pure _

theorem quiet_execRetry (workflow' : Workflow) (node : Node) (hdry : thread.ctx.dryRun = dryRun) :
    Sat (engineContract replies dryRun workflow) (engine.execRetry workflow' node) thread
      (Quiet thread) := by
  unfold WorkflowEngine.execRetry
  split
  · exact quiet_execAction _ _ hdry
  · exact quiet_execHttpRequest _ _ hdry
  · exact quiet_execThink _ _ hdry

theorem quiet_execHandlerAction (errorInfo : Value) (workflow' : Workflow) (action : HandlerAction)
    (hdry : thread.ctx.dryRun = dryRun) :
    Sat (engineContract replies dryRun workflow)
      (engine.execHandlerAction errorInfo workflow' action) thread (Quiet thread) := by
  cases action with
  | setVariable name value =>
      dsimp only [WorkflowEngine.execHandlerAction]
      split
      · exact quiet_pure _
      · exact quiet_modifyScope (.setVar _ _ _) (quiet_pure _)
  | transform mappings =>
      refine quiet_modifyScope ?_ (quiet_pure _)
      have hfold : ∀ (fields : List (String × Value)) (scope : Scope),
          (fields.foldl engine.applyMapping scope).triggerData = scope.triggerData ∧
            (fields.foldl engine.applyMapping scope).vars = scope.vars := by
        intro fields
        induction fields with
        | nil => exact fun _ => ⟨rfl, rfl⟩
        | cons field rest ih => exact fun scope => ih _
      exact .mapScope _ (hfold _ _).1 fun name h => by rw [(hfold _ _).2]; exact h
  | notify config =>
      dsimp only [WorkflowEngine.execHandlerAction]
      rw [sat_getContext_bind]
      refine sat_quiet_bind (quiet_ofExcept _) fun _ notification _ => ?_
      split
      · exact quiet_pure _
      · next hreal =>
        have hcall : dryRun ≠ true := hdry ▸ fun h => hreal (.inl h)
        exact sat_quiet_bind (quiet_actionExecutor _ hcall) fun _ _ _ => quiet_pure _
  | other type => exact quiet_pure _

theorem quiet_execHandlerActions (errorInfo : Value) (workflow' : Workflow)
    (actions : List HandlerAction) (hdry : thread.ctx.dryRun = dryRun) :
    Sat (engineContract replies dryRun workflow)
      (engine.execHandlerActions errorInfo workflow' actions) thread (Quiet thread) := by
  induction actions generalizing thread with
  | nil => exact quiet_pure _
  | cons action rest ih =>
      refine sat_quiet_bind (quiet_execHandlerAction _ _ _ hdry) fun thread' first hedits => ?_
      refine sat_quiet_bind (ih (hedits.dryRun.trans hdry)) fun _ _ _ => quiet_pure _

theorem quiet_execErrorHandler (config : NodeConfig) (workflow' : Workflow)
    (hdry : thread.ctx.dryRun = dryRun) :
    Sat (engineContract replies dryRun workflow) (engine.execErrorHandler config workflow') thread
      (Quiet thread) := by
  unfold WorkflowEngine.execErrorHandler
  rw [sat_getContext_bind]
  refine sat_quiet_bind (quiet_execHandlerActions _ _ _ hdry) fun _ results _ => ?_
  refine sat_quiet_bind (quiet_ofExcept _) fun _ error _ => ?_
  exact sat_quiet_bind (quiet_ofExcept _) fun _ _ _ => quiet_pure _

theorem quiet_execTransform (config : NodeConfig) :
    Sat (engineContract replies dryRun workflow) (engine.execTransform config) thread
      (Quiet thread) :=
  sat_getContext_bind.mpr (sat_quiet_bind (quiet_ofExcept _) fun _ _ _ => quiet_pure _)

theorem quiet_execSetVariable (config : NodeConfig) :
    Sat (engineContract replies dryRun workflow) (engine.execSetVariable config) thread
      (Quiet thread) :=
  sat_getContext_bind.mpr (quiet_modifyScope (.setVar _ _ _) (quiet_pure _))

theorem quiet_execAggregate (config : NodeConfig) :
    Sat (engineContract replies dryRun workflow) (engine.execAggregate config) thread
      (Quiet thread) := by
  unfold WorkflowEngine.execAggregate
  rw [sat_getContext_bind]
  dsimp only
  split
  · exact quiet_modifyScope (.setVar _ _ _)
      (sat_quiet_bind (quiet_ofExcept _) fun _ _ _ => quiet_pure _)
  · exact quiet_pure _

theorem quiet_execResponse (config : NodeConfig) :
    Sat (engineContract replies dryRun workflow) (engine.execResponse config) thread
      (Quiet thread) :=
  sat_getContext_bind.mpr (quiet_pure _)

theorem sat_sleepIf_bind {condition : Prop} [Decidable condition] {seconds : Rat}
    {next : Unit → Eng α} {P : Thread → Outcome α → Prop}
    (h : Sat (engineContract replies dryRun workflow) (next ()) thread P) :
    Sat (engineContract replies dryRun workflow)
      (WorkflowEngine.sleepIf condition seconds >>= next) thread P := by
  unfold WorkflowEngine.sleepIf
  split
  · exact sat_ask_bind (fun _ => trivial) fun _ _ => h
  · exact h

theorem quiet_execDelay (config : NodeConfig) :
    Sat (engineContract replies dryRun workflow) (WorkflowEngine.execDelay config) thread
      (Quiet thread) :=
  sat_sleepIf_bind (sat_getContext_bind.mpr (quiet_pure _))

end Executors

/-! ## Outcomes of nodes -/

/-- The handle by which the path goes on after a node, read off its output. -/
def NodeType.handleOf (type : NodeType) (output : Value) : Value :=
  let field (key : String) : Value :=
    match output with
    | .dict fields => (Assoc.find fields key).getD .null
    | _ => .null
  match type with
  | .condition => field "handle"
  | .switch => field "matched_case"
  | .loop => .str "done"
  | .parallel => .str "done"
  | .batch => .str "done"
  | _ => .null

/-- What the executor of a node of a type can tell the traversal. -/
def NodeOutcome.Fits (type : NodeType) : NodeOutcome → Prop
  | .filtered => type = .filter
  | .responded _ => type = .response
  | .proceeds output handle => type ≠ .response ∧ handle = type.handleOf output

/-- The status of the entry of a node that told this. -/
def NodeOutcome.status : NodeOutcome → Status
  | .filtered => .filtered
  | _ => .success

theorem NodeOutcome.status_ne_failed (told : NodeOutcome) : told.status ≠ .failed := by
  cases told <;> simp [NodeOutcome.status]

/-- On this scope the piece asks for nothing, changes nothing and returns this value. -/
def Eng.Returns (body : Eng α) (scope : Scope) (value : α) : Prop :=
  ∀ thread joins, thread.ctx.toScope = scope → body thread joins = .done joins (thread, .ok value)

/-- What a node that chooses the path tells is what its executor returns on this scope. -/
def NodeOutcome.Decided (engine : WorkflowEngine) (node : Node) (scope : Scope)
    (told : NodeOutcome) : Prop :=
  match node.type with
  | .condition => ∃ output handle, told = .proceeds output handle ∧
      Returns (engine.execCondition node.config) scope (output, handle)
  | .switch => ∃ output handle, told = .proceeds output handle ∧
      Returns (engine.execSwitch node.config) scope (output, handle)
  | .filter => ∃ passed, Returns (engine.execFilter node.config) scope passed ∧
      (told = .filtered ↔ passed = false)
  | _ => True

/-- What the executor of a node told the traversal fits its type, and was decided on this scope. -/
structure NodeOutcome.Tells (engine : WorkflowEngine) (node : Node) (scope : Scope)
    (told : NodeOutcome) : Prop where
  fits : told.Fits node.type
  decided : told.Decided engine node scope

section Handles

variable {engine : WorkflowEngine} {replies : (request : Request) → Reply request → Prop}
  {dryRun : Bool} {workflow : Workflow}

theorem Eng.returns_ofExcept_bind {β : Type} {result : Scope → Except Exc α} {next : α → β}
    {scope : Scope} {value : α} (h : result scope = .ok value) :
    Returns (getContext >>= fun ctx => ofExcept (result ctx.toScope) >>= fun value =>
      Pure.pure (next value)) scope (next value) := by
  rintro thread joins rfl
  show ((ofExcept (result thread.ctx.toScope) >>= fun value => Pure.pure (next value)) : Eng β)
    thread joins = _
  rw [h]
  rfl

theorem quiet_execCondition (config : NodeConfig) :
    Sat (engineContract replies dryRun workflow) (engine.execCondition config) thread
      fun thread' outcome => Quiet thread thread' outcome ∧
        ∀ result, outcome = .ok result → result.2 = NodeType.condition.handleOf result.1 ∧
          Returns (engine.execCondition config) thread.ctx.toScope result := by
  refine sat_getContext_bind.mpr ?_
  cases hresults : engine.evaluateConditions (config.conditions.getD []) thread.ctx.toScope with
  | error exc =>
      exact sat_raise ⟨⟨.refl _, fun _ h => by cases h; exact ⟨exc, rfl⟩⟩, fun _ h => nomatch h⟩
  | ok results =>
      refine sat_pure ⟨⟨.refl _, fun _ h => nomatch h⟩, fun result hresult => ?_⟩
      obtain rfl := Except.ok.inj hresult
      exact ⟨rfl, returns_ofExcept_bind hresults⟩

theorem quiet_execSwitch (config : NodeConfig) :
    Sat (engineContract replies dryRun workflow) (engine.execSwitch config) thread
      fun thread' outcome => Quiet thread thread' outcome ∧
        ∀ result, outcome = .ok result → result.2 = NodeType.switch.handleOf result.1 ∧
          Returns (engine.execSwitch config) thread.ctx.toScope result := by
  refine sat_getContext_bind.mpr (sat_pure ⟨⟨.refl _, fun _ h => nomatch h⟩, ?_⟩)
  intro result hresult
  obtain rfl := Except.ok.inj hresult
  refine ⟨rfl, fun thread' joins hscope => ?_⟩
  rw [← hscope]
  rfl

theorem quiet_execFilter (config : NodeConfig) :
    Sat (engineContract replies dryRun workflow) (engine.execFilter config) thread
      fun thread' outcome => Quiet thread thread' outcome ∧
        ∀ passed, outcome = .ok passed →
          Returns (engine.execFilter config) thread.ctx.toScope passed := by
  refine sat_getContext_bind.mpr ?_
  cases hresults : engine.evaluateConditions (config.conditions.getD []) thread.ctx.toScope with
  | error exc =>
      exact sat_raise ⟨⟨.refl _, fun _ h => by cases h; exact ⟨exc, rfl⟩⟩, fun _ h => nomatch h⟩
  | ok results =>
      refine sat_pure ⟨⟨.refl _, fun _ h => nomatch h⟩, fun passed hpassed => ?_⟩
      obtain rfl := Except.ok.inj hpassed
      exact returns_ofExcept_bind hresults

end Handles

end IntegrationPlatform
