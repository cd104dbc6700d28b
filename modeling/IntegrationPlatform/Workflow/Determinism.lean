import IntegrationPlatform.Workflow.Runs

/-!
# Pieces with one result

When replies are a function of the requests, a piece of the engine is `Settled` if it has one
result from each thread, whatever the scheduler picks and whatever others do to the merge
bookkeeping. The executors of nodes that start no other nodes are settled, and settled pieces can
be put in sequence, caught, isolated and run concurrently.
-/

namespace IntegrationPlatform

open Resumption Eng WorkflowEngine

variable {α β : Type}

/-- Replies of a family, and nothing to rely on about the merge bookkeeping. -/
def freely (answer : (request : Request) → Reply request) : Contract Request Reply MergeJoins where
  inv _ := True
  asks _ := True
  replies := onlyReply answer

/-- From each thread the piece has one result. -/
def Settled (answer : (request : Request) → Reply request) (body : Eng α) : Prop :=
  ∀ thread, ∃ result, Sat (freely answer) body thread fun thread' outcome =>
    (thread', outcome) = result

variable {answer : (request : Request) → Reply request}

/-! ## Rules -/

variable {body : Eng α}

theorem settled_of (result : Thread → Thread × Outcome α)
    (h : ∀ thread, Sat (freely answer) body thread fun thread' outcome =>
      (thread', outcome) = result thread) : Settled answer body :=
  fun thread => ⟨result thread, h thread⟩

theorem settled_halt (outcome : Outcome α) : Settled answer (halt outcome) :=
  settled_of (fun thread => (thread, outcome)) fun _ => sat_halt rfl

theorem settled_pure (value : α) : Settled answer (Pure.pure value : Eng α) :=
  settled_halt (.ok value)

theorem settled_raise (exc : Exc) : Settled answer (raise exc : Eng α) :=
  settled_halt _

theorem settled_ofExcept (result : Except Exc α) : Settled answer (ofExcept result) := by
  cases result with
  | ok value => exact settled_pure value
  | error exc => exact settled_raise exc

theorem settled_getContext : Settled answer getContext :=
  settled_of (fun thread => (thread, .ok thread.ctx)) fun _ _ _ => ⟨trivial, rfl⟩

theorem settled_modifyScope (change : Scope → Scope) : Settled answer (modifyScope change) :=
  settled_of (fun thread => (thread.mapScope change, .ok ())) fun _ _ _ => ⟨trivial, rfl⟩

theorem settled_modifyResults (change : List Entry → List Entry) :
    Settled answer (modifyResults change) :=
  settled_of (fun thread => (thread.mapResults change, .ok ())) fun _ _ _ =>
    ⟨trivial, rfl⟩

theorem settled_emitAll (events : List Event) : Settled answer (emitAll events) :=
  settled_of (fun thread => (thread.log events, .ok ())) fun _ _ _ => ⟨trivial, rfl⟩

theorem settled_emitAt (workflow : Workflow) (node : Node) (depth : Nat) (event : Site → Event) :
    Settled answer (emitAt workflow node depth event) :=
  settled_of (fun thread =>
    (thread.log [event (thread.site workflow node depth)], .ok ())) fun _ _ _ => ⟨trivial, rfl⟩

theorem settled_appendEntry (activation : Activation) (entry : Entry) :
    Settled answer (appendEntry activation entry) :=
  settled_of (fun thread =>
    (thread.append activation entry, .ok (activation.append thread entry))) fun _ _ _ =>
      ⟨trivial, rfl⟩

theorem settled_ask (request : Request) : Settled answer (ask request) :=
  settled_of (fun thread => (thread, .ok (answer request))) fun _ =>
    sat_ask trivial fun _ hreply => congrArg (fun reply => (_, Except.ok reply)) hreply

theorem settled_complete (nodeId : String) : Settled answer (complete nodeId) :=
  settled_of (fun thread => (thread, .ok ())) fun _ _ _ => ⟨trivial, rfl⟩

theorem Settled.bind {first : Eng α} {next : α → Eng β} (h : Settled answer first)
    (hnext : ∀ value, Settled answer (next value)) : Settled answer (first >>= next) := by
  intro thread
  obtain ⟨⟨mid, outcome⟩, hfirst⟩ := h thread
  cases outcome with
  | ok value =>
      obtain ⟨result, hresult⟩ := hnext value mid
      refine ⟨result, hfirst.bind (fun thread' value' heq => ?_) fun _ _ heq => ?_⟩
      · obtain ⟨rfl, hvalue⟩ := Prod.mk.inj heq
        exact Except.ok.inj hvalue ▸ hresult
      · exact nomatch (Prod.mk.inj heq).2
  | error stop =>
      refine ⟨(mid, .error stop), hfirst.bind (fun _ _ heq => ?_) fun _ _ heq => ?_⟩
      · exact nomatch (Prod.mk.inj heq).2
      · obtain ⟨rfl, hstop⟩ := Prod.mk.inj heq
        rw [Except.error.inj hstop]

theorem Settled.map (h : Settled answer body) (f : α → β) :
    Settled answer (f <$> body) :=
  h.bind fun value => settled_pure (f value)

/-- The outcome of catching a piece that ended so. -/
def caught : Outcome α → Outcome (Except Exc α)
  | .ok value => .ok (.ok value)
  | .error (.raised exc) => .ok (.error exc)
  | .error stop => .error stop

theorem Settled.attempt (h : Settled answer body) :
    Settled answer (attempt body) := by
  intro thread
  obtain ⟨⟨mid, outcome⟩, hbody⟩ := h thread
  refine ⟨(mid, caught outcome), hbody.attempt (fun _ _ heq => ?_) (fun _ _ heq => ?_)
    fun _ stop hne heq => ?_⟩
  · obtain ⟨rfl, rfl⟩ := Prod.mk.inj heq
    rfl
  · obtain ⟨rfl, rfl⟩ := Prod.mk.inj heq
    rfl
  · obtain ⟨rfl, rfl⟩ := Prod.mk.inj heq
    cases stop with
    | raised exc => exact absurd rfl (hne exc)
    | blocked => rfl
    | outOfFuel => rfl

theorem Settled.isolated (h : Settled answer body)
    (copy : MergeJoins → MergeJoins) : Settled answer (isolated copy body) := by
  intro thread
  obtain ⟨result, hresult⟩ := h thread
  exact ⟨result, sat_isolated (I := fun _ => True) (fun _ _ => trivial) hresult⟩

theorem Settled.fork (h : Settled answer body) (start : Thread) :
    Settled answer (fork start body) := by
  intro thread
  obtain ⟨result, hresult⟩ := h start
  refine ⟨(thread, .ok result), fun joins hjoins => ?_⟩
  exact (hresult joins hjoins).bind fun ended _ hended hjoins' => ⟨hjoins', by rw [← hended]⟩

theorem exists_result_by_key {ι : Type} [Nonempty β] {P : α → β → Prop} {key : α → ι}
    {items : List α} (hkeys : (items.map key).Nodup) (h : ∀ item ∈ items, ∃ result, P item result) :
    ∃ result : ι → β, ∀ item ∈ items, P item (result (key item)) := by
  classical
  choose! value hvalue using h
  refine ⟨fun wanted => if hfound : ∃ item ∈ items, key item = wanted then value hfound.choose
    else Classical.arbitrary β, fun item hitem => ?_⟩
  have hfound : ∃ item' ∈ items, key item' = key item := ⟨item, hitem, rfl⟩
  have hchosen := hfound.choose_spec
  dsimp only
  rw [dif_pos hfound, List.inj_on_of_nodup_map hkeys hchosen.1 hitem hchosen.2]
  exact hvalue item hitem

theorem settled_gather_zero {tasks : List (Nat × Thread × Eng α)}
    (hkeys : (tasks.map Prod.fst).Nodup) (h : ∀ task ∈ tasks, Settled answer task.2.2) :
    Settled answer (gather 0 tasks) := by
  have : Nonempty (Thread × Outcome α) := ⟨(.idle, .error .blocked)⟩
  intro thread
  obtain ⟨result, hresult⟩ := exists_result_by_key hkeys fun task htask => h task htask task.2.1
  refine ⟨(thread, .ok (tasks.map fun task => (task.1, result task.1))), fun joins hjoins => ?_⟩
  have hpool : ∀ entry ∈ tasks.map fun task => (task.1, Step.launch joins (task.2.2 task.2.1)),
      entry.2.Meets (freely answer) (· = result entry.1) := by
    intro entry hentry
    obtain ⟨task, htask, rfl⟩ := List.mem_map.mp hentry
    exact .launch hjoins fun joins' hjoins' => hresult task htask joins' hjoins'
  refine (Step.meets_interleave_zero (freely answer) _ joins hjoins hpool).bind
    fun ended joins' hended hjoins' => ⟨hjoins', ?_⟩
  rw [hended, List.map_map]
  rfl

/-! ## Executors -/

section Executors

variable {engine : WorkflowEngine}

theorem settled_actionExecutor (call : ActionCall) : Settled answer (actionExecutor call) :=
  (settled_ask _).bind fun reply => settled_ofExcept reply

theorem settled_execAction (config : NodeConfig) (workflow : Workflow) :
    Settled answer (engine.execAction config workflow) := by
  unfold execAction
  dsimp only
  split
  · exact settled_raise _
  · refine settled_getContext.bind fun ctx => (settled_ofExcept _).bind fun payload => ?_
    split
    · exact (settled_ofExcept _).bind fun mock => settled_pure _
    · split
      · exact settled_actionExecutor _
      · exact settled_pure _

theorem settled_classifyPiiFields (fieldPaths : List String) (tenantId credentialName : String) :
    Settled answer (engine.classifyPiiFields fieldPaths tenantId credentialName) := by
  unfold classifyPiiFields
  split
  · exact settled_pure _
  · refine (settled_actionExecutor _).attempt.bind fun result => ?_
    cases result <;> exact settled_pure _

theorem settled_thinkData (config : NodeConfig) (data : Dict) (workflow : Workflow) :
    Settled answer (engine.thinkData config data workflow) := by
  unfold thinkData
  split
  · unfold redactPii
    dsimp only
    split
    · exact (settled_classifyPiiFields _ _ _).bind fun paths => settled_pure _
    · exact settled_pure _
  · exact settled_pure _

theorem settled_execThink (config : NodeConfig) (workflow : Workflow) :
    Settled answer (engine.execThink config workflow) := by
  unfold execThink
  dsimp only
  split
  · exact settled_raise _
  · refine settled_getContext.bind fun ctx => ?_
    split
    · exact settled_pure _
    · refine (settled_thinkData _ _ _).bind fun sendData => ?_
      split
      · exact (settled_actionExecutor _).bind fun result => settled_pure _
      · exact settled_pure _

theorem settled_execHttpRequest (config : NodeConfig) (workflow : Workflow) :
    Settled answer (engine.execHttpRequest config workflow) := by
  have hcredentials : ∀ connectorName credentialName tenantId,
      Settled answer (engine.resolveCredentials connectorName credentialName tenantId) := by
    intro connectorName credentialName tenantId
    unfold resolveCredentials
    split
    · exact (settled_ask _).bind fun reply => settled_ofExcept reply
    · exact settled_pure _
  unfold execHttpRequest
  dsimp only
  split
  · exact settled_raise _
  · refine settled_getContext.bind fun ctx => ?_
    split
    · exact settled_pure _
    · refine (hcredentials _ _ _).bind fun connection => (settled_ask _).bind fun reply => ?_
      exact (settled_ofExcept reply).bind fun response => settled_pure _

theorem settled_execCondition (config : NodeConfig) :
    Settled answer (engine.execCondition config) :=
  settled_getContext.bind fun _ => (settled_ofExcept _).bind fun _ => settled_pure _

theorem settled_execSwitch (config : NodeConfig) : Settled answer (engine.execSwitch config) :=
  settled_getContext.bind fun _ => settled_pure _

theorem settled_execTransform (config : NodeConfig) :
    Settled answer (engine.execTransform config) :=
  settled_getContext.bind fun _ => (settled_ofExcept _).bind fun _ => settled_pure _

theorem settled_execFilter (config : NodeConfig) : Settled answer (engine.execFilter config) :=
  settled_getContext.bind fun _ => (settled_ofExcept _).bind fun _ => settled_pure _

theorem settled_execSetVariable (config : NodeConfig) :
    Settled answer (engine.execSetVariable config) :=
  settled_getContext.bind fun _ => (settled_modifyScope _).bind fun _ => settled_pure _

theorem settled_execAggregate (config : NodeConfig) :
    Settled answer (engine.execAggregate config) := by
  refine settled_getContext.bind fun ctx => ?_
  dsimp only
  split
  · refine (settled_modifyScope _).bind fun _ => (settled_ofExcept _).bind fun output => ?_
    exact settled_pure _
  · exact settled_pure _

theorem settled_execResponse (config : NodeConfig) :
    Settled answer (engine.execResponse config) :=
  settled_getContext.bind fun _ => settled_pure _

theorem settled_sleepIf (condition : Prop) [Decidable condition] (seconds : Rat) :
    Settled answer (sleepIf condition seconds) := by
  unfold sleepIf
  split
  · exact settled_ask _
  · exact settled_pure ()

theorem settled_execDelay (config : NodeConfig) : Settled answer (execDelay config) :=
  (settled_sleepIf _ _).bind fun _ => settled_getContext.bind fun _ => settled_pure _

theorem settled_execHandlerAction (errorInfo : Value) (workflow : Workflow)
    (action : HandlerAction) :
    Settled answer (engine.execHandlerAction errorInfo workflow action) := by
  cases action with
  | setVariable name value =>
      dsimp only [execHandlerAction]
      split
      · exact settled_pure _
      · exact (settled_modifyScope _).bind fun _ => settled_pure _
  | transform mappings => exact (settled_modifyScope _).bind fun _ => settled_pure _
  | notify config =>
      refine settled_getContext.bind fun ctx => (settled_ofExcept _).bind fun notification => ?_
      split
      · exact settled_pure _
      · exact (settled_actionExecutor _).bind fun result => settled_pure _
  | other type => exact settled_pure _

theorem settled_execErrorHandler (config : NodeConfig) (workflow : Workflow) :
    Settled answer (engine.execErrorHandler config workflow) := by
  have hactions : ∀ errorInfo actions,
      Settled answer (engine.execHandlerActions errorInfo workflow actions) := by
    intro errorInfo actions
    induction actions with
    | nil => exact settled_pure _
    | cons action rest ih =>
        exact (settled_execHandlerAction _ _ _).bind fun first => ih.bind fun others =>
          settled_pure _
  refine settled_getContext.bind fun ctx => (hactions _ _).bind fun results => ?_
  refine (settled_ofExcept _).bind fun error => (settled_ofExcept _).bind fun failedNodeId => ?_
  exact settled_pure _

end Executors

end IntegrationPlatform
