import IntegrationPlatform.Workflow.Nested

/-!
# What one activation does

An activation of `_execute_single_node` is a sequence of failed attempts (`Attempts`), each a
call of the executor that raised or that returned and was followed by successors that raised,
and then either an attempt that ends it or the end of the `except` clause (`Body`). `Activates`
adds the merge bookkeeping before and the note in the history after. The main result,
`sat_visitNode`, is that the engine does nothing else.
-/

namespace IntegrationPlatform

open Resumption Eng WorkflowEngine

/-! ## Entries -/

/-- `entry'` is `entry` with another status, output or error. -/
structure Entry.Updates (entry entry' : Entry) (status : Status) : Prop where
  nodeId : entry'.nodeId = entry.nodeId
  replayState : entry'.replayState = entry.replayState
  status : entry'.status = status

variable {c : Contract Request Reply MergeJoins} {activation : Activation}

@[simp] theorem Eng.sat_appendEntry_bind {α : Type}
    {thread : Thread} {P : Thread → Outcome α → Prop} {entry : Entry}
    {next : Activation → Eng α} :
    Sat c (appendEntry activation entry >>= next) thread P ↔
      Sat c (next (activation.append thread entry)) (thread.append activation entry) P :=
  Iff.rfl

@[simp] theorem Eng.play_appendEntry {answer : (request : Request) → Reply request}
    {pick : (width : Nat) → Fin (width + 1)} {thread : Thread} {joins : MergeJoins}
    {entry : Entry} :
    play answer pick (appendEntry activation entry) thread joins =
      (joins, thread.append activation entry, .ok (activation.append thread entry)) := rfl

theorem length_foldl_set (positions : List Nat) (results : List Entry) (entry : Entry) :
    (positions.foldl (fun results position => results.set position entry) results).length =
      results.length := by
  induction positions generalizing results with
  | nil => rfl
  | cons position rest ih => simpa using ih (results.set position entry)

theorem Frame.append (thread : Thread) (activation : Activation) (entry : Entry) :
    Frame thread (thread.append activation entry) :=
  .mapResults thread (by simp [length_foldl_set])

/-! ## Attempts -/

/-- After so many calls, the `except` clause calls the executor of the node again. -/
def Retries (workflow : Workflow) (node : Node) (calls : Nat) : Prop :=
  node.config.onError.getD workflow.onError = .retry ∧
    (calls : Int) ≤ node.config.maxRetries.getD workflow.maxRetries ∧
    (node.type = .action ∨ node.type = .httpRequest ∨ node.type = .think)

/-- The outcome of the last thing that an activation awaits. -/
def settled (activation : Activation) : Outcome Unit → Outcome (Activation × Except Exc Unit)
  | .ok () => .ok (activation, .ok ())
  | .error (.raised exc) => .ok (activation, .error exc)
  | .error stop => .error stop

theorem settled_stop {stop : Stop} (hne : ∀ exc, stop ≠ .raised exc) :
    settled activation (.error stop) = .error stop := by
  cases stop with
  | raised exc => exact absurd rfl (hne exc)
  | blocked => rfl
  | outOfFuel => rfl

section Relations

variable (V : VisitRel) (engine : WorkflowEngine) (workflow : Workflow) (node : Node)
  (depth : Nat)

/-- The executor is called, for the first time or by a retry, and ends as `outcome` says. -/
structure Calls (activation : Activation) (thread thread' : Thread)
    (outcome : Outcome NodeOutcome) : Prop where
  retries : activation.calls ≠ [] → Retries workflow node activation.calls.length
  executes : Executes V engine workflow node depth
    (thread.log [.called (thread.site workflow node depth) activation.calls]) thread' outcome

/-- The executor returned, its output was stored and recorded, and the successors were visited. -/
structure Proceeds (activation : Activation) (thread : Thread) (activation' : Activation)
    (thread' : Thread) (ended : Outcome (Except Exc Unit)) : Prop where
  intro ::
  run : ∃ mid start output entry,
    Calls V engine workflow node depth activation thread mid
      (.ok (.proceeds output (node.type.handleOf output))) ∧
    Edits mid start ∧
    activation.entry.Updates entry .success ∧ entry.rawOutput = some output ∧
    activation' = (activation.call .returned).append start entry ∧
    Traverses V workflow node depth (activation.call .returned).calls
      (workflow.graph.getSuccessors node.id (node.type.handleOf output))
      (start.append (activation.call .returned) entry) thread' ended

/-- A sequence of failed attempts. -/
inductive Attempts (activation : Activation) (thread : Thread) : Activation → Thread → Prop where
  | none : Attempts activation thread activation thread
  | raised {before mid thread' exc} : Attempts activation thread before mid →
      Calls V engine workflow node depth before mid thread' (.error (.raised exc)) →
      Attempts activation thread (before.call .raised)
        (thread'.log [.executorRaised (thread'.site workflow node depth) exc])
  | descendant {before mid after thread' exc} : Attempts activation thread before mid →
      Proceeds V engine workflow node depth before mid after thread' (.ok (.error exc)) →
      Attempts activation thread after thread'

/-- The end of the `except` clause. -/
inductive GivesUp (activation : Activation) (thread : Thread) :
    Thread → Outcome (Activation × Except Exc Unit) → Prop where
  | handler {exc entry handler thread' outcome} : activation.entry.Updates entry .failed →
      workflow.graph.findErrorHandler node.id = some handler →
      V workflow handler (depth + 1)
        (((thread.append activation entry).mapScope fun scope =>
            scope.setVar "_error" (errorInfo node exc thread.ctx.toScope)).log
          [.handled (thread.site workflow node depth) activation.calls handler
            (errorInfo node exc thread.ctx.toScope)])
        thread' outcome →
      GivesUp activation thread thread' (settled (activation.append thread entry) outcome)
  | carryOn {entry thread' outcome} : activation.entry.Updates entry .failed →
      workflow.graph.findErrorHandler node.id = none →
      node.config.onError.getD workflow.onError = .carryOn →
      Traversal V workflow (depth + 1) (workflow.graph.getSuccessors node.id .null)
        (thread.append activation entry) thread' outcome →
      GivesUp activation thread thread' (settled (activation.append thread entry) outcome)
  | ignore {entry} : activation.entry.Updates entry .failed →
      workflow.graph.findErrorHandler node.id = none →
      node.config.onError.getD workflow.onError = .ignore →
      GivesUp activation thread (thread.append activation entry)
        (.ok (activation.append thread entry, .ok ()))
  | raises {entry} (message) : activation.entry.Updates entry .failed →
      workflow.graph.findErrorHandler node.id = none →
      node.config.onError.getD workflow.onError ≠ .carryOn →
      node.config.onError.getD workflow.onError ≠ .ignore →
      GivesUp activation thread (thread.append activation entry)
        (.ok (activation.append thread entry, .error ⟨message, some node.id⟩))

/-- The `try` statement with its `except` clause. -/
inductive Body (activation : Activation) (thread : Thread) :
    Thread → Outcome (Activation × Except Exc Unit) → Prop where
  | stops {before mid thread' stop} :
      Attempts V engine workflow node depth activation thread before mid →
      (∀ exc, stop ≠ .raised exc) →
      Calls V engine workflow node depth before mid thread' (.error stop) →
      Body activation thread thread' (.error stop)
  | ends {before mid thread' start told entry} :
      Attempts V engine workflow node depth activation thread before mid →
      Calls V engine workflow node depth before mid thread' (.ok told) →
      (∀ output handle, told ≠ .proceeds output handle) → Edits thread' start →
      before.entry.Updates entry told.status →
      Body activation thread (start.append (before.call .returned) entry)
        (.ok ((before.call .returned).append start entry, .ok ()))
  | proceeds {before mid after thread' ended} :
      Attempts V engine workflow node depth activation thread before mid →
      Proceeds V engine workflow node depth before mid after thread' ended →
      (∀ exc, ended ≠ .ok (.error exc)) →
      Body activation thread thread' (settled after (rethrown ended))
  | givesUp {before mid thread' result} :
      Attempts V engine workflow node depth activation thread before mid → before.calls ≠ [] →
      GivesUp V workflow node depth before mid thread' result →
      Body activation thread thread' result

/-- The outcome of an activation whose body ended so. -/
def exitOf : Except Exc Unit → Outcome Unit
  | .ok () => .ok ()
  | .error exc => .error (.raised exc)

/-- An activation of `_execute_single_node`. -/
inductive Activates (thread : Thread) : Thread → Outcome Unit → Prop where
  | mergeRaised (message) : node.type = .merge →
      Activates thread
        ((thread.log [.arrived (thread.site workflow node depth)]).log
          [.mergeRaised (thread.site workflow node depth) ⟨message, none⟩])
        (.error (.raised ⟨message, none⟩))
  | mergeSkipped : workflow.graph.incoming node.id = [] → node.type = .merge →
      Activates thread
        ((thread.log [.arrived (thread.site workflow node depth)]).log
          [.mergeSkipped (thread.site workflow node depth)]) (.ok ())
  | stops {thread' stop} : (node.type = .merge → workflow.graph.incoming node.id = []) →
      Body V engine workflow node depth { entry := engine.newEntry node thread.ctx.toScope }
        (thread.log [.arrived (thread.site workflow node depth)]) thread' (.error stop) →
      Activates thread thread' (.error stop)
  | left {thread' activation ended} :
      (node.type = .merge → workflow.graph.incoming node.id = []) →
      Body V engine workflow node depth { entry := engine.newEntry node thread.ctx.toScope }
        (thread.log [.arrived (thread.site workflow node depth)]) thread'
        (.ok (activation, ended)) →
      Activates thread
        (thread'.log [.left (thread'.site workflow node depth) thread.ctx thread'.ctx activation
          ended]) (exitOf ended)

end Relations

/-! ## Frames -/

section Frames

variable {V : VisitRel} {engine : WorkflowEngine} {workflow : Workflow} {node : Node}
  {depth : Nat} {thread thread' : Thread} {activation : Activation}

theorem Calls.frame (hV : ∀ {w n d t t' o}, V w n d t t' o → Frame t t')
    {outcome : Outcome NodeOutcome}
    (h : Calls V engine workflow node depth activation thread thread' outcome) :
    Frame thread thread' :=
  (Frame.log _ _).trans (Inside.frame hV h.executes.1)

theorem Proceeds.frame (hV : ∀ {w n d t t' o}, V w n d t t' o → Frame t t')
    {activation' : Activation} {ended : Outcome (Except Exc Unit)}
    (h : Proceeds V engine workflow node depth activation thread activation' thread' ended) :
    Frame thread thread' := by
  obtain ⟨mid, start, output, entry, hcalls, hedits, _, _, _, htraverses⟩ := h
  exact (hcalls.frame hV).trans
    (hedits.frame.trans ((Frame.append _ _ _).trans (htraverses.frame hV)))

theorem Attempts.frame (hV : ∀ {w n d t t' o}, V w n d t t' o → Frame t t') {first : Activation}
    (h : Attempts V engine workflow node depth first thread activation thread') :
    Frame thread thread' := by
  induction h with
  | none => exact .refl _
  | raised _ hcalls ih => exact ih.trans ((hcalls.frame hV).trans (.log _ _))
  | descendant _ hproceeds ih => exact ih.trans (hproceeds.frame hV)

variable {result : Outcome (Activation × Except Exc Unit)}

theorem GivesUp.frame (hV : ∀ {w n d t t' o}, V w n d t t' o → Frame t t')
    (h : GivesUp V workflow node depth activation thread thread' result) :
    Frame thread thread' := by
  cases h with
  | handler _ _ hhandler =>
      exact (Frame.append _ _ _).trans (((Edits.setVar _ _ _).frame.trans (.log _ _)).trans
        (hV hhandler))
  | carryOn _ _ _ htraversal => exact (Frame.append _ _ _).trans (htraversal.frame hV)
  | ignore _ _ _ => exact .append _ _ _
  | raises _ _ _ _ _ => exact .append _ _ _

theorem Body.frame (hV : ∀ {w n d t t' o}, V w n d t t' o → Frame t t')
    (h : Body V engine workflow node depth activation thread thread' result) :
    Frame thread thread' := by
  cases h with
  | stops hattempts _ hcalls => exact (hattempts.frame hV).trans (hcalls.frame hV)
  | ends hattempts hcalls _ hedits _ =>
      exact (hattempts.frame hV).trans ((hcalls.frame hV).trans
        (hedits.frame.trans (.append _ _ _)))
  | proceeds hattempts hproceeds _ => exact (hattempts.frame hV).trans (hproceeds.frame hV)
  | givesUp hattempts _ hgives => exact (hattempts.frame hV).trans (hgives.frame hV)

theorem Body.not_raised {stop : Stop}
    (h : Body V engine workflow node depth activation thread thread' (.error stop)) (exc : Exc) :
    stop ≠ .raised exc := by
  have hsettled : ∀ (activation : Activation) (outcome : Outcome Unit),
      settled activation outcome = .error stop → stop ≠ .raised exc := by
    intro activation outcome hresult
    rcases outcome with (exc' | _ | _) | _ <;> simp_all [settled] <;> simp [← hresult]
  generalize hresult : (.error stop : Outcome (Activation × Except Exc Unit)) = result at h
  cases h with
  | stops _ hne _ =>
      obtain rfl := Except.error.inj hresult
      exact hne exc
  | ends _ _ _ _ _ => exact nomatch hresult
  | proceeds _ _ _ => exact hsettled _ _ hresult.symm
  | givesUp _ _ hgives =>
      cases hgives with
      | handler _ _ _ => exact hsettled _ _ hresult.symm
      | carryOn _ _ _ _ => exact hsettled _ _ hresult.symm
      | ignore _ _ _ => exact nomatch hresult
      | raises _ _ _ _ _ => exact nomatch hresult

theorem Activates.frame (hV : ∀ {w n d t t' o}, V w n d t t' o → Frame t t')
    {outcome : Outcome Unit}
    (h : Activates V engine workflow node depth thread thread' outcome) : Frame thread thread' := by
  cases h with
  | mergeRaised message _ => exact (Frame.log _ _).trans (.log _ _)
  | mergeSkipped _ _ => exact (Frame.log _ _).trans (.log _ _)
  | stops _ hbody => exact (Frame.log _ _).trans (hbody.frame hV)
  | left _ hbody => exact ((Frame.log _ _).trans (hbody.frame hV)).trans (.log _ _)

end Frames

/-! ## The engine behaves so -/

section Adequacy

variable {V : VisitRel} {engine : WorkflowEngine} {visit : Visit} {dryRun : Bool}
  {replies : (request : Request) → Reply request → Prop} {workflow : Workflow} {node : Node}
  {depth : Nat} {thread : Thread} {activation : Activation} {α β : Type}

/-- Calling an executor, and going on with how the call ended. -/
theorem sat_callExecutor_bind {executor : Eng α}
    {M : Thread → Outcome α → Prop} {next : Activation × Except Exc α → Eng β}
    {P : Thread → Outcome β → Prop}
    (h : Sat c executor
      (thread.log [.called (thread.site workflow node depth) activation.calls]) M)
    (hok : ∀ thread' value, M thread' (.ok value) →
      Sat c (next (activation.call .returned, .ok value)) thread' P)
    (hraised : ∀ thread' exc, M thread' (.error (.raised exc)) →
      Sat c (next (activation.call .raised, .error exc))
        (thread'.log [.executorRaised (thread'.site workflow node depth) exc]) P)
    (hstop : ∀ thread' stop, (∀ exc, stop ≠ .raised exc) → M thread' (.error stop) →
      P thread' (.error stop)) :
    Sat c (callExecutor workflow node depth activation executor >>= next) thread P := by
  refine Sat.bind_of ?_
  unfold callExecutor
  rw [sat_emitAt_bind]
  refine h.attempt_bind (fun thread' value hmid => sat_pure ?_) (fun thread' exc hmid => ?_)
    fun thread' stop hne hmid => ?_
  · exact ⟨fun _ heq => Except.ok.inj heq ▸ hok thread' value hmid, fun _ heq => (nomatch heq)⟩
  · rw [sat_emitAt_bind]
    refine sat_pure ⟨fun _ heq => ?_, fun _ heq => (nomatch heq)⟩
    exact Except.ok.inj heq ▸ hraised thread' exc hmid
  · refine ⟨fun _ heq => (nomatch heq), fun _ heq => ?_⟩
    exact Except.error.inj heq ▸ hstop thread' stop hne hmid

theorem sat_attempt_settled {body : Eng Unit} {M : Thread → Outcome Unit → Prop}
    {P : Thread → Outcome (Activation × Except Exc Unit) → Prop} (h : Sat c body thread M)
    (hP : ∀ thread' outcome, M thread' outcome → P thread' (settled activation outcome)) :
    Sat c (Eng.attempt body >>= fun ended => Pure.pure (activation, ended)) thread P := by
  refine h.attempt_bind (fun thread' _ hmid => sat_pure (hP thread' _ hmid))
    (fun thread' exc hmid => sat_pure (hP thread' _ hmid)) fun thread' stop hne hmid => ?_
  have hstopped : settled activation (.error stop) = .error stop := settled_stop hne
  exact hstopped ▸ hP thread' _ hmid

variable (hvisit : Behaves replies dryRun visit V)
include hvisit

theorem sat_giveUp (exc : Exc) (hdry : thread.ctx.dryRun = dryRun) :
    Sat (engineContract replies dryRun workflow)
      (giveUp visit workflow node depth activation exc) thread
      (GivesUp V workflow node depth activation thread) := by
  unfold giveUp
  rw [sat_appendEntry_bind]
  split
  · next handler hhandler =>
    rw [sat_getContext_bind]
    dsimp only
    rw [sat_modifyScope_bind, sat_emitAt_bind]
    refine sat_attempt_settled (hvisit.2 workflow handler (depth + 1) _ ?_) fun _ _ hmid => ?_
    · exact hdry
    · exact GivesUp.handler ⟨rfl, rfl, rfl⟩ hhandler hmid
  · next hnone =>
    split
    · next honError =>
      refine sat_attempt_settled (sat_executeIfAny hvisit _ ?_) fun _ _ hmid => ?_
      · exact hdry
      · exact GivesUp.carryOn ⟨rfl, rfl, rfl⟩ hnone honError hmid
    · next honError => exact sat_pure (.ignore ⟨rfl, rfl, rfl⟩ hnone honError)
    · next hcarryOn hignore =>
      exact sat_pure (.raises _ ⟨rfl, rfl, rfl⟩ hnone hcarryOn hignore)

variable {P : Thread → Outcome α → Prop} {first : Activation}

/-- The successors, after an executor call that returned: they end the activation, or they make
the attempt a failed one. -/
theorem sat_traverse_proceeds {start mid begin : Thread} {output handle : Value}
    {entry : Entry} {next : Except Exc Unit → Eng α}
    (h : Attempts V engine workflow node depth first start activation thread)
    (hcalls : Calls V engine workflow node depth activation thread mid (.ok (.proceeds output handle)))
    (hedits : Edits mid begin) (hentry : activation.entry.Updates entry .success)
    (houtput : entry.rawOutput = some output) (hdry : begin.ctx.dryRun = dryRun)
    (hok : ∀ last, Body V engine workflow node depth first start last
        (.ok ((activation.call .returned).append begin entry, .ok ())) →
      Sat (engineContract replies dryRun workflow) (next (.ok ())) last P)
    (herror : ∀ last exc, Attempts V engine workflow node depth first start
        ((activation.call .returned).append begin entry) last → last.ctx.dryRun = dryRun →
      Sat (engineContract replies dryRun workflow) (next (.error exc)) last P)
    (hstop : ∀ last stop, Body V engine workflow node depth first start last (.error stop) →
      P last (.error stop)) :
    Sat (engineContract replies dryRun workflow)
      (traverse visit workflow node depth (activation.call .returned).calls
        (workflow.graph.getSuccessors node.id handle) >>= next)
      (begin.append (activation.call .returned) entry) P := by
  obtain rfl : handle = node.type.handleOf output := (hcalls.executes.2 _ rfl).fits.2
  have hproceeds : ∀ last ended, Traverses V workflow node depth
      (activation.call .returned).calls (workflow.graph.getSuccessors node.id (node.type.handleOf output))
      (begin.append (activation.call .returned) entry) last ended →
      Proceeds V engine workflow node depth activation thread
        ((activation.call .returned).append begin entry) last ended :=
    fun last ended hended =>
      ⟨mid, begin, output, entry, hcalls, hedits, hentry, houtput, rfl, hended⟩
  refine Sat.bind (sat_traverse hvisit _ _ hdry) (fun last ended hended => ?_)
    fun last stop hended => ?_
  · cases ended with
    | ok value => exact hok last (.proceeds h (hproceeds last (.ok (.ok ())) hended) (by simp))
    | error exc =>
        exact herror last exc (.descendant h (hproceeds last _ hended))
          ((Traverses.frame hvisit.1 hended).dryRun.trans hdry)
  · have hbody := Body.proceeds h (hproceeds last (.error stop) hended) (by simp)
    exact hstop last stop (settled_stop hended.1 ▸ hbody)

/-- The retries, after the failed attempts so far: an attempt that ended the activation, or more
failed attempts. -/
theorem sat_retryNode {start : Thread} (remaining attempt : Nat)
    (hretries : ∀ calls < attempt + remaining, Retries workflow node calls)
    (hcount : activation.calls.length = attempt) (hcalls : activation.calls ≠ [])
    (h : Attempts V engine workflow node depth first start activation thread)
    (hdry : thread.ctx.dryRun = dryRun) :
    Sat (engineContract replies dryRun workflow)
      (engine.retryNode visit workflow node depth remaining attempt activation) thread
      fun thread' outcome =>
        (∀ after, outcome = .ok (after, true) →
          Body V engine workflow node depth first start thread' (.ok (after, .ok ()))) ∧
        (∀ after, outcome = .ok (after, false) → thread'.ctx.dryRun = dryRun ∧
          after.calls ≠ [] ∧ Attempts V engine workflow node depth first start after thread') ∧
        (∀ stop, outcome = .error stop →
          Body V engine workflow node depth first start thread' (.error stop)) := by
  induction remaining generalizing activation thread attempt with
  | zero =>
      refine sat_pure ⟨fun _ heq => ?_, fun _ heq => ?_, fun _ heq => nomatch heq⟩
      · simp at heq
      · simp only [Except.ok.injEq, Prod.mk.injEq, and_true] at heq
        exact ⟨hdry, heq ▸ hcalls, heq ▸ h⟩
  | succ remaining ih =>
      unfold retryNode
      refine sat_ask_bind (fun _ => trivial) fun _ _ => ?_
      have hagain : Retries workflow node activation.calls.length :=
        hretries _ (by omega)
      have hlater : ∀ calls < attempt + 1 + remaining, Retries workflow node calls :=
        fun calls hcalls => hretries calls (by omega)
      have hnext : ∀ outcome, (activation.call outcome).calls.length = attempt + 1 := by
        simp [Activation.call, hcount]
      have hsome : ∀ outcome, (activation.call outcome).calls ≠ [] := by
        simp [Activation.call]
      have hhandle : ∀ output, node.type.handleOf output = .null := by
        intro output
        rcases hagain.2.2 with htype | htype | htype <;> rw [htype] <;> rfl
      have hresponse : node.type ≠ .response := by
        rcases hagain.2.2 with htype | htype | htype <;> simp [htype]
      have hchooses : node.type ≠ .condition ∧ node.type ≠ .switch ∧ node.type ≠ .filter := by
        rcases hagain.2.2 with htype | htype | htype <;> simp [htype]
      have hcall : Sat (engineContract replies dryRun workflow) (engine.execRetry workflow node)
          (thread.log [.called (thread.site workflow node depth) activation.calls])
          (Quiet (thread.log [.called (thread.site workflow node depth) activation.calls])) :=
        quiet_execRetry workflow node hdry
      refine sat_callExecutor_bind hcall (fun mid output hmid => ?_)
        (fun mid exc hmid => ?_) fun mid stop hne hmid => ?_
      · rw [sat_modifyScope_bind, sat_appendEntry_bind]
        have hcalls : Calls V engine workflow node depth activation thread mid
            (.ok (.proceeds output .null)) := by
          refine ⟨fun _ => hagain, .edit hmid.1, fun told htold => ?_⟩
          obtain rfl := Except.ok.inj htold
          exact NodeOutcome.Fits.tells ⟨hresponse, (hhandle output).symm⟩ hchooses
        have hedits : Edits mid (mid.mapScope fun scope =>
            (scope.setNodeOutput node.id output).mergeData output) :=
          (Edits.setNodeOutput _ _ _).trans (Edits.mergeData _ _)
        refine sat_traverse_proceeds hvisit h hcalls hedits ⟨rfl, rfl, rfl⟩ rfl
          (hmid.1.dryRun.trans hdry) (fun last hbody => ?_) (fun last exc hattempts hlast => ?_)
          fun last stop hbody => ?_
        · refine sat_pure ⟨fun after heq => ?_, fun after heq => ?_, fun _ heq => nomatch heq⟩
          · simp only [Except.ok.injEq, Prod.mk.injEq, and_true] at heq
            exact heq ▸ hbody
          · simp at heq
        · exact ih (attempt + 1) hlater (hnext _) (hsome _) hattempts hlast
        · refine ⟨fun _ heq => (nomatch heq), fun _ heq => (nomatch heq), fun stop' heq => ?_⟩
          exact Except.error.inj heq ▸ hbody
      · have hraised : Calls V engine workflow node depth activation thread mid
            (.error (.raised exc)) := ⟨fun _ => hagain, .raises exc hmid.1, fun _ heq => nomatch heq⟩
        exact ih (attempt + 1) hlater (hnext _) (hsome _) (.raised h hraised) (hmid.1.dryRun.trans hdry)
      · obtain ⟨exc, rfl⟩ := hmid.2 stop rfl
        exact absurd rfl (hne exc)

theorem sat_exceptClause {start : Thread} (exc : Exc) (hcount : activation.calls.length = 1)
    (h : Attempts V engine workflow node depth first start activation thread)
    (hdry : thread.ctx.dryRun = dryRun) :
    Sat (engineContract replies dryRun workflow)
      (engine.exceptClause visit workflow node depth activation exc) thread
      (Body V engine workflow node depth first start) := by
  unfold exceptClause
  dsimp only
  split
  · next hretries =>
    have hagain : ∀ calls < 1 + (node.config.maxRetries.getD workflow.maxRetries).toNat,
        Retries workflow node calls := by
      intro calls hcalls
      exact ⟨hretries.1, by omega, hretries.2.2⟩
    have hcalls : activation.calls ≠ [] := fun h => by simp [h] at hcount
    refine (sat_retryNode hvisit _ 1 hagain hcount hcalls h hdry).bind (fun mid result hmid => ?_)
      fun _ stop hmid => hmid.2.2 stop rfl
    obtain ⟨after, ended⟩ := result
    cases ended with
    | true => exact sat_pure (hmid.1 after rfl)
    | false =>
        obtain ⟨hmid', hafter, hattempts⟩ := hmid.2.1 after rfl
        exact (sat_giveUp hvisit exc hmid').mono fun _ _ hgives => .givesUp hattempts hafter hgives
  · have hcalls : activation.calls ≠ [] := fun h => by simp [h] at hcount
    exact (sat_giveUp hvisit exc hdry).mono fun _ _ hgives => .givesUp h hcalls hgives

/-- The `try` statement. -/
theorem sat_tryNode (entry : Entry) (hdry : thread.ctx.dryRun = dryRun)
    (hmerge : node.type = .merge → workflow.graph.incoming node.id = []) :
    Sat (engineContract replies dryRun workflow)
      (engine.tryNode visit workflow node depth entry) thread
      (Body V engine workflow node depth { entry := entry } thread) := by
  unfold tryNode
  have hnone : Attempts V engine workflow node depth { entry := entry } thread { entry := entry }
      thread := .none
  have hfirst : ({ entry := entry } : Activation).calls ≠ [] → Retries workflow node 0 :=
    fun h => absurd rfl h
  refine sat_callExecutor_bind (sat_execNode hvisit hdry hmerge) (fun mid told hmid => ?_)
    (fun mid exc hmid => ?_) fun mid stop hne hmid => .stops hnone hne ⟨hfirst, hmid⟩
  · have hmid' : mid.ctx.dryRun = dryRun := Does.dryRun_eq hvisit hmid.1 hdry
    cases told with
    | filtered =>
        dsimp only
        rw [sat_appendEntry_bind]
        exact sat_pure (.ends hnone ⟨hfirst, hmid⟩ (by simp) (.refl _) ⟨rfl, rfl, rfl⟩)
    | responded output =>
        dsimp only
        rw [sat_modifyScope_bind]
        refine sat_atomically_bind fun joins hjoins => ⟨hjoins, ?_⟩
        rw [sat_appendEntry_bind]
        exact sat_pure (.ends hnone ⟨hfirst, hmid⟩ (by simp) (.setNodeOutput _ _ _)
          ⟨rfl, rfl, rfl⟩)
    | proceeds output handle =>
        dsimp only
        rw [sat_modifyScope_bind]
        refine sat_atomically_bind fun joins hjoins => ⟨hjoins, ?_⟩
        rw [sat_modifyScope_bind, sat_appendEntry_bind]
        refine sat_traverse_proceeds hvisit hnone ⟨hfirst, hmid⟩
          ((Edits.setNodeOutput _ _ _).trans (Edits.mergeData _ _)) ⟨rfl, rfl, rfl⟩ rfl hmid'
          (fun last hbody => sat_pure hbody) (fun last exc hattempts hlast => ?_)
          fun last stop hbody => hbody
        exact sat_exceptClause hvisit exc rfl hattempts hlast
  · have hmid' : mid.ctx.dryRun = dryRun := Does.dryRun_eq hvisit hmid.1 hdry
    exact sat_exceptClause hvisit exc rfl (.raised hnone ⟨hfirst, hmid⟩) hmid'

omit hvisit in
/-- The merge bookkeeping, on what only it can read: what lets a merge node through, or skips it,
says that nothing leads to it. -/
theorem sat_mergeGate_bind {next : Except Exc Bool → Eng α}
    (hgo : (node.type = .merge → workflow.graph.incoming node.id = []) →
      Sat (engineContract replies dryRun workflow) (next (.ok true)) thread P)
    (hskip : node.type = .merge → workflow.graph.incoming node.id = [] →
      Sat (engineContract replies dryRun workflow) (next (.ok false)) thread P)
    (hraise : ∀ message, node.type = .merge →
      Sat (engineContract replies dryRun workflow) (next (.error ⟨message, none⟩)) thread P) :
    Sat (engineContract replies dryRun workflow) (mergeGate workflow node >>= next) thread P := by
  unfold mergeGate
  split
  · next htype =>
    refine sat_atomically_bind fun joins hjoins => ?_
    unfold mergeArrival
    split
    · next hvisited => exact ⟨hjoins, hskip htype (hjoins _ hvisited)⟩
    · cases hincoming : workflow.graph.incoming node.id with
      | nil =>
          refine ⟨hjoins, ?_⟩
          simp only [executedPredecessors]
          cases decide (max 0 1 ≤ (Assoc.find joins.mergeHits node.id).getD 0 + 1) with
          | true => exact hgo fun _ => hincoming
          | false => exact hskip htype hincoming
      | cons edge rest => exact ⟨hjoins, hraise _ htype⟩
  · next htype => exact hgo fun h => absurd h htype

theorem sat_visitNode (hdry : thread.ctx.dryRun = dryRun) :
    Sat (engineContract replies dryRun workflow) (engine.visitNode visit workflow node depth) thread
      (Activates V engine workflow node depth thread) := by
  unfold visitNode
  rw [sat_emitAt_bind]
  refine sat_mergeGate_bind (fun hgo => ?_) (fun htype hskip => ?_) fun message htype => ?_
  · dsimp only
    rw [sat_getContext_bind]
    refine Sat.bind (sat_tryNode hvisit _ ?_ hgo) (fun mid result hbody => ?_)
      fun mid stop hbody => ?_
    · exact hdry
    · obtain ⟨activation, ended⟩ := result
      rw [sat_getContext_bind, sat_emitAt_bind]
      cases ended with
      | ok value => exact sat_pure (.left hgo hbody)
      | error exc => exact sat_raise (.left hgo hbody)
    · exact .stops hgo hbody
  · exact fun _ hjoins => ⟨hjoins, .mergeSkipped hskip htype⟩
  · dsimp only
    rw [sat_emitAt_bind]
    exact sat_raise (.mergeRaised _ htype)

end Adequacy

end IntegrationPlatform
